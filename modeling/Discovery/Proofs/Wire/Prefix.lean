import Discovery.Proofs.Wire.Grammar

namespace Discovery.Wire

/-!
# Payloads that are cut short or run on

A reader is `Prompt` if it gives its answer as soon as it has the bytes that
decide it: it finds too little in every shorter piece of what it takes, and
whatever stands behind what it has seen does not matter.  Prompt readers one
after another are prompt, so the reader of messages is, and what can be said of
a payload that is cut short or runs on follows (`Message.decode_prompt`).
-/

/-- A reader that gives its answer as soon as it has the bytes that decide it. -/
structure Prompt {Value : Type} (reader : Bytes → Except WireError (Value × Bytes)) : Prop where
  accepts : ∀ {bytes value rest}, reader bytes = .ok (value, rest) →
    ∃ used, bytes = used ++ rest ∧ (∀ behind, reader (used ++ behind) = .ok (value, behind)) ∧
      ∀ {cut}, cut <+: used → cut ≠ used → reader cut = .error .truncated
  refuses : ∀ {bytes cause}, reader bytes = .error cause → cause ≠ .truncated →
    ∀ behind, reader (bytes ++ behind) = .error cause

namespace Prompt

variable {First Second : Type}

/-- Whoever reads nothing is prompt. -/
theorem nothing (value : First) : Prompt fun bytes => .ok (value, bytes) := by
  constructor
  · intro bytes read rest same
    cases same
    refine ⟨[], rfl, fun behind => rfl, fun {cut} isPrefix different => ?_⟩
    exact absurd (List.prefix_nil.mp isPrefix) different
  · intro bytes cause refused
    cases refused

/-- Whoever refuses everything is prompt. -/
theorem refusal (cause : WireError) :
    Prompt fun _ => (.error cause : Except WireError (First × Bytes)) := by
  constructor
  · intro bytes read rest same
    cases same
  · intro bytes found refused _ behind
    exact refused

/-- One prompt reader after another is prompt. -/
theorem bind
    {first : Bytes → Except WireError (First × Bytes)}
    {second : First → Bytes → Except WireError (Second × Bytes)}
    (firstPrompt : Prompt first)
    (secondPrompt : ∀ value, Prompt (second value)) :
    Prompt fun bytes => first bytes >>= fun read => second read.1 read.2 := by
  constructor
  · intro bytes value rest read
    obtain ⟨⟨early, between⟩, isEarly, isLate⟩ := bind_eq_ok_iff.mp read
    obtain ⟨front, rfl, frontRead, frontCut⟩ := firstPrompt.accepts isEarly
    obtain ⟨back, rfl, backRead, backCut⟩ := (secondPrompt early).accepts isLate
    refine ⟨front ++ back, by rw [List.append_assoc], fun behind => ?_,
      fun {cut} cutOff short => ?_⟩
    · rw [List.append_assoc, bind_eq_ok_iff]
      exact ⟨_, frontRead (back ++ behind), backRead behind⟩
    · by_cases reaches : front <+: cut
      · obtain ⟨piece, rfl⟩ := reaches
        have inBack := (List.prefix_append_right_inj front).mp cutOff
        have pieceShort : piece ≠ back := fun whole => short (by rw [whole])
        rw [frontRead piece]
        exact backCut inBack pieceShort
      · have inFront : cut <+: front :=
          (List.prefix_or_prefix_of_prefix cutOff (List.prefix_append front back)).resolve_right
            reaches
        have frontShort : cut ≠ front := fun whole => reaches (whole ▸ List.prefix_rfl)
        rw [frontCut inFront frontShort]
        rfl
  · intro bytes cause refused notTruncated behind
    cases early : first bytes with
    | error found =>
        rw [early] at refused
        cases refused
        rw [firstPrompt.refuses early notTruncated behind]
        rfl
    | ok read =>
        obtain ⟨value, between⟩ := read
        obtain ⟨front, rfl, frontRead, _⟩ := firstPrompt.accepts early
        rw [early] at refused
        have late : second value between = .error cause := refused
        rw [List.append_assoc, frontRead]
        exact (secondPrompt value).refuses late notTruncated behind

/-- What is read may be seen as something else. -/
theorem map
    {reader : Bytes → Except WireError (First × Bytes)}
    (prompt : Prompt reader)
    (change : First → Second) :
    Prompt fun bytes => (reader bytes).map fun read => (change read.1, read.2) := by
  have changed := prompt.bind fun value => nothing (change value)
  refine (congrArg Prompt (funext fun bytes => ?_)).mp changed
  cases reader bytes <;> rfl

/-- Which of two readers it is may depend on anything but the bytes to come. -/
theorem ite
    {first second : Bytes → Except WireError (First × Bytes)}
    (condition : Prop)
    [Decidable condition]
    (firstPrompt : Prompt first)
    (secondPrompt : Prompt second) :
    Prompt fun bytes => if condition then first bytes else second bytes := by
  by_cases holds : condition
  · simp only [holds, ↓reduceIte]
    exact firstPrompt
  · simp only [holds, ↓reduceIte]
    exact secondPrompt

/-- Four bytes, and then a reader that may depend on them. -/
theorem afterFour
    {next : UInt8 → UInt8 → UInt8 → UInt8 → Bytes → Except WireError (First × Bytes)}
    (prompt : ∀ first second third fourth, Prompt (next first second third fourth)) :
    Prompt fun bytes =>
      match bytes with
      | first :: second :: third :: fourth :: rest => next first second third fourth rest
      | _ => .error .truncated := by
  constructor
  · intro bytes value rest read
    split at read
    next first second third fourth body =>
      obtain ⟨used, rfl, isRead, isCut⟩ := (prompt first second third fourth).accepts read
      refine ⟨first :: second :: third :: fourth :: used, rfl, isRead, fun {cut} cutOff short => ?_⟩
      rcases cut with _ | ⟨a, _ | ⟨b, _ | ⟨c, _ | ⟨d, piece⟩⟩⟩⟩
      · rfl
      · rfl
      · rfl
      · rfl
      · simp only [List.cons_prefix_cons] at cutOff
        obtain ⟨rfl, rfl, rfl, rfl, inUsed⟩ := cutOff
        exact isCut inUsed fun whole => short (by rw [whole])
    next => cases read
  · intro bytes cause refused notTruncated behind
    split at refused
    next first second third fourth body =>
      exact (prompt first second third fourth).refuses refused notTruncated behind
    next =>
      cases refused
      exact absurd rfl notTruncated

end Prompt

section Readers

theorem prompt_takeWord : Prompt takeWord :=
  .afterFour fun first second third fourth => .nothing (Bytes.word first second third fourth)

/-- A text is refused for its bytes only once they are all there. -/
theorem prompt_takeTextOf (length : Nat) : Prompt (takeTextOf length) := by
  constructor
  · intro bytes text rest read
    obtain ⟨body, rfl, valid, rfl⟩ := takeTextOf_eq_ok_iff.mp read
    refine ⟨body, rfl, fun behind => takeTextOf_eq_ok_iff.mpr ⟨body, rfl, valid, rfl⟩, ?_⟩
    intro cut cutOff short
    have fewer : (cut.take body.length).length < body.length := by
      have length := cutOff.length_le
      have different : cut.length ≠ body.length := fun same => short (cutOff.eq_of_length same)
      rw [List.length_take]
      omega
    rw [takeTextOf, if_pos fewer]
  · intro bytes cause refused notTruncated behind
    unfold takeTextOf at refused ⊢
    dsimp only at refused ⊢
    split at refused
    next =>
      cases refused
      exact absurd rfl notTruncated
    next enough =>
      have all : length ≤ bytes.length := by
        rw [List.length_take] at enough
        omega
      rw [List.take_append_of_le_length all, if_neg enough]
      split at refused
      next => cases refused
      next => exact refused

/-- The length of a text is judged before its bytes are looked at. -/
theorem prompt_takeText : Prompt takeText :=
  prompt_takeWord.bind fun length =>
    .ite (maxTextLength < length.toNat) (.refusal (.textTooLong length))
      (prompt_takeTextOf length.toNat)

theorem prompt_takeEntries
    (count : Nat)
    (known : Attributes) :
    Prompt (takeEntries count known) := by
  induction count generalizing known with
  | zero => exact .nothing known
  | succ count inductionHypothesis =>
      exact prompt_takeText.bind fun key =>
        prompt_takeText.bind fun value => inductionHypothesis (known.insert key value)

/-- Judge the expiry and then the number of attributes, both of them given. -/
def judgeExpiryAndCount
    (expiry count : Int32)
    (rest : Bytes) : Except WireError ((Int32 × Nat) × Bytes) :=
  if expiry < 0 then .error (.negativeExpiry expiry)
  else if count < 0 ∨ maxAttributes < count.toInt.toNat then .error (.badAttributeCount count)
  else .ok ((expiry, count.toInt.toNat), rest)

theorem prompt_judgeExpiryAndCount (expiry count : Int32) :
    Prompt (judgeExpiryAndCount expiry count) :=
  .ite _ (.refusal _) (.ite _ (.refusal _) (.nothing _))

/-- Both words of an announcement are taken before either is judged. -/
theorem takeExpiryAndCount_eq (bytes : Bytes) :
    takeExpiryAndCount bytes =
      (takeWord bytes >>= fun expiry =>
        takeWord expiry.2 >>= fun count =>
          judgeExpiryAndCount expiry.1.toInt32 count.1.toInt32 count.2) := by
  rcases bytes with _ | ⟨e0, _ | ⟨e1, _ | ⟨e2, _ | ⟨e3, _ | ⟨c0, _ | ⟨c1, _ | ⟨c2, _ |
    ⟨c3, rest⟩⟩⟩⟩⟩⟩⟩⟩ <;> rfl

theorem prompt_takeExpiryAndCount : Prompt takeExpiryAndCount := by
  rw [funext takeExpiryAndCount_eq]
  exact prompt_takeWord.bind fun expiry =>
    prompt_takeWord.bind fun count => prompt_judgeExpiryAndCount expiry.toInt32 count.toInt32

theorem prompt_takeAnnouncement : Prompt takeAnnouncement := by
  have concluded : ∀ (category connection : String) (read : Int32 × Nat) (attributes : Attributes),
      Prompt fun rest => .ok ((⟨category, connection, read.1, attributes⟩ : Announcement), rest) :=
    fun _ _ _ _ => .nothing _
  exact prompt_takeText.bind fun category =>
    prompt_takeText.bind fun connection =>
      prompt_takeExpiryAndCount.bind fun read =>
        (prompt_takeEntries read.2 ∅).bind fun attributes =>
          concluded category connection read attributes

/-- What follows a tag is read as the tag says. -/
theorem prompt_takeMessage : Prompt takeMessage :=
  .afterFour fun first second third fourth =>
    .ite ([first, second, third, fourth] = queryTag) (prompt_takeText.map Message.query)
      (.ite _ (prompt_takeAnnouncement.map Message.hello)
        (.ite _ (prompt_takeAnnouncement.map Message.reply)
          (.ite _ (.nothing Message.byeBye) (.refusal _))))

end Readers

namespace Message

/-- Less than what decides a payload is too little. -/
theorem decode_of_cut
    {used trailing cut : Bytes}
    {message : Message}
    (read : takeMessage (used ++ trailing) = .ok (message, trailing))
    (cutOff : cut <+: used)
    (short : cut ≠ used) :
    decode cut = .error .truncated := by
  obtain ⟨_, isUsed, _, isCut⟩ := prompt_takeMessage.accepts read
  cases List.append_cancel_right isUsed
  rw [decode, isCut cutOff short]
  rfl

/--
A payload that is accepted has a beginning that decides it: with less of that,
too little is found, and with anything behind it the same message is.  A refusal
other than that too little was found stands whatever comes behind.  So whatever
is written of a valid message and cut short is found to be too little, and no
accepted payload is a beginning of what another one is decided by.
-/
theorem decode_prompt (payload : Bytes) :
    (∀ message, decode payload = .ok message →
      ∃ length ≤ payload.length,
        (∀ cut, cut <+: payload.take length → cut ≠ payload.take length →
          decode cut = .error .truncated) ∧
        ∀ behind, decode (payload.take length ++ behind) = .ok message) ∧
      (∀ cause, decode payload = .error cause → cause ≠ .truncated →
        ∀ behind, decode (payload ++ behind) = .error cause) ∧
      (∀ message : Message, message.validate = .ok () →
        payload <+: message.encode → payload ≠ message.encode →
          decode payload = .error .truncated) ∧
      ∀ used trailing message other, takeMessage (used ++ trailing) = .ok (message, trailing) →
        decode payload = .ok other → payload <+: used → payload = used ∧ other = message := by
  have prompt := prompt_takeMessage
  refine ⟨?_, ?_, ?_, ?_⟩
  · intro message read
    obtain ⟨⟨_, trailing⟩, taken, rfl⟩ := map_eq_ok_iff.mp read
    obtain ⟨used, rfl, isRead, isCut⟩ := prompt.accepts taken
    refine ⟨used.length, by simp, ?_⟩
    rw [List.take_left]
    refine ⟨fun cut cutOff short => decode_of_cut taken cutOff short, fun behind => ?_⟩
    rw [decode, isRead behind]
    rfl
  · intro cause refused notTruncated behind
    have isCause : takeMessage payload = .error cause := by
      rw [decode] at refused
      cases read : takeMessage payload with
      | error found =>
          rw [read] at refused
          cases refused
          rfl
      | ok _ =>
          rw [read] at refused
          cases refused
    rw [decode, prompt.refuses isCause notTruncated behind]
    rfl
  · intro message valid cutOff short
    have read := takeMessage_encode message []
    rw [valid] at read
    exact decode_of_cut read cutOff short
  · intro used trailing message other read isRead cutOff
    have whole : payload = used := by
      refine Decidable.byContradiction fun short => ?_
      rw [decode_of_cut read cutOff short] at isRead
      cases isRead
    obtain ⟨_, isUsed, readBehind, _⟩ := prompt.accepts read
    cases List.append_cancel_right isUsed
    have again := readBehind []
    rw [List.append_nil] at again
    rw [whole, decode, again] at isRead
    cases isRead
    exact ⟨whole, rfl⟩

/-- A query with a byte behind it, the same query cut short, and a tag that nobody knows. -/
theorem decode_prompt_query :
    let query : Message := .query "Room"
    let spelled : Bytes := [0x42, 0x43, 0x51, 0x31, 4, 0, 0, 0, 0x52, 0x6F, 0x6F, 0x6D]
    let unknown : Bytes := [0x42, 0x43, 0x58, 0x31]
    (decode (spelled ++ [0xFF]) = .ok query ∧
        ∃ length ≤ (spelled ++ [0xFF]).length,
          (∀ cut, cut <+: (spelled ++ [0xFF]).take length →
            cut ≠ (spelled ++ [0xFF]).take length → decode cut = .error .truncated) ∧
          ∀ behind, decode ((spelled ++ [0xFF]).take length ++ behind) = .ok query) ∧
      (decode unknown = .error (.unknownTag 0x42 0x43 0x58 0x31) ∧
        ∀ behind, decode (unknown ++ behind) = .error (.unknownTag 0x42 0x43 0x58 0x31)) ∧
      (query.validate = .ok () ∧ spelled.take 11 <+: query.encode ∧
        decode (spelled.take 11) = .error .truncated) ∧
      (takeMessage (query.encode ++ [0xFF]) = .ok (query, [0xFF]) ∧ decode spelled = .ok query ∧
        spelled <+: query.encode ∧ spelled = query.encode) := by
  intro query spelled unknown
  have valid : query.validate = .ok () := rfl
  have read : decode (spelled ++ [0xFF]) = .ok query := by cbv
  have refused : decode unknown = .error (.unknownTag 0x42 0x43 0x58 0x31) := by cbv
  have isCut : spelled.take 11 <+: query.encode := by decide
  have taken : takeMessage (query.encode ++ [0xFF]) = .ok (query, [0xFF]) := by cbv
  have whole : decode spelled = .ok query := by cbv
  have isPrefix : spelled <+: query.encode := by decide
  exact ⟨⟨read, (decode_prompt _).1 query read⟩,
    ⟨refused, (decode_prompt unknown).2.1 _ refused (by decide)⟩,
    ⟨valid, isCut, (decode_prompt _).2.2.1 query valid isCut (by decide)⟩,
    taken, whole, isPrefix, ((decode_prompt _).2.2.2 _ _ query query taken whole isPrefix).1⟩

end Message

end Discovery.Wire
