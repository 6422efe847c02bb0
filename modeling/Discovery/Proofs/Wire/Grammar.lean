import Discovery.Proofs.Wire.Agreement
import Mathlib

namespace Discovery.Wire

/-!
# The grammar of payloads

A `Sentence` is what a payload spells, its attributes still in the order in
which they stand there.  `Sentence.Spelled` says which bytes spell it, without
regard to how they are read: a tag, texts behind their lengths, two words, and
pairs.  Reading accepts exactly the payloads that begin with a spelled sentence
and gives what the sentence means (`Message.decode_eq_ok_iff_spelled`).  Writing
that meaning gives the same bytes if the keys were in ascending order, and only
then.
-/

/-- A text is spelled by its length, which is limited, and that many bytes of UTF-8. -/
inductive SpelledText : String → Bytes → Prop where
  | intro
      {length : UInt32}
      {body : Bytes}
      {text : String}
      (short : length.toNat ≤ 65536)
      (counted : body.length = length.toNat)
      (valid : Bytes.toText? body = some text) :
      SpelledText text (Bytes.wordBytes length ++ body)

/-- Pairs are spelled one after another, each key before its value. -/
inductive SpelledPairs : List (String × String) → Bytes → Prop where
  | nil : SpelledPairs [] []
  | cons
      {key value : String}
      {others : List (String × String)}
      {keyBytes valueBytes otherBytes : Bytes}
      (isKey : SpelledText key keyBytes)
      (isValue : SpelledText value valueBytes)
      (areOthers : SpelledPairs others otherBytes) :
      SpelledPairs ((key, value) :: others) (keyBytes ++ (valueBytes ++ otherBytes))

/-- What is said of a resource, its attributes in the order in which they are spelled. -/
@[ext]
structure Wording where
  category : String
  connection : String
  expiry : Int32
  pairs : List (String × String)
  deriving DecidableEq, Repr

/-- The announcement that is made; of two pairs with one key the later counts. -/
def Wording.meaning (wording : Wording) : Announcement :=
  ⟨wording.category, wording.connection, wording.expiry, .ofList wording.pairs⟩

/--
A wording is spelled by the category, the connection, an expiry that is not
negative, the number of pairs, which is limited, and the pairs.
-/
inductive SpelledWording : Wording → Bytes → Prop where
  | intro
      {wording : Wording}
      {count : Int32}
      {categoryBytes connectionBytes pairsBytes : Bytes}
      (isCategory : SpelledText wording.category categoryBytes)
      (isConnection : SpelledText wording.connection connectionBytes)
      (notNegative : 0 ≤ wording.expiry.toInt)
      (few : count.toInt ≤ 1024)
      (counted : count.toInt = wording.pairs.length)
      (arePairs : SpelledPairs wording.pairs pairsBytes) :
      SpelledWording wording
        (categoryBytes ++
          (connectionBytes ++
            (Bytes.wordBytes wording.expiry.toUInt32 ++
              (Bytes.wordBytes count.toUInt32 ++ pairsBytes))))

/-- What a payload spells. -/
inductive Sentence where
  | query (category : String)
  | hello (wording : Wording)
  | reply (wording : Wording)
  | byeBye
  deriving DecidableEq, Repr

namespace Sentence

/-- The message that a sentence conveys. -/
def meaning : Sentence → Message
  | .query category => .query category
  | .hello wording => .hello wording.meaning
  | .reply wording => .reply wording.meaning
  | .byeBye => .byeBye

/-- The keys of a sentence in the order in which they are spelled. -/
def keys : Sentence → List String
  | .query _ | .byeBye => []
  | .hello wording | .reply wording => wording.pairs.map (·.1)

/-- A sentence is spelled by its tag and what belongs to it. -/
inductive Spelled : Sentence → Bytes → Prop where
  | query {category : String} {bytes : Bytes} (isCategory : SpelledText category bytes) :
      Spelled (.query category) (Bytes.ofText "BCQ1" ++ bytes)
  | hello {wording : Wording} {bytes : Bytes} (isWording : SpelledWording wording bytes) :
      Spelled (.hello wording) (Bytes.ofText "BCH1" ++ bytes)
  | reply {wording : Wording} {bytes : Bytes} (isWording : SpelledWording wording bytes) :
      Spelled (.reply wording) (Bytes.ofText "BCR1" ++ bytes)
  | byeBye : Spelled .byeBye (Bytes.ofText "BCB1")

end Sentence

section Results

variable {First Second : Type}

/-- One reading after another succeeds if both do. -/
theorem bind_eq_ok_iff
    {reading : Except WireError First}
    {next : First → Except WireError Second}
    {value : Second} :
    (reading >>= next) = .ok value ↔ ∃ read, reading = .ok read ∧ next read = .ok value := by
  cases reading with
  | error cause => simp [bind, Except.bind]
  | ok read => simp [bind, Except.bind]

theorem map_eq_ok_iff
    {reading : Except WireError First}
    {change : First → Second}
    {value : Second} :
    reading.map change = .ok value ↔ ∃ read, reading = .ok read ∧ change read = value := by
  cases reading with
  | error cause => simp [Except.map]
  | ok read => simp [Except.map]

end Results

section Reading

/-- A word is read from its four bytes. -/
theorem takeWord_eq_ok_iff
    {bytes rest : Bytes}
    {word : UInt32} :
    takeWord bytes = .ok (word, rest) ↔ bytes = Bytes.wordBytes word ++ rest := by
  constructor
  · intro read
    unfold takeWord at read
    split at read
    next first second third fourth rest =>
      cases read
      rw [Bytes.wordBytes_word]
      rfl
    next => cases read
  · rintro rfl
    exact takeWord_wordBytes word rest

/-- The bytes of a text are as many as they have to be, and valid. -/
theorem takeTextOf_eq_ok_iff
    {length : Nat}
    {bytes rest : Bytes}
    {text : String} :
    takeTextOf length bytes = .ok (text, rest) ↔
      ∃ body, body.length = length ∧ Bytes.toText? body = some text ∧ bytes = body ++ rest := by
  constructor
  · intro read
    unfold takeTextOf at read
    dsimp only at read
    split at read
    next => cases read
    next enough =>
      split at read
      next text valid =>
        cases read
        refine ⟨bytes.take length, ?_, valid, (List.take_append_drop length bytes).symm⟩
        exact Nat.le_antisymm (List.length_take_le ..) (Nat.le_of_not_lt enough)
      next => cases read
  · rintro ⟨body, rfl, valid, rfl⟩
    rw [Bytes.toText?_eq_some_iff] at valid
    subst valid
    rw [Bytes.length_ofText]
    exact takeTextOf_ofText text rest

/-- A text is read exactly where one is spelled. -/
theorem takeText_eq_ok_iff
    {bytes rest : Bytes}
    {text : String} :
    takeText bytes = .ok (text, rest) ↔ ∃ used, SpelledText text used ∧ bytes = used ++ rest := by
  unfold takeText
  rw [bind_eq_ok_iff]
  constructor
  · rintro ⟨⟨length, behind⟩, counted, read⟩
    dsimp only at read
    split at read
    next => cases read
    next short =>
      obtain ⟨body, isLength, valid, rfl⟩ := takeTextOf_eq_ok_iff.mp read
      refine ⟨_, .intro (Nat.le_of_not_lt short) isLength valid, ?_⟩
      rw [takeWord_eq_ok_iff.mp counted, List.append_assoc]
  · rintro ⟨_, ⟨short, counted, valid⟩, rfl⟩
    refine ⟨_, takeWord_eq_ok_iff.mpr (List.append_assoc ..), ?_⟩
    have within : ¬ maxTextLength < _ := Nat.not_lt_of_le short
    dsimp only
    rw [if_neg within]
    exact takeTextOf_eq_ok_iff.mpr ⟨_, counted, valid, rfl⟩

/-- Pairs are read one after another into what is known. -/
theorem takeEntries_eq_ok_iff
    {count : Nat}
    {known attributes : Attributes}
    {bytes rest : Bytes} :
    takeEntries count known bytes = .ok (attributes, rest) ↔
      ∃ pairs used, pairs.length = count ∧ SpelledPairs pairs used ∧ bytes = used ++ rest ∧
        attributes = known.insertMany pairs := by
  induction count generalizing known bytes with
  | zero =>
      constructor
      · intro read
        cases read
        exact ⟨[], [], rfl, .nil, rfl, rfl⟩
      · rintro ⟨pairs, used, isEmpty, spelled, rfl, rfl⟩
        rw [List.length_eq_zero_iff.mp isEmpty] at spelled ⊢
        cases spelled
        rfl
  | succ count inductionHypothesis =>
      simp only [takeEntries, bind_eq_ok_iff, Prod.exists, takeText_eq_ok_iff,
        inductionHypothesis]
      constructor
      · rintro ⟨key, _, ⟨_, isKey, rfl⟩, value, _, ⟨_, isValue, rfl⟩,
          pairs, _, rfl, arePairs, rfl, rfl⟩
        exact ⟨(key, value) :: pairs, _, rfl, .cons isKey isValue arePairs, by simp, rfl⟩
      · rintro ⟨pairs, used, counted, spelled, rfl, rfl⟩
        cases spelled with
        | nil => cases counted
        | @cons key value others _ _ _ isKey isValue areOthers =>
            exact ⟨key, _, ⟨_, isKey, List.append_assoc ..⟩, value, _,
              ⟨_, isValue, List.append_assoc ..⟩, others, _, Nat.succ.inj counted, areOthers,
              rfl, rfl⟩

/-- The expiry and the number of pairs are read within their limits. -/
theorem takeExpiryAndCount_eq_ok_iff
    {bytes rest : Bytes}
    {expiry : Int32}
    {number : Nat} :
    takeExpiryAndCount bytes = .ok ((expiry, number), rest) ↔
      ∃ count : Int32, 0 ≤ expiry.toInt ∧ count.toInt ≤ 1024 ∧ count.toInt = number ∧
        bytes = Bytes.wordBytes expiry.toUInt32 ++ (Bytes.wordBytes count.toUInt32 ++ rest) := by
  constructor
  · intro read
    unfold takeExpiryAndCount at read
    split at read
    next e0 e1 e2 e3 c0 c1 c2 c3 rest =>
      dsimp only at read
      split at read
      next => cases read
      next notNegative =>
        split at read
        next => cases read
        next within =>
          cases read
          rw [Int32.lt_iff_toInt_lt, Int32.toInt_zero] at notNegative within
          refine ⟨(Bytes.word c0 c1 c2 c3).toInt32, Int.not_lt.mp notNegative, ?_, ?_, ?_⟩
          · simp only [maxAttributes] at within
            omega
          · omega
          · simp only [UInt32.toUInt32_toInt32, Bytes.wordBytes_word, List.cons_append,
              List.nil_append]
    next => cases read
  · rintro ⟨count, notNegative, few, counted, rfl⟩
    have isCount : count = countWord number := by
      rw [← Int32.toInt_inj, toInt_countWord]
      omega
    have isExpiry : ¬ expiry < 0 := by
      rw [Int32.lt_iff_toInt_lt, Int32.toInt_zero]
      exact Int.not_lt.mpr notNegative
    have within : number ≤ maxAttributes := by
      simp only [maxAttributes]
      omega
    rw [isCount, takeExpiryAndCount_wordBytes, if_neg isExpiry, if_pos within]

/-- An announcement is read exactly where a wording is spelled, and means the same. -/
theorem takeAnnouncement_eq_ok_iff
    {bytes rest : Bytes}
    {announcement : Announcement} :
    takeAnnouncement bytes = .ok (announcement, rest) ↔
      ∃ wording used, SpelledWording wording used ∧ bytes = used ++ rest ∧
        wording.meaning = announcement := by
  simp only [takeAnnouncement, bind_eq_ok_iff, Prod.exists, takeText_eq_ok_iff,
    takeExpiryAndCount_eq_ok_iff, takeEntries_eq_ok_iff]
  constructor
  · rintro ⟨category, _, ⟨_, isCategory, rfl⟩, connection, _, ⟨_, isConnection, rfl⟩,
      expiry, _, _, ⟨count, notNegative, few, counted, rfl⟩,
      _, _, ⟨pairs, _, rfl, arePairs, rfl, rfl⟩, meant⟩
    cases meant
    refine ⟨⟨category, connection, expiry, pairs⟩, _,
      .intro isCategory isConnection notNegative few counted arePairs, ?_, rfl⟩
    simp only [List.append_assoc]
  · rintro ⟨wording, _, ⟨isCategory, isConnection, notNegative, few, counted, arePairs⟩, rfl, rfl⟩
    exact ⟨_, _, ⟨_, isCategory, List.append_assoc ..⟩, _, _,
      ⟨_, isConnection, List.append_assoc ..⟩, _, _, _,
      ⟨_, notNegative, few, counted, by simp only [List.append_assoc]⟩, _, _,
      ⟨_, _, rfl, arePairs, rfl, rfl⟩, rfl⟩

/-- The four tags, as they are read. -/
theorem ofText_tags :
    Bytes.ofText "BCQ1" = queryTag ∧ Bytes.ofText "BCH1" = helloTag ∧
      Bytes.ofText "BCR1" = replyTag ∧ Bytes.ofText "BCB1" = byeByeTag := by
  decide

/-- A message is read exactly where a sentence is spelled that conveys it. -/
theorem takeMessage_eq_ok_iff
    {bytes rest : Bytes}
    {message : Message} :
    takeMessage bytes = .ok (message, rest) ↔
      ∃ sentence used, Sentence.Spelled sentence used ∧ bytes = used ++ rest ∧
        sentence.meaning = message := by
  obtain ⟨query, hello, reply, byeBye⟩ := ofText_tags
  constructor
  · intro read
    unfold takeMessage at read
    split at read
    next first second third fourth body =>
      have parts : first :: second :: third :: fourth :: body =
          [first, second, third, fourth] ++ body := rfl
      rw [parts]
      generalize [first, second, third, fourth] = tag at read
      dsimp only at read
      split at read
      next isQuery =>
        obtain ⟨⟨category, _⟩, taken, meant⟩ := map_eq_ok_iff.mp read
        cases meant
        obtain ⟨_, isCategory, rfl⟩ := takeText_eq_ok_iff.mp taken
        exact ⟨_, _, .query isCategory, by rw [isQuery, query, List.append_assoc], rfl⟩
      next =>
      split at read
      next isHello =>
        obtain ⟨⟨_, _⟩, taken, meant⟩ := map_eq_ok_iff.mp read
        cases meant
        obtain ⟨_, _, isWording, rfl, rfl⟩ := takeAnnouncement_eq_ok_iff.mp taken
        exact ⟨_, _, .hello isWording, by rw [isHello, hello, List.append_assoc], rfl⟩
      next =>
      split at read
      next isReply =>
        obtain ⟨⟨_, _⟩, taken, meant⟩ := map_eq_ok_iff.mp read
        cases meant
        obtain ⟨_, _, isWording, rfl, rfl⟩ := takeAnnouncement_eq_ok_iff.mp taken
        exact ⟨_, _, .reply isWording, by rw [isReply, reply, List.append_assoc], rfl⟩
      next =>
      split at read
      next isByeBye =>
        cases read
        exact ⟨_, _, .byeBye, by rw [isByeBye, byeBye], rfl⟩
      next => cases read
    next => cases read
  · rintro ⟨_, _, spelled, rfl, rfl⟩
    cases spelled with
    | query isCategory =>
        rw [query, List.append_assoc]
        change (takeText _).map _ = _
        exact map_eq_ok_iff.mpr ⟨_, takeText_eq_ok_iff.mpr ⟨_, isCategory, rfl⟩, rfl⟩
    | hello isWording =>
        rw [hello, List.append_assoc]
        change (takeAnnouncement _).map _ = _
        exact map_eq_ok_iff.mpr
          ⟨_, takeAnnouncement_eq_ok_iff.mpr ⟨_, _, isWording, rfl, rfl⟩, rfl⟩
    | reply isWording =>
        rw [reply, List.append_assoc]
        change (takeAnnouncement _).map _ = _
        exact map_eq_ok_iff.mpr
          ⟨_, takeAnnouncement_eq_ok_iff.mpr ⟨_, _, isWording, rfl, rfl⟩, rfl⟩
    | byeBye =>
        rw [byeBye]
        rfl

end Reading

section Writing

/-- Two texts that are short enough are told apart by their bytes, whatever stands behind them. -/
theorem textBytes_append_inj
    {first second : String}
    {firstRest secondRest : Bytes}
    (firstShort : checkText first = .ok ())
    (secondShort : checkText second = .ok ())
    (same : textBytes first ++ firstRest = textBytes second ++ secondRest) :
    first = second ∧ firstRest = secondRest := by
  have read := congrArg takeText same
  rw [takeText_textBytes, takeText_textBytes, firstShort, secondShort] at read
  cases read
  exact ⟨rfl, rfl⟩

/-- Two words are told apart by their bytes, whatever stands behind them. -/
theorem wordBytes_append_inj
    {first second : UInt32}
    {firstRest secondRest : Bytes}
    (same : Bytes.wordBytes first ++ firstRest = Bytes.wordBytes second ++ secondRest) :
    first = second ∧ firstRest = secondRest := by
  have read := congrArg takeWord same
  rw [takeWord_wordBytes, takeWord_wordBytes] at read
  cases read
  exact ⟨rfl, rfl⟩

/-- Entries pass the check if each key and each value does. -/
theorem checkEntries_eq_ok_iff
    {entries : List (String × String)} :
    checkEntries entries = .ok () ↔
      ∀ entry ∈ entries, checkText entry.1 = .ok () ∧ checkText entry.2 = .ok () := by
  induction entries with
  | nil => simp [checkEntries]
  | cons entry rest inductionHypothesis =>
      simp only [checkEntries, bind_eq_ok_iff, inductionHypothesis, List.forall_mem_cons]
      constructor
      · rintro ⟨_, key, _, value, others⟩
        exact ⟨⟨key, value⟩, others⟩
      · rintro ⟨⟨key, value⟩, others⟩
        exact ⟨(), key, (), value, others⟩

/-- Equally many entries that are short enough are told apart by their bytes. -/
theorem entriesBytes_inj
    {first second : List (String × String)}
    (firstShort : checkEntries first = .ok ())
    (secondShort : checkEntries second = .ok ())
    (asMany : first.length = second.length)
    (same : entriesBytes first = entriesBytes second) :
    first = second := by
  rw [checkEntries_eq_ok_iff] at firstShort secondShort
  induction first generalizing second with
  | nil => exact (List.length_eq_zero_iff.mp asMany.symm).symm
  | cons entry rest inductionHypothesis =>
      cases second with
      | nil => cases asMany
      | cons other others =>
          simp only [List.forall_mem_cons] at firstShort secondShort
          simp only [entriesBytes, List.flatMap_cons, List.append_assoc] at same
          obtain ⟨sameKey, behindKey⟩ :=
            textBytes_append_inj firstShort.1.1 secondShort.1.1 same
          obtain ⟨sameValue, behindValue⟩ :=
            textBytes_append_inj firstShort.1.2 secondShort.1.2 behindKey
          have sameRest :=
            inductionHypothesis firstShort.2 secondShort.2 (Nat.succ.inj asMany) behindValue
          rw [Prod.ext sameKey sameValue, sameRest]

/-- A text is spelled as it is written, and is short enough. -/
theorem SpelledText.written
    {text : String}
    {bytes : Bytes}
    (spelled : SpelledText text bytes) :
    checkText text = .ok () ∧ bytes = textBytes text := by
  obtain ⟨short, counted, valid⟩ := spelled
  rw [Bytes.toText?_eq_some_iff] at valid
  subst valid
  rw [Bytes.length_ofText] at counted
  rw [← counted] at short
  refine ⟨if_pos short, ?_⟩
  rw [textBytes]
  congr 2
  rw [← UInt32.toNat_inj, toNat_lengthWord, ← counted]
  omega

/-- Pairs are spelled as they are written, and are short enough. -/
theorem SpelledPairs.written
    {pairs : List (String × String)}
    {bytes : Bytes}
    (spelled : SpelledPairs pairs bytes) :
    checkEntries pairs = .ok () ∧ bytes = entriesBytes pairs := by
  induction spelled with
  | nil => exact ⟨rfl, rfl⟩
  | cons isKey isValue _ inductionHypothesis =>
      obtain ⟨keyShort, rfl⟩ := isKey.written
      obtain ⟨valueShort, rfl⟩ := isValue.written
      obtain ⟨othersShort, rfl⟩ := inductionHypothesis
      constructor
      · rw [checkEntries_eq_ok_iff, List.forall_mem_cons, ← checkEntries_eq_ok_iff]
        exact ⟨⟨keyShort, valueShort⟩, othersShort⟩
      · simp [entriesBytes]

/-- What an announcement says, its attributes in the order in which they are written. -/
def Announcement.wording (announcement : Announcement) : Wording :=
  ⟨announcement.category, announcement.connection, announcement.expiry,
    announcement.attributes.entries⟩

namespace Wording

/-- A wording as it is written, its pairs in their own order. -/
def bytes (wording : Wording) : Bytes :=
  textBytes wording.category ++
    (textBytes wording.connection ++
      (Bytes.wordBytes wording.expiry.toUInt32 ++
        (Bytes.wordBytes (countWord wording.pairs.length).toUInt32 ++
          entriesBytes wording.pairs)))

/-- The parts of a wording are within the limits. -/
structure Fits (wording : Wording) : Prop where
  category : checkText wording.category = .ok ()
  connection : checkText wording.connection = .ok ()
  few : wording.pairs.length ≤ maxAttributes
  pairs : checkEntries wording.pairs = .ok ()

/-- A wording is spelled as it is written, and is within the limits. -/
theorem written
    {wording : Wording}
    {bytes : Bytes}
    (spelled : SpelledWording wording bytes) :
    wording.Fits ∧ 0 ≤ wording.expiry.toInt ∧ bytes = wording.bytes := by
  obtain @⟨count, _, _, _, isCategory, isConnection, notNegative, few, counted, arePairs⟩ :=
    spelled
  obtain ⟨categoryShort, rfl⟩ := isCategory.written
  obtain ⟨connectionShort, rfl⟩ := isConnection.written
  obtain ⟨pairsShort, rfl⟩ := arePairs.written
  have within : wording.pairs.length ≤ maxAttributes := by
    simp only [maxAttributes]
    omega
  refine ⟨⟨categoryShort, connectionShort, within, pairsShort⟩, notNegative, ?_⟩
  have isCount : countWord wording.pairs.length = count := by
    rw [← Int32.toInt_inj, toInt_countWord, counted]
    omega
  rw [Wording.bytes, isCount]

namespace Fits

variable {wording : Wording}

/-- What is meant is within the limits too: it has no other pairs, and not more of them. -/
theorem meaning (fits : wording.Fits) : wording.meaning.wording.Fits := by
  refine ⟨fits.category, fits.connection, ?_, ?_⟩
  · have size := Table.size_insertMany_le (∅ : Attributes) wording.pairs
    exact Nat.le_trans size (Nat.le_trans (Nat.le_of_eq (Nat.zero_add _)) fits.few)
  · rw [checkEntries_eq_ok_iff]
    intro entry listed
    rcases Table.mem_insertMany listed with isPair | old
    · exact checkEntries_eq_ok_iff.mp fits.pairs entry isPair
    · cases old

/-- What is meant passes the check. -/
theorem validate
    (fits : wording.Fits)
    (notNegative : 0 ≤ wording.expiry.toInt) :
    wording.meaning.validate = .ok () := by
  have category : checkText wording.meaning.category = .ok () := fits.category
  have connection : checkText wording.meaning.connection = .ok () := fits.connection
  have isExpiry : ¬ wording.meaning.expiry < 0 := by
    rw [Int32.lt_iff_toInt_lt, Int32.toInt_zero]
    exact Int.not_lt.mpr notNegative
  have attributes : checkAttributes wording.meaning.attributes = .ok () := by
    have few : wording.meaning.attributes.size ≤ maxAttributes := fits.meaning.few
    rw [checkAttributes, if_pos few]
    exact fits.meaning.pairs
  rw [Announcement.validate, category, connection, if_neg isExpiry, attributes]
  rfl

/-- Wordings within the limits are told apart by their bytes. -/
theorem eq_of_bytes
    {other : Wording}
    (fits : wording.Fits)
    (otherFits : other.Fits)
    (same : wording.bytes = other.bytes) :
    wording = other := by
  obtain ⟨sameCategory, behindCategory⟩ :=
    textBytes_append_inj fits.category otherFits.category same
  obtain ⟨sameConnection, behindConnection⟩ :=
    textBytes_append_inj fits.connection otherFits.connection behindCategory
  obtain ⟨sameExpiry, behindExpiry⟩ := wordBytes_append_inj behindConnection
  obtain ⟨sameCount, samePairs⟩ := wordBytes_append_inj behindExpiry
  have asMany : wording.pairs.length = other.pairs.length := by
    have few := fits.few
    have otherFew := otherFits.few
    have counted := congrArg Int32.toInt (congrArg UInt32.toInt32 sameCount)
    simp only [Int32.toInt32_toUInt32, toInt_countWord, maxAttributes] at counted few otherFew
    omega
  exact Wording.ext sameCategory sameConnection (congrArg UInt32.toInt32 sameExpiry)
    (entriesBytes_inj fits.pairs otherFits.pairs asMany samePairs)

end Fits

/-- What is meant is worded as it was spelled if the keys were in ascending order, and only then. -/
theorem wording_meaning_eq_iff
    (wording : Wording) :
    wording.meaning.wording = wording ↔
      (wording.pairs.map (·.1)).Pairwise fun earlier later => byteOrder earlier later = .lt := by
  rw [List.pairwise_map]
  constructor
  · intro same
    have ascending := wording.meaning.attributes.ascending
    rwa [show wording.meaning.attributes.entries = wording.pairs from
      congrArg Wording.pairs same] at ascending
  · intro ascending
    have listed := Table.ofList_entries (⟨wording.pairs, ascending⟩ : Attributes)
    rw [Announcement.wording, meaning, listed]

/-- Writing what is meant gives the bytes that were spelled if the keys were in ascending order. -/
theorem encode_meaning_eq_iff
    {wording : Wording}
    {used : Bytes}
    (spelled : SpelledWording wording used) :
    wording.meaning.encode = used ↔
      (wording.pairs.map (·.1)).Pairwise fun earlier later => byteOrder earlier later = .lt := by
  obtain ⟨fits, _, rfl⟩ := written spelled
  rw [← wording_meaning_eq_iff]
  constructor
  · exact fits.meaning.eq_of_bytes fits
  · intro same
    exact congrArg bytes same

end Wording

/-- What a spelled sentence conveys passes the check. -/
theorem Sentence.Spelled.validate
    {sentence : Sentence}
    {used : Bytes}
    (spelled : sentence.Spelled used) :
    sentence.meaning.validate = .ok () := by
  cases spelled with
  | query isCategory => exact isCategory.written.1
  | hello isWording | reply isWording =>
      obtain ⟨fits, notNegative, _⟩ := Wording.written isWording
      exact fits.validate notNegative
  | byeBye => rfl

/-- A sentence is written as it was spelled if its keys were in ascending order, and only then. -/
theorem Sentence.Spelled.encode_meaning_eq_iff
    {sentence : Sentence}
    {used : Bytes}
    (spelled : sentence.Spelled used) :
    sentence.meaning.encode = used ↔
      sentence.keys.Pairwise fun earlier later => byteOrder earlier later = .lt := by
  obtain ⟨query, hello, reply, byeBye⟩ := ofText_tags
  cases spelled with
  | query isCategory =>
      obtain ⟨_, rfl⟩ := isCategory.written
      rw [query]
      exact iff_of_true rfl .nil
  | hello isWording =>
      rw [hello]
      exact (List.append_right_inj helloTag).trans (Wording.encode_meaning_eq_iff isWording)
  | reply isWording =>
      rw [reply]
      exact (List.append_right_inj replyTag).trans (Wording.encode_meaning_eq_iff isWording)
  | byeBye =>
      rw [byeBye]
      exact iff_of_true rfl .nil

end Writing

namespace Message

/--
Reading accepts exactly the payloads that begin with a spelled sentence, and
gives the message that the sentence conveys.  Every message that is read passes
the check and is read back after it was written.  It is written as it was
spelled if the keys were spelled in ascending order, and only then.
-/
theorem decode_eq_ok_iff_spelled (payload : Bytes) :
    (∀ message, decode payload = .ok message ↔
      ∃ sentence used trailing, Sentence.Spelled sentence used ∧ payload = used ++ trailing ∧
        sentence.meaning = message) ∧
      (∀ message, decode payload = .ok message →
        message.validate = .ok () ∧ decode message.encode = .ok message) ∧
      ∀ sentence used trailing, Sentence.Spelled sentence used → payload = used ++ trailing →
        takeMessage payload = .ok (sentence.meaning, trailing) ∧
          (sentence.meaning.encode = used ↔
            sentence.keys.Pairwise fun earlier later => byteOrder earlier later = .lt) := by
  have accepted : ∀ message, decode payload = .ok message ↔
      ∃ sentence used trailing, Sentence.Spelled sentence used ∧ payload = used ++ trailing ∧
        sentence.meaning = message := by
    intro message
    rw [decode, map_eq_ok_iff]
    constructor
    · rintro ⟨⟨_, trailing⟩, read, rfl⟩
      obtain ⟨sentence, used, spelled, isPayload, meant⟩ := takeMessage_eq_ok_iff.mp read
      exact ⟨sentence, used, trailing, spelled, isPayload, meant⟩
    · rintro ⟨sentence, used, trailing, spelled, isPayload, meant⟩
      exact ⟨_, takeMessage_eq_ok_iff.mpr ⟨sentence, used, spelled, isPayload, meant⟩, rfl⟩
  refine ⟨accepted, ?_, ?_⟩
  · intro message read
    obtain ⟨sentence, used, trailing, spelled, _, rfl⟩ := (accepted message).mp read
    exact ⟨spelled.validate, decode_encode spelled.validate⟩
  · intro sentence used trailing spelled isPayload
    exact ⟨takeMessage_eq_ok_iff.mpr ⟨sentence, used, spelled, isPayload, rfl⟩,
      spelled.encode_meaning_eq_iff⟩

/-- A hello that spells one key twice, and out of order, with a byte behind it. -/
theorem decode_eq_ok_iff_spelled_repeated :
    let wording : Wording := ⟨"Room", "here", 30, [("b", "1"), ("a", "2"), ("b", "3")]⟩
    let payload : Bytes := helloTag ++ (wording.bytes ++ [0xFF])
    let message : Message := .hello ⟨"Room", "here", 30, .ofList [("a", "2"), ("b", "3")]⟩
    decode payload = .ok message ∧ message.validate = .ok () ∧
      decode message.encode = .ok message ∧ message.encode ≠ helloTag ++ wording.bytes ∧
      ∃ sentence used trailing, Sentence.Spelled sentence used ∧ payload = used ++ trailing ∧
        sentence.meaning = message ∧ takeMessage payload = .ok (sentence.meaning, trailing) ∧
          (sentence.meaning.encode = used ↔
            sentence.keys.Pairwise fun earlier later => byteOrder earlier later = .lt) := by
  intro wording payload message
  have read : decode payload = .ok message := by cbv
  obtain ⟨accepted, checked, spelledAlike⟩ := decode_eq_ok_iff_spelled payload
  obtain ⟨sentence, used, trailing, spelled, isPayload, meant⟩ := (accepted message).mp read
  obtain ⟨taken, asSpelled⟩ := spelledAlike sentence used trailing spelled isPayload
  exact ⟨read, (checked message read).1, (checked message read).2, by decide +kernel,
    sentence, used, trailing, spelled, isPayload, meant, taken, asSpelled⟩

end Message

end Discovery.Wire
