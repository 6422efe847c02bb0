import Discovery.Datagram.Frame

namespace Discovery.Datagram.Header

/-!
# Frames are read as they were written

What is put before a payload is taken off again in front of any payload, and a
datagram that is read as a frame is the one that was written for its header.
Each part of a header stands at a place of its own, and whatever is long enough
and opens as a frame does is read as one (`parse_eq`).
-/

/-- A header takes the bytes that are reserved for it. -/
theorem length_encode (header : Header) : header.encode.length = headerLength := by
  simp only [encode, magic, List.length_append, List.length_cons, List.length_nil,
    header.stream.size, Bytes.length_wordBytes]
  rfl

/-- The sixteen bytes of a stream come first. -/
theorem take_append_stream
    (stream : StreamId)
    (rest : Bytes) :
    (stream.bytes ++ rest).take 16 = stream.bytes ∧ (stream.bytes ++ rest).drop 16 = rest :=
  ⟨List.take_left' stream.size, List.drop_left' stream.size⟩

theorem parseTail_append
    (header : Header)
    (payload : Bytes) :
    parseTail header.flags header.reservedFirst header.reservedSecond header.stream
        (Bytes.wordBytes header.sender ++ Bytes.wordBytes header.sequence ++ payload) =
      some (header, payload) := by
  simp only [Bytes.wordBytes, List.cons_append, List.nil_append, parseTail, Bytes.word_wordBytes]

/-- A datagram is read as the header and the payload that it was made of. -/
theorem parse_encode
    (header : Header)
    (payload : Bytes) :
    parse (header.encode ++ payload) = some (header, payload) := by
  have tail := parseTail_append header payload
  obtain ⟨taken, dropped⟩ := take_append_stream header.stream
    (Bytes.wordBytes header.sender ++ Bytes.wordBytes header.sequence ++ payload)
  unfold encode magic
  simp only [List.append_assoc, List.cons_append, List.nil_append] at taken dropped tail ⊢
  rw [parse, if_pos ⟨rfl, rfl⟩, taken, dropped, ResourceId.ofBytes?_bytes,
    Option.bind_some, tail]

/-- Only what was written for a header is read as a frame. -/
theorem encode_of_parse
    {datagram payload : Bytes}
    {header : Header}
    (read : parse datagram = some (header, payload)) :
    datagram = header.encode ++ payload := by
  unfold parse at read
  split at read
  next m0 m1 m2 m3 v flags r0 r1 rest =>
    split at read
    next isOurs =>
      obtain ⟨stream, isStream, tail⟩ := Option.bind_eq_some_iff.mp read
      unfold ResourceId.ofBytes? at isStream
      split at isStream
      next size =>
        cases isStream
        unfold parseTail at tail
        split at tail
        next s0 s1 s2 s3 q0 q1 q2 q3 last dropped =>
          cases tail
          have whole := (List.take_append_drop 16 rest).symm
          rw [dropped] at whole
          obtain ⟨isMagic, isVersion⟩ := isOurs
          rw [encode, ← isMagic, ← isVersion, Bytes.wordBytes_word, Bytes.wordBytes_word]
          simpa using whole
        next => cases tail
      next => cases isStream
    next => cases read
  next => cases read

section Places

/-- Whether a datagram is long enough for a header and opens with the magic word and the version. -/
def isFrame (datagram : Bytes) : Bool :=
  decide (headerLength ≤ datagram.length ∧
    datagram.take 4 = magic ∧ datagram[4]? = some version)

/-- The word that stands at a place. -/
def wordAt (datagram : Bytes) (place : Nat) : UInt32 :=
  match datagram.drop place with
  | first :: second :: third :: fourth :: _ => Bytes.word first second third fourth
  | _ => 0

/-- The header that stands in front of a frame, read place by place. -/
def standing (datagram : Bytes) : Header where
  flags := datagram.getD 5 0
  reservedFirst := datagram.getD 6 0
  reservedSecond := datagram.getD 7 0
  stream := (ResourceId.ofBytes? ((datagram.drop 8).take 16)).getD .nil
  sender := wordAt datagram 24
  sequence := wordAt datagram 28

/-- Eight bytes or more are two words and a rest. -/
theorem exists_words
    {bytes : Bytes}
    (long : 8 ≤ bytes.length) :
    ∃ s0 s1 s2 s3 q0 q1 q2 q3 rest,
      bytes = s0 :: s1 :: s2 :: s3 :: q0 :: q1 :: q2 :: q3 :: rest := by
  match bytes with
  | s0 :: s1 :: s2 :: s3 :: q0 :: q1 :: q2 :: q3 :: rest =>
      exact ⟨s0, s1, s2, s3, q0, q1, q2, q3, rest, rfl⟩

/-- What is read as a frame is long enough for a header. -/
theorem length_of_parse
    {datagram payload : Bytes}
    {header : Header}
    (read : parse datagram = some (header, payload)) :
    headerLength ≤ datagram.length := by
  rw [encode_of_parse read, List.length_append, length_encode]
  exact Nat.le_add_right ..

/-- A datagram is read as a frame exactly if it is one, and then place by place. -/
theorem parse_eq (datagram : Bytes) :
    parse datagram =
      if isFrame datagram then some (standing datagram, datagram.drop headerLength) else none := by
  by_cases long : headerLength ≤ datagram.length
  · obtain ⟨m0, m1, m2, m3, v, flags, r0, r1, rest, rfl⟩ :=
      exists_words (Nat.le_trans (by decide) long)
    have longRest : 24 ≤ rest.length := Nat.le_of_add_le_add_right (b := 8) long
    have size : (rest.take 16).length = 16 := by
      rw [List.length_take]
      omega
    have longTail : 8 ≤ (rest.drop 16).length := by
      rw [List.length_drop]
      omega
    obtain ⟨s0, s1, s2, s3, q0, q1, q2, q3, payload, words⟩ := exists_words longTail
    have isStream : ResourceId.ofBytes? (rest.take 16) = some ⟨rest.take 16, size⟩ := dif_pos size
    have behind : ∀ count, rest.drop (16 + count) =
        (s0 :: s1 :: s2 :: s3 :: q0 :: q1 :: q2 :: q3 :: payload).drop count := by
      intro count
      rw [← words, List.drop_drop]
    let datagram := m0 :: m1 :: m2 :: m3 :: v :: flags :: r0 :: r1 :: rest
    have opens : isFrame datagram = true ↔ [m0, m1, m2, m3] = magic ∧ v = version := by
      rw [isFrame, decide_eq_true_iff]
      exact ⟨fun frame => ⟨frame.2.1, Option.some.inj frame.2.2⟩,
        fun same => ⟨long, same.1, congrArg some same.2⟩⟩
    have sender : wordAt datagram 24 = Bytes.word s0 s1 s2 s3 := by
      rw [wordAt, show datagram.drop 24 = rest.drop (16 + 0) from rfl, behind]
      rfl
    have sequence : wordAt datagram 28 = Bytes.word q0 q1 q2 q3 := by
      rw [wordAt, show datagram.drop 28 = rest.drop (16 + 4) from rfl, behind]
      rfl
    have reads : standing datagram = ⟨flags, r0, r1, ⟨rest.take 16, size⟩,
        Bytes.word s0 s1 s2 s3, Bytes.word q0 q1 q2 q3⟩ := by
      rw [standing, sender, sequence,
        show (datagram.drop 8).take 16 = rest.take 16 from rfl, isStream]
      rfl
    have drops : datagram.drop headerLength = payload := behind 8
    change parse datagram = if isFrame datagram then some (standing datagram, _) else none
    rw [reads, drops, parse, isStream, Option.bind_some, words]
    by_cases isOurs : [m0, m1, m2, m3] = magic ∧ v = version
    · rw [if_pos isOurs, if_pos (opens.mpr isOurs)]
      rfl
    · rw [if_neg isOurs, if_neg fun frame => isOurs (opens.mp frame)]
  · rw [if_neg fun frame => long (of_decide_eq_true frame).1]
    exact Option.eq_none_iff_forall_ne_some.mpr fun _ read => long (length_of_parse read)

end Places

end Discovery.Datagram.Header
