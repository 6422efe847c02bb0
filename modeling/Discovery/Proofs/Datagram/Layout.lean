import Discovery.Proofs.Datagram.Frame

namespace Discovery

/-!
# Where the parts of a header stand

A header is packed: each of its parts stands at a place of its own, and the
sender and the sequence number are written with their least significant byte
first.  Reading undoes writing in front of any payload, and whatever is read can
be written again: `Header.reading_parse` says of every byte string whether it is
read as a frame, and as which.
-/

namespace Bytes

/-- The number that some bytes spell, the least significant first. -/
def littleEndian : Bytes → Nat
  | [] => 0
  | byte :: rest => byte.toNat + 256 * littleEndian rest

/-- A word is written with its least significant byte first. -/
theorem littleEndian_wordBytes (value : UInt32) : littleEndian (wordBytes value) = value.toNat := by
  have bound := value.toNat_lt
  simp only [littleEndian, wordBytes, UInt8.toNat_ofNat']
  omega

end Bytes

namespace Datagram.Header

/-- That a datagram shows a header, each part at its place. -/
structure Shows (datagram : Bytes) (header : Header) : Prop where
  flags : datagram[5]? = some header.flags
  reserved : (datagram.drop 6).take 2 = [header.reservedFirst, header.reservedSecond]
  stream : (datagram.drop 8).take 16 = header.stream.bytes
  sender : Bytes.littleEndian ((datagram.drop 24).take 4) = header.sender.toNat
  sequence : Bytes.littleEndian ((datagram.drop 28).take 4) = header.sequence.toNat

/-- What was written for a header shows it, whatever follows. -/
theorem shows_encode
    (header : Header)
    (payload : Bytes) :
    Shows (header.encode ++ payload) header := by
  let words := Bytes.wordBytes header.sender ++ Bytes.wordBytes header.sequence
  obtain ⟨taken, dropped⟩ := take_append_stream header.stream (words ++ payload)
  have atStream : (header.encode ++ payload).drop 8 =
      header.stream.bytes ++ (words ++ payload) := by
    simp only [encode, magic, words, List.append_assoc]
    rfl
  have atSender : (header.encode ++ payload).drop 24 = words ++ payload := by
    rw [show 24 = 8 + 16 from rfl, ← List.drop_drop, atStream, dropped]
  have atSequence : (header.encode ++ payload).drop 28 =
      Bytes.wordBytes header.sequence ++ payload := by
    rw [show 28 = 24 + 4 from rfl, ← List.drop_drop, atSender]
    rfl
  exact {
    flags := rfl
    reserved := rfl
    stream := by rw [atStream, taken]
    sender := by
      rw [atSender]
      exact Bytes.littleEndian_wordBytes header.sender
    sequence := by
      rw [atSequence]
      exact Bytes.littleEndian_wordBytes header.sequence }

/-- That a datagram is long enough for a header and opens as frames do. -/
def OpensFrame (datagram : Bytes) : Prop :=
  32 ≤ datagram.length ∧ Bytes.ofText "BCN0" <+: datagram ∧ datagram[4]? = some 1

theorem isFrame_iff {datagram : Bytes} : isFrame datagram = true ↔ OpensFrame datagram := by
  have word : Bytes.ofText "BCN0" = magic := by decide +kernel
  rw [isFrame, decide_eq_true_iff, OpensFrame, word, List.prefix_iff_eq_take, eq_comm (a := magic)]
  rfl

/-- What reading gives of a datagram: a header and what follows it, or nothing. -/
inductive Reading (datagram : Bytes) : Option (Header × Bytes) → Prop where
  | frame
      {header : Header}
      (opens : OpensFrame datagram)
      (shown : Shows datagram header)
      (written : header.encode = datagram.take 32) :
      Reading datagram (some (header, datagram.drop 32))
  | foreign (stranger : ¬OpensFrame datagram) : Reading datagram none

/--
Reading what was written for a header in front of a payload gives both of them
back.  Any byte string is read if it has thirty-two bytes, opens with the magic
word and has the version, and otherwise not; what is read stands at its places,
and written again it is the bytes that it was read from.
-/
theorem reading_parse :
    (∀ header payload, parse (encode header ++ payload) = some (header, payload)) ∧
      ∀ datagram, Reading datagram (parse datagram) := by
  refine ⟨parse_encode, fun datagram => ?_⟩
  cases read : parse datagram with
  | none =>
      refine .foreign fun opens => ?_
      rw [parse_eq, if_pos (isFrame_iff.mpr opens)] at read
      cases read
  | some parts =>
      obtain ⟨header, payload⟩ := parts
      have whole := encode_of_parse read
      have size : header.encode.length = 32 := length_encode header
      have opens : OpensFrame datagram := by
        rw [← isFrame_iff]
        rw [parse_eq] at read
        exact (Option.ite_none_right_eq_some.mp read).1
      have behind : datagram.drop 32 = payload := by
        rw [whole, List.drop_left' size]
      have written : header.encode = datagram.take 32 := by
        rw [whole, List.take_left' size]
      rw [← behind]
      exact .frame opens (whole ▸ shows_encode header payload) written

end Datagram.Header

end Discovery
