import Discovery.Table.Lemmas
import Discovery.Wire.Decode
import Discovery.Wire.Encode

namespace Discovery.Wire

/-!
# Writing, reading and checking agree

What a reader makes of a message that was written is what the check in advance
says of it: an accepted message is read back, whatever stands behind it, and a
refused one is refused for the same reason.  Each reader is compared with the
check of the part that it reads, the remaining bytes being carried along, so
the order in which two faults are found is settled part by part.
-/

/-- A word that was written is read back. -/
theorem takeWord_wordBytes
    (word : UInt32)
    (rest : Bytes) :
    takeWord (Bytes.wordBytes word ++ rest) = .ok (word, rest) := by
  simp only [Bytes.wordBytes, List.cons_append, List.nil_append, takeWord,
    Bytes.word_wordBytes]

/-- A length as the wire states it is the length, or the greatest word. -/
theorem toNat_lengthWord (length : Nat) :
    (lengthWord length).toNat = min length 0xFFFFFFFF := by
  rw [lengthWord, UInt32.toNat_ofNat', Nat.mod_eq_of_lt]
  omega

/-- A count as the wire states it is the count, or the greatest one. -/
theorem toInt_countWord (count : Nat) :
    (countWord count).toInt = min count 0x7FFFFFFF := by
  rw [countWord, Int32.toInt_ofNat_of_lt (by omega)]

/-- The bytes of a text are read as that text. -/
theorem takeTextOf_ofText
    (text : String)
    (rest : Bytes) :
    takeTextOf text.utf8ByteSize (Bytes.ofText text ++ rest) = .ok (text, rest) := by
  have body :
      (Bytes.ofText text ++ rest).take text.utf8ByteSize = Bytes.ofText text := by
    rw [← Bytes.length_ofText, List.take_left]
  have behind :
      (Bytes.ofText text ++ rest).drop text.utf8ByteSize = rest := by
    rw [← Bytes.length_ofText, List.drop_left]
  simp only [takeTextOf, body, behind, Bytes.length_ofText, Nat.lt_irrefl, ↓reduceIte,
    Bytes.toText?_ofText]

/-- A text is read back, or refused for the length that the check finds. -/
theorem takeText_textBytes
    (text : String)
    (rest : Bytes) :
    takeText (textBytes text ++ rest) = (checkText text).map fun () => (text, rest) := by
  rw [textBytes, List.append_assoc, takeText, takeWord_wordBytes]
  change (if maxTextLength < (lengthWord text.utf8ByteSize).toNat then _ else _) = _
  rw [toNat_lengthWord, checkText]
  by_cases short : text.utf8ByteSize ≤ maxTextLength
  · have fits : min text.utf8ByteSize 0xFFFFFFFF = text.utf8ByteSize := by
      simp only [maxTextLength] at short
      omega
    rw [if_neg (by omega), if_pos short, fits, takeTextOf_ofText]
    rfl
  · have long : maxTextLength < min text.utf8ByteSize 0xFFFFFFFF := by
      simp only [maxTextLength] at short ⊢
      omega
    rw [if_pos long, if_neg short]
    rfl

/-- Entries are read back into what is known, or refused for the first fault. -/
theorem takeEntries_entriesBytes
    (entries : List (String × String))
    (known : Attributes)
    (rest : Bytes) :
    takeEntries entries.length known (entriesBytes entries ++ rest) =
      (checkEntries entries).map fun () => (known.insertMany entries, rest) := by
  induction entries generalizing known with
  | nil => rfl
  | cons entry others inductionHypothesis =>
      have shape :
          entriesBytes (entry :: others) ++ rest =
            textBytes entry.1 ++ (textBytes entry.2 ++ (entriesBytes others ++ rest)) := by
        simp [entriesBytes]
      rw [shape, List.length_cons, takeEntries, takeText_textBytes, checkEntries]
      cases checkText entry.1 with
      | error cause => rfl
      | ok accepted =>
          change (takeText _ >>= _) = Except.map _ (checkText entry.2 >>= _)
          rw [takeText_textBytes]
          cases checkText entry.2 with
          | error cause => rfl
          | ok accepted => exact inductionHypothesis (known.insert entry.1 entry.2)

/-- Both words are read, and the expiry is judged before the count. -/
theorem takeExpiryAndCount_wordBytes
    (expiry : Int32)
    (count : Nat)
    (rest : Bytes) :
    takeExpiryAndCount
        (Bytes.wordBytes expiry.toUInt32 ++
          (Bytes.wordBytes (countWord count).toUInt32 ++ rest)) =
      if expiry < 0 then .error (.negativeExpiry expiry)
      else if count ≤ maxAttributes then .ok ((expiry, count), rest)
      else .error (.badAttributeCount (countWord count)) := by
  have counted := toInt_countWord count
  have notNegative : ¬ countWord count < 0 := by
    rw [Int32.lt_iff_toInt_lt, counted, Int32.toInt_zero]
    omega
  have judged :
      maxAttributes < (countWord count).toInt.toNat ↔ ¬ count ≤ maxAttributes := by
    simp only [counted, maxAttributes]
    omega
  simp only [Bytes.wordBytes, List.cons_append, List.nil_append, takeExpiryAndCount,
    Bytes.word_wordBytes, UInt32.toInt32]
  change (if expiry < 0 then _
    else if countWord count < 0 ∨ maxAttributes < (countWord count).toInt.toNat then _
    else _) = _
  by_cases few : count ≤ maxAttributes
  · have same : (countWord count).toInt.toNat = count := by
      simp only [counted, maxAttributes] at few ⊢
      omega
    simp only [notNegative, judged, few, not_true_eq_false, or_self, ↓reduceIte]
    change (if expiry < 0 then _
      else Except.ok ((_, (countWord count).toInt.toNat), _)) = _
    rw [same]
  · simp only [notNegative, judged, few, not_false_eq_true, or_true, ↓reduceIte]

/-- An announcement is read back, or refused for the reason that the check finds. -/
theorem takeAnnouncement_encode
    (announcement : Announcement)
    (rest : Bytes) :
    takeAnnouncement (announcement.encode ++ rest) =
      announcement.validate.map fun () => (announcement, rest) := by
  obtain ⟨category, connection, expiry, attributes⟩ := announcement
  simp only [Announcement.encode, List.append_assoc, takeAnnouncement,
    Announcement.validate, takeText_textBytes]
  cases checkText category with
  | error cause => rfl
  | ok accepted =>
      change (takeText _ >>= _) = Except.map _ (checkText connection >>= _)
      rw [takeText_textBytes]
      cases checkText connection with
      | error cause => rfl
      | ok accepted =>
          change (takeExpiryAndCount _ >>= _) = _
          rw [takeExpiryAndCount_wordBytes]
          by_cases negative : expiry < 0
          · simp only [negative, ↓reduceIte]
            rfl
          · by_cases few : attributes.size ≤ maxAttributes
            · simp only [negative, few, ↓reduceIte, checkAttributes]
              change (takeEntries attributes.entries.length ∅ _ >>= _) =
                Except.map _ (checkEntries attributes.entries)
              rw [takeEntries_entriesBytes]
              cases checkEntries attributes.entries with
              | error cause => rfl
              | ok accepted =>
                  change Except.ok (Announcement.mk category connection expiry
                    (Table.ofList attributes.entries), rest) = _
                  rw [Table.ofList_entries]
                  rfl
            · simp only [negative, few, ↓reduceIte, checkAttributes]
              rfl

/-- A message is read back, or refused for the reason that the check finds. -/
theorem takeMessage_encode
    (message : Message)
    (rest : Bytes) :
    takeMessage (message.encode ++ rest) = message.validate.map fun () => (message, rest) := by
  cases message with
  | query category =>
      change (takeText (textBytes category ++ rest)).map _ = (checkText category).map _
      rw [takeText_textBytes]
      cases checkText category <;> rfl
  | hello announcement =>
      change (takeAnnouncement (announcement.encode ++ rest)).map _ =
        announcement.validate.map _
      rw [takeAnnouncement_encode]
      cases announcement.validate <;> rfl
  | reply announcement =>
      change (takeAnnouncement (announcement.encode ++ rest)).map _ =
        announcement.validate.map _
      rw [takeAnnouncement_encode]
      cases announcement.validate <;> rfl
  | byeBye => rfl

namespace Message

/-- A message that every receiver accepts is read from its payload. -/
theorem decode_encode
    {message : Message}
    (valid : message.validate = .ok ()) :
    decode message.encode = .ok message := by
  have read := takeMessage_encode message []
  rw [List.append_nil, valid] at read
  rw [decode, read]
  rfl

/-- A message is read from its encoding as itself or not at all. -/
theorem eq_of_decode_encode
    {message other : Message}
    (read : decode message.encode = .ok other) :
    other = message := by
  have taken := takeMessage_encode message []
  rw [List.append_nil] at taken
  rw [decode, taken] at read
  cases valid : message.validate with
  | error cause =>
      rw [valid] at read
      cases read
  | ok =>
      rw [valid] at read
      exact (Except.ok.inj read).symm

/--
Reading what was written, whatever stands behind it, gives the message if the
check in advance accepts it, and otherwise the very refusal that the check gives.
-/
theorem decode_encode_append
    (message : Message)
    (trailing : Bytes) :
    decode (message.encode ++ trailing) = message.validate.map fun () => message := by
  rw [decode, takeMessage_encode]
  cases message.validate <;> rfl

end Message

end Discovery.Wire
