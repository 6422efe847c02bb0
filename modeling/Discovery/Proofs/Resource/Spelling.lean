import Discovery.Proofs.Text.Hex
import Discovery.Resource.Id

namespace Discovery.ResourceId

/-!
# How identifiers are spelled

An identifier is written as thirty-two digits in lower case, and read from
thirty-two digits of either case.  Whatever else a text is, there is one reason
why it names no resource, and the first that applies is given (`Reading`).
Identifiers are ordered as their texts are, so that a list of resources can be
sorted by either (`spelling_spec`).
-/

open Text.Hex (isDigit isDigitByte)

/-- That a text is thirty-two digits. -/
def IsSpelling (text : String) : Prop :=
  text.length = 32 ∧ ∀ character ∈ text.toList, isDigit character = true

/-- What reading gives of a text: an identifier, or the first reason why there is none. -/
inductive Reading (text : String) : Except ParseError ResourceId → Prop where
  | identifier
      {id : ResourceId}
      (spelling : IsSpelling text)
      (lowered : id.text = text.toLower) :
      Reading text (.ok id)
  | oddLength (odd : text.utf8ByteSize % 2 = 1) : Reading text (.error (.notHex .oddLength))
  | invalidDigit
      {before behind : Bytes}
      {byte : UInt8}
      (even : text.utf8ByteSize % 2 = 0)
      (bytes : Bytes.ofText text = before ++ byte :: behind)
      (digits : ∀ earlier ∈ before, isDigitByte earlier = true)
      (stranger : isDigitByte byte = false) :
      Reading text (.error (.notHex (.invalidDigit byte before.length)))
  | wrongLength
      (even : text.utf8ByteSize % 2 = 0)
      (digits : ∀ character ∈ text.toList, isDigit character = true)
      (other : text.length ≠ 32) :
      Reading text (.error (.wrongLength (text.utf8ByteSize / 2)))

/-- Each two of the digits of a text stand for one byte. -/
theorem length_of_encode
    {bytes : Bytes}
    {text : String}
    (written : Text.Hex.encode bytes = text.toLower) :
    2 * bytes.length = text.length := by
  have lengths := (congrArg String.length written).trans String.length_map
  rwa [Text.Hex.encode, String.length_ofList, Text.Hex.length_flatMap_pair] at lengths

/-- Whatever a text is, it is read as that. -/
theorem parse_of_reading
    {text : String}
    {outcome : Except ParseError ResourceId}
    (reading : Reading text outcome) :
    parse text = outcome := by
  cases reading with
  | identifier spelling lowered =>
      obtain ⟨long, digits⟩ := spelling
      have size := Text.Hex.utf8ByteSize_of_digits digits
      obtain ⟨bytes, read, written⟩ := Text.Hex.decode_of_digits (by omega) digits
      have same := Text.Hex.encode_injective (written.trans lowered.symm)
      simp only [parse, read, same, ofBytes?_bytes]
  | oddLength odd =>
      rw [parse, Text.Hex.decode, Bytes.length_ofText, if_pos odd]
  | invalidDigit even bytes digits stranger =>
      rw [← Bytes.length_ofText, bytes] at even
      have read := Text.Hex.decodePairs_of_stranger 0 even digits stranger
      rw [Nat.zero_add] at read
      rw [parse, Text.Hex.decode, bytes, if_neg (by omega), read]
  | wrongLength even digits other =>
      have size := Text.Hex.utf8ByteSize_of_digits digits
      obtain ⟨bytes, read, written⟩ := Text.Hex.decode_of_digits even digits
      have length := length_of_encode written
      have notSixteen : bytes.length ≠ 16 := by omega
      simp only [parse, read, ofBytes?, dif_neg notSixteen]
      rw [size, ← length, Nat.mul_div_cancel_left _ (by decide)]

/-- There is an identifier for any thirty-two digits. -/
theorem exists_identifier
    {text : String}
    (spelling : IsSpelling text) :
    ∃ id, Reading text (.ok id) := by
  obtain ⟨long, digits⟩ := spelling
  have bytes := Text.Hex.utf8ByteSize_of_digits digits
  obtain ⟨bytes, _, written⟩ := Text.Hex.decode_of_digits (by omega) digits
  have size : bytes.length = 16 := by
    have length := length_of_encode written
    omega
  exact ⟨⟨bytes, size⟩, .identifier ⟨long, digits⟩ written⟩

/-- Every text is one of these. -/
theorem exists_reading (text : String) : ∃ outcome, Reading text outcome := by
  by_cases odd : text.utf8ByteSize % 2 = 1
  · exact ⟨_, .oddLength odd⟩
  · have even : text.utf8ByteSize % 2 = 0 := by omega
    by_cases digits : ∀ byte ∈ Bytes.ofText text, isDigitByte byte = true
    · have characters := (Text.Hex.forall_isDigitByte_iff text).mp digits
      by_cases long : text.length = 32
      · obtain ⟨id, reading⟩ := exists_identifier ⟨long, characters⟩
        exact ⟨.ok id, reading⟩
      · exact ⟨_, .wrongLength even characters long⟩
    · obtain ⟨before, byte, behind, bytes, all, stranger⟩ := Text.Hex.exists_stranger digits
      exact ⟨_, .invalidDigit even bytes all stranger⟩

theorem parse_eq_iff
    {text : String}
    {outcome : Except ParseError ResourceId} :
    parse text = outcome ↔ Reading text outcome := by
  refine ⟨fun parsed => ?_, parse_of_reading⟩
  obtain ⟨other, reading⟩ := exists_reading text
  rwa [← parsed, parse_of_reading reading]

/-- An identifier is read back from its text. -/
theorem parse_text (id : ResourceId) : parse id.text = .ok id := by
  simp only [parse, text, Text.Hex.decode_encode, ofBytes?_bytes]

/-- Identifiers are ordered as their texts are. -/
theorem text_lt_text_iff (first second : ResourceId) :
    first.text < second.text ↔ compare first second = .lt := by
  rw [String.lt_iff, text, text, Text.Hex.encode, Text.Hex.encode, String.toList_ofList,
    String.toList_ofList]
  exact Text.Hex.flatMap_pair_lt_iff first.bytes second.bytes

/--
An identifier is read back from its text.  A text is read as an identifier if
and only if it is thirty-two digits, and then the text of the identifier is that
text in lower case; any other text is refused for an odd number of bytes, or
else for its first byte that is no digit, or else for its length.  Identifiers
are ordered as their texts are.
-/
theorem spelling_spec :
    (∀ id, parse (text id) = .ok id) ∧
      (∀ text, (∃ id, parse text = .ok id) ↔ IsSpelling text) ∧
        (∀ text outcome, parse text = outcome ↔ Reading text outcome) ∧
          ∀ first second : ResourceId, compare first second = .lt ↔ first.text < second.text := by
  refine ⟨parse_text, fun text => ⟨?_, ?_⟩, fun _ _ => parse_eq_iff,
    fun first second => (text_lt_text_iff first second).symm⟩
  · rintro ⟨id, parsed⟩
    cases parse_eq_iff.mp parsed with
    | identifier spelling _ => exact spelling
  · intro spelling
    obtain ⟨id, reading⟩ := exists_identifier spelling
    exact ⟨id, parse_of_reading reading⟩

end Discovery.ResourceId
