namespace Discovery

/-!
# Byte strings

Everything that leaves a participant leaves as bytes.  This module fixes the
three conversions the rest of the library needs: text to and from its UTF-8
bytes, and 32-bit words to and from four bytes, least significant first.

Both conversions are inverse to each other: `toText?_eq_some_iff` says that
reading text accepts exactly the bytes that writing some text produces, and
`word_wordBytes` and `wordBytes_word` say the same of words.
-/

/-- A byte string, in the order in which it travels. -/
abbrev Bytes := List UInt8

namespace Bytes

/-- The UTF-8 bytes of a text. -/
def ofText (text : String) : Bytes :=
  text.toByteArray.data.toList

/-- The text whose UTF-8 bytes are given, if there is one. -/
def toText? (bytes : Bytes) : Option String :=
  String.fromUTF8? ⟨bytes.toArray⟩

/-- Reading back what was written gives the text again. -/
@[simp]
theorem toText?_ofText (text : String) :
    toText? (ofText text) = some text := by
  have same : (⟨(ofText text).toArray⟩ : ByteArray) = text.toByteArray := by
    simp [ofText]
  simp only [toText?, same, String.fromUTF8?, text.isValidUTF8, ↓reduceDIte]
  rfl

/-- Only the bytes of a text read as that text. -/
theorem ofText_of_toText?
    {bytes : Bytes}
    {text : String}
    (read : toText? bytes = some text) :
    ofText text = bytes := by
  unfold toText? String.fromUTF8? at read
  split at read
  · cases read
    simp [ofText, String.fromUTF8]
  · cases read

/-- Bytes read as a text exactly when they are that text's bytes. -/
theorem toText?_eq_some_iff
    {bytes : Bytes}
    {text : String} :
    toText? bytes = some text ↔ bytes = ofText text :=
  ⟨fun read => (ofText_of_toText? read).symm, fun same => same ▸ toText?_ofText text⟩

/-- A text is determined by its bytes. -/
theorem ofText_injective
    {first second : String}
    (same : ofText first = ofText second) :
    first = second := by
  have read := toText?_ofText second
  rw [← same, toText?_ofText] at read
  exact Option.some.inj read

/-- A text has as many bytes as its size says. -/
@[simp]
theorem length_ofText (text : String) :
    (ofText text).length = text.utf8ByteSize := by
  rw [← String.size_toByteArray]
  exact Array.length_toList

/-- A 32-bit word as four bytes, least significant first. -/
def wordBytes (word : UInt32) : Bytes :=
  [ UInt8.ofNat word.toNat
  , UInt8.ofNat (word.toNat / 0x100)
  , UInt8.ofNat (word.toNat / 0x10000)
  , UInt8.ofNat (word.toNat / 0x1000000) ]

/-- The 32-bit word of four bytes, least significant first. -/
def word (first second third fourth : UInt8) : UInt32 :=
  UInt32.ofNat
    (first.toNat + 0x100 * second.toNat + 0x10000 * third.toNat + 0x1000000 * fourth.toNat)

/-- A word takes four bytes. -/
@[simp]
theorem length_wordBytes (value : UInt32) : (wordBytes value).length = 4 :=
  rfl

/-- A word is read back from its bytes. -/
theorem word_wordBytes (value : UInt32) :
    word (UInt8.ofNat value.toNat)
        (UInt8.ofNat (value.toNat / 0x100))
        (UInt8.ofNat (value.toNat / 0x10000))
        (UInt8.ofNat (value.toNat / 0x1000000)) =
      value := by
  have bound := value.toNat_lt
  apply UInt32.toNat_inj.mp
  simp only [word, UInt32.toNat_ofNat', UInt8.toNat_ofNat']
  omega

/-- Four bytes are the bytes of the word they spell. -/
theorem wordBytes_word (first second third fourth : UInt8) :
    wordBytes (word first second third fourth) = [first, second, third, fourth] := by
  have firstBound := first.toNat_lt
  have secondBound := second.toNat_lt
  have thirdBound := third.toNat_lt
  have fourthBound := fourth.toNat_lt
  simp only [wordBytes, word, List.cons.injEq, and_true]
  refine ⟨?_, ?_, ?_, ?_⟩ <;>
    (apply UInt8.toNat_inj.mp
     simp only [UInt32.toNat_ofNat', UInt8.toNat_ofNat']
     omega)

end Bytes
end Discovery
