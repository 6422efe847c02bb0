import Discovery.Bytes

namespace Discovery.Bytes

/-!
# Which bytes the characters of a text are written in

A character below 128 is written as the one byte of its number, and every other
one in bytes that are all 128 or greater.  So a text whose bytes are all small
has as many bytes as characters (`ofText_of_ascii`, `ascii_of_ofText`), and no
byte is smaller than every character (`le_of_mem_ofText`).
-/

/-- The bytes of a text are those of its characters in order. -/
theorem ofText_eq_flatMap (text : String) :
    ofText text = text.toList.flatMap String.utf8EncodeChar := by
  have spelled : text.toByteArray = text.toList.utf8Encode := by
    rw [← String.toByteArray_ofList, String.ofList_toList]
  rw [ofText, spelled, List.utf8Encode, List.toList_data_toByteArray]

/-- A character below 128 is the byte of its number. -/
theorem utf8EncodeChar_of_lt
    {character : Char}
    (small : character.toNat < 128) :
    String.utf8EncodeChar character = [UInt8.ofNat character.toNat] :=
  if_pos (Nat.le_of_lt_succ small)

/-- Every other character is written in bytes that are no characters. -/
theorem le_of_mem_utf8EncodeChar
    {character : Char}
    {byte : UInt8}
    (great : 128 ≤ character.toNat)
    (member : byte ∈ String.utf8EncodeChar character) :
    128 ≤ byte.toNat := by
  have notOne : ¬character.val.toNat ≤ 127 := Nat.not_le.mpr great
  simp only [String.utf8EncodeChar, if_neg notOne] at member
  split at member
  next =>
    simp only [List.mem_cons, List.not_mem_nil, or_false] at member
    rcases member with rfl | rfl <;>
      (rw [UInt8.toNat_ofNat']; omega)
  next =>
    split at member
    next =>
      simp only [List.mem_cons, List.not_mem_nil, or_false] at member
      rcases member with rfl | rfl | rfl <;>
        (rw [UInt8.toNat_ofNat']; omega)
    next =>
      simp only [List.mem_cons, List.not_mem_nil, or_false] at member
      rcases member with rfl | rfl | rfl | rfl <;>
        (rw [UInt8.toNat_ofNat']; omega)

/-- A text of characters below 128 is written in one byte for each. -/
theorem ofText_of_ascii
    {text : String}
    (ascii : ∀ character ∈ text.toList, character.toNat < 128) :
    ofText text = text.toList.map fun character => UInt8.ofNat character.toNat := by
  rw [ofText_eq_flatMap]
  generalize text.toList = characters at ascii ⊢
  induction characters with
  | nil => rfl
  | cons character rest inductionHypothesis =>
      obtain ⟨first, others⟩ := List.forall_mem_cons.mp ascii
      rw [List.flatMap_cons, utf8EncodeChar_of_lt first, inductionHypothesis others]
      rfl

/-- The characters of such a text are the numbers of its bytes. -/
theorem map_ofNat_ofText
    {text : String}
    (ascii : ∀ character ∈ text.toList, character.toNat < 128) :
    (ofText text).map (fun byte => Char.ofNat byte.toNat) = text.toList := by
  rw [ofText_of_ascii ascii, List.map_map]
  refine (List.map_congr_left fun character member => ?_).trans (List.map_id text.toList)
  have small := ascii character member
  rw [Function.comp_apply, UInt8.toNat_ofNat', Nat.mod_eq_of_lt (by omega), Char.ofNat_toNat]
  rfl

/-- A text whose bytes are all below 128 has characters below 128 only. -/
theorem ascii_of_ofText
    {text : String}
    (small : ∀ byte ∈ ofText text, byte.toNat < 128) :
    ∀ character ∈ text.toList, character.toNat < 128 := by
  intro character member
  refine Nat.lt_of_not_le fun great => ?_
  obtain ⟨byte, isByte⟩ := List.exists_mem_of_ne_nil _ (@String.utf8EncodeChar_ne_nil character)
  have written : byte ∈ ofText text := by
    rw [ofText_eq_flatMap]
    exact List.mem_flatMap.mpr ⟨character, member, isByte⟩
  exact absurd (small byte written) (Nat.not_lt.mpr (le_of_mem_utf8EncodeChar great isByte))

/-- What no character of a text is smaller than, no byte of it is, up to 128. -/
theorem le_of_mem_ofText
    {text : String}
    {bound : Nat}
    (isSmall : bound ≤ 128)
    (above : ∀ character ∈ text.toList, bound ≤ character.toNat) :
    ∀ byte ∈ ofText text, bound ≤ byte.toNat := by
  intro byte written
  rw [ofText_eq_flatMap] at written
  obtain ⟨character, member, isByte⟩ := List.mem_flatMap.mp written
  by_cases small : character.toNat < 128
  · rw [utf8EncodeChar_of_lt small, List.mem_singleton] at isByte
    have same : byte.toNat = character.toNat := by
      rw [isByte, UInt8.toNat_ofNat']
      omega
    exact same ▸ above character member
  · exact Nat.le_trans isSmall (le_of_mem_utf8EncodeChar (Nat.le_of_not_lt small) isByte)

end Discovery.Bytes
