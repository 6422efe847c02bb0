import Discovery.Proofs.Text.Utf8
import Discovery.Text.Hex

namespace Discovery.Text.Hex

/-!
# Digits are read as they were written

Whatever has an even number of bytes is either digits from end to end or has a
first byte that is no digit.  Digits are read, and the bytes that they spell are
written in the same digits in lower case (`decodePairs_of_digits`); a byte that is
no digit is named with its position (`decodePairs_of_stranger`).  Bytes are read
back from their digits (`decode_encode`), and are ordered as their digits are
(`flatMap_pair_lt_iff`).
-/

/-- The sixteen digits, those that are letters in either case. -/
def alphabet : List Char :=
  [ '0', '1', '2', '3', '4', '5', '6', '7', '8', '9'
  , 'a', 'b', 'c', 'd', 'e', 'f', 'A', 'B', 'C', 'D', 'E', 'F' ]

/-- Whether a character is a digit. -/
def isDigit (character : Char) : Bool :=
  alphabet.contains character

/-- Whether a byte spells a digit. -/
def isDigitByte (byte : UInt8) : Bool :=
  isDigit (Char.ofNat byte.toNat)

section Digits

/-- What holds of the bytes below 256 holds of every byte. -/
theorem forall_byte
    (property : UInt8 → Prop)
    (each : ∀ value < 256, property (UInt8.ofNat value))
    (byte : UInt8) :
    property byte := by
  have one := each byte.toNat byte.toNat_lt
  rwa [UInt8.ofNat_toNat] at one

theorem isSome_digitValue? (byte : UInt8) : (digitValue? byte).isSome = isDigitByte byte :=
  forall_byte (fun byte => (digitValue? byte).isSome = isDigitByte byte) (by decide +kernel) byte

/-- A byte that spells a digit has a value below sixteen, of which it is the digit. -/
theorem exists_digitValue?
    {byte : UInt8}
    (spells : isDigitByte byte = true) :
    ∃ value, digitValue? byte = some value ∧ value < 16 ∧
      digit value = (Char.ofNat byte.toNat).toLower := by
  have values := forall_byte
    (fun byte => ∀ value ∈ digitValue? byte,
      value < 16 ∧ digit value = (Char.ofNat byte.toNat).toLower)
    (by decide +kernel) byte
  rw [← isSome_digitValue?] at spells
  obtain ⟨value, isValue⟩ := Option.isSome_iff_exists.mp spells
  exact ⟨value, isValue, values value isValue⟩

theorem digitValue?_of_stranger
    {byte : UInt8}
    (stranger : isDigitByte byte = false) :
    digitValue? byte = none := by
  rwa [← isSome_digitValue?, Option.isSome_eq_false_iff, Option.isNone_iff_eq_none] at stranger

/-- The digit of a number is a character below 128 that spells the number. -/
theorem digit_spec
    {value : Nat}
    (small : value < 16) :
    (digit value).toNat < 128 ∧ digitValue? (UInt8.ofNat (digit value).toNat) = some value := by
  have all : ∀ value < 16, (digit value).toNat < 128 ∧
      digitValue? (UInt8.ofNat (digit value).toNat) = some value := by decide
  exact all value small

/-- Digits are ordered as the numbers are whose digits they are. -/
theorem digit_lt_digit_iff
    {first second : Nat}
    (firstSmall : first < 16)
    (secondSmall : second < 16) :
    digit first < digit second ↔ first < second := by
  have all : ∀ first < 16, ∀ second < 16, digit first < digit second ↔ first < second := by
    decide
  exact all first firstSmall second secondSmall

theorem digit_inj
    {first second : Nat}
    (firstSmall : first < 16)
    (secondSmall : second < 16) :
    digit first = digit second ↔ first = second := by
  have all : ∀ first < 16, ∀ second < 16, digit first = digit second ↔ first = second := by
    decide
  exact all first firstSmall second secondSmall

theorem halves_lt (byte : UInt8) : byte.toNat / 16 < 16 ∧ byte.toNat % 16 < 16 := by
  have bound := byte.toNat_lt
  omega

end Digits

section Pairs

/-- Two halves make the byte whose halves they are. -/
theorem pair_ofNat
    {upper lower : Nat}
    (upperSmall : upper < 16)
    (lowerSmall : lower < 16) :
    pair (UInt8.ofNat (16 * upper + lower)) = [digit upper, digit lower] := by
  have value : (UInt8.ofNat (16 * upper + lower)).toNat = 16 * upper + lower := by
    rw [UInt8.toNat_ofNat']
    omega
  rw [pair, value, show (16 * upper + lower) / 16 = upper by omega,
    show (16 * upper + lower) % 16 = lower by omega]

/-- Each byte takes two digits. -/
theorem length_flatMap_pair (bytes : Bytes) : (bytes.flatMap pair).length = 2 * bytes.length := by
  induction bytes with
  | nil => rfl
  | cons byte rest inductionHypothesis =>
      rw [List.flatMap_cons, List.length_append, inductionHypothesis, List.length_cons]
      change 2 + _ = _
      omega

/-- Digits are read, and stand for the bytes that are written in them. -/
theorem decodePairs_of_digits
    {digits : Bytes}
    (position : Nat)
    (even : digits.length % 2 = 0)
    (all : ∀ byte ∈ digits, isDigitByte byte = true) :
    ∃ bytes, decodePairs position digits = .ok bytes ∧
      bytes.flatMap pair = digits.map fun byte => (Char.ofNat byte.toNat).toLower := by
  match digits with
  | [] => exact ⟨[], rfl, rfl⟩
  | [_] => cases even
  | high :: low :: rest =>
      obtain ⟨highSpells, others⟩ := List.forall_mem_cons.mp all
      obtain ⟨lowSpells, restSpells⟩ := List.forall_mem_cons.mp others
      obtain ⟨upper, isUpper, upperSmall, upperDigit⟩ := exists_digitValue? highSpells
      obtain ⟨lower, isLower, lowerSmall, lowerDigit⟩ := exists_digitValue? lowSpells
      obtain ⟨bytes, read, written⟩ :=
        decodePairs_of_digits (position + 2) ((Nat.add_mod_right ..).symm.trans even) restSpells
      refine ⟨UInt8.ofNat (16 * upper + lower) :: bytes, ?_, ?_⟩
      · simp only [decodePairs, isUpper, isLower, read]
        rfl
      · rw [List.flatMap_cons, pair_ofNat upperSmall lowerSmall, upperDigit, lowerDigit, written]
        rfl

/-- The first byte that is no digit is named, with its position. -/
theorem decodePairs_of_stranger
    {before behind : Bytes}
    {byte : UInt8}
    (position : Nat)
    (even : (before ++ byte :: behind).length % 2 = 0)
    (all : ∀ earlier ∈ before, isDigitByte earlier = true)
    (stranger : isDigitByte byte = false) :
    decodePairs position (before ++ byte :: behind) =
      .error (.invalidDigit byte (position + before.length)) := by
  have noValue := digitValue?_of_stranger stranger
  match before, behind with
  | [], [] => cases even
  | [], low :: rest => simp only [List.nil_append, decodePairs, noValue, List.length_nil]; rfl
  | [high], behind =>
      obtain ⟨upper, isUpper, _, _⟩ := exists_digitValue? (all high List.mem_cons_self)
      simp only [List.cons_append, List.nil_append, decodePairs, isUpper, noValue]
      rfl
  | high :: low :: rest, behind =>
      obtain ⟨highSpells, others⟩ := List.forall_mem_cons.mp all
      obtain ⟨lowSpells, restSpells⟩ := List.forall_mem_cons.mp others
      obtain ⟨upper, isUpper, _, _⟩ := exists_digitValue? highSpells
      obtain ⟨lower, isLower, _, _⟩ := exists_digitValue? lowSpells
      have evenRest : (rest ++ byte :: behind).length % 2 = 0 :=
        (Nat.add_mod_right ..).symm.trans even
      have later := decodePairs_of_stranger (position + 2) evenRest restSpells stranger
      simp only [List.cons_append, decodePairs, isUpper, isLower, later, List.length_cons]
      rw [show position + (rest.length + 1 + 1) = position + 2 + rest.length by omega]
      rfl

/-- What is not digits from end to end has a first byte that is no digit. -/
theorem exists_stranger
    {bytes : Bytes}
    (notAll : ¬∀ byte ∈ bytes, isDigitByte byte = true) :
    ∃ before byte behind, bytes = before ++ byte :: behind ∧
      (∀ earlier ∈ before, isDigitByte earlier = true) ∧ isDigitByte byte = false := by
  induction bytes with
  | nil => exact absurd (List.forall_mem_nil _) notAll
  | cons first rest inductionHypothesis =>
      cases spells : isDigitByte first with
      | false => exact ⟨[], first, rest, rfl, List.forall_mem_nil _, spells⟩
      | true =>
          obtain ⟨before, byte, behind, rfl, all, stranger⟩ := inductionHypothesis fun others =>
            notAll (List.forall_mem_cons.mpr ⟨spells, others⟩)
          have allBefore : ∀ earlier ∈ first :: before, isDigitByte earlier = true :=
            List.forall_mem_cons.mpr ⟨spells, all⟩
          exact ⟨first :: before, byte, behind, rfl, allBefore, stranger⟩

end Pairs

section Texts

theorem lt_of_isDigit
    {character : Char}
    (spells : isDigit character = true) :
    character.toNat < 128 := by
  have all : (alphabet.all fun one => one.toNat < 128) = true := by decide
  exact of_decide_eq_true (List.all_eq_true.mp all character (List.contains_iff_mem.mp spells))

theorem lt_of_isDigitByte
    {byte : UInt8}
    (spells : isDigitByte byte = true) :
    byte.toNat < 128 :=
  forall_byte (fun byte => isDigitByte byte = true → byte.toNat < 128) (by decide +kernel) byte
    spells

theorem ascii_of_digits
    {text : String}
    (all : ∀ character ∈ text.toList, isDigit character = true) :
    ∀ character ∈ text.toList, character.toNat < 128 :=
  fun character member => lt_of_isDigit (all character member)

/-- A text is digits from end to end if its bytes are. -/
theorem forall_isDigitByte_iff (text : String) :
    (∀ byte ∈ Bytes.ofText text, isDigitByte byte = true) ↔
      ∀ character ∈ text.toList, isDigit character = true := by
  constructor
  · intro all
    have ascii := Bytes.ascii_of_ofText fun byte member => lt_of_isDigitByte (all byte member)
    rw [← Bytes.map_ofNat_ofText ascii, List.forall_mem_map]
    exact all
  · intro all
    rw [← Bytes.map_ofNat_ofText (ascii_of_digits all), List.forall_mem_map] at all
    exact all

/-- Digits from end to end are as many bytes as characters. -/
theorem utf8ByteSize_of_digits
    {text : String}
    (all : ∀ character ∈ text.toList, isDigit character = true) :
    text.utf8ByteSize = text.length := by
  rw [← Bytes.length_ofText, Bytes.ofText_of_ascii (ascii_of_digits all), List.length_map,
    String.length_toList]

/-- The bytes that some digits spell are written in the same digits in lower case. -/
theorem decode_of_digits
    {text : String}
    (even : text.utf8ByteSize % 2 = 0)
    (all : ∀ character ∈ text.toList, isDigit character = true) :
    ∃ bytes, decode text = .ok bytes ∧ encode bytes = text.toLower := by
  obtain ⟨bytes, read, written⟩ := decodePairs_of_digits 0
    (Bytes.length_ofText text ▸ even) ((forall_isDigitByte_iff text).mpr all)
  refine ⟨bytes, ?_, ?_⟩
  · rw [decode, Bytes.length_ofText, if_neg (by omega), read]
  · have lowered : (Bytes.ofText text).map (fun byte => (Char.ofNat byte.toNat).toLower) =
        text.toLower.toList := by
      refine Eq.trans ?_ String.toList_map.symm
      rw [← Bytes.map_ofNat_ofText (ascii_of_digits all), List.map_map]
      rfl
    rw [encode, written, lowered, String.ofList_toList]

/-- Bytes are read back from their digits. -/
theorem decodePairs_pairs
    (position : Nat)
    (bytes : Bytes) :
    decodePairs position ((bytes.flatMap pair).map fun digit => UInt8.ofNat digit.toNat) =
      .ok bytes := by
  induction bytes generalizing position with
  | nil => rfl
  | cons byte rest inductionHypothesis =>
      obtain ⟨upperSmall, lowerSmall⟩ := halves_lt byte
      have whole : UInt8.ofNat (16 * (byte.toNat / 16) + byte.toNat % 16) = byte := by
        rw [Nat.div_add_mod, UInt8.ofNat_toNat]
      simp only [List.flatMap_cons, pair, List.cons_append, List.nil_append, List.map_cons,
        decodePairs, (digit_spec upperSmall).2, (digit_spec lowerSmall).2, inductionHypothesis,
        whole]
      rfl

theorem ascii_encode (bytes : Bytes) :
    ∀ character ∈ (encode bytes).toList, character.toNat < 128 := by
  intro character member
  rw [encode, String.toList_ofList] at member
  obtain ⟨byte, _, isDigit⟩ := List.mem_flatMap.mp member
  obtain ⟨upperSmall, lowerSmall⟩ := halves_lt byte
  rw [pair, List.mem_cons, List.mem_singleton] at isDigit
  rcases isDigit with rfl | rfl
  · exact (digit_spec upperSmall).1
  · exact (digit_spec lowerSmall).1

/-- What was written is read back. -/
theorem decode_encode (bytes : Bytes) : decode (encode bytes) = .ok bytes := by
  have written := Bytes.ofText_of_ascii (ascii_encode bytes)
  rw [encode, String.toList_ofList] at written
  have even : (Bytes.ofText (encode bytes)).length % 2 ≠ 1 := by
    rw [encode, written, List.length_map, length_flatMap_pair]
    omega
  rw [decode, if_neg even, encode, written, decodePairs_pairs]

theorem encode_injective
    {first second : Bytes}
    (same : encode first = encode second) :
    first = second := by
  have read := decode_encode second
  rw [← same, decode_encode] at read
  exact Except.ok.inj read

end Texts

section Order

/-- Bytes are ordered as the digits are that they are written in. -/
theorem flatMap_pair_lt_iff (first second : Bytes) :
    first.flatMap pair < second.flatMap pair ↔ compare first second = .lt := by
  induction first generalizing second with
  | nil =>
      cases second with
      | nil => simp
      | cons other others => simp [pair]
  | cons byte rest inductionHypothesis =>
      cases second with
      | nil => simp
      | cons other others =>
          obtain ⟨upperSmall, lowerSmall⟩ := halves_lt byte
          obtain ⟨otherUpperSmall, otherLowerSmall⟩ := halves_lt other
          have isByte : byte = other ↔ byte.toNat = other.toNat := UInt8.toNat_inj.symm
          simp only [List.flatMap_cons, pair, List.cons_append, List.nil_append,
            List.cons_lt_cons_iff, digit_lt_digit_iff upperSmall otherUpperSmall,
            digit_lt_digit_iff lowerSmall otherLowerSmall, digit_inj upperSmall otherUpperSmall,
            digit_inj lowerSmall otherLowerSmall, inductionHypothesis others,
            List.compare_cons_cons, Ordering.then_eq_lt, Std.compare_eq_lt,
            Std.compare_eq_iff_eq, isByte, UInt8.lt_iff_toNat_lt]
          by_cases behind : compare rest others = .lt
          · simp only [behind, and_true]
            omega
          · simp only [behind, and_false, or_false]
            omega

end Order

end Discovery.Text.Hex
