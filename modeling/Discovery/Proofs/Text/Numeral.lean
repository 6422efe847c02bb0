import Discovery.Text.Numeral

namespace Discovery.Text

/-!
# Which numbers a text spells

A text is read as a number below a limit if and only if it spells that number and
the number is below the limit (`wholeNumber?_eq_some_iff`).
-/

/-- That a text spells a number: one or more decimal digits, with a plus sign in front or not. -/
def Spells (text : String) (value : Nat) : Prop :=
  ∃ digits : List Char, digits ≠ [] ∧ (∀ digit ∈ digits, digit.isDigit = true) ∧
    (text.toList = digits ∨ text.toList = '+' :: digits) ∧ Nat.ofDigitChars 10 digits 0 = value

/-- The decimal digits are the ten from zero to nine. -/
theorem digit?_ten (character : Char) :
    digit? 10 character =
      if character.isDigit then some (character.toNat - '0'.toNat) else none := by
  have bounds : ∀ first last : Char, first ≤ character ∧ character ≤ last ↔
      first.toNat ≤ character.toNat ∧ character.toNat ≤ last.toNat := fun _ _ => Iff.rfl
  have decimal : character.isDigit = true ↔ 48 ≤ character.toNat ∧ character.toNat ≤ 57 := by
    rw [Char.isDigit, Bool.and_eq_true, decide_eq_true_iff, decide_eq_true_iff]
    exact Iff.rfl
  have isZero : '0'.toNat = 48 := rfl
  have isNine : '9'.toNat = 57 := rfl
  have lower : 'a'.toNat = 97 ∧ 'f'.toNat = 102 := ⟨rfl, rfl⟩
  have upper : 'A'.toNat = 65 ∧ 'F'.toNat = 70 := ⟨rfl, rfl⟩
  simp only [digit?, bounds, isZero, isNine, lower, upper, decimal]
  split
  next within => rw [Option.bind_some, if_pos (by omega)]
  next =>
    split
    next => rw [Option.bind_some, if_neg (by omega)]
    next =>
      split
      next => rw [Option.bind_some, if_neg (by omega)]
      next => rfl

/-- A row of digits has the value of its digits, and any other row has none. -/
theorem foldlM_digit?_eq_some_iff
    {digits : List Char}
    {front value : Nat} :
    digits.foldlM (fun value character => (digit? 10 character).map (10 * value + ·)) front =
        some value ↔
      (∀ digit ∈ digits, digit.isDigit = true) ∧ Nat.ofDigitChars 10 digits front = value := by
  induction digits generalizing front with
  | nil => simp [Nat.ofDigitChars]
  | cons digit rest inductionHypothesis =>
      rw [List.foldlM_cons, digit?_ten, List.forall_mem_cons, Nat.ofDigitChars_cons]
      by_cases isDigit : digit.isDigit = true
      · rw [if_pos isDigit, Option.map_some]
        exact inductionHypothesis.trans (and_congr_left' (by simp [isDigit]))
      · simp [isDigit]

theorem dropPlus_cases (characters : List Char) :
    characters = dropPlus characters ∨ characters = '+' :: dropPlus characters := by
  unfold dropPlus
  split
  · exact .inr rfl
  · exact .inl rfl

theorem dropPlus_of_digits
    {digits : List Char}
    (all : ∀ digit ∈ digits, digit.isDigit = true) :
    dropPlus digits = digits := by
  unfold dropPlus
  split
  next => cases all '+' List.mem_cons_self
  next => rfl

/-- The number that is read is the one that is spelled, if it is below the limit. -/
theorem wholeNumber?_eq_some_iff
    {limit value : Nat}
    {text : String} :
    wholeNumber? limit text = some value ↔ Spells text value ∧ value < limit := by
  have reads : ∀ digits : List Char, digits ≠ [] → dropPlus text.toList = digits →
      (wholeNumber? limit text = some value ↔
        ((∀ digit ∈ digits, digit.isDigit = true) ∧ Nat.ofDigitChars 10 digits 0 = value) ∧
          value < limit) := by
    intro digits notNone dropped
    rw [← foldlM_digit?_eq_some_iff, wholeNumber?, dropped]
    simp only [number?, Option.filter_eq_some_iff, decide_eq_true_iff]
  constructor
  · intro read
    by_cases notNone : dropPlus text.toList = []
    · rw [wholeNumber?, notNone] at read
      cases read
    · obtain ⟨⟨all, isValue⟩, small⟩ := (reads _ notNone rfl).mp read
      exact ⟨⟨_, notNone, all, dropPlus_cases text.toList, isValue⟩, small⟩
  · rintro ⟨⟨digits, notNone, all, spelled, isValue⟩, small⟩
    have dropped : dropPlus text.toList = digits := by
      rcases spelled with plain | signed
      · rw [plain, dropPlus_of_digits all]
      · rw [signed, dropPlus]
    exact (reads digits notNone dropped).mpr ⟨⟨all, isValue⟩, small⟩

end Discovery.Text
