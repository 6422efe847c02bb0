namespace Discovery.Text

/-!
# Digits

The value of a digit, and of a row of digits, in a base of at most sixteen.
Letters count as digits in either case.
-/

/-- The value of a digit in a base of at most sixteen. -/
def digit? (base : Nat) (character : Char) : Option Nat :=
  let value? :=
    if '0' ≤ character ∧ character ≤ '9' then some (character.toNat - 48)
    else if 'a' ≤ character ∧ character ≤ 'f' then some (character.toNat - 87)
    else if 'A' ≤ character ∧ character ≤ 'F' then some (character.toNat - 55)
    else none
  value?.bind fun value => if value < base then some value else none

/-- Whether a character is a decimal digit. -/
def isDecimal (character : Char) : Bool :=
  (digit? 10 character).isSome

/-- The number that some digits spell, if each of them is a digit. -/
def number? (base : Nat) (digits : List Char) : Option Nat :=
  digits.foldlM (fun value character => (digit? base character).map (base * value + ·)) 0

end Discovery.Text
