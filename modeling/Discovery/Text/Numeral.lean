import Discovery.Text.Digit

namespace Discovery.Text

/-!
# Whole numbers in decimal

A whole number is written with one or more digits, and may have a plus sign in
front of them.
-/

/-- Drop one plus sign in front. -/
def dropPlus : List Char → List Char
  | '+' :: digits => digits
  | digits => digits

/-- The number below a limit that a text spells. -/
def wholeNumber? (limit : Nat) (text : String) : Option Nat :=
  match dropPlus text.toList with
  | [] => none
  | digits => (number? 10 digits).filter (· < limit)

end Discovery.Text
