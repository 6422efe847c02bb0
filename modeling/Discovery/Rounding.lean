namespace Discovery

/-!
# Rounding

Division and the dropping of binary digits, each to the nearest result; of two
equally near results the even one is taken.
-/

/-- The quotient of two numbers, rounded to the nearest; a half goes to the even neighbour. -/
def roundHalfEven (numerator denominator : Nat) : Nat :=
  let quotient := numerator / denominator
  let remainder := numerator % denominator
  if 2 * remainder < denominator then quotient
  else if denominator < 2 * remainder then quotient + 1
  else quotient + quotient % 2

/-- How many binary digits a number has beyond the given count. -/
def excessBits (bits number : Nat) : Nat :=
  number.log2 + 1 - bits

/-- A number to the given count of leading binary digits, the others becoming zero. -/
def roundToBits (bits number : Nat) : Nat :=
  let unit := 1 <<< excessBits bits number
  roundHalfEven number unit * unit

end Discovery
