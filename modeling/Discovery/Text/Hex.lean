import Discovery.Bytes
import Discovery.Text.Quoted

namespace Discovery.Text.Hex

/-!
# Hexadecimal text

Bytes as pairs of digits, the high half first.  Writing uses lower case;
reading takes either case.  A text with an odd number of bytes is refused as a
whole, before any of it is looked at; otherwise the first byte that is no
digit decides.
-/

/-- The digit of a number below sixteen. -/
def digit (value : Nat) : Char :=
  if value < 10 then Char.ofNat (48 + value) else Char.ofNat (87 + value)

/-- The two digits of a byte. -/
def pair (byte : UInt8) : List Char :=
  [digit (byte.toNat / 16), digit (byte.toNat % 16)]

/-- The digits of some bytes. -/
def encode (bytes : Bytes) : String :=
  String.ofList (bytes.flatMap pair)

/-- Why a text is not hexadecimal. -/
inductive Error where
  | oddLength
  | invalidDigit (byte : UInt8) (position : Nat)
  deriving Repr, DecidableEq

/-- What is said about a text that is not hexadecimal. -/
def Error.message : Error → String
  | .oddLength => "Odd number of digits"
  | .invalidDigit byte position =>
      "Invalid character " ++ quoteCharacter (Char.ofNat byte.toNat) ++
        " at position " ++ toString position

/-- The value of a digit, given as the byte that spells it. -/
def digitValue? (byte : UInt8) : Option Nat :=
  let code := byte.toNat
  if 48 ≤ code ∧ code ≤ 57 then some (code - 48)
  else if 97 ≤ code ∧ code ≤ 102 then some (code - 87)
  else if 65 ≤ code ∧ code ≤ 70 then some (code - 55)
  else none

/-- Read pairs of digits; `position` counts the bytes already read. -/
def decodePairs (position : Nat) : Bytes → Except Error Bytes
  | high :: low :: rest =>
      match digitValue? high, digitValue? low with
      | none, _ => .error (.invalidDigit high position)
      | some _, none => .error (.invalidDigit low (position + 1))
      | some upper, some lower =>
          (decodePairs (position + 2) rest).map (UInt8.ofNat (16 * upper + lower) :: ·)
  | _ => .ok []

/-- The bytes that a text spells. -/
def decode (text : String) : Except Error Bytes :=
  let digits := Bytes.ofText text
  if digits.length % 2 = 1 then .error .oddLength else decodePairs 0 digits

end Discovery.Text.Hex
