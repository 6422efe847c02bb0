import Discovery.Json.Value
import Discovery.Text.Digit

namespace Discovery.Json

/-!
# Reading JSON

Each reader takes its part from the front of the text and returns what
follows.  Values nest, so their reader counts down from a number that no text
of the same length can use up.
-/

/-- Whether a character may stand between the parts of a value. -/
def isSpace (character : Char) : Bool :=
  character == ' ' || character == '\n' || character == '\t' || character == '\r'

/-- What follows the spaces at the front. -/
def skipSpace (characters : List Char) : List Char :=
  characters.dropWhile isSpace

/-- The code that a one-letter escape stands for. -/
def shortEscape? : Char → Option Nat
  | '"' => some 0x22
  | '\\' => some 0x5c
  | '/' => some 0x2f
  | 'b' => some 0x08
  | 'f' => some 0x0c
  | 'n' => some 0x0a
  | 'r' => some 0x0d
  | 't' => some 0x09
  | _ => none

/-- Take the codes of a text up to its closing quote. -/
def takeCodes : List Char → Option (List Nat × List Char)
  | [] => none
  | '"' :: rest => some ([], rest)
  | '\\' :: 'u' :: first :: second :: third :: fourth :: rest => do
      let code ← Text.number? 16 [first, second, third, fourth]
      let (codes, behind) ← takeCodes rest
      some (code :: codes, behind)
  | '\\' :: letter :: rest => do
      let code ← shortEscape? letter
      let (codes, behind) ← takeCodes rest
      some (code :: codes, behind)
  | character :: rest =>
      if character.toNat < 0x20 ∨ character = '\\' then none
      else do
        let (codes, behind) ← takeCodes rest
        some (character.toNat :: codes, behind)

/-- Whether a code is the first half of a pair. -/
def isHighHalf (code : Nat) : Bool :=
  decide (0xd800 ≤ code ∧ code < 0xdc00)

/-- Whether a code is the second half of a pair. -/
def isLowHalf (code : Nat) : Bool :=
  decide (0xdc00 ≤ code ∧ code < 0xe000)

/-- The characters that some codes stand for, halves of pairs being joined. -/
def characters? : List Nat → Option (List Char)
  | [] => some []
  | high :: low :: rest =>
      if isHighHalf high then
        if isLowHalf low then
          (characters? rest).map
            (Char.ofNat (0x10000 + (high - 0xd800) * 0x400 + (low - 0xdc00)) :: ·)
        else none
      else if isLowHalf high then none
      else (characters? (low :: rest)).map (Char.ofNat high :: ·)
  | [code] => if isHighHalf code || isLowHalf code then none else some [Char.ofNat code]

/-- Take a text that has been opened. -/
def takeText (characters : List Char) : Option (Option String × List Char) :=
  (takeCodes characters).map fun (codes, rest) =>
    ((characters? codes).map String.ofList, rest)

/-- Take one or more digits. -/
def takeDigits (characters : List Char) : Option (List Char × List Char) :=
  let digits := characters.takeWhile Text.isDecimal
  if digits.isEmpty then none else some (digits, characters.dropWhile Text.isDecimal)

/-- Take the whole part of a number: a zero, or digits of which the first is no zero. -/
def takeWhole (characters : List Char) : Option (List Char × List Char) := do
  let (digits, rest) ← takeDigits characters
  if digits.head? = some '0' ∧ 1 < digits.length then none else some (digits, rest)

/-- Take the fraction of a number, if it has one. -/
def takeFraction : List Char → Option (List Char × List Char)
  | '.' :: characters => do
      let (digits, rest) ← takeDigits characters
      some ('.' :: digits, rest)
  | characters => some ([], characters)

/-- Take a sign, if there is one. -/
def takeSign : List Char → List Char × List Char
  | '+' :: rest => (['+'], rest)
  | '-' :: rest => (['-'], rest)
  | characters => ([], characters)

/-- Take the exponent of a number, if it has one. -/
def takeExponent : List Char → Option (List Char × List Char)
  | 'e' :: characters | 'E' :: characters => do
      let (sign, unsigned) := takeSign characters
      let (digits, rest) ← takeDigits unsigned
      some ('e' :: (sign ++ digits), rest)
  | characters => some ([], characters)

/-- Take a number. -/
def takeNumber (characters : List Char) : Option (String × List Char) := do
  let (sign, unsigned) :=
    match characters with
    | '-' :: rest => (['-'], rest)
    | other => ([], other)
  let (whole, afterWhole) ← takeWhole unsigned
  let (fraction, afterFraction) ← takeFraction afterWhole
  let (exponent, rest) ← takeExponent afterFraction
  some (String.ofList (sign ++ whole ++ fraction ++ exponent), rest)

mutual

/-- Take a value. -/
def takeValue : Nat → List Char → Option (Value × List Char)
  | 0, _ => none
  | fuel + 1, characters =>
      match skipSpace characters with
      | 'n' :: 'u' :: 'l' :: 'l' :: rest => some (.null, rest)
      | 't' :: 'r' :: 'u' :: 'e' :: rest => some (.boolean true, rest)
      | 'f' :: 'a' :: 'l' :: 's' :: 'e' :: rest => some (.boolean false, rest)
      | '"' :: rest => (takeText rest).map fun (content, behind) => (.text content, behind)
      | '[' :: rest =>
          match skipSpace rest with
          | ']' :: behind => some (.array [], behind)
          | _ => (takeItems fuel rest).map fun (items, behind) => (.array items, behind)
      | '{' :: rest =>
          match skipSpace rest with
          | '}' :: behind => some (.object [], behind)
          | _ => (takeMembers fuel rest).map fun (members, behind) => (.object members, behind)
      | other => (takeNumber other).map fun (numeral, behind) => (.number numeral, behind)

/-- Take the items of an array up to its closing bracket. -/
def takeItems : Nat → List Char → Option (List Value × List Char)
  | 0, _ => none
  | fuel + 1, characters => do
      let (item, afterItem) ← takeValue fuel characters
      match skipSpace afterItem with
      | ']' :: rest => some ([item], rest)
      | ',' :: more => do
          let (items, rest) ← takeItems fuel more
          some (item :: items, rest)
      | _ => none

/-- Take the members of an object up to its closing brace. -/
def takeMembers : Nat → List Char → Option (List (Option String × Value) × List Char)
  | 0, _ => none
  | fuel + 1, characters =>
      match skipSpace characters with
      | '"' :: opened => do
          let (key, afterKey) ← takeText opened
          match skipSpace afterKey with
          | ':' :: unread => do
              let (value, afterValue) ← takeValue fuel unread
              match skipSpace afterValue with
              | '}' :: rest => some ([(key, value)], rest)
              | ',' :: more => do
                  let (members, rest) ← takeMembers fuel more
                  some ((key, value) :: members, rest)
              | _ => none
          | _ => none
      | _ => none

end

/-- Read a text as one value with nothing but spaces around it. -/
def Value.parse? (text : String) : Option Value := do
  let characters := text.toList
  let (value, rest) ← takeValue (2 * characters.length + 2) characters
  if (skipSpace rest).isEmpty then some value else none

end Discovery.Json
