import Discovery.Text.Digit
import Discovery.Toml.Value

namespace Discovery.Toml

/-!
# Numbers, dates and times in TOML

An underscore may stand between two digits of a number.  Integers fit in
sixty-four bits with a sign; a decimal number may be signed and does not begin
with a superfluous zero.  A number with a fraction or an exponent is refused if
it is too great for a floating point number of sixty-four bits.
-/

/-- Take the digits, and underscores before digits, that follow a digit. -/
def takeMoreDigits (base : Nat) : List Char → List Char × List Char
  | [] => ([], [])
  | '_' :: digit :: rest =>
      if (Text.digit? base digit).isSome then
        let (digits, behind) := takeMoreDigits base rest
        (digit :: digits, behind)
      else ([], '_' :: digit :: rest)
  | digit :: rest =>
      if (Text.digit? base digit).isSome then
        let (digits, behind) := takeMoreDigits base rest
        (digit :: digits, behind)
      else ([], digit :: rest)

/-- Take one or more digits. -/
def takeDigits (base : Nat) : List Char → Option (List Char × List Char)
  | [] => none
  | digit :: rest =>
      if (Text.digit? base digit).isSome then
        let (digits, behind) := takeMoreDigits base rest
        some (digit :: digits, behind)
      else none

/-- Take a sign if there is one, and say whether it is a minus. -/
def takeSign : List Char → Bool × List Char
  | '+' :: rest => (false, rest)
  | '-' :: rest => (true, rest)
  | characters => (false, characters)

/-- Take the digits of a decimal number: a zero, or digits of which the first is no zero. -/
def takeWhole : List Char → Option (List Char × List Char)
  | '0' :: rest => some (['0'], rest)
  | characters => takeDigits 10 characters

/-- An integer, if it fits. -/
def integer? (value : Int) : Option Value :=
  if Int64.minValue.toInt ≤ value ∧ value ≤ Int64.maxValue.toInt then some (.integer value)
  else none

/-- The integer that some digits spell. -/
def ofDigits? (base : Nat) (negative : Bool) (digits : List Char) : Option Value :=
  (Text.number? base digits).bind fun magnitude =>
    integer? (if negative then -(magnitude : Int) else magnitude)

/-- Take the digits of a number in the given base. -/
def takeBased (base : Nat) (characters : List Char) : Option (Value × List Char) := do
  let (digits, rest) ← takeDigits base characters
  some ((← ofDigits? base false digits), rest)

/-- Take an integer. -/
def takeInteger : List Char → Option (Value × List Char)
  | '0' :: 'x' :: rest => takeBased 16 rest
  | '0' :: 'o' :: rest => takeBased 8 rest
  | '0' :: 'b' :: rest => takeBased 2 rest
  | characters => do
      let (negative, unsigned) := takeSign characters
      let (digits, rest) ← takeWhole unsigned
      some ((← ofDigits? 10 negative digits), rest)

/-- Take the exponent of a number. -/
def takeExponent : List Char → Option (Int × List Char)
  | 'e' :: characters | 'E' :: characters => do
      let (negative, unsigned) := takeSign characters
      let (digits, rest) ← takeDigits 10 unsigned
      let magnitude ← Text.number? 10 digits
      some (if negative then -(magnitude : Int) else magnitude, rest)
  | _ => none

/-- Take the digits of a fraction. -/
def takeFraction : List Char → Option (List Char × List Char)
  | '.' :: characters => takeDigits 10 characters
  | _ => none

/-- The least number that is too great: half a step above the greatest floating point number. -/
def tooGreat : Nat := Nat.pow 2 1024 - Nat.pow 2 970

/-- Whether some decimal digits, with a power of ten, make a number that is too great. -/
def overflows (digits : Nat) (exponent : Int) : Bool :=
  if digits = 0 then false
  else if 400 < exponent then true
  else if exponent < 0 then
    let power := exponent.natAbs
    if digits.log2 < power then false
    else decide (tooGreat * Nat.pow 10 power ≤ digits)
  else decide (tooGreat ≤ digits * Nat.pow 10 exponent.toNat)

/-- A number with a fraction or an exponent, if it is not too great. -/
def float? (negative : Bool) (whole fraction : List Char) (exponent : Int) : Option Value := do
  let digits ← Text.number? 10 (whole ++ fraction)
  if !negative && overflows digits (exponent - fraction.length) then none
  else
    some
      (.float
        ((if negative then "-" else "") ++ String.ofList whole ++ "." ++
          String.ofList fraction ++ "e" ++ toString exponent))

/-- Take a number with a fraction or an exponent. -/
def takeFloat (characters : List Char) : Option (Value × List Char) := do
  let (negative, unsigned) := takeSign characters
  match unsigned with
  | 'i' :: 'n' :: 'f' :: rest => some (.float (if negative then "-inf" else "inf"), rest)
  | 'n' :: 'a' :: 'n' :: rest => some (.float "nan", rest)
  | _ => do
      let (whole, afterWhole) ← takeWhole unsigned
      match takeFraction afterWhole with
      | some (fraction, afterFraction) => do
          let (exponent, rest) := (takeExponent afterFraction).getD (0, afterFraction)
          some ((← float? negative whole fraction exponent), rest)
      | none => do
          let (exponent, rest) ← takeExponent afterWhole
          some ((← float? negative whole [] exponent), rest)

/-- Take a number of exactly the given count of digits. -/
def takeFixed (count : Nat) (characters : List Char) : Option (Nat × List Char) :=
  let digits := characters.take count
  if digits.length < count then none
  else (Text.number? 10 digits).map fun value => (value, characters.drop count)

/-- Take two digits that make a number within bounds. -/
def takeTwo (least greatest : Nat) (characters : List Char) : Option (Nat × List Char) := do
  let (value, rest) ← takeFixed 2 characters
  if least ≤ value ∧ value ≤ greatest then some (value, rest) else none

/-- Take a given character. -/
def takeMark (mark : Char) : List Char → Option (List Char)
  | character :: rest => if character = mark then some rest else none
  | [] => none

/-- A number in at least the given count of digits. -/
def padded (count value : Nat) : String :=
  let digits := toString value
  String.join (List.replicate (count - digits.length) "0") ++ digits

/-- How many days a month has. -/
def daysIn (year month : Nat) : Nat :=
  if month = 2 then
    if year % 4 = 0 ∧ (year % 100 ≠ 0 ∨ year % 400 = 0) then 29 else 28
  else if month = 4 ∨ month = 6 ∨ month = 9 ∨ month = 11 then 30
  else 31

/-- Take a date. -/
def takeDate (characters : List Char) : Option (String × List Char) := do
  let (year, afterYear) ← takeFixed 4 characters
  let (month, afterMonth) ← takeTwo 1 12 (← takeMark '-' afterYear)
  let (day, rest) ← takeTwo 1 (daysIn year month) (← takeMark '-' afterMonth)
  some (padded 4 year ++ "-" ++ padded 2 month ++ "-" ++ padded 2 day, rest)

/-- A fraction of a second to nine digits, without zeros at the end. -/
def fractionText (digits : List Char) : String :=
  let kept := ((digits.take 9).reverse.dropWhile (· == '0')).reverse
  if kept.isEmpty then "" else "." ++ String.ofList kept

/-- Take the fraction of a second, if there is one. -/
def takeSecondFraction : List Char → Option (String × List Char)
  | '.' :: characters =>
      let digits := characters.takeWhile Text.isDecimal
      if digits.isEmpty then none
      else some (fractionText digits, characters.dropWhile Text.isDecimal)
  | characters => some ("", characters)

/-- Take a time of day. -/
def takeTime (characters : List Char) : Option (String × List Char) := do
  let (hour, afterHour) ← takeTwo 0 23 characters
  let (minute, afterMinute) ← takeTwo 0 59 (← takeMark ':' afterHour)
  let (second, afterSecond) ← takeTwo 0 60 (← takeMark ':' afterMinute)
  let (fraction, rest) ← takeSecondFraction afterSecond
  some (padded 2 hour ++ ":" ++ padded 2 minute ++ ":" ++ padded 2 second ++ fraction, rest)

/-- Take the distance from universal time. -/
def takeOffset : List Char → Option (String × List Char)
  | 'Z' :: rest | 'z' :: rest => some ("Z", rest)
  | sign :: characters =>
      if sign = '+' ∨ sign = '-' then do
        let (hour, afterHour) ← takeTwo 0 23 characters
        let (minute, rest) ← takeTwo 0 59 (← takeMark ':' afterHour)
        let shown := if hour = 0 ∧ minute = 0 then '+' else sign
        some (shown.toString ++ padded 2 hour ++ ":" ++ padded 2 minute, rest)
      else none
  | [] => none

/-- Take the time that follows a date, if one does. -/
def takeTimeOfDate : List Char → Option (String × List Char)
  | mark :: characters =>
      if mark = 'T' ∨ mark = 't' ∨ mark = ' ' then do
        let (time, afterTime) ← takeTime characters
        let (offset, rest) := (takeOffset afterTime).getD ("", afterTime)
        some ("T" ++ time ++ offset, rest)
      else none
  | [] => none

/-- Take a date, a time or both. -/
def takeMoment (characters : List Char) : Option (Value × List Char) :=
  match takeDate characters with
  | some (date, afterDate) =>
      let (time, rest) := (takeTimeOfDate afterDate).getD ("", afterDate)
      some (.moment (date ++ time), rest)
  | none => (takeTime characters).map fun (time, rest) => (.moment time, rest)

/-- Take a number, a date or a time. -/
def takeNumber (characters : List Char) : Option (Value × List Char) :=
  match takeMoment characters with
  | some taken => some taken
  | none =>
      match takeFloat characters with
      | some taken => some taken
      | none => takeInteger characters

end Discovery.Toml
