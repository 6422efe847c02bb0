import Discovery.Text.Printable

namespace Discovery.Text

/-!
# Quoted texts

The form in which a text or a character appears inside a description of a
value: between quotes, with the quote, the backslash and everything that does
not show spelled out.  A text escapes only the double quote and a character
only the single one.
-/

/-- The hexadecimal digits of a number, lower case, without leading zeros. -/
def hexNumeral (number : Nat) : String :=
  String.ofList (Nat.toDigits 16 number)

/-- A character inside quotes of the given kind. -/
def escape (quote character : Char) : String :=
  if character = '\x00' then "\\0"
  else if character = '\t' then "\\t"
  else if character = '\r' then "\\r"
  else if character = '\n' then "\\n"
  else if character = '\\' then "\\\\"
  else if character = quote then String.ofList ['\\', quote]
  else if isPrintable character then character.toString
  else "\\u\x7b" ++ hexNumeral character.toNat ++ "\x7d"

/-- A text between double quotes. -/
def quote (text : String) : String :=
  "\"" ++ String.join (text.toList.map (escape '"')) ++ "\""

/-- A character between single quotes. -/
def quoteCharacter (character : Char) : String :=
  "'" ++ escape '\'' character ++ "'"

/-- A mapping of texts to texts, in the order given. -/
def quoteMapping (entries : List (String × String)) : String :=
  "\x7b" ++
    String.intercalate ", " (entries.map fun entry => quote entry.1 ++ ": " ++ quote entry.2) ++
    "\x7d"

/-- A set of texts, in the order given. -/
def quoteSet (members : List String) : String :=
  "\x7b" ++ String.intercalate ", " (members.map quote) ++ "\x7d"

/-- A value with named parts, in the order given. -/
def describe (name : String) (parts : List (String × String)) : String :=
  name ++ " \x7b " ++
    String.intercalate ", " (parts.map fun part => part.1 ++ ": " ++ part.2) ++ " \x7d"

end Discovery.Text
