namespace Discovery.Json

/-!
# JSON values

A value as it is written in JSON.  A text may spell half of a surrogate pair,
and then it stands for no sequence of characters; such a text is kept as
`none`, so that it can be passed over where nobody wants it.
-/

/-- A JSON value. -/
inductive Value where
  | null
  | boolean (value : Bool)
  | number (numeral : String)
  | text (content : Option String)
  | array (items : List Value)
  | object (members : List (Option String × Value))
  deriving Repr

namespace Value

/-- The characters that a value spells, if it is a text and spells some. -/
def text? : Value → Option String
  | .text content => content
  | _ => none

end Value

/-- A control character by its number. -/
def controlEscape (character : Char) : List Char :=
  ['\\', 'u', '0', '0', Nat.digitChar (character.toNat / 16), Nat.digitChar (character.toNat % 16)]

/-- A character inside a JSON text. -/
def escape (character : Char) : List Char :=
  if character = '"' then ['\\', '"']
  else if character = '\\' then ['\\', '\\']
  else if character = '\n' then ['\\', 'n']
  else if character = '\r' then ['\\', 'r']
  else if character = '\t' then ['\\', 't']
  else if character = '\x08' then ['\\', 'b']
  else if character = '\x0c' then ['\\', 'f']
  else if character.toNat < 32 then controlEscape character
  else [character]

/-- A text between quotes. -/
def quote (text : String) : List Char :=
  '"' :: (text.toList.flatMap escape ++ ['"'])

end Discovery.Json
