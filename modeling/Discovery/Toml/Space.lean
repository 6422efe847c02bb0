namespace Discovery.Toml

/-!
# Space, comments and lines

Spaces and tabs separate what stands on one line.  A line ends with a line
feed, before which a carriage return may stand, and may have a comment at its
end.  Control characters other than the tab are allowed nowhere.
-/

/-- Whether a character separates what stands on one line. -/
def isSpace (character : Char) : Bool :=
  character == ' ' || character == '\t'

/-- Whether a character may stand in a comment. -/
def isPlain (character : Char) : Bool :=
  character == '\t' || (32 ≤ character.toNat && character != '\x7f')

/-- What follows the spaces at the front. -/
def skipSpace (characters : List Char) : List Char :=
  characters.dropWhile isSpace

/-- What follows the end of a line at the front. -/
def newline? : List Char → Option (List Char)
  | '\n' :: rest => some rest
  | '\r' :: '\n' :: rest => some rest
  | _ => none

/-- What follows a comment at the front, if there is one. -/
def skipComment : List Char → List Char
  | '#' :: rest => rest.dropWhile isPlain
  | characters => characters

/-- What follows the rest of a line that holds nothing more than a comment. -/
def endLine? (characters : List Char) : Option (List Char) :=
  match skipComment (skipSpace characters) with
  | [] => some []
  | rest => newline? rest

/-- What follows spaces, lines and comments at the front; `inComment` says where the text begins. -/
def skipLines (inComment : Bool) : List Char → List Char
  | [] => []
  | '\r' :: '\n' :: rest => skipLines false rest
  | '\n' :: rest => skipLines false rest
  | character :: rest =>
      if inComment then
        if isPlain character then skipLines true rest else character :: rest
      else if isSpace character then skipLines false rest
      else if character = '#' then skipLines true rest
      else character :: rest

end Discovery.Toml
