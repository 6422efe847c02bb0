import Discovery.Text.Digit
import Discovery.Toml.Space

namespace Discovery.Toml

/-!
# Texts in TOML

A text stands between double quotes, where escapes are read, or between single
quotes, where nothing is.  Three quotes open a text of several lines, whose
first line end is dropped and in which every line end counts as a line feed.
-/

/-- Whether a character may stand in a text of one line. -/
def isTextCharacter (character : Char) : Bool :=
  isPlain character

/-- The character with a code, if there is one. -/
def scalar? (code : Nat) : Option Char :=
  if code < 0xd800 ∨ (0xdfff < code ∧ code < 0x110000) then some (Char.ofNat code) else none

/-- The character that some digits spell by its code. -/
def coded? (digits : List Char) : Option Char :=
  (Text.number? 16 digits).bind scalar?

/-- The character that a one-letter escape stands for. -/
def shortEscape? : Char → Option Char
  | 'b' => some '\x08'
  | 't' => some '\t'
  | 'n' => some '\n'
  | 'f' => some '\x0c'
  | 'r' => some '\r'
  | '"' => some '"'
  | '\\' => some '\\'
  | _ => none

/-- Take what follows the backslash of an escape. -/
def takeEscape (characters : List Char) : Option (Char × List Char) :=
  match characters with
  | 'u' :: rest =>
      if 4 ≤ rest.length then
        (coded? (rest.take 4)).map fun character => (character, rest.drop 4)
      else none
  | 'U' :: rest =>
      if 8 ≤ rest.length then
        (coded? (rest.take 8)).map fun character => (character, rest.drop 8)
      else none
  | letter :: rest => (shortEscape? letter).map fun character => (character, rest)
  | [] => none

/-- An escape takes at least one character. -/
theorem length_of_takeEscape
    {characters rest : List Char}
    {character : Char}
    (taken : takeEscape characters = some (character, rest)) :
    rest.length < characters.length := by
  unfold takeEscape at taken
  split at taken
  · split at taken
    · obtain ⟨_, _, same⟩ := Option.map_eq_some_iff.mp taken
      cases same
      simp only [List.length_drop, List.length_cons]
      omega
    · cases taken
  · split at taken
    · obtain ⟨_, _, same⟩ := Option.map_eq_some_iff.mp taken
      cases same
      simp only [List.length_drop, List.length_cons]
      omega
    · cases taken
  · obtain ⟨_, _, same⟩ := Option.map_eq_some_iff.mp taken
    cases same
    simp
  · cases taken

/-- Take a text of one line, in which escapes are read, up to its closing quote. -/
def takeBasic (characters : List Char) : Option (List Char × List Char) :=
  match characters with
  | [] => none
  | '"' :: rest => some ([], rest)
  | '\\' :: escape =>
      match _taken : takeEscape escape with
      | none => none
      | some (character, rest) =>
          (takeBasic rest).map fun (content, behind) => (character :: content, behind)
  | character :: rest =>
      if isTextCharacter character then
        (takeBasic rest).map fun (content, behind) => (character :: content, behind)
      else none
termination_by characters.length
decreasing_by
  · have shorter := length_of_takeEscape _taken
    simp only [List.length_cons]
    omega
  · simp

/-- Take a text of one line, in which nothing is read, up to its closing quote. -/
def takeLiteral : List Char → Option (List Char × List Char)
  | [] => none
  | '\'' :: rest => some ([], rest)
  | character :: rest =>
      if isTextCharacter character then
        (takeLiteral rest).map fun (content, behind) => (character :: content, behind)
      else none

/-- What follows spaces and line ends at the front. -/
def skipBlank : List Char → List Char
  | '\r' :: '\n' :: rest => skipBlank rest
  | '\n' :: rest => skipBlank rest
  | character :: rest => if isSpace character then skipBlank rest else character :: rest
  | [] => []

/-- Skipping takes no character that is not there. -/
theorem length_skipBlank_le (characters : List Char) :
    (skipBlank characters).length ≤ characters.length := by
  fun_induction skipBlank characters with
  | case1 rest inductionHypothesis => simp only [List.length_cons]; omega
  | case2 rest inductionHypothesis => simp only [List.length_cons]; omega
  | case3 character rest _ _ _ inductionHypothesis => simp only [List.length_cons]; omega
  | case4 => simp
  | case5 => simp

/-- Whether a backslash before this text joins its line to the next one. -/
def joinsLines (characters : List Char) : Bool :=
  (newline? (skipSpace characters)).isSome

/-- Take a text of several lines, in which escapes are read, up to its closing quotes. -/
def takeBasicLines (characters : List Char) : Option (List Char × List Char) :=
  match characters with
  | [] => none
  | '"' :: '"' :: '"' :: '"' :: '"' :: rest => some (['"', '"'], rest)
  | '"' :: '"' :: '"' :: '"' :: rest => some (['"'], rest)
  | '"' :: '"' :: '"' :: rest => some ([], rest)
  | '"' :: rest => (takeBasicLines rest).map fun (content, behind) => ('"' :: content, behind)
  | '\\' :: escape =>
      if joinsLines escape then takeBasicLines (skipBlank escape)
      else
        match _taken : takeEscape escape with
        | none => none
        | some (character, rest) =>
            (takeBasicLines rest).map fun (content, behind) => (character :: content, behind)
  | '\r' :: '\n' :: rest =>
      (takeBasicLines rest).map fun (content, behind) => ('\n' :: content, behind)
  | character :: rest =>
      if character = '\n' ∨ isTextCharacter character then
        (takeBasicLines rest).map fun (content, behind) => (character :: content, behind)
      else none
termination_by characters.length
decreasing_by
  · simp
  · have shorter := length_skipBlank_le escape
    simp only [List.length_cons]
    omega
  · have shorter := length_of_takeEscape _taken
    simp only [List.length_cons]
    omega
  · simp only [List.length_cons]
    omega
  · simp

/-- Take a text of several lines, in which nothing is read, up to its closing quotes. -/
def takeLiteralLines : List Char → Option (List Char × List Char)
  | [] => none
  | '\'' :: '\'' :: '\'' :: '\'' :: '\'' :: rest => some (['\'', '\''], rest)
  | '\'' :: '\'' :: '\'' :: '\'' :: rest => some (['\''], rest)
  | '\'' :: '\'' :: '\'' :: rest => some ([], rest)
  | '\r' :: '\n' :: rest =>
      (takeLiteralLines rest).map fun (content, behind) => ('\n' :: content, behind)
  | character :: rest =>
      if character = '\n' ∨ isTextCharacter character then
        (takeLiteralLines rest).map fun (content, behind) => (character :: content, behind)
      else none

/-- What follows one line end at the front, if there is one. -/
def dropNewline (characters : List Char) : List Char :=
  (newline? characters).getD characters

/-- Take a text of any form. -/
def takeText : List Char → Option (String × List Char)
  | '"' :: '"' :: '"' :: rest =>
      (takeBasicLines (dropNewline rest)).map fun (content, behind) =>
        (String.ofList content, behind)
  | '"' :: rest =>
      (takeBasic rest).map fun (content, behind) => (String.ofList content, behind)
  | '\'' :: '\'' :: '\'' :: rest =>
      (takeLiteralLines (dropNewline rest)).map fun (content, behind) =>
        (String.ofList content, behind)
  | '\'' :: rest =>
      (takeLiteral rest).map fun (content, behind) => (String.ofList content, behind)
  | _ => none

end Discovery.Toml
