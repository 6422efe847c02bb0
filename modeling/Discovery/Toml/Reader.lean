import Discovery.Toml.Number
import Discovery.Toml.Text

namespace Discovery.Toml

/-!
# Reading TOML

A document is a row of statements: a key is given a value, or a header opens a
table or a further element of an array of tables.  The statements are carried
out one after another on a tree, in which a table remembers how it came about:
named by a header, implied by the path of a deeper one, or implied by a dotted
key.  A statement that would define something twice is refused.
-/

/-- One part of the tree. -/
inductive Node where
  /-- A value, which no statement can extend. -/
  | closed (value : Value)
  /-- A table; it was implied and not named, and it was implied by a dotted key. -/
  | table (implied dotted : Bool) (entries : List (String × Node))
  /-- An array of tables, each with its own header. -/
  | tables (elements : List (List (String × Node)))
  deriving Repr

/-- The parts under the keys of a table. -/
abbrev Entries := List (String × Node)

mutual

/-- The value that a part of the tree has in the end. -/
def Node.value : Node → Value
  | .closed value => value
  | .table _ _ entries => .table (entryValues entries)
  | .tables elements => .array (elementValues elements)

/-- The values under the keys of a table. -/
def entryValues : List (String × Node) → List (String × Value)
  | [] => []
  | (key, node) :: rest => (key, node.value) :: entryValues rest

/-- The tables of an array of tables. -/
def elementValues : List (List (String × Node)) → List Value
  | [] => []
  | entries :: rest => .table (entryValues entries) :: elementValues rest

end

/-- Put a part under a key that is there already. -/
def Entries.replace (entries : Entries) (key : String) (node : Node) : Entries :=
  entries.map fun entry => if entry.1 = key then (key, node) else entry

/--
Change the table at a path.  Tables on the way that are not there are implied.
A dotted key passes only through implied tables; a header also through named
ones and through the last element of an array of tables.  The change is told
whether the table was implied by a dotted key.
-/
def Entries.change
    (byDottedKey : Bool)
    (update : Bool → Entries → Option Entries) :
    List String → Bool → Entries → Option Entries
  | [], dotted, entries => update dotted entries
  | key :: path, _, entries =>
      match entries.lookup key with
      | none => do
          let inner ← Entries.change byDottedKey update path byDottedKey []
          some (entries ++ [(key, .table true byDottedKey inner)])
      | some (.closed _) => none
      | some (.table implied dotted inner) =>
          if byDottedKey && !implied then none
          else do
            let changed ← Entries.change byDottedKey update path dotted inner
            some (Entries.replace entries key (.table implied dotted changed))
      | some (.tables elements) => do
          let last ← elements.getLast?
          let changed ← Entries.change byDottedKey update path false last
          some (Entries.replace entries key (.tables (elements.dropLast ++ [changed])))

/-- Put a part under a key that is not there yet. -/
def Entries.add (entries : Entries) (key : String) (node : Node) : Option Entries :=
  if (entries.lookup key).isSome then none else some (entries ++ [(key, node)])

/-- Give the key at a path a value. -/
def Entries.assign
    (entries : Entries)
    (path : List String)
    (key : String)
    (value : Value) : Option Entries :=
  Entries.change true
    (fun dotted inner =>
      if dotted == path.isEmpty then none else Entries.add inner key (.closed value))
    path false entries

/-- A statement of a document. -/
inductive Statement where
  | assign (path : List String) (key : String) (value : Value)
  | openTable (path : List String) (key : String)
  | openElement (path : List String) (key : String)
  deriving Repr

/-- How deep values may nest, and how many parts a dotted key may have, plus one. -/
def depthLimit : Nat := 80

/-- Whether a character may stand in a key without quotes. -/
def isKeyCharacter (character : Char) : Bool :=
  character.isAlphanum || character == '-' || character == '_'

/-- Take one part of a key. -/
def takeKeyPart : List Char → Option (String × List Char)
  | '"' :: rest =>
      (takeBasic rest).map fun (content, behind) => (String.ofList content, behind)
  | '\'' :: rest =>
      (takeLiteral rest).map fun (content, behind) => (String.ofList content, behind)
  | characters =>
      let part := characters.takeWhile isKeyCharacter
      if part.isEmpty then none
      else some (String.ofList part, characters.dropWhile isKeyCharacter)

/-- Take the parts of a key, of which there are fewer than the limit, and the spaces around them. -/
def takeKeyParts : Nat → List Char → Option (List String × List Char)
  | 0, _ => none
  | limit + 1, characters => do
      let (part, afterPart) ← takeKeyPart (skipSpace characters)
      match skipSpace afterPart with
      | '.' :: more => do
          let (parts, rest) ← takeKeyParts limit more
          some (part :: parts, rest)
      | rest => some ([part], rest)

/-- Take a key: its path and its last part. -/
def takeKey (characters : List Char) : Option ((List String × String) × List Char) := do
  let (parts, rest) ← takeKeyParts (depthLimit - 1) characters
  let last ← parts.getLast?
  some ((parts.dropLast, last), rest)

mutual

/-- Take a value in which values nest less deep than the limit. -/
def takeValue (depth : Nat) : Nat → List Char → Option (Value × List Char)
  | 0, _ => none
  | fuel + 1, characters =>
      match characters with
      | '"' :: _ | '\'' :: _ =>
          (takeText characters).map fun (content, rest) => (.text content, rest)
      | '[' :: rest =>
          if depthLimit ≤ depth + 1 then none
          else (takeItems (depth + 1) fuel rest).map fun (items, behind) => (.array items, behind)
      | '{' :: rest =>
          if depthLimit ≤ depth + 1 then none
          else
            match skipSpace rest with
            | '}' :: behind => some (.table [], behind)
            | _ =>
                (takeEntries (depth + 1) fuel [] rest).map fun (entries, behind) =>
                  (.table (entryValues entries), behind)
      | 't' :: 'r' :: 'u' :: 'e' :: rest => some (.boolean true, rest)
      | 'f' :: 'a' :: 'l' :: 's' :: 'e' :: rest => some (.boolean false, rest)
      | _ => takeNumber characters

/-- Take the items of an array up to its closing bracket. -/
def takeItems (depth : Nat) : Nat → List Char → Option (List Value × List Char)
  | 0, _ => none
  | fuel + 1, characters =>
      match skipLines false characters with
      | ']' :: rest => some ([], rest)
      | item => do
          let (value, afterValue) ← takeValue depth fuel item
          match skipLines false afterValue with
          | ']' :: rest => some ([value], rest)
          | ',' :: more => do
              let (values, rest) ← takeItems depth fuel more
              some (value :: values, rest)
          | _ => none

/-- Take the entries of an inline table up to its closing brace. -/
def takeEntries (depth : Nat) : Nat → Entries → List Char → Option (Entries × List Char)
  | 0, _, _ => none
  | fuel + 1, known, characters => do
      let ((path, key), afterKey) ← takeKey characters
      match afterKey with
      | '=' :: unread => do
          let (value, afterValue) ← takeValue depth fuel (skipSpace unread)
          let entries ← known.assign path key value
          match skipSpace afterValue with
          | '}' :: rest => some (entries, rest)
          | ',' :: more => takeEntries depth fuel entries more
          | _ => none
      | _ => none

end

/-- Take a statement and the rest of its line. -/
def takeStatement (characters : List Char) : Option (Statement × List Char) :=
  match characters with
  | '[' :: '[' :: rest => do
      let ((path, key), afterKey) ← takeKey rest
      match afterKey with
      | ']' :: ']' :: behind => some (.openElement path key, ← endLine? behind)
      | _ => none
  | '[' :: rest => do
      let ((path, key), afterKey) ← takeKey rest
      match afterKey with
      | ']' :: behind => some (.openTable path key, ← endLine? behind)
      | _ => none
  | _ => do
      let ((path, key), afterKey) ← takeKey characters
      match afterKey with
      | '=' :: unread => do
          let (value, behind) ← takeValue 0 (2 * unread.length + 2) (skipSpace unread)
          some (.assign path key value, ← endLine? behind)
      | _ => none

/-- Read the statements of a document; no document has more of them than characters. -/
def readStatements : Nat → List Char → Option (List Statement)
  | 0, _ => none
  | fuel + 1, characters =>
      match skipSpace characters with
      | [] => some []
      | '#' :: comment => do
          let rest ← endLine? ('#' :: comment)
          readStatements fuel rest
      | line =>
          match newline? line with
          | some rest => readStatements fuel rest
          | none => do
              let (statement, rest) ← takeStatement line
              let statements ← readStatements fuel rest
              some (statement :: statements)

/-- Where the statements that give keys values put them. -/
inductive Place where
  | top
  | table (path : List String) (key : String)
  | element (path : List String) (key : String)
  deriving DecidableEq, Repr

/-- The tree so far, without the table that is open. -/
structure Draft where
  root : Entries
  place : Place
  /-- What the open table holds so far. -/
  current : Entries
  deriving Repr

namespace Draft

/-- The draft of a document of which nothing has been read. -/
def new : Draft :=
  ⟨[], .top, []⟩

/-- Put the open table into the tree. -/
def finish? (draft : Draft) : Option Entries :=
  match draft.place with
  | .top => some draft.current
  | .table path key =>
      Entries.change false
        (fun _ entries => Entries.add entries key (.table false false draft.current))
        path false draft.root
  | .element path key =>
      Entries.change false
        (fun _ entries =>
          match entries.lookup key with
          | none => some (entries ++ [(key, .tables [draft.current])])
          | some (.tables elements) =>
              some (Entries.replace entries key (.tables (elements ++ [draft.current])))
          | some _ => none)
        path false draft.root

/-- The entries of the table at a path, as far as they are there. -/
def entriesAt? (entries : Entries) : List String → Option Entries
  | [] => some entries
  | key :: path =>
      match entries.lookup key with
      | some (.table _ _ inner) => entriesAt? inner path
      | some (.tables elements) => elements.getLast?.bind fun last => entriesAt? last path
      | _ => none

/-- Open the table at a path; one that was only implied keeps what it holds. -/
def openTable? (root : Entries) (path : List String) (key : String) : Option Draft :=
  match (entriesAt? root path).bind fun entries => entries.lookup key with
  | none => do
      let implied ← Entries.change false (fun _ entries => some entries) path false root
      some ⟨implied, .table path key, []⟩
  | some (.table true false inner) => do
      let taken ←
        Entries.change false
          (fun _ entries => some (entries.filter fun entry => entry.1 != key)) path false root
      some ⟨taken, .table path key, inner⟩
  | some _ => none

/-- Open a further element of the array of tables at a path. -/
def openElement? (root : Entries) (path : List String) (key : String) : Option Draft :=
  match (entriesAt? root path).bind fun entries => entries.lookup key with
  | none | some (.tables _) => some ⟨root, .element path key, []⟩
  | some _ => none

/-- Carry out a statement. -/
def step? (draft : Draft) : Statement → Option Draft
  | .assign path key value =>
      (draft.current.assign path key value).map fun current => { draft with current := current }
  | .openTable path key => do openTable? (← draft.finish?) path key
  | .openElement path key => do openElement? (← draft.finish?) path key

end Draft

/-- What follows a byte order mark at the front. -/
def skipMark : List Char → List Char
  | '\ufeff' :: rest => rest
  | characters => characters

/-- Read a document as the entries of its table. -/
def parse? (text : String) : Option (List (String × Value)) := do
  let characters := skipMark text.toList
  let statements ← readStatements (characters.length + 1) characters
  let draft ← statements.foldlM Draft.step? Draft.new
  some (entryValues (← draft.finish?))

end Discovery.Toml
