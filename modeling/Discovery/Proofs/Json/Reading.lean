import Mathlib.Tactic.SplitIfs
import Discovery.Json.Reader
import Discovery.Text.Separated

namespace Discovery.Json

/-!
# What is written without spaces is read again

A text between quotes is read as its characters, whatever they are
(`spells_quote`), and an object as its members if each of their values is read as
what it was written for (`spells_object`).  Both are read in front of any rest,
so that they can stand in each other, and their length is a number to count down
from that is never used up (`parse?_of_spells`).  What is written so is a single
line (`isLine_quote`, `isLine_join`).
-/

section Texts

/-- A letter behind a backslash is taken as the code that it stands for. -/
theorem takeCodes_letter
    {letter : Char}
    {code : Nat}
    (isShort : shortEscape? letter = some code)
    (notNumber : letter ≠ 'u')
    (rest : List Char) :
    takeCodes ('\\' :: letter :: rest) = (takeCodes rest).map (Prod.map (code :: ·) id) := by
  rw [takeCodes, isShort]
  · cases takeCodes rest <;> rfl
  · exact fun _ _ _ _ _ isNumber _ => notNumber isNumber

/-- A control character is taken as the code that its two digits spell. -/
theorem takeCodes_control
    {character : Char}
    (isControl : character.toNat < 32)
    (rest : List Char) :
    takeCodes (controlEscape character ++ rest) =
      (takeCodes rest).map (Prod.map (character.toNat :: ·) id) := by
  have spelled : ∀ code < 32,
      Text.number? 16 ['0', '0', Nat.digitChar (code / 16), Nat.digitChar (code % 16)] =
        some code := by decide
  simp only [controlEscape, List.cons_append, List.nil_append, takeCodes, spelled _ isControl]
  cases takeCodes rest <;> rfl

/-- Any other character but a quote and a backslash is taken as its own code. -/
theorem takeCodes_plain
    {character : Char}
    (notControl : ¬character.toNat < 32)
    (notQuote : character ≠ '"')
    (notBackslash : character ≠ '\\')
    (rest : List Char) :
    takeCodes (character :: rest) =
      (takeCodes rest).map (Prod.map (character.toNat :: ·) id) := by
  rw [takeCodes, if_neg (by simp [notControl, notBackslash])]
  · cases takeCodes rest <;> rfl
  · exact notQuote
  · exact fun _ _ _ _ _ isBackslash _ => notBackslash isBackslash
  · exact fun _ _ isBackslash _ => notBackslash isBackslash

/-- An escaped character is taken as its code. -/
theorem takeCodes_escape
    (character : Char)
    (rest : List Char) :
    takeCodes (escape character ++ rest) =
      (takeCodes rest).map (Prod.map (character.toNat :: ·) id) := by
  unfold escape
  split_ifs with isQuote isBackslash isNewline isReturn isTab isBackspace isFeed isControl
  · subst isQuote; exact takeCodes_letter rfl (by decide) rest
  · subst isBackslash; exact takeCodes_letter rfl (by decide) rest
  · subst isNewline; exact takeCodes_letter rfl (by decide) rest
  · subst isReturn; exact takeCodes_letter rfl (by decide) rest
  · subst isTab; exact takeCodes_letter rfl (by decide) rest
  · subst isBackspace; exact takeCodes_letter rfl (by decide) rest
  · subst isFeed; exact takeCodes_letter rfl (by decide) rest
  · exact takeCodes_control isControl rest
  · exact takeCodes_plain isControl isQuote isBackslash rest

/-- Escaped characters are taken as their codes up to the closing quote. -/
theorem takeCodes_flatMap_escape (characters rest : List Char) :
    takeCodes (characters.flatMap escape ++ '"' :: rest) =
      some (characters.map Char.toNat, rest) := by
  induction characters with
  | nil => rfl
  | cons character others inductionHypothesis =>
      rw [List.flatMap_cons, List.append_assoc, takeCodes_escape, inductionHypothesis]
      rfl

/-- The code of a character is no half of a pair. -/
theorem notHalf_toNat (character : Char) :
    isHighHalf character.toNat = false ∧ isLowHalf character.toNat = false := by
  have valid : character.toNat < 0xd800 ∨ 0xdfff < character.toNat ∧ character.toNat < 0x110000 :=
    character.valid
  simp only [isHighHalf, isLowHalf, decide_eq_false_iff_not]
  omega

/-- The codes of characters stand for these characters. -/
theorem characters?_map_toNat (characters : List Char) :
    characters? (characters.map Char.toNat) = some characters := by
  match characters with
  | [] => rfl
  | [character] =>
      obtain ⟨notHigh, notLow⟩ := notHalf_toNat character
      simp [characters?, notHigh, notLow]
  | character :: next :: others =>
      obtain ⟨notHigh, notLow⟩ := notHalf_toNat character
      have later := characters?_map_toNat (next :: others)
      simp only [List.map_cons] at later ⊢
      simp [characters?, notHigh, notLow, later]

/-- A text that was quoted is taken as itself. -/
theorem takeText_quote
    (text : String)
    (rest : List Char) :
    takeText (text.toList.flatMap escape ++ '"' :: rest) = some (some text, rest) := by
  simp only [takeText, takeCodes_flatMap_escape, Option.map_some, characters?_map_toNat,
    String.ofList_toList]

end Texts

section Values

/-- That some characters are read as a value wherever they stand. -/
def Spells (written : List Char) (value : Value) : Prop :=
  ∀ fuel rest, written.length ≤ fuel → takeValue fuel (written ++ rest) = some (value, rest)

/-- A quoted text is read as that text. -/
theorem spells_quote (text : String) : Spells (quote text) (.text (some text)) := by
  intro fuel rest enough
  match fuel with
  | 0 => cases enough
  | fuel + 1 =>
      have taken := takeText_quote text rest
      simp only [quote, List.cons_append, List.append_assoc, List.nil_append]
      rw [takeValue]
      change (takeText _).map _ = _
      rw [taken]
      rfl

/-- A member of an object as it is written, and the value that is written there. -/
structure Member where
  key : String
  written : List Char
  value : Value

namespace Member

/-- The characters of a member. -/
def text (member : Member) : List Char :=
  quote member.key ++ ':' :: member.written

/-- What a member is read as. -/
def entry (member : Member) : Option String × Value :=
  (some member.key, member.value)

end Member

theorem length_written_lt (member : Member) : member.written.length < member.text.length := by
  simp only [Member.text, quote, List.length_append, List.length_cons]
  omega

/-- A member is taken, and what stands behind it says whether it is the last one. -/
theorem takeMembers_text
    {member : Member}
    {fuel : Nat}
    (spelled : Spells member.written member.value)
    (enough : member.text.length ≤ fuel + 1)
    (behind : List Char) :
    takeMembers (fuel + 1) (member.text ++ behind) =
      match skipSpace behind with
      | '}' :: rest => some ([member.entry], rest)
      | ',' :: more => (takeMembers fuel more).map (Prod.map (member.entry :: ·) id)
      | _ => none := by
  have taken := takeText_quote member.key (':' :: (member.written ++ behind))
  have valueEnough := Nat.le_of_lt_succ (Nat.lt_of_lt_of_le (length_written_lt member) enough)
  simp only [Member.text, quote, List.cons_append, List.append_assoc, List.nil_append]
  rw [takeMembers]
  change (takeText _ >>= _) = _
  rw [taken]
  change (takeValue fuel _ >>= _) = _
  rw [spelled fuel _ valueEnough]
  change (match skipSpace behind with
    | '}' :: rest => _
    | ',' :: more => takeMembers fuel more >>= _
    | _ => none) = _
  split
  · rfl
  next more _ => cases takeMembers fuel more <;> rfl
  · rfl

/-- Members are taken up to the closing brace. -/
theorem takeMembers_join
    {members : List Member}
    (notNone : members ≠ [])
    (spelled : ∀ member ∈ members, Spells member.written member.value)
    (fuel : Nat)
    (enough : (Text.join ',' (members.map Member.text)).length < fuel)
    (rest : List Char) :
    takeMembers fuel (Text.join ',' (members.map Member.text) ++ '}' :: rest) =
      some (members.map Member.entry, rest) := by
  match members, fuel with
  | [], _ => exact absurd rfl notNone
  | _, 0 => cases enough
  | [member], fuel + 1 =>
      exact takeMembers_text (spelled member List.mem_cons_self) (Nat.le_of_lt enough) ('}' :: rest)
  | member :: next :: others, fuel + 1 =>
      obtain ⟨first, later⟩ := List.forall_mem_cons.mp spelled
      have whole : Text.join ',' ((member :: next :: others).map Member.text) =
          member.text ++ ',' :: Text.join ',' ((next :: others).map Member.text) := rfl
      rw [whole, List.length_append, List.length_cons] at enough
      have taken := takeMembers_join (List.cons_ne_nil next others) later fuel (by omega) rest
      rw [whole, List.append_assoc, List.cons_append, takeMembers_text first (by omega)]
      change (takeMembers fuel _).map _ = _
      rw [taken]
      rfl

/-- Members open with the quote of the first key. -/
theorem exists_join_eq_quote
    (member : Member)
    (others : List Member) :
    ∃ behind, Text.join ',' ((member :: others).map Member.text) = '"' :: behind := by
  cases others with
  | nil => exact ⟨_, rfl⟩
  | cons next more => exact ⟨_, rfl⟩

/-- An object is read as its members. -/
theorem spells_object
    {members : List Member}
    (spelled : ∀ member ∈ members, Spells member.written member.value) :
    Spells ('{' :: (Text.join ',' (members.map Member.text) ++ ['}']))
      (.object (members.map Member.entry)) := by
  intro fuel rest enough
  rw [List.length_cons, List.length_append, List.length_singleton] at enough
  match members, fuel with
  | _, 0 => omega
  | [], fuel + 1 => rfl
  | member :: others, fuel + 1 =>
      have taken := takeMembers_join (List.cons_ne_nil member others) spelled fuel (by omega) rest
      obtain ⟨behind, opens⟩ := exists_join_eq_quote member others
      rw [opens] at taken ⊢
      simp only [List.cons_append, List.append_assoc, List.nil_append] at taken ⊢
      rw [takeValue]
      change (takeMembers fuel _).map _ = _
      rw [taken]
      rfl

/-- A text that spells a value is read as that value. -/
theorem parse?_of_spells
    {written : List Char}
    {value : Value}
    (spelled : Spells written value) :
    Value.parse? (String.ofList written) = some value := by
  have read := spelled (2 * written.length + 2) [] (by omega)
  rw [List.append_nil] at read
  rw [Value.parse?, String.toList_ofList]
  change (takeValue _ _ >>= _) = _
  rw [read]
  rfl

end Values

section Lines

/-- That no character is a control character. -/
def IsLine (characters : List Char) : Prop :=
  ∀ character ∈ characters, 0x20 ≤ character.toNat

instance (characters : List Char) : Decidable (IsLine characters) :=
  List.decidableBAll (fun character : Char => 0x20 ≤ character.toNat) characters

theorem isLine_append
    {first second : List Char}
    (firstLine : IsLine first)
    (secondLine : IsLine second) :
    IsLine (first ++ second) :=
  List.forall_mem_append.mpr ⟨firstLine, secondLine⟩

theorem isLine_cons
    {character : Char}
    {rest : List Char}
    (notControl : 0x20 ≤ character.toNat)
    (restLine : IsLine rest) :
    IsLine (character :: rest) :=
  List.forall_mem_cons.mpr ⟨notControl, restLine⟩

theorem isLine_controlEscape
    {character : Char}
    (isControl : character.toNat < 32) :
    IsLine (controlEscape character) := by
  have all : ∀ code < 32, IsLine
      ['\\', 'u', '0', '0', Nat.digitChar (code / 16), Nat.digitChar (code % 16)] := by
    decide
  exact all character.toNat isControl

/-- Escaping leaves no control character. -/
theorem isLine_escape (character : Char) : IsLine (escape character) := by
  unfold escape
  split_ifs with isQuote isBackslash isNewline isReturn isTab isBackspace isFeed isControl
  · decide
  · decide
  · decide
  · decide
  · decide
  · decide
  · decide
  · exact isLine_controlEscape isControl
  · exact isLine_cons (Nat.le_of_not_lt isControl) (List.forall_mem_nil _)

theorem isLine_quote (text : String) : IsLine (quote text) := by
  refine isLine_cons (by decide) (isLine_append ?_ (by decide))
  intro character member
  obtain ⟨source, _, escaped⟩ := List.mem_flatMap.mp member
  exact isLine_escape source character escaped

theorem isLine_join
    {separator : Char}
    {items : List (List Char)}
    (notControl : 0x20 ≤ separator.toNat)
    (lines : ∀ item ∈ items, IsLine item) :
    IsLine (Text.join separator items) := by
  match items with
  | [] => exact List.forall_mem_nil _
  | [item] => exact lines item List.mem_cons_self
  | item :: next :: rest =>
      obtain ⟨first, later⟩ := List.forall_mem_cons.mp lines
      exact isLine_append first (isLine_cons notControl (isLine_join notControl later))

/-- An object is a single line if each of its values is. -/
theorem isLine_object
    {members : List Member}
    (lines : ∀ member ∈ members, IsLine member.written) :
    IsLine ('{' :: (Text.join ',' (members.map Member.text) ++ ['}'])) := by
  refine isLine_cons (by decide) (isLine_append (isLine_join (by decide) ?_) (by decide))
  refine List.forall_mem_map.mpr fun member isMember => ?_
  exact isLine_append (isLine_quote member.key) (isLine_cons (by decide) (lines member isMember))

end Lines

end Discovery.Json
