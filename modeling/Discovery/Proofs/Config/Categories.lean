import Mathlib.Data.List.Forall2
import Discovery.Config.Environment

namespace Discovery

/-!
# Lists of categories

A list is cut at its commas, and of every piece remains what is between the blanks
at its ends (`Config.lists_categories`).  Whatever is listed can stand in a list
again, so that categories which are put together with commas are read as the same
categories (`Config.categories_intercalate`).
-/

namespace Text

section Blanks

/-- That a row of characters does not begin or end with a blank. -/
def IsTrimmed (characters : List Char) : Prop :=
  (∀ first ∈ characters.head?, isBlank first = false) ∧
    ∀ last ∈ characters.getLast?, isBlank last = false

/-- That a row of characters is what another one has between the blanks at its ends. -/
structure Trims (whole core : List Char) : Prop where
  between : ∃ before behind, whole = before ++ core ++ behind ∧
    (∀ character ∈ before, isBlank character = true) ∧
      ∀ character ∈ behind, isBlank character = true
  trimmed : IsTrimmed core

/-- What remains behind the blanks in front does not begin with one. -/
theorem isBlank_head?_dropWhile
    {characters : List Char}
    {first : Char}
    (isFirst : first ∈ (characters.dropWhile isBlank).head?) :
    isBlank first = false := by
  have notBlank := List.head?_dropWhile_not isBlank characters
  rwa [Option.mem_def.mp isFirst] at notBlank

theorem isBlank_of_mem_takeWhile
    {characters : List Char}
    {character : Char}
    (member : character ∈ characters.takeWhile isBlank) :
    isBlank character = true :=
  List.all_eq_true.mp List.all_takeWhile character member

theorem dropWhile_of_head?
    {characters : List Char}
    (notBlank : ∀ first ∈ characters.head?, isBlank first = false) :
    characters.dropWhile isBlank = characters := by
  cases characters with
  | nil => rfl
  | cons first rest => rw [List.dropWhile_cons_of_neg (by simp [notBlank first rfl])]

/-- Trimming takes away the blanks at both ends and nothing else. -/
theorem trims_trimCharacters (characters : List Char) :
    Trims characters (trimCharacters characters) := by
  let tail := characters.dropWhile isBlank
  have whole : characters.takeWhile isBlank ++ tail = characters :=
    List.takeWhile_append_dropWhile
  have tailWhole :
      trimCharacters characters ++ (tail.reverse.takeWhile isBlank).reverse = tail := by
    rw [trimCharacters, ← List.reverse_append, List.takeWhile_append_dropWhile,
      List.reverse_reverse]
  refine ⟨⟨characters.takeWhile isBlank, (tail.reverse.takeWhile isBlank).reverse, ?_, ?_, ?_⟩,
    ?_, ?_⟩
  · rw [List.append_assoc, tailWhole, whole]
  · exact fun _ => isBlank_of_mem_takeWhile
  · exact fun _ member => isBlank_of_mem_takeWhile (List.mem_reverse.mp member)
  · intro first isFirst
    have inTail : first ∈ tail.head? := by
      rw [← tailWhole, List.head?_append, Option.mem_def.mp isFirst]
      rfl
    exact isBlank_head?_dropWhile inTail
  · intro last isLast
    rw [trimCharacters, List.getLast?_reverse] at isLast
    exact isBlank_head?_dropWhile isLast

/-- What has no blanks at its ends stays as it is. -/
theorem trimCharacters_of_isTrimmed
    {characters : List Char}
    (trimmed : IsTrimmed characters) :
    trimCharacters characters = characters := by
  rw [trimCharacters, dropWhile_of_head? trimmed.1, dropWhile_of_head?, List.reverse_reverse]
  rw [List.head?_reverse]
  exact trimmed.2

end Blanks

end Text

namespace Config

section Categories

/-- That a text lists items: its pieces between commas, trimmed, but those without characters. -/
def Lists (list : String) (items : List String) : Prop :=
  ∃ pieces cores : List (List Char), pieces ≠ [] ∧ (∀ piece ∈ pieces, ',' ∉ piece) ∧
    [','].intercalate pieces = list.toList ∧ List.Forall₂ Text.Trims pieces cores ∧
      items = (cores.filter (!·.isEmpty)).map String.ofList

/-- That a category can stand in a list: it has characters, no comma and no blanks at its ends. -/
structure IsItem (category : String) : Prop where
  notEmpty : category ≠ ""
  noComma : ',' ∉ category.toList
  trimmed : Text.IsTrimmed category.toList

/-- The categories of a list are what it lists. -/
theorem lists_categories (list : String) : Lists list (categories list) := by
  refine ⟨Text.split ',' list.toList, (Text.split ',' list.toList).map Text.trimCharacters,
    Text.split_ne_nil ',' list.toList, fun _ => Text.not_mem_of_mem_split, ?_, ?_, rfl⟩
  · rw [← Text.join_eq_intercalate, Text.join_split]
  · rw [List.forall₂_map_right_iff, List.forall₂_same]
    exact fun piece _ => Text.trims_trimCharacters piece

/-- Whatever is listed can stand in a list. -/
theorem isItem_of_lists
    {list : String}
    {items : List String}
    (lists : Lists list items)
    {category : String}
    (member : category ∈ items) :
    IsItem category := by
  obtain ⟨pieces, cores, _, noComma, _, trims, rfl⟩ := lists
  obtain ⟨core, kept, rfl⟩ := List.mem_map.mp member
  obtain ⟨isCore, notEmpty⟩ := List.mem_filter.mp kept
  obtain ⟨place, inside, rfl⟩ := List.mem_iff_getElem.mp isCore
  have insidePieces : place < pieces.length := trims.length_eq ▸ inside
  have trim : Text.Trims pieces[place] cores[place] := trims.get insidePieces inside
  obtain ⟨before, behind, whole, _, _⟩ := trim.between
  refine ⟨?_, ?_, ?_⟩
  · intro isEmpty
    rw [String.ofList_eq_empty_iff] at isEmpty
    rw [isEmpty] at notEmpty
    cases notEmpty
  · rw [String.toList_ofList]
    intro comma
    refine noComma pieces[place] (List.getElem_mem insidePieces) ?_
    rw [whole]
    exact List.mem_append_left _ (List.mem_append_right _ comma)
  · rw [String.toList_ofList]
    exact trim.trimmed

/-- Categories that were put together with commas are read as the same categories. -/
theorem categories_intercalate
    {items : List String}
    (all : ∀ category ∈ items, IsItem category) :
    categories (",".intercalate items) = items := by
  have joined : (",".intercalate items).toList = Text.join ',' (items.map String.toList) := by
    rw [String.toList_intercalate, Text.join_eq_intercalate]
    rfl
  have trimmed : (items.map String.toList).map Text.trimCharacters = items.map String.toList := by
    rw [List.map_map]
    exact List.map_congr_left fun category member =>
      Text.trimCharacters_of_isTrimmed (all category member).trimmed
  have kept : (items.map String.toList).filter (!·.isEmpty) = items.map String.toList := by
    rw [List.filter_eq_self, List.forall_mem_map]
    intro category member
    simpa using (all category member).notEmpty
  have restored : (items.map String.toList).map String.ofList = items := by
    rw [List.map_map]
    exact (List.map_congr_left fun category _ => String.ofList_toList).trans (List.map_id items)
  rw [categories, joined]
  by_cases none : items = []
  · subst none
    rfl
  · rw [Text.split_join (by simpa using none) (List.forall_mem_map.mpr fun category member =>
      (all category member).noComma), trimmed, kept, restored]

end Categories

end Config

end Discovery
