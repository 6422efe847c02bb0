namespace Discovery.Text

/-!
# Separated items

Items in a row with one separator between each two of them.  Taking a row
apart and putting it together are inverse to each other, as long as no item
holds the separator and there is an item at all.
-/

/-- Items with a separator between each two. -/
def join (separator : Char) : List (List Char) → List Char
  | [] => []
  | [item] => item
  | item :: rest => item ++ separator :: join separator rest

/-- Put a character before the first of some items. -/
def prepend (character : Char) : List (List Char) → List (List Char)
  | [] => [[character]]
  | item :: rest => (character :: item) :: rest

/-- The items between separators; a text without a separator is one item. -/
def split (separator : Char) : List Char → List (List Char)
  | [] => [[]]
  | character :: rest =>
      if character = separator then [] :: split separator rest
      else prepend character (split separator rest)

/-- Items are joined as intercalation joins them. -/
theorem join_eq_intercalate
    (separator : Char)
    (items : List (List Char)) :
    join separator items = [separator].intercalate items := by
  match items with
  | [] => rfl
  | [item] => rw [List.intercalate_singleton]; rfl
  | item :: next :: rest =>
      rw [List.intercalate_cons_cons, ← join_eq_intercalate separator (next :: rest),
        List.append_assoc]
      rfl

/-- There is always an item. -/
theorem split_ne_nil
    (separator : Char)
    (characters : List Char) :
    split separator characters ≠ [] := by
  cases characters with
  | nil => simp [split]
  | cons character rest =>
      simp only [split]
      split
      · simp
      · cases split separator rest <;> simp [prepend]

/-- A character before the first item comes first in the row. -/
theorem join_prepend
    (separator character : Char)
    (items : List (List Char)) :
    join separator (prepend character items) = character :: join separator items := by
  match items with
  | [] => rfl
  | [item] => rfl
  | item :: next :: rest => rfl

/-- Joining the items of a text gives the text. -/
theorem join_split
    (separator : Char)
    (characters : List Char) :
    join separator (split separator characters) = characters := by
  induction characters with
  | nil => rfl
  | cons character rest hypothesis =>
      simp only [split]
      split
      next same =>
        have items := split_ne_nil separator rest
        match others : split separator rest with
        | [] => exact absurd others items
        | item :: more =>
            rw [others] at hypothesis
            simp [join, hypothesis, same]
      next => rw [join_prepend, hypothesis]

/-- No item of a text holds the separator. -/
theorem not_mem_of_mem_split
    {separator : Char}
    {characters item : List Char}
    (member : item ∈ split separator characters) :
    separator ∉ item := by
  induction characters generalizing item with
  | nil => simp_all [split]
  | cons character rest hypothesis =>
      simp only [split] at member
      split at member
      next =>
        rcases List.mem_cons.mp member with isEmpty | later
        · simp [isEmpty]
        · exact hypothesis later
      next other =>
        match others : split separator rest with
        | [] => exact absurd others (split_ne_nil separator rest)
        | first :: more =>
            rw [others] at hypothesis member
            rcases List.mem_cons.mp member with isFirst | later
            · subst isFirst
              have outside := hypothesis (List.mem_cons_self ..)
              simp [outside, Ne.symm other]
            · exact hypothesis (List.mem_cons_of_mem _ later)

/-- A text without the separator is one item. -/
theorem split_of_not_mem
    {separator : Char}
    {characters : List Char}
    (outside : separator ∉ characters) :
    split separator characters = [characters] := by
  induction characters with
  | nil => rfl
  | cons character rest hypothesis =>
      rw [List.mem_cons, not_or] at outside
      simp [split, Ne.symm outside.1, hypothesis outside.2, prepend]

/-- An item in front of a separator is the first one. -/
theorem split_append
    {separator : Char}
    {item : List Char}
    (outside : separator ∉ item)
    (rest : List Char) :
    split separator (item ++ separator :: rest) = item :: split separator rest := by
  induction item with
  | nil => simp [split]
  | cons character others hypothesis =>
      rw [List.mem_cons, not_or] at outside
      simp [split, Ne.symm outside.1, hypothesis outside.2, prepend]

/-- The items of a row are those that were joined. -/
theorem split_join
    {separator : Char}
    {items : List (List Char)}
    (nonempty : items ≠ [])
    (outside : ∀ item ∈ items, separator ∉ item) :
    split separator (join separator items) = items := by
  match items with
  | [] => exact absurd rfl nonempty
  | [item] => exact split_of_not_mem (outside item (List.mem_cons_self ..))
  | item :: next :: rest =>
      change split separator (item ++ separator :: join separator (next :: rest)) = _
      rw [split_append (outside item (List.mem_cons_self ..)),
        split_join (List.cons_ne_nil next rest) fun other later =>
          outside other (List.mem_cons_of_mem _ later)]

end Discovery.Text
