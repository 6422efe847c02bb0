import Discovery.Table.Lemmas

namespace Discovery.Table

/-!
# Going through a table in any order

Whoever goes through a container that is in no order may meet its entries in
any order.  Such an order is given by the keys that come first
(`Table.shuffled`): every listing of the entries comes about in this way
(`exists_shuffled`), and no other one does (`perm_shuffled`).
-/

variable {Key Value : Type} {order : Key → Key → Ordering}

/--
The entries of a table, those under the given keys first and the others in the
order of their keys.
-/
def shuffled (table : Table Key Value order) : List Key → List (Key × Value)
  | [] => table.entries
  | key :: rest =>
      match table.find? key with
      | some value => (key, value) :: (table.erase key).shuffled rest
      | none => table.shuffled rest

/-- The keys of a table, the given ones first. -/
def shuffledKeys (table : Table Key Value order) (front : List Key) : List Key :=
  (table.shuffled front).map (·.1)

/-- The values of a table, those under the given keys first. -/
def shuffledValues (table : Table Key Value order) (front : List Key) : List Value :=
  (table.shuffled front).map (·.2)

variable [Std.TransCmp order] [Std.LawfulEqCmp order] [DecidableEq Key]

/-- A table lists what is found under a key and what is left when that is erased. -/
theorem perm_erase
    {table : Table Key Value order}
    {key : Key}
    {value : Value}
    (found : table.find? key = some value) :
    ((key, value) :: (table.erase key).entries).Perm table.entries := by
  have listed : ∀ entry : Key × Value,
      entry ∈ (table.erase key).entries ↔ entry.1 ≠ key ∧ entry ∈ table.entries := by
    intro entry
    rw [← find?_eq_some_iff, ← find?_eq_some_iff, find?_erase]
    by_cases isKey : entry.1 = key <;> simp [isKey]
  have distinct : ((key, value) :: (table.erase key).entries).Nodup :=
    List.nodup_cons.mpr ⟨fun member => ((listed _).mp member).1 rfl, nodup_entries _⟩
  refine (List.perm_ext_iff_of_nodup distinct table.nodup_entries).mpr fun entry => ?_
  rw [List.mem_cons, listed]
  constructor
  · rintro (rfl | ⟨_, member⟩)
    · exact find?_eq_some_iff.mp found
    · exact member
  · intro member
    by_cases isKey : entry.1 = key
    · have same := find?_eq_some_iff.mpr member
      rw [isKey, found] at same
      exact .inl (Prod.ext isKey (Option.some.inj same).symm)
    · exact .inr ⟨isKey, member⟩

/-- Whatever comes first, each entry is met once. -/
theorem perm_shuffled
    (table : Table Key Value order)
    (front : List Key) :
    (table.shuffled front).Perm table.entries := by
  induction front generalizing table with
  | nil => exact .refl _
  | cons key rest inductionHypothesis =>
      unfold shuffled
      split
      next value found => exact ((inductionHypothesis _).cons _).trans (perm_erase found)
      next => exact inductionHypothesis table

/-- Whatever comes first, each key is met once. -/
theorem perm_shuffledKeys
    (table : Table Key Value order)
    (front : List Key) :
    (table.shuffledKeys front).Perm table.keys :=
  (table.perm_shuffled front).map _

/-- Whatever comes first, each value is met as often as it is there. -/
theorem perm_shuffledValues
    (table : Table Key Value order)
    (front : List Key) :
    (table.shuffledValues front).Perm table.values :=
  (table.perm_shuffled front).map _

theorem nodup_shuffledKeys
    (table : Table Key Value order)
    (front : List Key) :
    (table.shuffledKeys front).Nodup :=
  (table.perm_shuffledKeys front).nodup_iff.mpr table.nodup_keys

@[simp]
theorem mem_shuffled
    {table : Table Key Value order}
    {front : List Key}
    {entry : Key × Value} :
    entry ∈ table.shuffled front ↔ entry ∈ table.entries :=
  (table.perm_shuffled front).mem_iff

@[simp]
theorem mem_shuffledKeys
    {table : Table Key Value order}
    {front : List Key}
    {key : Key} :
    key ∈ table.shuffledKeys front ↔ key ∈ table.keys :=
  (table.perm_shuffledKeys front).mem_iff

@[simp]
theorem mem_shuffledValues
    {table : Table Key Value order}
    {front : List Key}
    {value : Value} :
    value ∈ table.shuffledValues front ↔ value ∈ table.values :=
  (table.perm_shuffledValues front).mem_iff

/-- The entries may be met in every order. -/
theorem exists_shuffled
    {table : Table Key Value order}
    {listing : List (Key × Value)}
    (reordered : listing.Perm table.entries) :
    ∃ front, table.shuffled front = listing := by
  refine ⟨listing.map (·.1), ?_⟩
  induction listing generalizing table with
  | nil => exact (List.nil_perm.mp reordered)
  | cons entry rest inductionHypothesis =>
      have found := find?_eq_some_iff.mpr (reordered.subset List.mem_cons_self)
      have others : rest.Perm (table.erase entry.1).entries :=
        (reordered.trans (perm_erase found).symm).cons_inv
      simp only [List.map_cons, shuffled, found, inductionHypothesis others]

end Discovery.Table
