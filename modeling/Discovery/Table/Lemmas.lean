import Discovery.Table

namespace Discovery.Table

/-!
# What ordered tables find

Each operation on a table is described by what the resulting table finds under
every key (`find?_insert`, `find?_erase`, `find?_filter`, `find?_map`,
`find?_modify`).  `find?_eq_some_iff` ties finding to the listing, and
`ext_find?` says that tables which find the same are the same.
-/

variable {Key Value Other : Type} {order : Key → Key → Ordering}

/-- The table without entries finds nothing. -/
@[simp]
theorem find?_empty (key : Key) :
    (∅ : Table Key Value order).find? key = none :=
  rfl

/-- A key smaller than every key of a listing is not found in it. -/
theorem search?_eq_none_of_lt
    {key : Key}
    {listing : List (Key × Value)}
    (smaller : ∀ entry ∈ listing, order key entry.1 = .lt) :
    search? order key listing = none := by
  cases listing with
  | nil => rfl
  | cons entry rest => simp [search?, smaller entry List.mem_cons_self]

/-- The changed value is found under every key. -/
@[simp]
theorem find?_map
    [Std.LawfulEqCmp order]
    (table : Table Key Value order)
    (change : Key → Value → Other)
    (key : Key) :
    (table.map change).find? key = (table.find? key).map (change key) := by
  simp only [find?, map]
  induction table.entries with
  | nil => rfl
  | cons entry rest inductionHypothesis =>
      simp only [List.map_cons, search?]
      split
      next => rfl
      next same =>
        have sameKey := Std.LawfulEqCmp.eq_of_compare same
        simp [sameKey]
      next => exact inductionHypothesis

/-- The changed value is found under the key that was named, and nothing else changes. -/
@[simp]
theorem find?_modify
    [Std.LawfulEqCmp order]
    [DecidableEq Key]
    (table : Table Key Value order)
    (key sought : Key)
    (change : Value → Value) :
    (table.modify key change).find? sought =
      if sought = key then (table.find? sought).map change else table.find? sought := by
  unfold modify
  rw [find?_map]
  split
  next => rfl
  next => simp

/-- How many values satisfy a test. -/
def count (table : Table Key Value order) (test : Value → Bool) : Nat :=
  table.values.countP test

variable [Std.TransCmp order] [Std.LawfulEqCmp order]

/-- An ascending listing is searched for exactly what it holds. -/
theorem search?_eq_some_iff
    {key : Key}
    {value : Value}
    {listing : List (Key × Value)}
    (ascending : listing.Pairwise fun earlier later => order earlier.1 later.1 = .lt) :
    search? order key listing = some value ↔ (key, value) ∈ listing := by
  induction listing with
  | nil => simp [search?]
  | cons entry rest inductionHypothesis =>
      have behind := (List.pairwise_cons.mp ascending).1
      have unequal : order key entry.1 ≠ .eq → (key, value) ≠ entry := by
        intro different same
        rw [← same] at different
        exact different Std.ReflCmp.compare_self
      unfold search?
      split
      next before =>
        simp only [reduceCtorEq, false_iff, List.mem_cons, not_or]
        refine ⟨unequal (by simp [before]), fun inRest => ?_⟩
        have after := Std.OrientedCmp.gt_of_lt (behind _ inRest)
        rw [before] at after
        cases after
      next same =>
        have sameKey := Std.LawfulEqCmp.eq_of_compare same
        constructor
        · intro found
          cases found
          exact sameKey ▸ List.mem_cons_self
        · intro member
          rcases List.mem_cons.mp member with isEntry | inRest
          · rw [← isEntry]
          · have after := behind _ inRest
            have self : order key key = .eq := Std.ReflCmp.compare_self
            rw [← sameKey, self] at after
            cases after
      next after =>
        rw [inductionHypothesis ascending.of_cons, List.mem_cons]
        have other := unequal (by simp [after])
        exact ⟨Or.inr, fun member => member.resolve_left other⟩

/-- A table finds exactly what it lists. -/
theorem find?_eq_some_iff
    {table : Table Key Value order}
    {key : Key}
    {value : Value} :
    table.find? key = some value ↔ (key, value) ∈ table.entries :=
  search?_eq_some_iff table.ascending

/-- An inserted entry is found under its key, and nothing else changes. -/
theorem search?_insertEntry
    [DecidableEq Key]
    (key : Key)
    (value : Value)
    (sought : Key)
    (listing : List (Key × Value)) :
    search? order sought (insertEntry order key value listing) =
      if sought = key then some value else search? order sought listing := by
  have atKey : ∀ rest : List (Key × Value),
      search? order key ((key, value) :: rest) = some value := by
    intro rest
    simp [search?, Std.ReflCmp.compare_self]
  have found : order sought key = .eq → sought = key := Std.LawfulEqCmp.eq_of_compare
  induction listing with
  | nil =>
      split
      next same => rw [same, insertEntry, atKey]
      next different =>
        cases ordering : order sought key with
        | eq => exact absurd (found ordering) different
        | lt | gt => simp [insertEntry, search?, ordering]
  | cons entry rest inductionHypothesis =>
      unfold insertEntry
      split
      next before =>
        split
        next same => rw [same, atKey]
        next different =>
          cases ordering : order sought key with
          | eq => exact absurd (found ordering) different
          | lt =>
              have first := Std.TransCmp.lt_trans ordering before
              simp [search?, ordering, first]
          | gt => simp [search?, ordering]
      next same =>
        have sameKey := Std.LawfulEqCmp.eq_of_compare same
        split
        next isKey => rw [isKey, atKey]
        next different =>
          have elsewhere : order sought entry.1 ≠ .eq := by
            rw [← sameKey]
            exact fun ordering => different (found ordering)
          simp only [search?, sameKey]
          cases ordering : order sought entry.1 with
          | eq => exact absurd ordering elsewhere
          | lt | gt => rfl
      next after =>
        unfold search?
        split
        next before =>
          have different : sought ≠ key := by
            intro same
            rw [same, after] at before
            cases before
          simp [different]
        next same =>
          have different : sought ≠ key := by
            intro isKey
            rw [isKey, after] at same
            cases same
          simp [different]
        next => exact inductionHypothesis

/-- An inserted value is found under its key, and nothing else changes. -/
@[simp]
theorem find?_insert
    [DecidableEq Key]
    (table : Table Key Value order)
    (key sought : Key)
    (value : Value) :
    (table.insert key value).find? sought =
      if sought = key then some value else table.find? sought :=
  search?_insertEntry key value sought table.entries

/-- What holds of an inserted value and of everything else holds of all that is found. -/
theorem of_find?_insert
    [DecidableEq Key]
    {table : Table Key Value order}
    {key : Key}
    {value : Value}
    {property : Key → Value → Prop}
    (here : property key value)
    (others : ∀ {sought known}, table.find? sought = some known → property sought known)
    {sought : Key}
    {known : Value}
    (found : (table.insert key value).find? sought = some known) :
    property sought known := by
  rw [find?_insert] at found
  split at found
  next isKey =>
    cases found
    exact isKey ▸ here
  next => exact others found

/-- An erased key is found no more, and nothing else changes. -/
theorem search?_eraseEntry
    [DecidableEq Key]
    (key sought : Key)
    {listing : List (Key × Value)}
    (ascending : listing.Pairwise fun earlier later => order earlier.1 later.1 = .lt) :
    search? order sought (eraseEntry order key listing) =
      if sought = key then none else search? order sought listing := by
  induction listing with
  | nil => simp [eraseEntry, search?]
  | cons entry rest inductionHypothesis =>
      have behind := (List.pairwise_cons.mp ascending).1
      unfold eraseEntry
      split
      next before =>
        split
        next same => simp [same, search?, before]
        next => rfl
      next same =>
        have sameKey := Std.LawfulEqCmp.eq_of_compare same
        split
        next isKey =>
          exact search?_eq_none_of_lt fun later inRest => by
            rw [isKey, sameKey]
            exact behind later inRest
        next different =>
          cases ordering : order sought entry.1 with
          | eq => exact absurd (sameKey ▸ Std.LawfulEqCmp.eq_of_compare ordering) different
          | lt =>
              have absent : search? order sought rest = none :=
                search?_eq_none_of_lt fun later inRest =>
                  Std.TransCmp.lt_trans ordering (behind later inRest)
              simp [search?, ordering, absent]
          | gt => simp [search?, ordering]
      next after =>
        unfold search?
        split
        next => simp
        next same =>
          have different : sought ≠ key := by
            intro isKey
            rw [isKey, after] at same
            cases same
          simp [different]
        next => exact inductionHypothesis ascending.of_cons

/-- An erased key is found no more, and nothing else changes. -/
@[simp]
theorem find?_erase
    [DecidableEq Key]
    (table : Table Key Value order)
    (key sought : Key) :
    (table.erase key).find? sought = if sought = key then none else table.find? sought :=
  search?_eraseEntry key sought table.ascending

/-- What is found after a key was erased was found before. -/
theorem find?_of_find?_erase
    [DecidableEq Key]
    {table : Table Key Value order}
    {key sought : Key}
    {value : Value}
    (found : (table.erase key).find? sought = some value) :
    table.find? sought = some value := by
  rw [find?_erase] at found
  split at found
  next => cases found
  next => exact found

/-- Keys that were erased are found no more, and nothing else changes. -/
theorem find?_eraseMany
    [DecidableEq Key]
    (table : Table Key Value order)
    (keys : List Key)
    (sought : Key) :
    (table.eraseMany keys).find? sought =
      if sought ∈ keys then none else table.find? sought := by
  induction keys generalizing table with
  | nil => simp [eraseMany]
  | cons key rest inductionHypothesis =>
      have next := inductionHypothesis (table.erase key)
      simp only [eraseMany, List.foldl_cons] at next ⊢
      rw [next, find?_erase]
      by_cases inRest : sought ∈ rest <;> by_cases isKey : sought = key <;> simp [inRest, isKey]

/-- What satisfies the test is found, and nothing else. -/
@[simp]
theorem find?_filter
    (table : Table Key Value order)
    (keep : Key → Value → Bool)
    (key : Key) :
    (table.filter keep).find? key = (table.find? key).filter (keep key) := by
  apply Option.ext
  intro value
  rw [find?_eq_some_iff, Option.filter_eq_some_iff, find?_eq_some_iff]
  exact List.mem_filter

theorem mem_keys_iff
    {table : Table Key Value order}
    {key : Key} :
    key ∈ table.keys ↔ ∃ value, table.find? key = some value := by
  simp only [keys, List.mem_map, find?_eq_some_iff]
  constructor
  · rintro ⟨entry, listed, rfl⟩
    exact ⟨entry.2, listed⟩
  · rintro ⟨value, listed⟩
    exact ⟨(key, value), listed, rfl⟩

theorem mem_values_iff
    {table : Table Key Value order}
    {value : Value} :
    value ∈ table.values ↔ ∃ key, table.find? key = some value := by
  simp only [values, List.mem_map, find?_eq_some_iff]
  constructor
  · rintro ⟨entry, listed, rfl⟩
    exact ⟨entry.1, listed⟩
  · rintro ⟨key, listed⟩
    exact ⟨(key, value), listed, rfl⟩

omit [Std.TransCmp order] in
/-- Each key is listed once. -/
theorem nodup_keys (table : Table Key Value order) : table.keys.Nodup := by
  refine List.pairwise_map.mpr (table.ascending.imp fun {earlier later} before same => ?_)
  have self : order later.1 later.1 = .eq := Std.ReflCmp.compare_self
  rw [same, self] at before
  cases before

omit [Std.TransCmp order] in
/-- Each entry is listed once. -/
theorem nodup_entries (table : Table Key Value order) : table.entries.Nodup :=
  (List.pairwise_map.mp table.nodup_keys).imp fun apart same => apart (congrArg Prod.fst same)

/-- Tables that find the same under every key are the same. -/
theorem ext_find?
    {first second : Table Key Value order}
    (same : ∀ key, first.find? key = second.find? key) :
    first = second := by
  have alike : ∀ entry, entry ∈ first.entries ↔ entry ∈ second.entries := by
    intro entry
    rw [← find?_eq_some_iff, ← find?_eq_some_iff, same]
  have reordered : first.entries.Perm second.entries :=
    (List.perm_ext_iff_of_nodup first.nodup_entries second.nodup_entries).mpr alike
  have antisymmetric : ∀ earlier later : Key × Value,
      earlier ∈ first.entries → later ∈ second.entries →
        order earlier.1 later.1 = .lt → order later.1 earlier.1 = .lt → earlier = later := by
    intro earlier later _ _ before after
    have contrary := Std.OrientedCmp.gt_of_lt before
    rw [after] at contrary
    cases contrary
  exact Table.ext (reordered.eq_of_pairwise antisymmetric first.ascending second.ascending)

/-- Entering an ascending listing behind what is known finds the listing first. -/
theorem find?_insertMany
    [DecidableEq Key]
    (table : Table Key Value order)
    {listing : List (Key × Value)}
    (ascending : listing.Pairwise fun earlier later => order earlier.1 later.1 = .lt)
    (key : Key) :
    (table.insertMany listing).find? key = (search? order key listing).or (table.find? key) := by
  induction listing generalizing table with
  | nil => rfl
  | cons entry rest inductionHypothesis =>
      have behind := (List.pairwise_cons.mp ascending).1
      have next := inductionHypothesis (table.insert entry.1 entry.2) ascending.of_cons
      simp only [insertMany, List.foldl_cons] at next ⊢
      rw [next, find?_insert, search?]
      by_cases isKey : key = entry.1
      · have absent : search? order key rest = none :=
          search?_eq_none_of_lt fun later inRest => isKey ▸ behind later inRest
        have same : order key entry.1 = .eq := isKey ▸ Std.ReflCmp.compare_self
        simp only [absent, same, if_pos isKey]
        rfl
      · cases ordering : order key entry.1 with
        | eq => exact absurd (Std.LawfulEqCmp.eq_of_compare ordering) isKey
        | lt =>
            have absent : search? order key rest = none :=
              search?_eq_none_of_lt fun later inRest =>
                Std.TransCmp.lt_trans ordering (behind later inRest)
            simp only [absent, if_neg isKey]
        | gt => simp only [if_neg isKey]

/-- A table is the table of what it lists. -/
theorem ofList_entries
    [DecidableEq Key]
    (table : Table Key Value order) :
    ofList table.entries = table := by
  apply ext_find?
  intro key
  change (insertMany ∅ table.entries).find? key = table.find? key
  rw [find?_insertMany _ table.ascending, find?_empty, Option.or_none]
  rfl

/-- Changing the value under a key that is found puts the changed value there. -/
theorem modify_eq_insert
    [DecidableEq Key]
    {table : Table Key Value order}
    {key : Key}
    {value : Value}
    (found : table.find? key = some value)
    (change : Value → Value) :
    table.modify key change = table.insert key (change value) := by
  apply ext_find?
  intro sought
  rw [find?_modify, find?_insert]
  split
  next isKey => rw [isKey, found]; rfl
  next => rfl

/-- Changing the value under a key that is not found changes nothing. -/
theorem modify_of_find?_eq_none
    [DecidableEq Key]
    {table : Table Key Value order}
    {key : Key}
    (absent : table.find? key = none)
    (change : Value → Value) :
    table.modify key change = table := by
  apply ext_find?
  intro sought
  rw [find?_modify]
  split
  next isKey => rw [isKey, absent]; rfl
  next => rfl

/-- Two changes under keys commute if they commute on a value, or if the keys differ. -/
theorem modify_comm
    [DecidableEq Key]
    (table : Table Key Value order)
    {first second : Key}
    {firstChange secondChange : Value → Value}
    (commute : first = second →
      ∀ value, secondChange (firstChange value) = firstChange (secondChange value)) :
    (table.modify first firstChange).modify second secondChange =
      (table.modify second secondChange).modify first firstChange := by
  apply ext_find?
  intro sought
  simp only [find?_modify]
  by_cases isFirst : sought = first
  · by_cases isSecond : sought = second
    · have swapped := commute (isFirst.symm.trans isSecond)
      simp only [if_pos isFirst, if_pos isSecond, Option.map_map]
      exact congrArg (Option.map · (table.find? sought)) (funext swapped)
    · simp only [if_pos isFirst, if_neg isSecond]
  · simp only [if_neg isFirst]

/-- An inserted value counts in place of the one that was under its key. -/
theorem count_insert
    (table : Table Key Value order)
    (key : Key)
    (value : Value)
    (test : Value → Bool) :
    (table.insert key value).count test + (table.find? key).toList.countP test =
      table.count test + if test value then 1 else 0 := by
  simp only [count, values, insert, find?]
  induction table.entries with
  | nil => simp [insertEntry, search?, List.countP_cons]
  | cons entry rest inductionHypothesis =>
      simp only [insertEntry, search?]
      cases order key entry.1 with
      | lt =>
          simp only [List.map_cons, List.countP_cons, Option.toList_none, List.countP_nil]
          omega
      | eq =>
          simp only [List.map_cons, List.countP_cons, Option.toList_some, List.countP_nil]
          omega
      | gt =>
          simp only [List.map_cons, List.countP_cons]
          omega

/-- An entry is added unless there is one under its key. -/
theorem size_insert
    (table : Table Key Value order)
    (key : Key)
    (value : Value) :
    (table.insert key value).size + (table.find? key).toList.length = table.size + 1 := by
  have counted := table.count_insert key value fun _ => true
  simpa [count, values, size] using counted

/-- Entering pairs adds at most one entry for each of them. -/
theorem size_insertMany_le
    (table : Table Key Value order)
    (pairs : List (Key × Value)) :
    (table.insertMany pairs).size ≤ table.size + pairs.length := by
  induction pairs generalizing table with
  | nil => exact Nat.le_refl _
  | cons pair rest inductionHypothesis =>
      have first := table.size_insert pair.1 pair.2
      have others := inductionHypothesis (table.insert pair.1 pair.2)
      rw [List.length_cons]
      exact Nat.le_trans others (by omega)

/-- Whatever is listed after pairs were entered is one of them or was listed before. -/
theorem mem_insertMany
    {table : Table Key Value order}
    {pairs : List (Key × Value)}
    {entry : Key × Value}
    (member : entry ∈ (table.insertMany pairs).entries) :
    entry ∈ pairs ∨ entry ∈ table.entries := by
  induction pairs generalizing table with
  | nil => exact .inr member
  | cons pair rest inductionHypothesis =>
      rcases @inductionHypothesis (table.insert pair.1 pair.2) member with inRest | before
      · exact .inl (List.mem_cons_of_mem pair inRest)
      · rcases mem_insertEntry before with isPair | old
        · exact .inl (isPair ▸ List.mem_cons_self)
        · exact .inr old

/-- No value counts if none that is found satisfies the test. -/
theorem count_eq_zero_iff
    {table : Table Key Value order}
    {test : Value → Bool} :
    table.count test = 0 ↔
      ∀ key value, table.find? key = some value → test value = false := by
  refine List.countP_eq_zero.trans ⟨fun none key value found => ?_, fun none value member => ?_⟩
  · have listed : (key, value) ∈ table.entries := find?_eq_some_iff.mp found
    exact Bool.eq_false_iff.mpr (none value (List.mem_map_of_mem listed))
  · obtain ⟨entry, listed, rfl⟩ := List.mem_map.mp member
    have refused := none entry.1 entry.2 (find?_eq_some_iff.mpr listed)
    rw [refused]
    exact Bool.false_ne_true

end Discovery.Table
