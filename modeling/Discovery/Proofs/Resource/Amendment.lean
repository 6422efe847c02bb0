import Discovery.Resource.Changes
import Discovery.Table.Lemmas
import Mathlib.Data.List.Basic
import Mathlib.Data.List.Induction

namespace Discovery

/-!
# Amendments one after another

An editor does not change a resource while it is asked to: it collects puts and
removes, and a commit takes off all that is removed before it enters all that is
put.  No key is both put and removed, so this comes to the same as if each
amendment had been carried out when it was asked for (`collected_inOrder`).
-/

/-- What an editor is asked to do with a key. -/
inductive Amendment where
  /-- Let the key have a value. -/
  | put (key value : String)
  /-- Let the key have no value. -/
  | remove (key : String)
  deriving DecidableEq, Repr

namespace Amendment

/-- The key that is concerned. -/
def key : Amendment → String
  | .put key _ => key
  | .remove key => key

/-- The value that the key has afterwards. -/
def value? : Amendment → Option String
  | .put _ value => some value
  | .remove _ => none

/-- What is noted among the removes. -/
def removal? : Amendment → Option Unit
  | .put .. => none
  | .remove _ => some ()

/-- Carry an amendment out. -/
def perform (attributes : Attributes) : Amendment → Attributes
  | .put key value => attributes.insert key value
  | .remove key => attributes.erase key

/-- Take an amendment up among those that have not taken effect. -/
def collect (changes : Changes) : Amendment → Changes
  | .put key value => changes.put key value
  | .remove key => changes.remove key

/-- The last of some amendments to a key. -/
def last? (calls : List Amendment) (key : String) : Option Amendment :=
  (calls.filter fun call => call.key == key).getLast?

/-- Some amendments carried out one after another. -/
def performAll (calls : List Amendment) (attributes : Attributes) : Attributes :=
  calls.foldl perform attributes

/-- What an editor has collected after some amendments. -/
def collected (calls : List Amendment) : Changes :=
  calls.foldl collect .none

section Step

variable (call : Amendment) (sought : String)

@[simp]
theorem find?_perform (attributes : Attributes) :
    (perform attributes call).find? sought =
      if sought = call.key then call.value? else attributes.find? sought := by
  cases call with
  | put key value => exact Table.find?_insert attributes key sought value
  | remove key => exact Table.find?_erase attributes key sought

@[simp]
theorem find?_puts_collect (changes : Changes) :
    (collect changes call).puts.find? sought =
      if sought = call.key then call.value? else changes.puts.find? sought := by
  cases call with
  | put key value => exact Table.find?_insert changes.puts key sought value
  | remove key => exact Table.find?_erase changes.puts key sought

@[simp]
theorem find?_removes_collect (changes : Changes) :
    (collect changes call).removes.find? sought =
      if sought = call.key then call.removal? else changes.removes.find? sought := by
  cases call with
  | put key value => exact Table.find?_erase changes.removes key sought
  | remove key => exact Table.find?_insert changes.removes key sought ()

theorem last?_concat (calls : List Amendment) :
    last? (calls ++ [call]) sought =
      if sought = call.key then some call else last? calls sought := by
  unfold last?
  by_cases same : sought = call.key
  · simp [same]
  · simp [same, Ne.symm same]

end Step

section Run

variable (calls : List Amendment) (sought : String)

/-- Of the amendments to a key that are carried out, the last one counts. -/
theorem find?_performAll (attributes : Attributes) :
    (performAll calls attributes).find? sought =
      (last? calls sought).elim (attributes.find? sought) value? := by
  induction calls using List.reverseRecOn with
  | nil => rfl
  | append_singleton earlier call inductionHypothesis =>
      unfold performAll at inductionHypothesis ⊢
      rw [List.foldl_concat, find?_perform, last?_concat, inductionHypothesis]
      split <;> rfl

/-- A key is put if the last amendment to it is a put. -/
theorem find?_puts_collected :
    (collected calls).puts.find? sought = (last? calls sought).bind value? := by
  induction calls using List.reverseRecOn with
  | nil => rfl
  | append_singleton earlier call inductionHypothesis =>
      unfold collected at inductionHypothesis ⊢
      rw [List.foldl_concat, find?_puts_collect, last?_concat, inductionHypothesis]
      split <;> rfl

/-- A key is removed if the last amendment to it is a remove. -/
theorem find?_removes_collected :
    (collected calls).removes.find? sought = (last? calls sought).bind removal? := by
  induction calls using List.reverseRecOn with
  | nil => rfl
  | append_singleton earlier call inductionHypothesis =>
      unfold collected at inductionHypothesis ⊢
      rw [List.foldl_concat, find?_removes_collect, last?_concat, inductionHypothesis]
      split <;> rfl

end Run

end Amendment

/-- Changes enter what is put, and take off what else is removed. -/
theorem Changes.find?_apply
    (changes : Changes)
    (attributes : Attributes)
    (sought : String) :
    (changes.apply attributes).find? sought =
      (changes.puts.find? sought).or
        (if (changes.removes.find? sought).isSome then Option.none
          else attributes.find? sought) := by
  have removed : sought ∈ changes.removes.keys ↔ (changes.removes.find? sought).isSome := by
    rw [Table.mem_keys_iff, Option.isSome_iff_exists]
  unfold apply
  rw [Table.find?_insertMany _ changes.puts.ascending, Table.find?_eraseMany,
    if_congr removed rfl rfl]
  rfl

/-- Some changes stand for some amendments in their order. -/
structure Changes.InOrder (changes : Changes) (calls : List Amendment) : Prop where
  /-- No key is both put and removed. -/
  disjoint : ∀ key, key ∈ changes.puts.keys → key ∉ changes.removes.keys
  /-- They come to what the amendments come to one after another. -/
  performed : ∀ attributes, changes.apply attributes = Amendment.performAll calls attributes
  /-- What a key has afterwards is decided by the last amendment to it. -/
  decided : ∀ attributes key, (changes.apply attributes).find? key =
    (Amendment.last? calls key).elim (attributes.find? key) Amendment.value?
  /-- Other amendments, of which the last to each key is the same, make no difference. -/
  determined : ∀ others : List Amendment,
    (∀ key, Amendment.last? others key = Amendment.last? calls key) →
      Amendment.collected others = changes

namespace Amendment

/-- What an editor collects stands for what it was asked to do. -/
theorem collected_inOrder (calls : List Amendment) : (collected calls).InOrder calls := by
  have performed (attributes : Attributes) :
      (collected calls).apply attributes = performAll calls attributes := by
    apply Table.ext_find?
    intro key
    rw [Changes.find?_apply, find?_puts_collected, find?_removes_collected, find?_performAll]
    rcases last? calls key with _ | _ | _ <;> rfl
  refine ⟨fun key isPut isRemoved => ?_, performed, fun attributes key => ?_, fun others same => ?_⟩
  · obtain ⟨value, put⟩ := Table.mem_keys_iff.mp isPut
    obtain ⟨_, removed⟩ := Table.mem_keys_iff.mp isRemoved
    rw [find?_puts_collected] at put
    rw [find?_removes_collected] at removed
    cases last : last? calls key with
    | none => simp [last] at put
    | some call => cases call <;> simp [last, value?, removal?] at put removed
  · rw [performed, find?_performAll]
  · have puts : (collected others).puts = (collected calls).puts := by
      apply Table.ext_find?
      intro key
      rw [find?_puts_collected, find?_puts_collected, same]
    have removes : (collected others).removes = (collected calls).removes := by
      apply Table.ext_find?
      intro key
      rw [find?_removes_collected, find?_removes_collected, same]
    exact congrArg₂ Changes.mk puts removes

end Amendment

end Discovery
