import Discovery.Resource.Attributes

namespace Discovery

/-!
# Changes to attributes

An edit collects puts and removes before they take effect.  The last operation
on a key is the one that counts: a put takes the key off the removes, and a
remove takes it off the puts.  Applying the collected changes therefore has the
effect of the operations one after another.
-/

/-- Texts in the order of their bytes. -/
abbrev TextSet := Table String Unit byteOrder

/-- Puts and removes that have not taken effect. -/
structure Changes where
  puts : Attributes
  removes : TextSet
  deriving DecidableEq, Repr

namespace Changes

/-- No change. -/
def none : Changes :=
  ⟨∅, ∅⟩

/-- Let a key have a value. -/
def put (changes : Changes) (key value : String) : Changes :=
  ⟨changes.puts.insert key value, changes.removes.erase key⟩

/-- Let a key have no value. -/
def remove (changes : Changes) (key : String) : Changes :=
  ⟨changes.puts.erase key, changes.removes.insert key ()⟩

/-- Let some keys have values, one after another. -/
def putAll (changes : Changes) (entries : List (String × String)) : Changes :=
  entries.foldl (fun changed entry => changed.put entry.1 entry.2) changes

/-- Whether nothing has been collected. -/
def isEmpty (changes : Changes) : Bool :=
  changes.puts.isEmpty && changes.removes.isEmpty

/-- The attributes after the changes. -/
def apply (changes : Changes) (attributes : Attributes) : Attributes :=
  (attributes.eraseMany changes.removes.keys).insertMany changes.puts.entries

end Changes

end Discovery
