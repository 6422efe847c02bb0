import Discovery.Agent.Error
import Discovery.Resource.Changes

namespace Discovery

/-!
# Local resources

A published resource keeps its category, connection and expiry for life; only
its attributes change, and a serial number counts the changes.  An edit names
the serial number that it started from and is refused if the resource has
moved on, so of several edits that started together only one succeeds.
-/

/-- A resource published here. -/
structure LocalResource where
  id : ResourceId
  category : String
  connection : String
  expiry : Int32
  attributes : Attributes
  editSerial : Nat
  deriving DecidableEq, Repr

namespace LocalResource

/-- A resource that has not been edited. -/
def new
    (id : ResourceId)
    (category connection : String)
    (expiry : Int32)
    (attributes : Attributes) : LocalResource :=
  ⟨id, category, connection, expiry, attributes, 0⟩

/-- What is announced of a resource. -/
def announcement (resource : LocalResource) : Wire.Announcement :=
  ⟨resource.category, resource.connection, resource.expiry, resource.attributes⟩

/-- Apply an edit that started from the given serial number. -/
def edit
    (resource : LocalResource)
    (baseline : Nat)
    (changes : Changes) : Except AgentError LocalResource :=
  if resource.editSerial ≠ baseline then .error (.staleEdit baseline resource.editSerial)
  else
    let changed := changes.apply resource.attributes
    match Wire.checkAttributes changed with
    | .error cause => .error (.unencodable cause)
    | .ok () =>
        .ok { resource with attributes := changed, editSerial := resource.editSerial + 1 }

end LocalResource

/-- An edit under way. -/
structure Editor where
  resource : ResourceId
  baseline : Nat
  changes : Changes
  deriving DecidableEq, Repr

/-- Begin an edit of a resource as it is now. -/
def LocalResource.beginEdit (resource : LocalResource) : Editor :=
  ⟨resource.id, resource.editSerial, .none⟩

end Discovery
