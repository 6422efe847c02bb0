import Discovery.Clock
import Discovery.Resource.Id
import Discovery.Wire.Message

namespace Discovery

/-!
# Remote resources

What is known of a resource of someone else is what its last announcement
said.  It is known until the announcement lapses or the resource is withdrawn.
-/

/-- What was last announced of a resource. -/
structure RemoteResource where
  id : ResourceId
  category : String
  connection : String
  attributes : Attributes
  deriving DecidableEq, Repr

namespace RemoteResource

/-- The resource that an announcement describes. -/
def ofAnnouncement (id : ResourceId) (announcement : Wire.Announcement) : RemoteResource :=
  ⟨id, announcement.category, announcement.connection, announcement.attributes⟩

/-- Whether an announcement says something that a reader would see. -/
def differsFrom (resource : RemoteResource) (announcement : Wire.Announcement) : Bool :=
  resource.connection != announcement.connection ||
    resource.attributes != announcement.attributes

/-- A resource does not differ from the announcement that describes it. -/
@[simp]
theorem differsFrom_ofAnnouncement
    (id : ResourceId)
    (announcement : Wire.Announcement) :
    (ofAnnouncement id announcement).differsFrom announcement = false := by
  simp [differsFrom, ofAnnouncement]

end RemoteResource

/-- A remote resource and the time at which it lapses. -/
structure RemoteEntry where
  resource : RemoteResource
  expiresAt : Instant
  deriving DecidableEq, Repr

/-- The time at which an announcement received now lapses. -/
def lapse (now : Instant) (announcement : Wire.Announcement) : Instant :=
  now + announcement.expiry.toInt.toNat * second

end Discovery
