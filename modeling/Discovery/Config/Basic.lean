import Discovery.Clock
import Discovery.Resource.Attributes

namespace Discovery

/-!
# Configuration

What a participant can be told: the categories to watch and the resources to
publish from the start, how long its announcements last, and where on the
network it finds the others.  Every setting has a default.
-/

/-- The settings of an agent. -/
structure AgentSettings where
  /-- Seconds for which an announcement lasts. -/
  resourceExpiry : UInt32 := 30
  /-- Milliseconds between the farewells of a disposal and the end of the transport. -/
  shutdownFlush : UInt64 := 50
  deriving DecidableEq, Repr

namespace AgentSettings

/-- The expiry that announcements carry: the greatest that the wire can state if it is too long. -/
def wireExpiry (settings : AgentSettings) : Int32 :=
  Int32.ofNat (min settings.resourceExpiry.toNat 0x7FFFFFFF)

/-- The wait between the farewells of a disposal and the end of the transport. -/
def flush (settings : AgentSettings) : Span :=
  settings.shutdownFlush.toNat * millisecond

end AgentSettings

/-- Where a participant finds the others. -/
structure NetworkSettings where
  /-- The name of the network interface; empty lets the system choose. -/
  interface : String := ""
  port : UInt16 := 45277
  multicastAddress : String := "ff02::1"
  deriving DecidableEq, Repr

/-- A resource that is published from the start. -/
structure PublishEntry where
  category : String := ""
  connection : String := ""
  attributes : Attributes := ∅
  deriving DecidableEq, Repr

/-- The whole configuration. -/
structure Config where
  subscribe : List String := []
  publish : List PublishEntry := []
  agent : AgentSettings := {}
  network : NetworkSettings := {}
  deriving DecidableEq, Repr

end Discovery
