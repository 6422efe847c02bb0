import Discovery.Agent.Basic

namespace Discovery.Simulation

/-!
# Events

A simulation records what agents, endpoints, callbacks and timers do.  What
happens at one instant has no order of its own beyond the order in which each
of them acts, so a record is brought into a standard order: by time and by who
acted, and among neighbouring events of one kind by stream.  Of neighbouring
updates only the last is kept.
-/

/-- A payload as it is recorded: the message, if it is one. -/
inductive Content where
  | message (message : Wire.Message)
  | raw (payload : Bytes)
  deriving DecidableEq, Repr

/-- The recorded form of a payload. -/
def Content.ofPayload (payload : Bytes) : Content :=
  match Wire.Message.decode payload with
  | .ok decoded => .message decoded
  | .error _ => .raw payload

/-- What was done. -/
inductive Deed where
  | started
  | stopped
  | startFailed
  | broadcast (stream : String) (content : Content)
  | replied (stream : String) (origin : Origin) (content : Content)
  | received (stream : String) (origin : Origin) (content : Content)
  | updated (serial : Nat)
  | acted (outcome : Outcome)
  | fired (armed : Bool)
  deriving DecidableEq, Repr

namespace Deed

/-- The name of a kind of deed. -/
def name : Deed → String
  | .started => "start"
  | .stopped => "stop"
  | .startFailed => "start-failed"
  | .broadcast .. => "broadcast"
  | .replied .. => "reply"
  | .received .. => "recv"
  | .updated _ => "updated"
  | .acted _ => "then"
  | .fired _ => "fired"

/-- The label of the stream that a deed concerns. -/
def stream? : Deed → Option String
  | .broadcast stream _ => some stream
  | .replied stream _ _ => some stream
  | .received stream _ _ => some stream
  | _ => none

/-- Whether a deed is an update. -/
def isUpdate : Deed → Bool
  | .updated _ => true
  | _ => false

end Deed

/-- Who did what and when. -/
structure Event where
  time : Instant
  who : String
  deed : Deed
  deriving DecidableEq, Repr

namespace Event

/-- Events ordered by time and by who acted. -/
def order (first second : Event) : Ordering :=
  (compare first.time second.time).then (byteOrder first.who second.who)

/-- Whether two neighbours are of one run: at one time, by one, of one kind. -/
def sameRun (first second : Event) : Bool :=
  first.time == second.time && first.who == second.who && first.deed.name == second.deed.name

/-- Events ordered by the labels of their streams. -/
def streamOrder (first second : Event) : Ordering :=
  byteOrder (first.deed.stream?.getD "") (second.deed.stream?.getD "")

/-- One run of neighbours in standard form. -/
def arrangeRun (run : List Event) : List Event :=
  if run.any fun event => event.deed.isUpdate then run.getLast?.toList
  else run.mergeSort fun first second => (streamOrder first second).isLE

/-- A record in standard order. -/
def arrange (events : List Event) : List Event :=
  ((events.mergeSort fun first second => (order first second).isLE).splitBy sameRun).flatMap
    arrangeRun

end Event

end Discovery.Simulation
