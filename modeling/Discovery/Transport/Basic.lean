import Discovery.Resource.Id

namespace Discovery

/-!
# Transports

An agent meets the others through a transport: it starts and stops it,
broadcasts payloads to everyone else and replies to whoever sent a payload.
Payloads on one stream other than the nil stream arrive in the order in which
they were sent; nothing is promised across streams, and sending never fails.
-/

/-- Where a payload came from; of use only for replying. -/
inductive Origin where
  | endpoint (number : Nat)
  | socket (address : String)
  deriving DecidableEq, Repr

/-- A payload that has arrived. -/
structure Delivery where
  stream : StreamId
  contents : Bytes
  origin : Origin
  deriving DecidableEq, Repr

/-- A payload that is to leave. -/
inductive Outgoing where
  | broadcast (stream : StreamId) (payload : Bytes)
  | reply (origin : Origin) (stream : StreamId) (payload : Bytes)
  deriving DecidableEq, Repr

/-- Why a transport does not start. -/
inductive TransportError where
  | alreadyStarted
  | noRuntime
  | io (cause : String)
  deriving DecidableEq, Repr

/-- What is said about a transport that does not start. -/
def TransportError.message : TransportError → String
  | .alreadyStarted => "transport is already started"
  | .noRuntime => "transport needs a tokio runtime"
  | .io cause => "transport I/O error: " ++ cause

end Discovery
