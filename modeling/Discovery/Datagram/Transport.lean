import Discovery.Datagram.Frame
import Discovery.Datagram.SequenceFilter
import Discovery.Transport.Basic

namespace Discovery.Datagram

/-!
# Transports over datagrams

A transport sends one datagram for each payload.  It marks what it sends with
a nonce of its own and with a sequence number for each stream, and by them it
passes over what it sent itself and what is stale.  The sequence numbers and
the filter outlive a stop, so that a transport that starts again is not taken
for an older one.
-/

/-- The greatest number of bytes that one datagram can carry. -/
def datagramLimit : Nat := 65527

/-- How long a flow stays silent before it is forgotten. -/
def sequenceHorizon : Span := 600 * second

/-- How often silent flows are looked for. -/
def pruneInterval : Span := 60 * second

/-- Where a datagram is sent. -/
inductive Target where
  | group
  | peer (address : String)
  deriving DecidableEq, Repr

/-- A datagram that leaves. -/
structure Packet where
  target : Target
  datagram : Bytes
  deriving DecidableEq, Repr

/-- One participant's end of a transport. -/
structure Transport where
  /-- The number by which a participant knows its own datagrams. -/
  nonce : UInt32
  started : Bool
  /-- The sequence number of the last datagram on each stream. -/
  outgoing : Table StreamId UInt32
  incoming : SequenceFilter
  deriving DecidableEq, Repr

namespace Transport

/-- A transport that has not been started. -/
def new (nonce : UInt32) : Transport :=
  ⟨nonce, false, ∅, .empty⟩

/-- Start, which takes a runtime for the task that receives. -/
def start (transport : Transport) (hasRuntime : Bool) : Except TransportError Transport :=
  if transport.started then .error .alreadyStarted
  else if hasRuntime then .ok { transport with started := true }
  else .error .noRuntime

/-- Stop sending and receiving. -/
def stop (transport : Transport) : Transport :=
  { transport with started := false }

/-- Take the next sequence number of a stream; the nil stream is not numbered. -/
def takeSequence (transport : Transport) (stream : StreamId) : UInt32 × Transport :=
  if stream.isNil then (0, transport)
  else
    let sequence := (transport.outgoing.find? stream).getD 0 + 1
    (sequence, { transport with outgoing := transport.outgoing.insert stream sequence })

/--
Send a payload.  A datagram that is too long for the network does not leave,
although it has taken its sequence number.
-/
def send
    (transport : Transport)
    (target : Target)
    (flags : UInt8)
    (stream : StreamId)
    (payload : Bytes) : Option Packet × Transport :=
  if transport.started then
    let (sequence, next) := transport.takeSequence stream
    let datagram := (Header.outgoing flags stream transport.nonce sequence).encode ++ payload
    if datagram.length ≤ datagramLimit then (some ⟨target, datagram⟩, next) else (none, next)
  else (none, transport)

/-- Send a payload to everyone in the group. -/
def broadcast
    (transport : Transport)
    (stream : StreamId)
    (payload : Bytes) : Option Packet × Transport :=
  transport.send .group 0 stream payload

/-- Send a payload to where another one came from, if that is an address. -/
def reply
    (transport : Transport)
    (origin : Origin)
    (stream : StreamId)
    (payload : Bytes) : Option Packet × Transport :=
  match origin with
  | .socket address => transport.send (.peer address) replyFlags stream payload
  | .endpoint _ => (none, transport)

/--
Take in a datagram.  What is no frame and what the participant sent itself is
passed over before the filter sees it.
-/
def receive
    (transport : Transport)
    (now : Instant)
    (address : String)
    (datagram : Bytes) : Option Delivery × Transport :=
  match Header.parse datagram with
  | none => (none, transport)
  | some (header, payload) =>
      if header.sender = transport.nonce then (none, transport)
      else
        let (accepted, incoming) :=
          transport.incoming.accept now header.sender header.stream header.sequence
        let delivery := if accepted then some ⟨header.stream, payload, .socket address⟩ else none
        (delivery, { transport with incoming := incoming })

/-- Forget the flows that have been silent for the whole horizon. -/
def forgetSilent (transport : Transport) (now : Instant) : Transport :=
  if now < sequenceHorizon then transport
  else { transport with incoming := (transport.incoming.prune (now - sequenceHorizon)).2 }

end Transport

end Discovery.Datagram
