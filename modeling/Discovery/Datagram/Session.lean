import Discovery.Datagram.Settings
import Discovery.Datagram.Transport

namespace Discovery.Datagram

/-!
# Sessions

A session is one transport's life among peers on the same host: it is started
and stopped, sends, and receives what the peers send it.  A session is short,
so that no flow falls silent in it, and it needs a host on which the peers can
be reached.
-/

/-- What happens in a session. -/
inductive SessionStep where
  | start
  | stop
  | receive (address : String) (datagram : Bytes) (times : Nat)
  | broadcast (stream : StreamId) (payload : Bytes)
  | reply (origin : Origin) (stream : StreamId) (payload : Bytes)
  deriving DecidableEq, Repr

/-- What comes of a step. -/
inductive SessionReport where
  | done
  | refused (cause : TransportError)
  | delivered (deliveries : List Delivery)
  | replied (packet : Option Packet)
  deriving DecidableEq, Repr

namespace Transport

/-- Take in what a peer sends a number of times; it arrives only while started. -/
def receiveTimes
    (transport : Transport)
    (address : String)
    (datagram : Bytes) : Nat → List Delivery × Transport
  | 0 => ([], transport)
  | times + 1 =>
      if transport.started && decide (datagram.length ≤ datagramLimit) then
        let (delivery, next) := transport.receive 0 address datagram
        let (later, last) := receiveTimes next address datagram times
        (delivery.toList ++ later, last)
      else ([], transport)

/-- One step of a session. -/
def step (transport : Transport) : SessionStep → SessionReport × Transport
  | .start =>
      match transport.start true with
      | .ok started => (.done, started)
      | .error cause => (.refused cause, transport)
  | .stop => (.done, transport.stop)
  | .receive address datagram times =>
      let (deliveries, next) := transport.receiveTimes address datagram times
      (.delivered deliveries, next)
  | .broadcast stream payload => (.done, (transport.broadcast stream payload).2)
  | .reply origin stream payload =>
      let (packet, next) := transport.reply origin stream payload
      (.replied packet, next)

/-- The steps of a session. -/
def run (transport : Transport) : List SessionStep → List SessionReport
  | [] => []
  | first :: rest =>
      let (report, next) := transport.step first
      report :: next.run rest

end Transport

/-- A session on a host, if the host has what it takes. -/
def session? (host : Host) (nonce : UInt32) (steps : List SessionStep) :
    Option (List SessionReport) :=
  if host.loopback then some ((Transport.new nonce).run steps) else none

end Discovery.Datagram
