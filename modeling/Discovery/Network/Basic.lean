import Discovery.Table
import Discovery.Transport.Basic

namespace Discovery

/-!
# In-process networks

A network connects numbered endpoints.  A started endpoint has a queue, and a
task that hands what is queued to the endpoint's owner in order.  A broadcast
is queued at every other started endpoint and a reply at the one it answers,
never at the sender itself.  Stopping an endpoint discards its queue.

The network can be told to lose messages at a rate between zero and one, and
to deliver every message twice.  Chance is not modelled: a rate of one loses
everything and any smaller rate loses nothing.
-/

/-- What is wrong with a network. -/
structure Faults where
  lossRate : Rat
  duplicate : Bool
  deriving DecidableEq, Repr

/-- How many copies of a message are queued. -/
def Faults.copies (faults : Faults) : Nat :=
  if 1 ≤ faults.lossRate then 0 else if faults.duplicate then 2 else 1

/-- One endpoint. -/
structure Endpoint where
  /-- What waits to be handed over, while the endpoint is started. -/
  queue : Option (List Delivery)
  /-- Whether the task of the endpoint has yet to take its first turn. -/
  fresh : Bool
  deriving DecidableEq, Repr

/-- Whether an endpoint is started. -/
def Endpoint.isStarted (endpoint : Endpoint) : Bool :=
  endpoint.queue.isSome

/-- Queue copies of a message at an endpoint if it is started. -/
def Endpoint.enqueue (endpoint : Endpoint) (copies : List Delivery) : Endpoint :=
  { endpoint with queue := endpoint.queue.map (· ++ copies) }

/-- Endpoints by number, and what is wrong with the network between them. -/
structure Network where
  endpoints : Table Nat Endpoint
  faults : Faults
  deriving DecidableEq, Repr

namespace Network

/-- A network without endpoints and without faults. -/
def new : Network :=
  ⟨∅, ⟨0, false⟩⟩

/-- Set the rate of loss; one outside the range becomes the nearer end of it. -/
def setLossRate (network : Network) (rate : Rat) : Network :=
  let within := if rate ≤ 0 then 0 else if 1 ≤ rate then 1 else rate
  { network with faults := { network.faults with lossRate := within } }

/-- Set whether every message is delivered twice. -/
def setDuplicate (network : Network) (duplicate : Bool) : Network :=
  { network with faults := { network.faults with duplicate := duplicate } }

/-- Make an endpoint, which receives nothing until it is started; endpoints count from one. -/
def endpoint (network : Network) : Nat × Network :=
  let number := network.endpoints.size + 1
  (number, { network with endpoints := network.endpoints.insert number ⟨none, false⟩ })

/-- Whether an endpoint is started. -/
def isStarted (network : Network) (number : Nat) : Bool :=
  (network.endpoints.find? number).any Endpoint.isStarted

/-- The number of started endpoints. -/
def activeEndpoints (network : Network) : Nat :=
  (network.endpoints.values.filter Endpoint.isStarted).length

/-- Start an endpoint. -/
def start
    (runtime : Bool)
    (network : Network)
    (number : Nat) : Except TransportError Network :=
  if network.isStarted number then .error .alreadyStarted
  else if runtime then
    .ok { network with endpoints := network.endpoints.insert number ⟨some [], true⟩ }
  else .error .noRuntime

/-- Stop an endpoint. -/
def stop (network : Network) (number : Nat) : Network :=
  { network with
    endpoints := network.endpoints.modify number fun _ => ⟨none, false⟩ }

/-- Deliver a message to one endpoint. -/
def deliver (network : Network) (number : Nat) (delivery : Delivery) : Network :=
  { network with
    endpoints :=
      network.endpoints.modify number fun endpoint =>
        endpoint.enqueue (List.replicate network.faults.copies delivery) }

/-- Deliver a message to every endpoint but the sender. -/
def deliverToOthers (network : Network) (sender : Nat) (delivery : Delivery) : Network :=
  { network with
    endpoints :=
      network.endpoints.map fun number endpoint =>
        if number = sender then endpoint
        else endpoint.enqueue (List.replicate network.faults.copies delivery) }

/-- Send a payload from an endpoint, started or not. -/
def send (network : Network) (sender : Nat) : Outgoing → Network
  | .broadcast stream payload =>
      network.deliverToOthers sender ⟨stream, payload, .endpoint sender⟩
  | .reply (.endpoint target) stream payload =>
      if target = sender then network
      else network.deliver target ⟨stream, payload, .endpoint sender⟩
  | .reply (.socket _) _ _ => network

/-- Whether the task of an endpoint has something to do. -/
def isReady (network : Network) (number : Nat) : Bool :=
  (network.endpoints.find? number).any fun endpoint =>
    endpoint.queue.any fun queue => endpoint.fresh || !queue.isEmpty

/-- Take the next message of an endpoint off its queue. -/
def take (network : Network) (number : Nat) : Option Delivery × Network :=
  match network.endpoints.find? number with
  | some ⟨some (first :: rest), _⟩ =>
      ( some first
      , { network with endpoints := network.endpoints.insert number ⟨some rest, false⟩ } )
  | some ⟨some [], _⟩ =>
      (none, { network with endpoints := network.endpoints.insert number ⟨some [], false⟩ })
  | _ => (none, network)

end Network

end Discovery
