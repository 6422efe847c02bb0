import Discovery.Network.Basic
import Discovery.Table.Lemmas

namespace Discovery

/-!
# Queues of a network

Everything that a network does shows in the queues of its started endpoints.
Sending appends to the queues of those whom a payload reaches, taking removes
the first payload of one queue, and starting and stopping make a queue and
discard it.  No operation but the making of an endpoint adds one.
-/

namespace Outgoing

/-- The payload as it arrives from an endpoint. -/
def arrival (sender : Nat) : Outgoing → Delivery
  | .broadcast stream payload | .reply _ stream payload => ⟨stream, payload, .endpoint sender⟩

/-- Whether a payload leaves for everyone. -/
def isBroadcast : Outgoing → Bool
  | .broadcast .. => true
  | .reply .. => false

/-- Whether a payload that leaves one endpoint is for another. -/
def reaches (sender receiver : Nat) : Outgoing → Bool
  | .broadcast .. => decide (receiver ≠ sender)
  | .reply (.endpoint target) .. => decide (receiver = target ∧ receiver ≠ sender)
  | .reply (.socket _) .. => false

theorem origin_arrival (outgoing : Outgoing) (sender : Nat) :
    (outgoing.arrival sender).origin = .endpoint sender := by
  cases outgoing <;> rfl

/-- Nothing that leaves an endpoint is for the endpoint itself. -/
theorem not_reaches_self (outgoing : Outgoing) (number : Nat) :
    outgoing.reaches number number = false := by
  cases outgoing with
  | broadcast => simp [reaches]
  | reply origin => cases origin <;> simp [reaches]

end Outgoing

namespace Network

/-- What waits at an endpoint, if it is started. -/
def queue? (network : Network) (number : Nat) : Option (List Delivery) :=
  (network.endpoints.find? number).bind Endpoint.queue

/-- What arrives at an endpoint when some payloads leave another. -/
def arrivals
    (network : Network)
    (sender receiver : Nat)
    (outgoing : List Outgoing) : List Delivery :=
  outgoing.flatMap fun sent =>
    if sent.reaches sender receiver then
      List.replicate network.faults.copies (sent.arrival sender)
    else []

/-- Send payloads one after another. -/
def sendAll (network : Network) (sender : Nat) (outgoing : List Outgoing) : Network :=
  outgoing.foldl (fun current sent => current.send sender sent) network

/-- The same endpoints exist, and the same is wrong with the network. -/
structure SameShape (next network : Network) : Prop where
  exists_iff : ∀ number, (next.endpoints.find? number).isSome =
    (network.endpoints.find? number).isSome
  size : next.endpoints.size = network.endpoints.size
  faults : next.faults = network.faults

namespace SameShape

theorem refl (network : Network) : SameShape network network :=
  ⟨fun _ => rfl, rfl, rfl⟩

theorem trans
    {first second third : Network}
    (later : SameShape third second)
    (earlier : SameShape second first) :
    SameShape third first :=
  ⟨fun number => (later.exists_iff number).trans (earlier.exists_iff number),
    later.size.trans earlier.size, later.faults.trans earlier.faults⟩

/-- An endpoint that exists changes. -/
theorem insert
    {network : Network}
    {number : Nat}
    (placed : (network.endpoints.find? number).isSome)
    (endpoint : Endpoint) :
    SameShape { network with endpoints := network.endpoints.insert number endpoint } network := by
  refine ⟨fun sought => ?_, ?_, rfl⟩
  · rw [Table.find?_insert]
    split
    next isNumber => rw [isNumber, placed]; rfl
    next => rfl
  · obtain ⟨before, found⟩ := Option.isSome_iff_exists.mp placed
    have sized := network.endpoints.size_insert number endpoint
    rw [found, Option.toList_some, List.length_singleton] at sized
    exact Nat.succ.inj sized

/-- Endpoints change, each on its own. -/
theorem map
    (network : Network)
    (change : Nat → Endpoint → Endpoint) :
    SameShape { network with endpoints := network.endpoints.map change } network :=
  ⟨fun number => by rw [Table.find?_map, Option.isSome_map], List.length_map .., rfl⟩

end SameShape

variable (network : Network)

theorem arrivals_append
    (sender receiver : Nat)
    (first second : List Outgoing) :
    network.arrivals sender receiver (first ++ second) =
      network.arrivals sender receiver first ++ network.arrivals sender receiver second :=
  List.flatMap_append

/-- Nothing arrives where it came from. -/
theorem arrivals_self
    (number : Nat)
    (outgoing : List Outgoing) :
    network.arrivals number number outgoing = [] := by
  refine List.flatMap_eq_nil_iff.mpr fun sent _ => ?_
  rw [sent.not_reaches_self, if_neg Bool.false_ne_true]

theorem mem_arrivals
    {sender receiver : Nat}
    {outgoing : List Outgoing}
    {delivery : Delivery}
    (member : delivery ∈ network.arrivals sender receiver outgoing) :
    ∃ sent ∈ outgoing, delivery = sent.arrival sender := by
  obtain ⟨sent, isSent, arrived⟩ := List.mem_flatMap.mp member
  split at arrived
  next => exact ⟨sent, isSent, List.eq_of_mem_replicate arrived⟩
  next => cases arrived

/-- On a network that loses nothing, whatever is for an endpoint arrives there. -/
theorem arrival_mem_arrivals
    (lossless : 0 < network.faults.copies)
    {sender receiver : Nat}
    {outgoing : List Outgoing}
    {sent : Outgoing}
    (isSent : sent ∈ outgoing)
    (reaches : sent.reaches sender receiver = true) :
    sent.arrival sender ∈ network.arrivals sender receiver outgoing := by
  refine List.mem_flatMap.mpr ⟨sent, isSent, ?_⟩
  rw [if_pos reaches]
  exact List.mem_replicate.mpr ⟨Nat.ne_of_gt lossless, rfl⟩

theorem queue?_send
    (sender : Nat)
    (outgoing : Outgoing)
    (receiver : Nat) :
    (network.send sender outgoing).queue? receiver =
      (network.queue? receiver).map (· ++ network.arrivals sender receiver [outgoing]) := by
  simp only [arrivals, List.flatMap_cons, List.flatMap_nil, List.append_nil]
  cases outgoing with
  | broadcast stream payload =>
      simp only [send, deliverToOthers, queue?, Table.find?_map, Outgoing.reaches,
        Outgoing.arrival, decide_eq_true_eq]
      cases network.endpoints.find? receiver with
      | none => rfl
      | some endpoint =>
          by_cases isSender : receiver = sender
          · simp [isSender]
          · simp [isSender, Endpoint.enqueue]
  | reply origin stream payload =>
      cases origin with
      | socket address => simp [send, Outgoing.reaches]
      | endpoint target =>
          by_cases toSelf : target = sender
          · simp [send, toSelf, Outgoing.reaches]
          · simp only [send, if_neg toSelf, deliver, queue?, Table.find?_modify, Outgoing.reaches,
              Outgoing.arrival, decide_eq_true_eq]
            by_cases isTarget : receiver = target
            · subst isTarget
              cases network.endpoints.find? receiver <;> simp [toSelf, Endpoint.enqueue]
            · simp [isTarget]

theorem sameShape_send
    (sender : Nat)
    (outgoing : Outgoing) :
    SameShape (network.send sender outgoing) network := by
  cases outgoing with
  | broadcast => exact .map network _
  | reply origin =>
      cases origin with
      | socket => exact .refl network
      | endpoint target =>
          by_cases toSelf : target = sender
          · rw [send, if_pos toSelf]
            exact .refl network
          · rw [send, if_neg toSelf]
            exact .map network _

theorem sendAll_spec
    (sender : Nat)
    (outgoing : List Outgoing) :
    SameShape (network.sendAll sender outgoing) network ∧
      ∀ receiver, (network.sendAll sender outgoing).queue? receiver =
        (network.queue? receiver).map (· ++ network.arrivals sender receiver outgoing) := by
  induction outgoing generalizing network with
  | nil =>
      refine ⟨.refl network, fun receiver => ?_⟩
      simp [sendAll, arrivals]
  | cons first rest inductionHypothesis =>
      obtain ⟨shape, queue⟩ := inductionHypothesis (network.send sender first)
      have firstShape := network.sameShape_send sender first
      refine ⟨shape.trans firstShape, fun receiver => ?_⟩
      have sameArrivals : (network.send sender first).arrivals sender receiver rest =
          network.arrivals sender receiver rest := by
        simp only [arrivals, firstShape.faults]
      change ((network.send sender first).sendAll sender rest).queue? receiver = _
      rw [queue, queue?_send, sameArrivals, Option.map_map]
      congr 1
      funext waiting
      have apart := network.arrivals_append sender receiver [first] rest
      rw [List.singleton_append] at apart
      rw [Function.comp_apply, apart, List.append_assoc]

theorem queue?_stop
    (number receiver : Nat) :
    (network.stop number).queue? receiver =
      if receiver = number then none else network.queue? receiver := by
  simp only [queue?, stop, Table.find?_modify]
  split
  next => cases network.endpoints.find? receiver <;> rfl
  next => rfl

theorem queue?_insert
    (number : Nat)
    (endpoint : Endpoint)
    (receiver : Nat) :
    queue? { network with endpoints := network.endpoints.insert number endpoint } receiver =
      if receiver = number then endpoint.queue else network.queue? receiver := by
  simp only [queue?, Table.find?_insert]
  split <;> rfl

/-- A new endpoint has no queue, and the others stay as they are. -/
theorem endpoint_spec
    (unplaced : network.endpoints.find? (network.endpoints.size + 1) = none) :
    network.endpoint.2.endpoints.size = network.endpoints.size + 1 ∧
      (∀ number, (network.endpoint.2.endpoints.find? number).isSome =
        (decide (number = network.endpoints.size + 1) ||
          (network.endpoints.find? number).isSome)) ∧
      ∀ number, network.endpoint.2.queue? number = network.queue? number := by
  refine ⟨?_, fun number => ?_, fun number => ?_⟩
  · have sized := network.endpoints.size_insert (network.endpoints.size + 1) ⟨none, false⟩
    rw [unplaced] at sized
    exact sized
  · rw [endpoint, Table.find?_insert]
    split
    next isNew => rw [decide_eq_true isNew]; rfl
    next other => rw [decide_eq_false other, Bool.false_or]
  · rw [endpoint, queue?_insert]
    split
    next isNew => rw [isNew, queue?, unplaced]; rfl
    next => rfl

/-- The first payload of a queue has been taken off. -/
structure Taken
    (number : Nat)
    (first : Delivery)
    (rest : List Delivery)
    (next : Network) : Prop where
  waiting : network.queue? number = some (first :: rest)
  shape : SameShape next network
  queue : ∀ receiver, next.queue? receiver =
    if receiver = number then some rest else network.queue? receiver

/-- Taking removes the first payload of a queue, if there is one. -/
theorem take_cases (number : Nat) :
    (∃ first rest next, network.take number = (some first, next) ∧
      network.Taken number first rest next) ∨
      ∃ next, network.take number = (none, next) ∧ SameShape next network ∧
        ∀ receiver, next.queue? receiver = network.queue? receiver := by
  unfold take
  split
  next first rest fresh found =>
    refine .inl ⟨first, rest, _, rfl, by rw [queue?, found]; rfl,
      .insert (by rw [found]; rfl) _, fun receiver => ?_⟩
    exact network.queue?_insert number _ receiver
  next fresh found =>
    refine .inr ⟨_, rfl, .insert (by rw [found]; rfl) _, fun receiver => ?_⟩
    rw [queue?_insert]
    split
    next isNumber => rw [isNumber, queue?, found]; rfl
    next => rfl
  next => exact .inr ⟨network, rfl, .refl network, fun _ => rfl⟩

/-- What waits is taken in order. -/
theorem take_of_waiting
    {number : Nat}
    {first : Delivery}
    {rest : List Delivery}
    (waiting : network.queue? number = some (first :: rest)) :
    (network.take number).1 = some first := by
  obtain ⟨⟨queue, fresh⟩, found, rfl⟩ := Option.bind_eq_some_iff.mp waiting
  rw [take, found]

theorem isStarted_eq (number : Nat) :
    network.isStarted number = (network.queue? number).isSome := by
  unfold isStarted queue?
  cases network.endpoints.find? number <;> rfl

end Network

end Discovery
