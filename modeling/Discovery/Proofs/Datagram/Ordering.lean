import Discovery.Datagram.Transport
import Discovery.Proofs.Datagram.Frame
import Discovery.Table.Lemmas

namespace Discovery.Datagram

/-!
# Streams over datagrams

A sender numbers what it sends on a stream, and a receiver takes in what has a
greater number than everything before.  As long as the numbers of a stream do not
run out, whatever arrives in the order in which it was sent is delivered, however
much is lost (`Transport.deliveries_eq`).  The number after the greatest one is
zero, which a receiver refuses (`Transport.deliveries_wrapped`).
-/

namespace SequenceFilter

/-- The greatest number that a filter has seen of a flow. -/
def greatest (filter : SequenceFilter) (flow : Flow) : Nat :=
  ((filter.last.find? flow).map fun seen => seen.sequence.toNat).getD 0

/-- A greater number is accepted, and is the greatest from then on. -/
theorem accept_of_lt
    {filter : SequenceFilter}
    {sender : UInt32}
    {stream : StreamId}
    {sequence : UInt32}
    (numbered : stream.isNil = false)
    (greater : filter.greatest ⟨sender, stream⟩ < sequence.toNat)
    (now : Instant) :
    (filter.accept now sender stream sequence).1 = true ∧
      ∀ flow, (filter.accept now sender stream sequence).2.greatest flow =
        if flow = ⟨sender, stream⟩ then sequence.toNat else filter.greatest flow := by
  have notStale :
      ¬ sequence ≤ ((filter.last.find? ⟨sender, stream⟩).getD ⟨0, now⟩).sequence := by
    unfold greatest at greater
    rw [UInt32.le_iff_toNat_le, Nat.not_le]
    cases known : filter.last.find? ⟨sender, stream⟩ with
    | none =>
        rw [known] at greater
        exact greater
    | some seen =>
        rw [known] at greater
        exact greater
  unfold accept
  rw [numbered, if_neg Bool.false_ne_true, if_neg notStale]
  refine ⟨rfl, fun flow => ?_⟩
  unfold greatest
  rw [Table.find?_insert]
  split <;> rfl

end SequenceFilter

/-- A payload that has left in a packet. -/
structure Emission where
  stream : StreamId
  payload : Bytes
  packet : Packet
  deriving DecidableEq, Repr

namespace Emission

/-- The number under which a payload has left. -/
def sequence (emission : Emission) : Nat :=
  ((Header.parse emission.packet.datagram).map fun read => read.1.sequence.toNat).getD 0

/-- The packet holds the payload behind a header that names the sender. -/
def SentBy (nonce : UInt32) (emission : Emission) : Prop :=
  ∃ flags sequence, Header.parse emission.packet.datagram =
    some (.outgoing flags emission.stream nonce sequence, emission.payload)

end Emission

namespace Transport

/-- Something that a participant does with its end of a transport. -/
inductive Deed where
  | start (hasRuntime : Bool)
  | stop
  | broadcast (stream : StreamId) (payload : Bytes)
  | reply (origin : Origin) (stream : StreamId) (payload : Bytes)
  | receive (now : Instant) (address : String) (datagram : Bytes)
  | forgetSilent (now : Instant)
  deriving DecidableEq, Repr

/-- Whether a deed is to send something on a stream. -/
def Deed.sendsOn (stream : StreamId) : Deed → Bool
  | .broadcast other _ | .reply _ other _ => other == stream
  | _ => false

/-- Do something, and say what has left. -/
def perform (transport : Transport) : Deed → Option Emission × Transport
  | .start hasRuntime =>
      match transport.start hasRuntime with
      | .ok started => (none, started)
      | .error _ => (none, transport)
  | .stop => (none, transport.stop)
  | .broadcast stream payload =>
      let (packet, next) := transport.broadcast stream payload
      (packet.map (⟨stream, payload, ·⟩), next)
  | .reply origin stream payload =>
      let (packet, next) := transport.reply origin stream payload
      (packet.map (⟨stream, payload, ·⟩), next)
  | .receive now address datagram => (none, (transport.receive now address datagram).2)
  | .forgetSilent now => (none, transport.forgetSilent now)

/-- What leaves while some deeds are done, in the order in which it leaves. -/
def emissions (transport : Transport) : List Deed → List Emission
  | [] => []
  | deed :: rest =>
      (transport.perform deed).1.toList ++ (transport.perform deed).2.emissions rest

/-- The number of the last datagram on a stream. -/
def counter (transport : Transport) (stream : StreamId) : Nat :=
  ((transport.outgoing.find? stream).map UInt32.toNat).getD 0

section Sending

variable {transport : Transport}

/-- A transport takes its numbers one after another, as long as there are any. -/
theorem takeSequence_of_lt
    {stream : StreamId}
    (numbered : stream.isNil = false)
    (few : transport.counter stream + 1 < UInt32.size) :
    (transport.takeSequence stream).1.toNat = transport.counter stream + 1 ∧
      (transport.takeSequence stream).2.counter stream = transport.counter stream + 1 := by
  have next : ((transport.outgoing.find? stream).getD 0 + 1).toNat =
      transport.counter stream + 1 := by
    unfold counter at few ⊢
    rw [UInt32.toNat_add]
    cases known : transport.outgoing.find? stream with
    | none => rfl
    | some last =>
        rw [known] at few
        exact Nat.mod_eq_of_lt few
  unfold takeSequence
  rw [numbered, if_neg Bool.false_ne_true]
  refine ⟨next, ?_⟩
  rw [counter, Table.find?_insert, if_pos rfl]
  exact next

/-- To take a number on one stream concerns no other stream. -/
theorem takeSequence_keeps
    (transport : Transport)
    (stream : StreamId) :
    (transport.takeSequence stream).2.nonce = transport.nonce ∧
      ∀ {other}, other ≠ stream →
        (transport.takeSequence stream).2.counter other = transport.counter other := by
  unfold takeSequence
  split
  next => exact ⟨rfl, fun _ => rfl⟩
  next =>
    refine ⟨rfl, fun different => ?_⟩
    rw [counter, Table.find?_insert, if_neg different, counter]

/-- What a deed may come to: only sending takes a number. -/
inductive Performs (transport : Transport) (deed : Deed) : Option Emission × Transport → Prop where
  | quiet
      {next : Transport}
      (nonce : next.nonce = transport.nonce)
      (outgoing : next.outgoing = transport.outgoing) :
      Performs transport deed (none, next)
  | tooLong
      {stream : StreamId}
      (sends : deed.sendsOn stream = true) :
      Performs transport deed (none, (transport.takeSequence stream).2)
  | left
      {stream : StreamId}
      {payload : Bytes}
      {packet : Packet}
      {flags : UInt8}
      (sends : deed.sendsOn stream = true)
      (reads : Header.parse packet.datagram =
        some (.outgoing flags stream transport.nonce (transport.takeSequence stream).1, payload)) :
      Performs transport deed (some ⟨stream, payload, packet⟩, (transport.takeSequence stream).2)

theorem performs_send
    {deed : Deed}
    {stream : StreamId}
    (sends : deed.sendsOn stream = true)
    (target : Target)
    (flags : UInt8)
    (payload : Bytes) :
    Performs transport deed
      ((transport.send target flags stream payload).1.map (⟨stream, payload, ·⟩),
        (transport.send target flags stream payload).2) := by
  unfold send
  split
  next =>
    dsimp only
    split
    next => exact .left sends (Header.parse_encode ..)
    next => exact .tooLong sends
  next => exact .quiet rfl rfl

theorem performs_perform
    (transport : Transport)
    (deed : Deed) :
    Performs transport deed (transport.perform deed) := by
  cases deed with
  | start hasRuntime =>
      unfold perform start
      cases transport.started with
      | true => exact .quiet rfl rfl
      | false => cases hasRuntime <;> exact .quiet rfl rfl
  | stop => exact .quiet rfl rfl
  | broadcast stream payload =>
      have sends : Deed.sendsOn stream (.broadcast stream payload) = true := beq_self_eq_true stream
      exact performs_send sends .group 0 payload
  | reply origin stream payload =>
      cases origin with
      | socket address =>
          have sends : Deed.sendsOn stream (.reply (.socket address) stream payload) = true :=
            beq_self_eq_true stream
          exact performs_send sends (.peer address) replyFlags payload
      | endpoint number => exact .quiet rfl rfl
  | receive now address datagram =>
      unfold perform receive
      dsimp only
      split
      next => exact .quiet rfl rfl
      next => split <;> exact .quiet rfl rfl
  | forgetSilent now =>
      unfold perform forgetSilent
      dsimp only
      split <;> exact .quiet rfl rfl

/-- A participant keeps its nonce and marks with it whatever it sends. -/
theorem nonce_perform
    (transport : Transport)
    (deed : Deed) :
    (transport.perform deed).2.nonce = transport.nonce ∧
      ∀ emission ∈ (transport.perform deed).1, emission.SentBy transport.nonce := by
  have performs := transport.performs_perform deed
  generalize transport.perform deed = performed at performs
  cases performs with
  | quiet nonce => exact ⟨nonce, nofun⟩
  | tooLong => exact ⟨(transport.takeSequence_keeps _).1, nofun⟩
  | left _ reads =>
      refine ⟨(transport.takeSequence_keeps _).1, fun emission isSent => ?_⟩
      cases isSent
      exact ⟨_, _, reads⟩

/-- What is sent on a stream has the next number, and nothing else takes a number of the stream. -/
theorem counter_perform
    {stream : StreamId}
    {deed : Deed}
    (numbered : stream.isNil = false)
    (few : transport.counter stream + (if deed.sendsOn stream then 1 else 0) < UInt32.size) :
    transport.counter stream ≤ (transport.perform deed).2.counter stream ∧
      (transport.perform deed).2.counter stream ≤
        transport.counter stream + (if deed.sendsOn stream then 1 else 0) ∧
      ∀ emission ∈ (transport.perform deed).1, emission.stream = stream →
        transport.counter stream < emission.sequence ∧
          emission.sequence ≤ (transport.perform deed).2.counter stream := by
  have taken : ∀ {other}, deed.sendsOn other = true →
      transport.counter stream ≤ (transport.takeSequence other).2.counter stream ∧
        (transport.takeSequence other).2.counter stream ≤
          transport.counter stream + (if deed.sendsOn stream then 1 else 0) := by
    intro other sends
    by_cases isOther : stream = other
    · subst isOther
      rw [if_pos sends] at few ⊢
      rw [(takeSequence_of_lt numbered few).2]
      exact ⟨Nat.le_succ _, Nat.le_refl _⟩
    · rw [(transport.takeSequence_keeps other).2 isOther]
      exact ⟨Nat.le_refl _, Nat.le_add_right _ _⟩
  have performs := transport.performs_perform deed
  generalize transport.perform deed = performed at performs
  cases performs with
  | @quiet next nonce outgoing =>
      have same : next.counter stream = transport.counter stream := by
        rw [counter, outgoing, counter]
      exact ⟨Nat.le_of_eq same.symm, same ▸ Nat.le_add_right _ _, nofun⟩
  | tooLong sends => exact ⟨(taken sends).1, (taken sends).2, nofun⟩
  | @left other payload packet flags sends reads =>
      refine ⟨(taken sends).1, (taken sends).2, fun emission isSent isStream => ?_⟩
      cases isSent
      change other = stream at isStream
      subst isStream
      rw [if_pos sends] at few
      obtain ⟨isNext, counted⟩ := takeSequence_of_lt numbered few
      have sequence : Emission.sequence ⟨other, payload, packet⟩ =
          (transport.takeSequence other).1.toNat := by
        rw [Emission.sequence, reads]
        rfl
      rw [sequence, isNext, counted]
      exact ⟨Nat.lt_succ_self _, Nat.le_refl _⟩

end Sending

section Runs

/-- A stream on which some deeds do not use up the numbers. -/
def Lasts (transport : Transport) (deeds : List Deed) (stream : StreamId) : Prop :=
  stream.isNil = false ∧
    transport.counter stream + deeds.countP (Deed.sendsOn stream) < UInt32.size

/-- Everything that leaves is marked by its sender. -/
theorem sentBy_of_mem_emissions
    (deeds : List Deed)
    (transport : Transport)
    {emission : Emission}
    (isSent : emission ∈ transport.emissions deeds) :
    emission.SentBy transport.nonce := by
  induction deeds generalizing transport with
  | nil => cases isSent
  | cons deed rest inductionHypothesis =>
      obtain ⟨nonce, marked⟩ := transport.nonce_perform deed
      rcases List.mem_append.mp isSent with now | later
      · exact marked emission (Option.mem_toList.mp now)
      · exact nonce ▸ inductionHypothesis _ later

/-- The numbers of a stream ascend as long as they last. -/
theorem ascending_emissions
    (deeds : List Deed)
    (transport : Transport) :
    (∀ emission ∈ transport.emissions deeds, transport.Lasts deeds emission.stream →
      transport.counter emission.stream < emission.sequence) ∧
    (transport.emissions deeds).Pairwise fun first second =>
      first.stream = second.stream → transport.Lasts deeds first.stream →
        first.sequence < second.sequence := by
  induction deeds generalizing transport with
  | nil => exact ⟨nofun, .nil⟩
  | cons deed rest inductionHypothesis =>
      have further : ∀ {stream}, transport.Lasts (deed :: rest) stream →
          transport.counter stream + (if deed.sendsOn stream then 1 else 0) < UInt32.size ∧
            (transport.perform deed).2.Lasts rest stream := by
        intro stream ⟨numbered, few⟩
        rw [List.countP_cons] at few
        have once : transport.counter stream + (if deed.sendsOn stream then 1 else 0) <
            UInt32.size := by omega
        obtain ⟨_, most, _⟩ := counter_perform numbered once
        exact ⟨once, numbered, by omega⟩
      obtain ⟨ahead, ascending⟩ := inductionHypothesis (transport.perform deed).2
      constructor
      · intro emission isSent lasts
        obtain ⟨once, still⟩ := further lasts
        obtain ⟨least, _, next⟩ := counter_perform lasts.1 once
        rcases List.mem_append.mp isSent with now | later
        · exact (next emission (Option.mem_toList.mp now) rfl).1
        · exact Nat.lt_of_le_of_lt least (ahead emission later still)
      · refine List.pairwise_append.mpr ⟨?_, ?_, ?_⟩
        · cases (transport.perform deed).1 with
          | none => exact .nil
          | some => exact List.pairwise_singleton _ _
        · exact ascending.imp fun before same lasts => before same (further lasts).2
        · intro first now second later same lasts
          obtain ⟨once, still⟩ := further lasts
          obtain ⟨_, _, next⟩ := counter_perform lasts.1 once
          have reached := (next first (Option.mem_toList.mp now) rfl).2
          have beyond := ahead second later (same ▸ still)
          exact Nat.lt_of_le_of_lt reached (same ▸ beyond)

end Runs

/-- A packet that reaches a receiver. -/
structure Arrival where
  now : Instant
  address : String
  emission : Emission
  deriving DecidableEq, Repr

/-- What a receiver delivers of each packet that reaches it, one after another. -/
def deliveries (transport : Transport) : List Arrival → List (Option Delivery)
  | [] => []
  | ⟨now, address, emission⟩ :: rest =>
      let (delivery, next) := transport.receive now address emission.packet.datagram
      delivery :: next.deliveries rest

/-- The delivery of what an arriving packet holds. -/
def Arrival.delivery (arrival : Arrival) : Delivery :=
  ⟨arrival.emission.stream, arrival.emission.payload, .socket arrival.address⟩

section Receiving

/-- What has arrived on the stream of a packet was sent before it. -/
def Awaits (receiver : Transport) (nonce : UInt32) (emission : Emission) : Prop :=
  emission.stream.isNil = false →
    receiver.incoming.greatest ⟨nonce, emission.stream⟩ < emission.sequence

/-- A packet that a receiver awaits is delivered, and what was sent after it is awaited still. -/
theorem receive_of_awaits
    {receiver : Transport}
    {nonce : UInt32}
    (different : nonce ≠ receiver.nonce)
    {arrival : Arrival}
    (marked : arrival.emission.SentBy nonce)
    (awaits : receiver.Awaits nonce arrival.emission) :
    ∃ next, receiver.receive arrival.now arrival.address arrival.emission.packet.datagram =
        (some arrival.delivery, next) ∧ next.nonce = receiver.nonce ∧
      ∀ {later : Emission}, receiver.Awaits nonce later →
        (later.stream = arrival.emission.stream → later.stream.isNil = false →
          arrival.emission.sequence < later.sequence) → next.Awaits nonce later := by
  obtain ⟨flags, sequence, reads⟩ := marked
  have isSequence : arrival.emission.sequence = sequence.toNat := by
    rw [Emission.sequence, reads]
    rfl
  have receives : receiver.receive arrival.now arrival.address arrival.emission.packet.datagram =
      let judged := receiver.incoming.accept arrival.now nonce arrival.emission.stream sequence
      (if judged.1 then some arrival.delivery else none,
        { receiver with incoming := judged.2 }) := by
    rw [receive, reads]
    exact if_neg different
  rw [receives]
  cases numbered : arrival.emission.stream.isNil with
  | true =>
      have accepted : receiver.incoming.accept arrival.now nonce arrival.emission.stream sequence =
          (true, receiver.incoming) := by
        rw [SequenceFilter.accept, if_pos numbered]
      rw [accepted]
      exact ⟨receiver, rfl, rfl, fun awaited _ => awaited⟩
  | false =>
      have greater := awaits numbered
      rw [isSequence] at greater
      obtain ⟨accepted, greatest⟩ := SequenceFilter.accept_of_lt numbered greater arrival.now
      dsimp only
      rw [accepted, if_pos rfl]
      refine ⟨_, rfl, rfl, fun {later} awaited after isNumbered => ?_⟩
      rw [greatest]
      split
      next sameFlow =>
        rw [← isSequence]
        exact after (congrArg Flow.stream sameFlow) isNumbered
      next => exact awaited isNumbered

/-- Packets that arrive in the order of their numbers are all delivered. -/
theorem deliveries_of_ascending
    {nonce : UInt32}
    {arrivals : List Arrival}
    {receiver : Transport}
    (different : nonce ≠ receiver.nonce)
    (marked : ∀ arrival ∈ arrivals, arrival.emission.SentBy nonce)
    (awaits : ∀ arrival ∈ arrivals, receiver.Awaits nonce arrival.emission)
    (ascending : arrivals.Pairwise fun first second =>
      first.emission.stream = second.emission.stream → first.emission.stream.isNil = false →
        first.emission.sequence < second.emission.sequence) :
    receiver.deliveries arrivals = arrivals.map fun arrival => some arrival.delivery := by
  induction arrivals generalizing receiver with
  | nil => rfl
  | cons arrival rest inductionHypothesis =>
      obtain ⟨first, others⟩ := List.pairwise_cons.mp ascending
      obtain ⟨next, received, sameNonce, still⟩ := receive_of_awaits different
        (marked arrival List.mem_cons_self) (awaits arrival List.mem_cons_self)
      have delivered := inductionHypothesis (sameNonce ▸ different)
        (fun later isLater => marked later (List.mem_cons_of_mem _ isLater))
        (fun later isLater => still (awaits later (List.mem_cons_of_mem _ isLater))
          fun same numbered => first later isLater same.symm (same ▸ numbered)) others
      rw [deliveries, received, List.map_cons, ← delivered]

end Receiving

/--
Whatever a participant does, what it sends on a stream is delivered if it
arrives in the order in which it was sent, however much is lost: each packet
that arrives, broadcast or reply, is delivered once, with its payload.  This
needs fewer than `UInt32.size` sends on each stream of which something arrives;
on the nil stream there may be any number of them.
-/
theorem deliveries_eq
    {nonce : UInt32}
    {deeds : List Deed}
    {receiver : Transport}
    (different : nonce ≠ receiver.nonce)
    (fresh : receiver.incoming = .empty)
    {arrivals : List Arrival}
    (inOrder : (arrivals.map Arrival.emission).Sublist ((Transport.new nonce).emissions deeds))
    (few : ∀ arrival ∈ arrivals, arrival.emission.stream.isNil = false →
      deeds.countP (Deed.sendsOn arrival.emission.stream) < UInt32.size) :
    receiver.deliveries arrivals = arrivals.map fun arrival => some arrival.delivery := by
  have isSent : ∀ arrival ∈ arrivals, arrival.emission ∈ (Transport.new nonce).emissions deeds :=
    fun arrival arrives => inOrder.subset (List.mem_map_of_mem arrives)
  have lasts : ∀ arrival ∈ arrivals, arrival.emission.stream.isNil = false →
      (Transport.new nonce).Lasts deeds arrival.emission.stream := by
    intro arrival arrives numbered
    refine ⟨numbered, ?_⟩
    rw [show (Transport.new nonce).counter arrival.emission.stream = 0 from rfl, Nat.zero_add]
    exact few arrival arrives numbered
  obtain ⟨ahead, ascending⟩ := ascending_emissions deeds (.new nonce)
  refine deliveries_of_ascending different ?_ ?_ ?_
  · exact fun arrival arrives => sentBy_of_mem_emissions deeds _ (isSent arrival arrives)
  · intro arrival arrives numbered
    rw [fresh]
    exact ahead _ (isSent arrival arrives) (lasts arrival arrives numbered)
  · have sublist := List.pairwise_map.mp (ascending.sublist inOrder)
    refine sublist.imp_of_mem fun arrives _ before same numbered => ?_
    exact before same (lasts _ arrives numbered)

/-- A broadcast is lost, and the reply and the broadcast after it are delivered. -/
theorem deliveries_eq_lossy :
    let stream : StreamId := ⟨List.replicate 16 1, List.length_replicate⟩
    let deeds : List Deed :=
      [ .start true, .broadcast stream [1], .reply (.socket "peer") stream [2]
      , .broadcast stream [3] ]
    let arrivals := ((Transport.new 7).emissions deeds).tail.map (⟨0, "sender", ·⟩)
    arrivals.length = 2 ∧
      (arrivals.map Arrival.emission).Sublist ((Transport.new 7).emissions deeds) ∧
      (Transport.new 8).deliveries arrivals =
        arrivals.map fun arrival => some arrival.delivery := by
  intro stream deeds arrivals
  have inOrder : (arrivals.map Arrival.emission).Sublist ((Transport.new 7).emissions deeds) := by
    have same : arrivals.map Arrival.emission = ((Transport.new 7).emissions deeds).tail := by
      simp only [arrivals, List.map_map, Function.comp_def, List.map_id']
    rw [same]
    exact List.tail_sublist _
  have few : ∀ other, deeds.countP (Deed.sendsOn other) < UInt32.size := fun other =>
    Nat.lt_of_le_of_lt List.countP_le_length (by decide)
  exact ⟨by decide +kernel, inOrder,
    deliveries_eq (by decide) rfl inOrder fun arrival _ _ => few arrival.emission.stream⟩

section Wrapping

variable {stream : StreamId} {transport : Transport} {taken : Nat}

/-- What is broadcast has the number after the last one, which is zero after the greatest. -/
theorem broadcast_of_started
    (numbered : stream.isNil = false)
    (started : transport.started = true)
    (last : (transport.outgoing.find? stream).getD 0 = UInt32.ofNat taken) :
    ∃ packet next, transport.broadcast stream [] = (some packet, next) ∧
      Header.parse packet.datagram =
        some (.outgoing 0 stream transport.nonce (UInt32.ofNat (taken + 1)), []) ∧
      next.started = true ∧ next.nonce = transport.nonce ∧
      (next.outgoing.find? stream).getD 0 = UInt32.ofNat (taken + 1) := by
  let next : Transport :=
    { transport with outgoing := transport.outgoing.insert stream (UInt32.ofNat (taken + 1)) }
  let header : Header := .outgoing 0 stream transport.nonce (UInt32.ofNat (taken + 1))
  have counted : UInt32.ofNat taken + 1 = UInt32.ofNat (taken + 1) := (UInt32.ofNat_add ..).symm
  have takes : transport.takeSequence stream = (UInt32.ofNat (taken + 1), next) := by
    rw [takeSequence, numbered, if_neg Bool.false_ne_true, last, counted]
  have fits : (header.encode ++ []).length ≤ datagramLimit := by
    rw [List.length_append, header.length_encode]
    decide
  refine ⟨⟨.group, header.encode ++ []⟩, next, ?_, header.parse_encode [], started, rfl, ?_⟩
  · rw [broadcast, send, if_pos started, takes]
    exact if_pos fits
  · rw [Table.find?_insert, if_pos rfl, Option.getD_some]

/-- However often something is broadcast on a stream, it is counted. -/
theorem exists_emission_replicate
    (numbered : stream.isNil = false)
    (count : Nat)
    (started : transport.started = true)
    (last : (transport.outgoing.find? stream).getD 0 = UInt32.ofNat taken) :
    ∃ emission ∈ transport.emissions (List.replicate (count + 1) (.broadcast stream [])),
      Header.parse emission.packet.datagram =
        some (.outgoing 0 stream transport.nonce (UInt32.ofNat (taken + (count + 1))), []) := by
  induction count generalizing transport taken with
  | zero =>
      obtain ⟨packet, next, sends, reads, _⟩ := broadcast_of_started numbered started last
      refine ⟨⟨stream, [], packet⟩, ?_, reads⟩
      rw [List.replicate_succ, emissions, perform, sends]
      exact List.mem_append_left _ List.mem_cons_self
  | succ count inductionHypothesis =>
      obtain ⟨packet, next, sends, _, stillStarted, sameNonce, nextLast⟩ :=
        broadcast_of_started numbered started last
      obtain ⟨emission, isSent, reads⟩ := inductionHypothesis stillStarted nextLast
      refine ⟨emission, ?_, ?_⟩
      · rw [List.replicate_succ, emissions, perform, sends]
        exact List.mem_append_right _ isSent
      · rw [reads, sameNonce, Nat.add_right_comm taken 1, Nat.add_assoc taken]

/-- The number after the greatest one is zero, which nobody accepts. -/
theorem deliveries_wrapped :
    let stream : StreamId := ⟨List.replicate 16 1, List.length_replicate⟩
    let deeds := .start true :: List.replicate (4294967295 + 1) (.broadcast stream [])
    ∃ emission : Emission,
      ([⟨0, "sender", emission⟩].map Arrival.emission).Sublist
          ((Transport.new 7).emissions deeds) ∧
        (Transport.new 8).deliveries [⟨0, "sender", emission⟩] = [none] := by
  intro stream deeds
  let started : Transport := ⟨7, true, ∅, .empty⟩
  have numbered : stream.isNil = false := by decide
  obtain ⟨emission, isSent, reads⟩ :=
    exists_emission_replicate numbered 4294967295 (show started.started = true from rfl)
      (show (started.outgoing.find? stream).getD 0 = UInt32.ofNat 0 from rfl)
  refine ⟨emission, List.singleton_sublist.mpr (List.mem_append_right _ isSent), ?_⟩
  rw [deliveries, receive, reads]
  rfl

end Wrapping

end Transport

end Discovery.Datagram
