import Discovery.Datagram.Transport
import Discovery.Proofs.Datagram.Filtering
import Discovery.Proofs.Datagram.Frame

namespace Discovery.Datagram

/-!
# What a receiver hands over

A receiver takes in whatever the network brings, and now and then looks for flows
that have been silent.  What is no frame and what it sent itself passes by without
a trace (`Transport.takeIn_of_passedBy`); of the rest exactly what the filter
accepts is handed over, in the order in which it came (`Transport.receives`).
-/

/-- What a receiver meets with. -/
inductive Intake where
  | datagram (now : Instant) (address : String) (bytes : Bytes)
  | lookForSilence (now : Instant)
  deriving DecidableEq, Repr

namespace Intake

/-- Whether a datagram is a frame of someone else; looking for silence concerns everyone. -/
def isGenuine (nonce : UInt32) : Intake → Bool
  | .datagram _ _ bytes => Header.isFrame bytes && (Header.standing bytes).sender != nonce
  | .lookForSilence _ => true

/-- The call that is made on the filter. -/
def call : Intake → SequenceFilter.Call
  | .datagram now _ bytes =>
      let header := Header.standing bytes
      .judge now ⟨header.sender, header.stream⟩ header.sequence
  | .lookForSilence now => .prune (now - sequenceHorizon)

/-- What is handed over of a datagram if the filter accepts it. -/
def delivery? : Intake → SequenceFilter.Verdict → Option Delivery
  | .datagram _ address bytes, .judged _ _ _ true =>
      some ⟨(Header.standing bytes).stream, bytes.drop headerLength, .socket address⟩
  | _, _ => none

end Intake

namespace Transport

/-- What is handed over when something is taken in, and the transport afterwards. -/
def takeIn (transport : Transport) : Intake → Option Delivery × Transport
  | .datagram now address bytes => transport.receive now address bytes
  | .lookForSilence now => (none, transport.forgetSilent now)

/-- The transport after something was taken in. -/
def took (transport : Transport) (intake : Intake) : Transport :=
  (transport.takeIn intake).2

/-- All that is handed over, in order. -/
def handed (transport : Transport) : List Intake → List Delivery
  | [] => []
  | intake :: rest => (transport.takeIn intake).1.toList ++ (transport.took intake).handed rest

section Steps

variable {transport : Transport} {intake : Intake}

/-- A cutoff at the start of the clock forgets nothing. -/
theorem after_prune_zero (filter : SequenceFilter) : filter.after (.prune 0) = filter := by
  have same : ∀ flow, (filter.after (.prune 0)).last.find? flow = filter.last.find? flow := by
    intro flow
    rw [SequenceFilter.find?_prune]
    cases filter.last.find? flow with
    | none => rfl
    | some seen => exact Option.filter_some_pos (decide_eq_true (Nat.zero_le seen.acceptedAt))
  exact congrArg SequenceFilter.mk (Table.ext_find? same)

/-- What is no frame and what the receiver sent itself passes by without a trace. -/
theorem takeIn_of_passedBy
    (passedBy : intake.isGenuine transport.nonce = false) :
    transport.takeIn intake = (none, transport) := by
  cases intake with
  | lookForSilence now => cases passedBy
  | datagram now address bytes =>
      rw [takeIn, receive, Header.parse_eq]
      cases isFrame : Header.isFrame bytes with
      | false => rfl
      | true =>
          rw [Intake.isGenuine, isFrame, Bool.true_and, bne_eq_false_iff_eq] at passedBy
          exact if_pos passedBy

/-- Anything else is put to the filter, and handed over if the filter accepts it. -/
theorem takeIn_of_isGenuine
    (genuine : intake.isGenuine transport.nonce = true) :
    transport.takeIn intake =
      (intake.delivery? (transport.incoming.verdict intake.call),
        { transport with incoming := transport.incoming.after intake.call }) := by
  cases intake with
  | lookForSilence now =>
      rw [takeIn, forgetSilent]
      split
      next early =>
        have start : now - sequenceHorizon = 0 := Nat.sub_eq_zero_of_le (Nat.le_of_lt early)
        rw [Intake.call, start, after_prune_zero]
        rfl
      next => rfl
  | datagram now address bytes =>
      obtain ⟨isFrame, other⟩ := Bool.and_eq_true_iff.mp genuine
      rw [takeIn, receive, Header.parse_eq, if_pos isFrame]
      refine (if_neg (bne_iff_ne.mp other)).trans ?_
      rw [Intake.call, SequenceFilter.verdict, SequenceFilter.after, SequenceFilter.accepts]
      cases transport.incoming.accept now (Header.standing bytes).sender
        (Header.standing bytes).stream (Header.standing bytes).sequence with
      | mk accepted incoming => cases accepted <;> rfl

theorem nonce_took
    (transport : Transport)
    (intake : Intake) :
    (transport.took intake).nonce = transport.nonce := by
  cases genuine : intake.isGenuine transport.nonce with
  | true => rw [took, takeIn_of_isGenuine genuine]
  | false => rw [took, takeIn_of_passedBy genuine]

end Steps

/-- What a receiver hands over of what it meets with, and what of that concerns its filter. -/
structure Receives
    (transport : Transport)
    (intakes : List Intake) : Prop where
  /-- Exactly what is genuine and accepted by the filter is handed over, in order. -/
  handed : transport.handed intakes =
    let genuine := intakes.filter (Intake.isGenuine transport.nonce)
    (List.zipWith Intake.delivery? genuine
      (transport.incoming.verdicts (genuine.map Intake.call))).filterMap id
  /-- The filter answers what is genuine and nothing else. -/
  filtered : (intakes.foldl took transport).incoming =
    ((intakes.filter (Intake.isGenuine transport.nonce)).map Intake.call).foldl
      SequenceFilter.after transport.incoming
  /-- What is not genuine can be left out or put in anywhere. -/
  regardless : ∀ others, others.filter (Intake.isGenuine transport.nonce) =
      intakes.filter (Intake.isGenuine transport.nonce) →
    transport.handed others = transport.handed intakes
  /-- What is not genuine hands nothing over and leaves no trace. -/
  traceless : ∀ intake, intake.isGenuine transport.nonce = false →
    transport.takeIn intake = (none, transport)

section Runs

/-- What is genuine and accepted by the filter is handed over, in the order in which it came. -/
theorem handed_eq
    (transport : Transport)
    (intakes : List Intake) :
    transport.handed intakes =
      let genuine := intakes.filter (Intake.isGenuine transport.nonce)
      (List.zipWith Intake.delivery? genuine
        (transport.incoming.verdicts (genuine.map Intake.call))).filterMap id := by
  induction intakes generalizing transport with
  | nil => rfl
  | cons intake rest inductionHypothesis =>
      have next := inductionHypothesis (transport.took intake)
      rw [nonce_took] at next
      rw [handed, next]
      cases genuine : intake.isGenuine transport.nonce with
      | false => rw [took, takeIn_of_passedBy genuine, List.filter_cons, genuine]; rfl
      | true =>
          rw [took, takeIn_of_isGenuine genuine, List.filter_cons, genuine]
          change (intake.delivery? (transport.incoming.verdict intake.call)).toList ++ _ =
            (intake.delivery? (transport.incoming.verdict intake.call) :: _).filterMap id
          rw [List.filterMap_cons]
          cases intake.delivery? (transport.incoming.verdict intake.call) <;> rfl

/-- The filter answers what is genuine and nothing else. -/
theorem incoming_foldl_took
    (transport : Transport)
    (intakes : List Intake) :
    (intakes.foldl took transport).incoming =
      ((intakes.filter (Intake.isGenuine transport.nonce)).map Intake.call).foldl
        SequenceFilter.after transport.incoming := by
  induction intakes generalizing transport with
  | nil => rfl
  | cons intake rest inductionHypothesis =>
      have next := inductionHypothesis (transport.took intake)
      rw [nonce_took] at next
      rw [List.foldl_cons, next, List.filter_cons]
      cases genuine : intake.isGenuine transport.nonce with
      | false => rw [took, takeIn_of_passedBy genuine]; rfl
      | true => rw [took, takeIn_of_isGenuine genuine]; rfl

end Runs

/--
Whatever a receiver meets with, it hands over exactly what is a frame of someone
else and accepted by its filter, in the order of arrival, with the stream of the
header, the bytes behind the header and the address it came from; and nothing
else has a part in what is handed over.
-/
theorem receives
    (transport : Transport)
    (intakes : List Intake) :
    Receives transport intakes where
  handed := handed_eq transport intakes
  filtered := incoming_foldl_took transport intakes
  regardless others same := by rw [handed_eq, handed_eq, same]
  traceless _ := takeIn_of_passedBy

/-- A datagram of one's own that comes back with a great number holds nothing of others up. -/
example :
    let stream : StreamId := ⟨List.replicate 16 1, List.length_replicate⟩
    let frame := fun sender sequence => (Header.outgoing 0 stream sender sequence).encode ++ [5]
    (Transport.new 7).handed
        [ .datagram 0 "self" (frame 7 9), .datagram 1 "peer" [66, 67, 78, 48]
        , .datagram 2 "peer" (frame 8 2), .datagram 3 "peer" (frame 8 1) ] =
      [⟨stream, [5], .socket "peer"⟩] := by
  decide +kernel

end Transport

end Discovery.Datagram
