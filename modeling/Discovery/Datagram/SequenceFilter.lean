import Discovery.Clock
import Discovery.Resource.Id
import Discovery.Table

namespace Discovery.Datagram

/-!
# Sequence filters

Datagrams may arrive late, twice or out of order.  A receiver remembers the
greatest sequence number of each sender and stream and refuses what does not
exceed it.  Messages on the nil stream carry no order and are never refused.
A flow that has been silent for long is forgotten.
-/

/-- One sender's datagrams on one stream. -/
structure Flow where
  sender : UInt32
  stream : StreamId
  deriving DecidableEq, Repr

/-- Flows are ordered by sender and then by stream. -/
def Flow.order : Flow → Flow → Ordering :=
  compareLex (compareOn Flow.sender) (compareOn Flow.stream)

instance : Std.TransCmp Flow.order :=
  inferInstanceAs (Std.TransCmp (compareLex (compareOn Flow.sender) (compareOn Flow.stream)))

instance : Std.LawfulEqCmp Flow.order where
  eq_of_compare {first second} same := by
    simp only [Flow.order, compareLex_eq_eq, compareOn, Std.LawfulEqCmp.compare_eq_iff_eq] at same
    cases first
    cases second
    simp_all

/-- The greatest sequence number of a flow, and when it was accepted. -/
structure LastSeen where
  sequence : UInt32
  acceptedAt : Instant
  deriving DecidableEq, Repr

/-- What has been accepted so far. -/
structure SequenceFilter where
  last : Table Flow LastSeen Flow.order
  deriving DecidableEq, Repr

namespace SequenceFilter

/-- The filter that has accepted nothing. -/
def empty : SequenceFilter :=
  ⟨∅⟩

/-- The number of flows that are remembered. -/
def size (filter : SequenceFilter) : Nat :=
  filter.last.size

/-- Whether no flow is remembered. -/
def isEmpty (filter : SequenceFilter) : Bool :=
  filter.last.isEmpty

/--
Judge a datagram.  The first datagram of a flow is measured against the number
zero, and the flow is remembered from then on even if that datagram is refused.
-/
def accept
    (filter : SequenceFilter)
    (now : Instant)
    (sender : UInt32)
    (stream : StreamId)
    (sequence : UInt32) : Bool × SequenceFilter :=
  if stream.isNil then (true, filter)
  else
    let flow : Flow := ⟨sender, stream⟩
    let seen := (filter.last.find? flow).getD ⟨0, now⟩
    if sequence ≤ seen.sequence then (false, ⟨filter.last.insert flow seen⟩)
    else (true, ⟨filter.last.insert flow ⟨sequence, now⟩⟩)

/-- Forget the flows with nothing accepted since an instant, and say how many they were. -/
def prune (filter : SequenceFilter) (cutoff : Instant) : Nat × SequenceFilter :=
  let kept := filter.last.filter fun _ seen => decide (cutoff ≤ seen.acceptedAt)
  (filter.last.size - kept.size, ⟨kept⟩)

end SequenceFilter

end Discovery.Datagram
