import Discovery.Datagram.SequenceFilter
import Discovery.Table.Lemmas
import Mathlib.Data.List.Induction

namespace Discovery.Datagram

/-!
# What a filter accepts

A filter answers a run of calls: it judges datagrams and forgets flows.  The
record of a run says what has been accepted of a flow since the flow was last
forgotten (`counted`), and the filter accepts a datagram exactly if its number
exceeds all of that (`judges_of_calls`).  Of what the filter holds of a flow only
the last accepted number bears on that, and only an acceptance of the flow
itself or a cutoff behind it moves it.
-/

namespace SequenceFilter

/-- A call on a filter. -/
inductive Call where
  | judge (now : Instant) (flow : Flow) (sequence : UInt32)
  | prune (cutoff : Instant)
  deriving DecidableEq, Repr

/-- A call that has been answered. -/
inductive Verdict where
  | judged (now : Instant) (flow : Flow) (sequence : UInt32) (accepted : Bool)
  | pruned (cutoff : Instant)
  deriving DecidableEq, Repr

/-- Whether a datagram is accepted. -/
def accepts
    (filter : SequenceFilter)
    (now : Instant)
    (flow : Flow)
    (sequence : UInt32) : Bool :=
  (filter.accept now flow.sender flow.stream sequence).1

/-- The filter after a call. -/
def after (filter : SequenceFilter) : Call → SequenceFilter
  | .judge now flow sequence => (filter.accept now flow.sender flow.stream sequence).2
  | .prune cutoff => (filter.prune cutoff).2

/-- The answer to a call. -/
def verdict (filter : SequenceFilter) : Call → Verdict
  | .judge now flow sequence => .judged now flow sequence (filter.accepts now flow sequence)
  | .prune cutoff => .pruned cutoff

/-- The answers to calls, one after another. -/
def verdicts (filter : SequenceFilter) : List Call → List Verdict
  | [] => []
  | call :: rest => filter.verdict call :: (filter.after call).verdicts rest

namespace Verdict

/-- Whether a datagram of a flow was judged. -/
def isOn (flow : Flow) : Verdict → Bool
  | .judged _ other _ _ => decide (other = flow)
  | .pruned _ => false

/--
What counts of a flow after one more answer.  A flow whose last accepted
datagram is older than a cutoff is forgotten.
-/
def count
    (flow : Flow)
    (counted : List LastSeen) : Verdict → List LastSeen
  | .judged now other sequence accepted =>
      if accepted ∧ other = flow then ⟨sequence, now⟩ :: counted else counted
  | .pruned cutoff =>
      if counted.head?.any fun latest => decide (latest.acceptedAt < cutoff) then [] else counted

end Verdict

/-- What has been accepted of a flow since it was last forgotten, the latest first. -/
def counted
    (flow : Flow)
    (record : List Verdict) : List LastSeen :=
  record.foldl (Verdict.count flow) []

/-- The last datagram of a flow that was accepted and is remembered; no such number is zero. -/
def lastAccepted?
    (filter : SequenceFilter)
    (flow : Flow) : Option LastSeen :=
  (filter.last.find? flow).filter fun seen => decide (0 < seen.sequence)

section Steps

variable {filter : SequenceFilter} {flow other : Flow} {now : Instant} {sequence : UInt32}

theorem verdicts_append
    (filter : SequenceFilter)
    (first second : List Call) :
    filter.verdicts (first ++ second) =
      filter.verdicts first ++ (first.foldl after filter).verdicts second := by
  induction first generalizing filter with
  | nil => rfl
  | cons call rest inductionHypothesis =>
      exact congrArg (filter.verdict call :: ·) (inductionHypothesis (filter.after call))

/-- A datagram without order is accepted and leaves the filter as it is. -/
theorem accept_of_isNil
    (unordered : flow.stream.isNil = true) :
    filter.accept now flow.sender flow.stream sequence = (true, filter) := by
  rw [accept, if_pos unordered]

/-- A datagram with order is measured against what is remembered, or else against zero. -/
theorem accept_of_ordered
    (ordered : flow.stream.isNil = false) :
    filter.accept now flow.sender flow.stream sequence =
      if sequence ≤ ((filter.last.find? flow).getD ⟨0, now⟩).sequence then
        (false, ⟨filter.last.insert flow ((filter.last.find? flow).getD ⟨0, now⟩)⟩)
      else (true, ⟨filter.last.insert flow ⟨sequence, now⟩⟩) := by
  rw [accept, ordered, if_neg Bool.false_ne_true]

/-- The greatest number of a flow is that of the last accepted datagram that is remembered. -/
theorem sequence_lastAccepted?
    (filter : SequenceFilter)
    (flow : Flow)
    (now : Instant) :
    ((filter.lastAccepted? flow).map LastSeen.sequence).getD 0 =
      ((filter.last.find? flow).getD ⟨0, now⟩).sequence := by
  unfold lastAccepted?
  cases filter.last.find? flow with
  | none => rfl
  | some seen =>
      rw [Option.filter_some]
      split
      next => rfl
      next notPositive =>
        have notAbove : ¬ 0 < seen.sequence := fun positive =>
          notPositive (decide_eq_true positive)
        exact (UInt32.le_zero_iff.mp (UInt32.not_lt.mp notAbove)).symm

/-- A datagram is accepted if its number exceeds the last accepted one of its flow. -/
theorem accepts_iff
    (ordered : flow.stream.isNil = false) :
    filter.accepts now flow sequence = true ↔
      ((filter.lastAccepted? flow).map LastSeen.sequence).getD 0 < sequence := by
  rw [sequence_lastAccepted? filter flow now, accepts, accept_of_ordered ordered, ← UInt32.not_le]
  split
  next stale =>
    exact ⟨fun refused => absurd refused Bool.false_ne_true, fun fresh => absurd stale fresh⟩
  next fresh => exact ⟨fun _ => fresh, fun _ => rfl⟩

/-- What is remembered of a flow after a datagram was judged. -/
theorem find?_judge :
    (filter.after (.judge now other sequence)).last.find? flow =
      if other = flow ∧ flow.stream.isNil = false then
        some (if filter.accepts now flow sequence then ⟨sequence, now⟩
          else (filter.last.find? flow).getD ⟨0, now⟩)
      else filter.last.find? flow := by
  change (filter.accept now other.sender other.stream sequence).2.last.find? flow = _
  by_cases concerned : other = flow ∧ flow.stream.isNil = false
  · obtain ⟨rfl, ordered⟩ := concerned
    rw [if_pos ⟨rfl, ordered⟩, accepts, accept_of_ordered ordered]
    split <;> exact Table.find?_insert .. |>.trans (if_pos rfl)
  · rw [if_neg concerned]
    cases ordered : other.stream.isNil with
    | true => rw [accept_of_isNil ordered]
    | false =>
        have different : flow ≠ other := fun same => concerned ⟨same.symm, same ▸ ordered⟩
        rw [accept_of_ordered ordered]
        split <;> exact Table.find?_insert .. |>.trans (if_neg different)

/-- A cutoff keeps what was dated at or after it. -/
theorem find?_prune
    (cutoff : Instant) :
    (filter.after (.prune cutoff)).last.find? flow =
      (filter.last.find? flow).filter fun seen => decide (cutoff ≤ seen.acceptedAt) :=
  Table.find?_filter ..

/-- Only an accepted datagram of the flow itself takes the place of the last one. -/
theorem lastAccepted?_judge :
    (filter.after (.judge now other sequence)).lastAccepted? flow =
      if other = flow ∧ flow.stream.isNil = false ∧ filter.accepts now other sequence = true then
        some ⟨sequence, now⟩
      else filter.lastAccepted? flow := by
  by_cases concerned : other = flow ∧ flow.stream.isNil = false
  · obtain ⟨rfl, ordered⟩ := concerned
    rw [lastAccepted?, find?_judge, if_pos ⟨rfl, ordered⟩]
    cases accepted : filter.accepts now other sequence with
    | true =>
        have positive : 0 < sequence :=
          UInt32.lt_of_le_of_lt UInt32.zero_le ((accepts_iff ordered).mp accepted)
        rw [if_pos rfl, if_pos ⟨rfl, ordered, rfl⟩]
        exact Option.filter_some_pos (decide_eq_true positive)
    | false =>
        rw [if_neg Bool.false_ne_true, if_neg fun judged => Bool.false_ne_true judged.2.2]
        unfold lastAccepted?
        cases filter.last.find? other <;> rfl
  · rw [if_neg fun judged => concerned ⟨judged.1, judged.2.1⟩, lastAccepted?, find?_judge,
      if_neg concerned]
    rfl

/-- A last accepted datagram is forgotten by a cutoff behind it. -/
theorem lastAccepted?_prune
    (cutoff : Instant) :
    (filter.after (.prune cutoff)).lastAccepted? flow =
      (filter.lastAccepted? flow).filter fun seen => decide (cutoff ≤ seen.acceptedAt) := by
  unfold lastAccepted?
  rw [find?_prune, Option.filter_filter, Option.filter_filter]
  simp only [Bool.and_comm]

end Steps

section Independence

variable {flow : Flow}

/-- Filters that accepted the same of a flow last judge its datagrams alike. -/
theorem accepts_congr
    {first second : SequenceFilter}
    (same : first.lastAccepted? flow = second.lastAccepted? flow)
    (now : Instant)
    (sequence : UInt32) :
    first.accepts now flow sequence = second.accepts now flow sequence := by
  cases ordered : flow.stream.isNil with
  | true => rw [accepts, accepts, accept_of_isNil ordered, accept_of_isNil ordered]
  | false => rw [Bool.eq_iff_iff, accepts_iff ordered, accepts_iff ordered, same]

/-- Filters that accepted the same of a flow last do so after any call. -/
theorem lastAccepted?_after_congr
    {first second : SequenceFilter}
    (same : first.lastAccepted? flow = second.lastAccepted? flow)
    (call : Call) :
    (first.after call).lastAccepted? flow = (second.after call).lastAccepted? flow := by
  cases call with
  | judge now other sequence =>
      rw [lastAccepted?_judge, lastAccepted?_judge]
      by_cases isOn : other = flow
      · subst isOn
        rw [accepts_congr same, same]
      · rw [if_neg fun judged => isOn judged.1, if_neg fun judged => isOn judged.1, same]
  | prune cutoff => rw [lastAccepted?_prune, lastAccepted?_prune, same]

/-- What is judged of a flow depends only on the datagram of it that was accepted last. -/
theorem verdicts_congr
    {first second : SequenceFilter}
    (same : first.lastAccepted? flow = second.lastAccepted? flow)
    (calls : List Call) :
    (first.verdicts calls).filter (Verdict.isOn flow) =
      (second.verdicts calls).filter (Verdict.isOn flow) := by
  induction calls generalizing first second with
  | nil => rfl
  | cons call rest inductionHypothesis =>
      have next := inductionHypothesis (lastAccepted?_after_congr same call)
      rw [verdicts, verdicts, List.filter_cons, List.filter_cons, next]
      cases call with
      | prune => rfl
      | judge now other sequence =>
          by_cases isOn : other = flow
          · subst isOn
            rw [verdict, verdict, accepts_congr same]
          · have notOn : ∀ accepted,
                (Verdict.judged now other sequence accepted).isOn flow = false :=
              fun _ => decide_eq_false isOn
            rw [verdict, verdict, notOn, notOn, if_neg Bool.false_ne_true,
              if_neg Bool.false_ne_true]

end Independence

/-- What a filter decides of a flow, told by the record of the calls that it answered. -/
structure Judges
    (filter : SequenceFilter)
    (record : List Verdict)
    (flow : Flow) : Prop where
  /-- Datagrams without order are accepted always. -/
  unordered : flow.stream.isNil = true →
    ∀ now sequence, filter.accepts now flow sequence = true
  /-- Others are accepted if their number is positive and exceeds all that counts. -/
  ordered : flow.stream.isNil = false → ∀ now sequence,
    filter.accepts now flow sequence = true ↔
      0 < sequence ∧ ∀ seen ∈ counted flow record, seen.sequence < sequence
  /-- The numbers that count ascend. -/
  ascending : flow.stream.isNil = false →
    (counted flow record).Pairwise fun later earlier => earlier.sequence < later.sequence
  /-- What is remembered as accepted is the latest that counts. -/
  latest : flow.stream.isNil = false →
    filter.lastAccepted? flow = (counted flow record).head?
  /-- A datagram that is refused or of another flow changes nothing that is decided later. -/
  undisturbed : ∀ now other sequence,
    other ≠ flow ∨ filter.accepts now other sequence = false →
      ∀ calls, ((filter.after (.judge now other sequence)).verdicts calls).filter
          (Verdict.isOn flow) =
        (filter.verdicts calls).filter (Verdict.isOn flow)

section Runs

variable {flow : Flow}

theorem counted_concat
    (flow : Flow)
    (record : List Verdict)
    (answer : Verdict) :
    counted flow (record ++ [answer]) = answer.count flow (counted flow record) :=
  List.foldl_append

/-- A number is accepted if it exceeds what counts, of which the latest is the greatest. -/
theorem accepts_iff_of_latest
    {filter : SequenceFilter}
    {record : List Verdict}
    (ordered : flow.stream.isNil = false)
    (ascending : (counted flow record).Pairwise fun later earlier =>
      earlier.sequence < later.sequence)
    (latest : filter.lastAccepted? flow = (counted flow record).head?)
    (now : Instant)
    (sequence : UInt32) :
    filter.accepts now flow sequence = true ↔
      0 < sequence ∧ ∀ seen ∈ counted flow record, seen.sequence < sequence := by
  rw [accepts_iff ordered, latest]
  cases known : counted flow record with
  | nil => simp
  | cons greatest others =>
      rw [known] at ascending
      have below := (List.pairwise_cons.mp ascending).1
      constructor
      · intro exceeds
        refine ⟨UInt32.lt_of_le_of_lt UInt32.zero_le exceeds, fun seen counts => ?_⟩
        rcases List.mem_cons.mp counts with rfl | isOther
        · exact exceeds
        · exact UInt32.lt_trans (below seen isOther) exceeds
      · rintro ⟨_, exceeds⟩
        exact exceeds greatest List.mem_cons_self

/-- What counts stays ascending, and its latest is what is remembered, after one more call. -/
theorem latest_after
    {filter : SequenceFilter}
    {record : List Verdict}
    (ordered : flow.stream.isNil = false)
    (ascending : (counted flow record).Pairwise fun later earlier =>
      earlier.sequence < later.sequence)
    (latest : filter.lastAccepted? flow = (counted flow record).head?)
    (call : Call) :
    ((counted flow (record ++ [filter.verdict call])).Pairwise fun later earlier =>
        earlier.sequence < later.sequence) ∧
      (filter.after call).lastAccepted? flow =
        (counted flow (record ++ [filter.verdict call])).head? := by
  rw [counted_concat]
  cases call with
  | judge now other sequence =>
      rw [lastAccepted?_judge, verdict, Verdict.count]
      by_cases taken : filter.accepts now other sequence = true ∧ other = flow
      · obtain ⟨accepted, rfl⟩ := taken
        have exceeds := (accepts_iff_of_latest ordered ascending latest now sequence).mp accepted
        rw [if_pos ⟨accepted, rfl⟩, if_pos ⟨rfl, ordered, accepted⟩]
        exact ⟨List.pairwise_cons.mpr ⟨exceeds.2, ascending⟩, rfl⟩
      · rw [if_neg taken, if_neg fun judged => taken ⟨judged.2.2, judged.1⟩]
        exact ⟨ascending, latest⟩
  | prune cutoff =>
      rw [lastAccepted?_prune, verdict, Verdict.count, latest]
      cases known : counted flow record with
      | nil => exact ⟨.nil, rfl⟩
      | cons greatest others =>
          rw [known] at ascending
          simp only [List.head?_cons, Option.any_some, Option.filter_some, decide_eq_true_eq,
            ← Nat.not_lt]
          by_cases behind : greatest.acceptedAt < cutoff
          · rw [if_pos behind, if_neg fun kept => kept behind]
            exact ⟨.nil, rfl⟩
          · rw [if_neg behind, if_pos behind]
            exact ⟨ascending, rfl⟩

/-- However calls are made, the latest that counts of a flow is what is remembered of it. -/
theorem latest_of_calls
    (ordered : flow.stream.isNil = false)
    (calls : List Call) :
    ((counted flow (empty.verdicts calls)).Pairwise fun later earlier =>
        earlier.sequence < later.sequence) ∧
      (calls.foldl after empty).lastAccepted? flow =
        (counted flow (empty.verdicts calls)).head? := by
  induction calls using List.reverseRecOn with
  | nil => exact ⟨.nil, rfl⟩
  | append_singleton earlier call inductionHypothesis =>
      obtain ⟨ascending, latest⟩ := inductionHypothesis
      rw [verdicts_append, List.foldl_append]
      exact latest_after ordered ascending latest call

end Runs

/--
Whatever calls a new filter has answered, it accepts a datagram with order
exactly if the number exceeds everything that was accepted of the same flow
since the flow was last forgotten, and what it refuses and what other flows do
has no part in that.
-/
theorem judges_of_calls
    (calls : List Call)
    (flow : Flow) :
    Judges (calls.foldl after empty) (empty.verdicts calls) flow where
  unordered unordered now sequence := by rw [accepts, accept_of_isNil unordered]
  ordered ordered :=
    have ⟨ascending, latest⟩ := latest_of_calls ordered calls
    accepts_iff_of_latest ordered ascending latest
  ascending ordered := (latest_of_calls ordered calls).1
  latest ordered := (latest_of_calls ordered calls).2
  undisturbed now other sequence without := by
    refine verdicts_congr ?_
    rw [lastAccepted?_judge, if_neg]
    rintro ⟨same, _, accepted⟩
    rcases without with different | refused
    · exact different same
    · exact Bool.false_ne_true (refused.symm.trans accepted)

end SequenceFilter

end Discovery.Datagram
