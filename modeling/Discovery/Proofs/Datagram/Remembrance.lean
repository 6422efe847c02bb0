import Discovery.Proofs.Datagram.Filtering

namespace Discovery.Datagram

/-!
# What a filter remembers

A filter holds a flow from the first datagram of it that is judged, even one that
is refused, and until a cutoff behind what it holds (`held`).  Only a datagram
numbered zero is refused when nothing is held of its flow, so a refused datagram
with another number leaves the filter as it was, and where nothing was numbered
zero the flows that are held are those of which something accepted counts
(`remembers_of_calls`).
-/

namespace SequenceFilter

/-- When a datagram is judged. -/
def Call.time? : Call → Option Instant
  | .judge now _ _ => some now
  | .prune _ => none

/-- When a datagram was judged. -/
def Verdict.time? : Verdict → Option Instant
  | .judged now _ _ _ => some now
  | .pruned _ => none

/-- Calls are made one after another in time. -/
def Clocked (calls : List Call) : Prop :=
  (calls.filterMap Call.time?).Pairwise fun earlier later => earlier ≤ later

instance (calls : List Call) : Decidable (Clocked calls) :=
  inferInstanceAs (Decidable ((calls.filterMap Call.time?).Pairwise _))

/--
What is held of a flow after one more answer.  A refused datagram leaves what is
held; if nothing is held, its own date is.
-/
def Verdict.hold
    (flow : Flow)
    (held : Option LastSeen) : Verdict → Option LastSeen
  | .judged now other sequence accepted =>
      if other = flow then
        some (if accepted then ⟨sequence, now⟩ else held.getD ⟨0, now⟩)
      else held
  | .pruned cutoff => held.filter fun seen => decide (cutoff ≤ seen.acceptedAt)

/-- What is held of a flow with order after a run of calls. -/
def held
    (flow : Flow)
    (record : List Verdict) : Option LastSeen :=
  record.foldl (Verdict.hold flow) none

section Steps

variable {filter : SequenceFilter} {flow : Flow} {now : Instant} {sequence : UInt32}

/-- A datagram of an unknown flow is refused only if it is numbered zero. -/
theorem eq_zero_of_unknown
    (refused : filter.accepts now flow sequence = false)
    (unknown : filter.last.find? flow = none) :
    flow.stream.isNil = false ∧ sequence = 0 := by
  cases ordered : flow.stream.isNil with
  | true =>
      rw [accepts, accept_of_isNil ordered] at refused
      cases refused
  | false =>
      refine ⟨rfl, UInt32.le_zero_iff.mp (UInt32.not_lt.mp fun positive => ?_)⟩
      refine Bool.false_ne_true (refused.symm.trans ((accepts_iff ordered).mpr ?_))
      rw [lastAccepted?, unknown]
      exact positive

/-- A refused datagram is dated if its flow is unknown, and changes nothing otherwise. -/
theorem after_of_refused
    (refused : filter.accepts now flow sequence = false) :
    filter.after (.judge now flow sequence) =
      if filter.last.find? flow = none then ⟨filter.last.insert flow ⟨0, now⟩⟩ else filter := by
  have ext : ∀ {other : SequenceFilter},
      (∀ sought, (filter.after (.judge now flow sequence)).last.find? sought =
        other.last.find? sought) → filter.after (.judge now flow sequence) = other :=
    fun same => congrArg SequenceFilter.mk (Table.ext_find? same)
  split
  next unknown =>
    refine ext fun sought => ?_
    rw [find?_judge, Table.find?_insert]
    by_cases isFlow : flow = sought
    · subst isFlow
      rw [if_pos ⟨rfl, (eq_zero_of_unknown refused unknown).1⟩, if_pos rfl, refused, unknown]
      rfl
    · rw [if_neg fun concerned => isFlow concerned.1, if_neg fun same => isFlow same.symm]
  next known =>
    refine ext fun sought => ?_
    rw [find?_judge]
    split
    next concerned =>
      obtain ⟨rfl, _⟩ := concerned
      obtain ⟨seen, isSeen⟩ := Option.ne_none_iff_exists'.mp known
      rw [refused, isSeen]
      rfl
    next => rfl

/-- What is found with the number zero after a call was found before, or the call dates it. -/
theorem find?_or_judged_zero
    {call : Call}
    {seen : LastSeen}
    (found : (filter.after call).last.find? flow = some seen)
    (zero : seen.sequence = 0) :
    filter.last.find? flow = some seen ∨
      filter.verdict call = .judged seen.acceptedAt flow 0 false := by
  cases call with
  | prune cutoff =>
      rw [find?_prune, Option.filter_eq_some_iff] at found
      exact .inl found.1
  | judge now other sequence =>
      rw [find?_judge] at found
      split at found
      next concerned =>
        obtain ⟨rfl, ordered⟩ := concerned
        cases accepted : filter.accepts now other sequence with
        | true =>
            rw [accepted, if_pos rfl] at found
            cases found
            have exceeds := (accepts_iff ordered).mp accepted
            rw [show sequence = 0 from zero] at exceeds
            exact absurd exceeds UInt32.not_lt_zero
        | false =>
            rw [accepted, if_neg Bool.false_ne_true] at found
            cases known : filter.last.find? other with
            | none =>
                rw [known] at found
                cases found
                rw [verdict, accepted, (eq_zero_of_unknown accepted known).2]
                exact .inr rfl
            | some last =>
                rw [known] at found
                exact .inl found
      next => exact .inl found

/-- As many flows are dropped as are found no more. -/
theorem dropped_prune
    (filter : SequenceFilter)
    (cutoff : Instant) :
    (filter.prune cutoff).1 = (filter.last.keys.filter fun flow =>
      ((filter.after (.prune cutoff)).last.find? flow).isNone).length := by
  let dated : Flow × LastSeen → Bool := fun entry => decide (cutoff ≤ entry.2.acceptedAt)
  have forgotten : ∀ entry ∈ filter.last.entries,
      ((filter.after (.prune cutoff)).last.find? entry.1).isNone = true ↔
        decide (¬ dated entry = true) = true := by
    intro entry listed
    rw [find?_prune, Table.find?_eq_some_iff.mpr listed, Option.filter_some]
    cases isDated : decide (cutoff ≤ entry.2.acceptedAt) <;> simp [dated, isDated]
  have parts := List.length_eq_countP_add_countP dated (l := filter.last.entries)
  have gone : (filter.last.keys.filter fun flow =>
      ((filter.after (.prune cutoff)).last.find? flow).isNone).length =
        filter.last.entries.countP fun entry => decide (¬ dated entry = true) := by
    rw [← List.countP_eq_length_filter, Table.keys, List.countP_map]
    exact List.countP_congr forgotten
  have stays : (filter.prune cutoff).2.last.size = filter.last.entries.countP dated :=
    List.countP_eq_length_filter.symm
  change filter.last.entries.length - (filter.prune cutoff).2.last.size = _
  rw [stays, gone]
  omega

end Steps

/-- What a filter remembers, told by the record of the calls that it answered. -/
structure Remembers
    (filter : SequenceFilter)
    (record : List Verdict) : Prop where
  /-- What is found of a flow is what is held of it; nothing is held without order. -/
  found : ∀ flow, filter.last.find? flow =
    if flow.stream.isNil then none else held flow record
  /-- A refused datagram changes nothing if it is not numbered zero or if its flow is known. -/
  refused : ∀ now flow sequence, filter.accepts now flow sequence = false →
    sequence ≠ 0 ∨ filter.last.find? flow ≠ none →
      filter.after (.judge now flow sequence) = filter
  /-- A refused datagram of an unknown flow is numbered zero, and is dated. -/
  dated : ∀ now flow sequence, filter.accepts now flow sequence = false →
    filter.last.find? flow = none →
      sequence = 0 ∧
        filter.after (.judge now flow sequence) = ⟨filter.last.insert flow ⟨0, now⟩⟩ ∧
        (filter.after (.judge now flow sequence)).size = filter.size + 1
  /-- What is found with a positive number is the latest accepted datagram that counts. -/
  accepted : ∀ flow seen, 0 < seen.sequence →
    (filter.last.find? flow = some seen ↔
      flow.stream.isNil = false ∧ (counted flow record).head? = some seen)
  /-- Whatever else is found is dated by a refused datagram with the number zero. -/
  unaccepted : ∀ flow seen, seen.sequence = 0 → filter.last.find? flow = some seen →
    .judged seen.acceptedAt flow 0 false ∈ record
  /-- A cutoff forgets a flow that counts if nothing of it was accepted at or after the cutoff. -/
  silent : ∀ cutoff flow, flow.stream.isNil = false → counted flow record ≠ [] →
    ((filter.after (.prune cutoff)).last.find? flow = none ↔
      ∀ time sequence, .judged time flow sequence true ∈ record → time < cutoff)
  /-- A cutoff forgets what is dated before it and leaves the rest as it is. -/
  kept : ∀ cutoff flow, (filter.after (.prune cutoff)).last.find? flow =
    (filter.last.find? flow).filter fun seen => decide (cutoff ≤ seen.acceptedAt)
  /-- The number of the flows that were forgotten is returned. -/
  dropped : ∀ cutoff, (filter.prune cutoff).1 =
    (filter.last.keys.filter fun flow =>
      ((filter.after (.prune cutoff)).last.find? flow).isNone).length

section Runs

theorem held_concat
    (flow : Flow)
    (record : List Verdict)
    (answer : Verdict) :
    held flow (record ++ [answer]) = answer.hold flow (held flow record) :=
  List.foldl_append

/-- What is found of a flow is what the record says is held of it. -/
theorem find?_of_calls
    (calls : List Call)
    (flow : Flow) :
    (calls.foldl after empty).last.find? flow =
      if flow.stream.isNil then none else held flow (empty.verdicts calls) := by
  induction calls using List.reverseRecOn with
  | nil => cases flow.stream.isNil <;> rfl
  | append_singleton earlier call inductionHypothesis =>
      rw [verdicts_append, List.foldl_append]
      change ((earlier.foldl after empty).after call).last.find? flow =
        if flow.stream.isNil then none
        else held flow (empty.verdicts earlier ++ [(earlier.foldl after empty).verdict call])
      rw [held_concat]
      cases call with
      | judge now other sequence =>
          rw [find?_judge, inductionHypothesis, verdict, Verdict.hold]
          cases ordered : flow.stream.isNil with
          | true =>
              have notConcerned : ¬ (other = flow ∧ true = false) := by rintro ⟨_, ⟨⟩⟩
              rw [if_pos rfl, if_pos rfl, if_neg notConcerned]
          | false =>
              by_cases isOn : other = flow
              · subst isOn
                rw [if_pos ⟨rfl, rfl⟩, if_pos rfl]
                rfl
              · rw [if_neg fun concerned => isOn concerned.1, if_neg isOn]
      | prune cutoff =>
          rw [find?_prune, inductionHypothesis, verdict, Verdict.hold]
          cases flow.stream.isNil <;> rfl

/-- What is found with the number zero was refused under that number. -/
theorem judged_zero_of_find?
    (calls : List Call)
    {flow : Flow}
    {seen : LastSeen}
    (found : (calls.foldl after empty).last.find? flow = some seen)
    (zero : seen.sequence = 0) :
    .judged seen.acceptedAt flow 0 false ∈ empty.verdicts calls := by
  induction calls using List.reverseRecOn with
  | nil => cases found
  | append_singleton earlier call inductionHypothesis =>
      rw [List.foldl_append] at found
      rw [verdicts_append]
      rcases find?_or_judged_zero found zero with before | judged
      · exact List.mem_append_left _ (inductionHypothesis before)
      · rw [← judged]
        exact List.mem_append_right _ List.mem_cons_self

/-- The answers tell when the calls were made. -/
theorem time?_verdicts
    (filter : SequenceFilter)
    (calls : List Call) :
    (filter.verdicts calls).filterMap Verdict.time? = calls.filterMap Call.time? := by
  induction calls generalizing filter with
  | nil => rfl
  | cons call rest inductionHypothesis =>
      have next := inductionHypothesis (filter.after call)
      cases call with
      | judge now => exact congrArg (now :: ·) next
      | prune => exact next

/-- The latest that counts of a flow was accepted, and nothing was accepted of it later. -/
theorem accepted_of_latest
    {record : List Verdict}
    (clocked : (record.filterMap Verdict.time?).Pairwise fun earlier later => earlier ≤ later)
    {flow : Flow}
    {latest : LastSeen}
    (counts : (counted flow record).head? = some latest) :
    .judged latest.acceptedAt flow latest.sequence true ∈ record ∧
      ∀ time sequence, .judged time flow sequence true ∈ record → time ≤ latest.acceptedAt := by
  induction record using List.reverseRecOn with
  | nil => cases counts
  | append_singleton earlier answer inductionHypothesis =>
      rw [List.filterMap_append, List.pairwise_append] at clocked
      obtain ⟨before, _, behind⟩ := clocked
      have unmoved : (counted flow earlier).head? = some latest →
          (∀ time sequence, answer ≠ .judged time flow sequence true) →
            .judged latest.acceptedAt flow latest.sequence true ∈ earlier ++ [answer] ∧
              ∀ time sequence, .judged time flow sequence true ∈ earlier ++ [answer] →
                time ≤ latest.acceptedAt := by
        intro known other
        obtain ⟨member, last⟩ := inductionHypothesis before known
        refine ⟨List.mem_append_left _ member, fun time sequence isAccepted => ?_⟩
        rcases List.mem_append.mp isAccepted with inEarlier | isAnswer
        · exact last time sequence inEarlier
        · exact absurd (List.mem_singleton.mp isAnswer).symm (other time sequence)
      rw [counted_concat] at counts
      cases answer with
      | pruned cutoff =>
          rw [Verdict.count] at counts
          split at counts
          next => cases counts
          next => exact unmoved counts (by rintro _ _ ⟨⟩)
      | judged now other sequence accepted =>
          rw [Verdict.count] at counts
          split at counts
          next taken =>
            obtain ⟨rfl, rfl⟩ := taken
            cases counts
            refine ⟨List.mem_append_right _ List.mem_cons_self, fun time number isAccepted => ?_⟩
            rcases List.mem_append.mp isAccepted with inEarlier | isAnswer
            · exact behind time (List.mem_filterMap.mpr ⟨_, inEarlier, rfl⟩) now List.mem_cons_self
            · cases List.mem_singleton.mp isAnswer
              exact Nat.le_refl _
          next notTaken =>
            refine unmoved counts fun time number isAcceptance => notTaken ?_
            cases isAcceptance
            exact ⟨rfl, rfl⟩

end Runs

/--
Whatever calls a new filter has answered, one after another in time, it
remembers the flows of which something accepted counts, and besides them only
flows of which a datagram numbered zero was refused.  A cutoff forgets a flow
that counts if nothing of it was accepted since, and what is refused changes
nothing of either, apart from a datagram numbered zero that is the first of its
flow.
-/
theorem remembers_of_calls
    {calls : List Call}
    (clocked : Clocked calls) :
    Remembers (calls.foldl after empty) (empty.verdicts calls) where
  found := find?_of_calls calls
  refused now flow sequence refused notDated := by
    rw [after_of_refused refused, if_neg]
    intro unknown
    rcases notDated with notZero | known
    · exact notZero (eq_zero_of_unknown refused unknown).2
    · exact known unknown
  dated now flow sequence refused unknown := by
    have added := (calls.foldl after empty).last.size_insert flow ⟨0, now⟩
    rw [unknown] at added
    rw [after_of_refused refused, if_pos unknown]
    exact ⟨(eq_zero_of_unknown refused unknown).2, rfl, added⟩
  accepted flow seen positive := by
    have remembered : (calls.foldl after empty).last.find? flow = some seen ↔
        (calls.foldl after empty).lastAccepted? flow = some seen := by
      rw [lastAccepted?, Option.filter_eq_some_iff]
      exact ⟨fun found => ⟨found, decide_eq_true positive⟩, And.left⟩
    cases ordered : flow.stream.isNil with
    | true =>
        rw [find?_of_calls, if_pos ordered]
        exact ⟨by rintro ⟨⟩, by rintro ⟨⟨⟩, _⟩⟩
    | false =>
        rw [remembered, (latest_of_calls ordered calls).2]
        exact ⟨fun latest => ⟨rfl, latest⟩, And.right⟩
  unaccepted flow seen zero found := judged_zero_of_find? calls found zero
  silent cutoff flow ordered counts := by
    obtain ⟨latest, others, known⟩ := List.exists_cons_of_ne_nil counts
    have isLatest : (counted flow (empty.verdicts calls)).head? = some latest := by
      rw [known]
      rfl
    have remembered := (latest_of_calls ordered calls).2.trans isLatest
    obtain ⟨found, _⟩ := Option.filter_eq_some_iff.mp remembered
    rw [Clocked, ← time?_verdicts empty] at clocked
    obtain ⟨member, last⟩ := accepted_of_latest clocked isLatest
    rw [find?_prune, found, Option.filter_eq_none_iff]
    constructor
    · intro forgotten time sequence isAccepted
      have behind : ¬ cutoff ≤ latest.acceptedAt := fun reached =>
        forgotten latest rfl (decide_eq_true reached)
      exact Nat.lt_of_le_of_lt (last time sequence isAccepted) (Nat.lt_of_not_le behind)
    · rintro before seen isSeen reached
      cases isSeen
      exact Nat.not_le_of_lt (before _ _ member) (of_decide_eq_true reached)
  kept cutoff flow := find?_prune cutoff
  dropped := dropped_prune _

/-- A stale datagram refreshes nothing, so a cutoff behind the accepted one forgets the flow. -/
theorem remembers_of_calls_stale :
    let flow : Flow := ⟨1, ⟨List.replicate 16 1, List.length_replicate⟩⟩
    let calls : List Call := [.judge 1 flow 5, .judge 3 flow 4]
    let filter := calls.foldl after empty
    Clocked calls ∧ Remembers filter (empty.verdicts calls) ∧
      filter.last.find? flow = some ⟨5, 1⟩ ∧ filter.prune 2 = (1, empty) := by
  intro flow calls filter
  have clocked : Clocked calls := by decide
  have remembers := remembers_of_calls clocked
  exact ⟨clocked, remembers, (remembers.accepted flow ⟨5, 1⟩ (by decide)).mpr (by decide +kernel),
    by decide +kernel⟩

/-- A refused datagram numbered zero is remembered, and no cutoff up to its date forgets it. -/
theorem after_of_refused_zero :
    let flow : Flow := ⟨1, ⟨List.replicate 16 1, List.length_replicate⟩⟩
    let filter := empty.after (.judge 7 flow 0)
    empty.accepts 7 flow 0 = false ∧ filter ≠ empty ∧ filter.size = 1 ∧
      counted flow (empty.verdicts [.judge 7 flow 0]) = [] ∧ filter.prune 7 = (0, filter) := by
  decide +kernel

end SequenceFilter

end Discovery.Datagram
