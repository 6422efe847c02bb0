import Discovery.Proofs.Agent.Reading

namespace Discovery

/-!
# What becomes of a disposed subscription

Whether a subscription is disposed is looked at once in a notification, before
its callbacks are run.  So a disposed subscription signals nothing more, and the
callbacks that run afterwards are those of a notification that was under way
(`Moment.silent_of_disposed`): a callback that disposes its own subscription does
not keep the next ones from running.
-/

/-- Whether a callback of a subscription is to be run. -/
def Duty.runs (subscription : Nat) : Duty → Bool
  | .run other _ => other == subscription
  | _ => false

/-- Whether a callback of a subscription has run. -/
def Output.updates (subscription : Nat) : Output → Bool
  | .updated other _ _ => other == subscription
  | _ => false

/-- No callback of a subscription runs unless one may be started. -/
theorem Output.Follows.not_updates
    {starting : Nat → Prop}
    {lifecycle : Lifecycle}
    {said : List Outgoing}
    {asks : String → Prop}
    {output : Output}
    (follows : output.Follows starting lifecycle said asks)
    {subscription : Nat}
    (resting : ¬ starting subscription) :
    output.updates subscription = false := by
  cases follows with
  | users passes =>
      obtain ⟨concerns, _⟩ := passes
      cases output <;> first | rfl | cases concerns
  | report reports => cases output <;> first | rfl | cases reports
  | updated due => exact beq_false_of_ne fun same => resting (same ▸ due)
  | said | query => rfl

namespace Moment

variable {moment : Moment} {id : Nat} {known : Subscription}

theorem countP_runs_tells (targets : List Nat) :
    (targets.map Duty.tell).countP (Duty.runs id) = 0 := by
  refine List.countP_eq_zero.mpr fun duty told => ?_
  obtain ⟨_, _, rfl⟩ := List.mem_map.mp told
  exact Bool.false_ne_true

theorem countP_runs_lastDuties (targets : List Nat) :
    (lastDuties targets).countP (Duty.runs id) = 0 := by
  refine List.countP_eq_zero.mpr fun duty told => ?_
  obtain ⟨subscription, _, isLast⟩ := List.mem_flatMap.mp told
  simp only [List.mem_cons, List.not_mem_nil, or_false] at isLast
  rcases isLast with rfl | rfl <;> exact Bool.false_ne_true

/-- No notification of a disposed subscription begins. -/
theorem countP_runs_tell
    (found : moment.agent.subscription? id = some known)
    (disposed : known.disposed = true)
    (subscription : Nat) :
    (moment.tell subscription).duties.countP (Duty.runs id) =
      moment.duties.countP (Duty.runs id) := by
  unfold tell
  split
  next => rfl
  next told isTold =>
    split
    next => rfl
    next isOpen =>
      have different : subscription ≠ id := by
        rintro rfl
        rw [found] at isTold
        cases isTold
        exact isOpen disposed
      have none : ((List.range told.callbacks.length).map (Duty.run subscription)).countP
          (Duty.runs id) = 0 := by
        refine List.countP_eq_zero.mpr fun duty ran => ?_
        obtain ⟨_, _, rfl⟩ := List.mem_map.mp ran
        simpa [Duty.runs] using different
      exact List.countP_append.trans ((congrArg (· + _) none).trans (Nat.zero_add _))

theorem countP_runs_conclude (subscription : Nat) :
    (moment.conclude subscription).duties.countP (Duty.runs id) =
      moment.duties.countP (Duty.runs id) := by
  have same : (Duty.owe moment.duties).countP (Duty.runs id) =
      moment.duties.countP (Duty.runs id) := by
    rw [List.countP_eq_length_filter, Duty.filter_owe (fun _ => rfl), List.countP_eq_length_filter]
  unfold conclude
  split
  next => rfl
  next =>
    dsimp only
    split
    next => exact same
    next => rfl

/-- Whatever happens, no further callback of a disposed subscription is to be run. -/
theorem countP_runs_after
    (found : moment.agent.subscription? id = some known)
    (disposed : known.disposed = true)
    (occurrence : Occurrence) :
    (moment.after occurrence).duties.countP (Duty.runs id) ≤
      moment.duties.countP (Duty.runs id) := by
  cases occurrence with
  | errand errand =>
      change (moment.run errand).duties.countP (Duty.runs id) ≤ _
      rcases moment.run_cases errand with ⟨now, rfl⟩ | ⟨published, isRun⟩
      · change moment.deliver.duties.countP (Duty.runs id) ≤ _
        unfold deliver
        split
        next => exact Nat.le_refl _
        next =>
          dsimp only
          rw [List.countP_append, countP_runs_tells, Nat.zero_add]
      · rw [isRun]
  | dispose =>
      change moment.dispose.duties.countP (Duty.runs id) ≤ _
      unfold dispose
      split
      next => exact Nat.le_refl _
      next =>
        split
        next => exact Nat.le_refl _
        next =>
          dsimp only
          rw [List.countP_append, countP_runs_lastDuties, Nat.zero_add]
          exact Nat.le_of_eq (List.countP_cons_of_neg Bool.false_ne_true)
  | release | report | ask => exact Nat.le_refl _
  | proceed =>
      obtain ⟨progress, duties, published⟩ := moment
      cases duties with
      | nil => exact Nat.le_refl _
      | cons duty rest =>
          have fewer : rest.countP (Duty.runs id) ≤ (duty :: rest).countP (Duty.runs id) :=
            (List.sublist_cons_self duty rest).countP_le
          refine Nat.le_trans ?_ fewer
          cases duty with
          | tell subscription =>
              have told := @countP_runs_tell ⟨progress, rest, published⟩ id known found disposed
              exact Nat.le_of_eq (told subscription)
          | run | repay => exact Nat.le_refl _
          | conclude subscription =>
              have concluded := @countP_runs_conclude ⟨progress, rest, published⟩ id
              exact Nat.le_of_eq (concluded subscription)

theorem outputs_startCallback
    (progress : Progress)
    (subscription position : Nat) :
    (progress.startCallback subscription position).outputs = progress.outputs ∨
      ∃ name serial, (progress.startCallback subscription position).outputs =
        progress.outputs ++ [.updated subscription name serial] := by
  unfold Progress.startCallback
  dsimp only
  split
  next => exact .inl rfl
  next => exact .inr ⟨_, _, rfl⟩

/-- A callback of a disposed subscription runs only if it was to be run, and then no more. -/
theorem countP_updates_after
    (found : moment.agent.subscription? id = some known)
    (disposed : known.disposed = true)
    (occurrence : Occurrence) :
    ∃ more, (moment.after occurrence).outputs = moment.outputs ++ more ∧
      more.countP (Output.updates id) + (moment.after occurrence).duties.countP (Duty.runs id) ≤
        moment.duties.countP (Duty.runs id) := by
  have runs := countP_runs_after found disposed occurrence
  obtain ⟨_, _, effect, _⟩ := moment.effect_after occurrence
  obtain ⟨more, outputs, follows⟩ := effect.outputs
  by_cases starting : (moment.occasion occurrence).starting id
  · obtain ⟨rfl, position, rest, isNext⟩ := starting
    obtain ⟨progress, duties, published⟩ := moment
    cases isNext
    change ∃ more : List Output, (progress.startCallback id position).outputs = _ ∧
      more.countP (Output.updates id) + rest.countP (Duty.runs id) ≤ _
    rcases outputs_startCallback progress id position with same | ⟨name, serial, one⟩
    · exact ⟨[], same.trans (List.append_nil _).symm, (Nat.zero_add _).trans_le runs⟩
    · refine ⟨_, one, Nat.le_of_eq ?_⟩
      rw [List.countP_cons, List.countP_nil, List.countP_cons, Nat.zero_add, Nat.add_comm]
      rfl
  · refine ⟨more, outputs, ?_⟩
    have silent : more.countP (Output.updates id) = 0 :=
      List.countP_eq_zero.mpr fun output isMore =>
        Bool.eq_false_iff.mp ((follows output isMore).not_updates starting)
    rwa [silent, Nat.zero_add]

/--
A subscription stays disposed and signals nothing more, and its callbacks run
no more often than they were still to be run.
-/
structure Silent
    (id : Nat)
    (known : Subscription)
    (pending : Nat)
    (first last : Progress) : Prop where
  stays : ∃ later, last.agent.subscription? id = some later ∧ later.disposed = true ∧
    later.signal = known.signal ∧ later.signals = known.signals
  runs : ∃ more, last.outputs = first.outputs ++ more ∧
    more.countP (Output.updates id) ≤ pending

/-- What has run and what is still to be run are together no more than what was to be run. -/
theorem Leads.remains
    {first last : Moment}
    (leads : Leads first last)
    (readable : first.Readable)
    (found : first.agent.subscription? id = some known)
    (disposed : known.disposed = true) :
    (∃ later, last.agent.subscription? id = some later ∧ known.Remains later) ∧
      ∃ more, last.outputs = first.outputs ++ more ∧
        more.countP (Output.updates id) + last.duties.countP (Duty.runs id) ≤
          first.duties.countP (Duty.runs id) := by
  obtain ⟨occurrences, rfl⟩ := leads
  induction occurrences generalizing first known with
  | nil =>
      exact ⟨⟨known, found, .refl known⟩, [], (List.append_nil _).symm,
        Nat.le_of_eq (Nat.zero_add _)⟩
  | cons occurrence rest inductionHypothesis =>
      obtain ⟨_, _, effect, _⟩ := first.effect_after occurrence
      obtain ⟨between, isBetween, remains⟩ : ∃ between,
          (first.after occurrence).agent.subscription? id = some between ∧
            known.Remains between := by
        simp only [Agent.subscription?_eq] at found ⊢
        exact effect.subscriber.remains readable.subscriber.sound found
      obtain ⟨more, outputs, few⟩ := countP_updates_after found disposed occurrence
      obtain ⟨⟨later, isLater, remainsLater⟩, further, furtherOutputs, fewer⟩ :=
        inductionHypothesis (readable.after occurrence) isBetween (remains.disposed disposed).1
      refine ⟨⟨later, isLater, remainsLater.trans remains⟩, more ++ further, ?_, ?_⟩
      · rw [List.foldl_cons, furtherOutputs, outputs, List.append_assoc]
      · rw [List.countP_append, List.foldl_cons]
        omega

/-- Whatever happens, a disposed subscription is silent but for a notification under way. -/
theorem Leads.silent
    {first last : Moment}
    (leads : Leads first last)
    (readable : first.Readable)
    (found : first.agent.subscription? id = some known)
    (disposed : known.disposed = true) :
    Silent id known (first.duties.countP (Duty.runs id)) first.progress last.progress := by
  obtain ⟨⟨later, isLater, remains⟩, more, outputs, few⟩ := leads.remains readable found disposed
  exact ⟨⟨later, isLater, remains.disposed disposed⟩, more, outputs,
    Nat.le_trans (Nat.le_add_right _ _) few⟩

/--
A disposed subscription stays disposed and signals nothing more, and those of
its callbacks that run afterwards were still to be run when it was disposed.
After a call none are, so no call runs a callback of a subscription that was
disposed before it.
-/
theorem silent_of_disposed (settings : AgentSettings) (attempts : List (Option TransportError)) :
    (∀ {first last : Moment} {id : Nat} {known : Subscription},
      Leads (.new settings attempts) first → first.agent.subscription? id = some known →
        known.disposed = true → Leads first last →
          Silent id known (first.duties.countP (Duty.runs id)) first.progress last.progress) ∧
      ∀ {before further : List Call} {tenancy : Tenancy} {id : Nat} {known : Subscription},
        tenancy = before.foldl Tenancy.call (.new settings attempts) →
          tenancy.progress.agent.subscription? id = some known → known.disposed = true →
            Silent id known 0 tenancy.progress (further.foldl Tenancy.call tenancy).progress := by
  have readable : ∀ {moment : Moment}, Leads (.new settings attempts) moment → moment.Readable :=
    fun reached => (Readable.new settings attempts).leads reached
  constructor
  · intro first last id known reached found disposed leads
    exact leads.silent (readable reached) found disposed
  · rintro before further tenancy id known rfl found disposed
    obtain ⟨published, reached⟩ := Leads.calls before (.new settings attempts) []
    obtain ⟨later, leads⟩ := Leads.calls further _ published
    exact leads.silent (readable reached) found disposed

/-- A subscription is disposed between its two callbacks, and the second one still runs. -/
theorem silent_of_disposed_between :
    ∃ (first last : Moment) (known : Subscription),
      Leads (.new ⟨30, 50⟩ []) first ∧ first.agent.subscription? 1 = some known ∧
        known.disposed = true ∧ first.duties = [.run 1 1] ∧ Leads first last ∧
          last.outputs = first.outputs ++ [.updated 1 "second" 1] ∧
            Silent 1 known (first.duties.countP (Duty.runs 1)) first.progress last.progress := by
  let id : ResourceId := ⟨List.replicate 16 1, List.length_replicate⟩
  let hello : Wire.Message := .hello ⟨"Room", "here", 30, ∅⟩
  let occurrences : List Occurrence :=
    [ .errand (.subscribe "Room"), .errand (.listen 1 ⟨"first", []⟩)
    , .errand (.listen 1 ⟨"second", []⟩), .errand (.receive 0 ⟨id, hello.encode, .endpoint 1⟩)
    , .errand (.deliver 0), .proceed, .proceed, .errand (.disposeSubscription 1) ]
  have reached : ∃ first : Moment, Leads (.new ⟨30, 50⟩ []) first ∧
      ((first.agent.subscription? 1).any fun known => known.disposed) = true ∧
        first.duties = [.run 1 1] ∧
          (first.after .proceed).outputs = first.outputs ++ [.updated 1 "second" 1] :=
    ⟨_, ⟨occurrences, rfl⟩, by decide +kernel, by decide +kernel, by decide +kernel⟩
  obtain ⟨first, leads, subscribes, pending, updated⟩ := reached
  obtain ⟨known, found, disposed⟩ := (Option.any_eq_true ..).mp subscribes
  exact ⟨first, first.after .proceed, known, leads, found, disposed, pending, .step _ _, updated,
    (silent_of_disposed ⟨30, 50⟩ []).1 leads found disposed (.step _ _)⟩

/-- A callback disposes its own subscription, and the next one runs all the same. -/
theorem updated_of_disposing :
    let id : ResourceId := ⟨List.replicate 16 1, List.length_replicate⟩
    let hello : Wire.Message := .hello ⟨"Room", "here", 30, ∅⟩
    let errands : List Errand :=
      [ .subscribe "Room", .listen 1 ⟨"first", [[.dispose 1]]⟩, .listen 1 ⟨"second", []⟩
      , .receive 0 ⟨id, hello.encode, .endpoint 1⟩ ]
    let heard := errands.foldl Progress.run (Tenancy.new ⟨30, 50⟩ []).progress
    (heard.deliver 0).outputs =
        heard.outputs ++ [.updated 1 "first" 1, .stopped, .updated 1 "second" 1] ∧
      ((heard.deliver 0).agent.subscription? 1).any Subscription.disposed = true := by
  decide +kernel

end Moment

end Discovery
