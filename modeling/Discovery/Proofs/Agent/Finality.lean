import Discovery.Proofs.Agent.Closing
import Discovery.Proofs.Agent.Notification
import Discovery.Proofs.Agent.Silence
import Mathlib.Data.List.Infix

namespace Discovery

/-!
# The end of an agent

When an agent is disposed, the subscriptions that are open are told for the last
time, one after another, and disposed (`Moment.LastNotice`).  Callbacks may do
anything in the meantime, but each of these subscriptions gets its turn before
the disposal returns, and if it is still open then it is told exactly once.  From
then on all subscriptions are disposed, and nothing that happens changes anything
for others or brings anything back (`Moment.ending_of_dispose`).
-/

/-- Whether a subscription is told of something when the turn of a duty comes. -/
def Duty.addresses (subscription : Nat) : Duty → Bool
  | .tell other | .run other _ => other == subscription
  | .conclude _ | .repay _ => false

/-- Whoever is not run has no callback. -/
theorem Output.callback?_of_not_updates
    {subscription : Nat}
    {output : Output}
    (silent : output.updates subscription = false) :
    output.callback? subscription = none := by
  cases output with
  | updated => exact if_neg (ne_of_beq_false silent)
  | started | startFailed | joined | left | stopped | overdrawn | sent | acted | asked => rfl

namespace Moment

open Progress (Final)

/-- Some callbacks of a subscription run one after another, and it is signalled so many times. -/
structure Hears
    (id : Nat)
    (names : List String)
    (signals : Nat)
    (first last : Moment) : Prop where
  outputs : ∃ more, last.outputs = first.outputs ++ more ∧
    more.filterMap (Output.callback? id) = names
  remains : ∀ {known}, first.agent.subscription? id = some known →
    ∃ later, last.agent.subscription? id = some later ∧ known.Remains later ∧
      later.signals = known.signals + signals

namespace Hears

variable {id : Nat} {moment : Moment}

theorem of_same {first last : Moment} (same : last.progress = first.progress) :
    Hears id [] 0 first last := by
  refine ⟨⟨[], ?_, rfl⟩, fun {known} found => ⟨known, ?_, .refl known, rfl⟩⟩
  · rw [List.append_nil, Moment.outputs, same, Moment.outputs]
  · rwa [Moment.agent, same]

theorem trans
    {first second third : Moment}
    {names further : List String}
    {signals more : Nat}
    (earlier : Hears id names signals first second)
    (later : Hears id further more second third) :
    Hears id (names ++ further) (signals + more) first third := by
  obtain ⟨outputs, isOutputs, isNames⟩ := earlier.outputs
  obtain ⟨others, isOthers, isFurther⟩ := later.outputs
  refine ⟨⟨outputs ++ others, ?_, ?_⟩, fun found => ?_⟩
  · rw [isOthers, isOutputs, List.append_assoc]
  · rw [List.filterMap_append, isNames, isFurther]
  · obtain ⟨between, isBetween, remains, signalled⟩ := earlier.remains found
    obtain ⟨last, isLast, stillRemains, signalledLater⟩ := later.remains isBetween
    refine ⟨last, isLast, stillRemains.trans remains, ?_⟩
    rw [signalledLater, signalled, Nat.add_assoc]

/-- A subscription is not signalled unless it is told. -/
theorem remains_after
    (readable : moment.Readable)
    {occurrence : Occurrence}
    (untold : ¬ (moment.occasion occurrence).telling id)
    {known : Subscription}
    (found : moment.agent.subscription? id = some known) :
    ∃ later, (moment.after occurrence).agent.subscription? id = some later ∧
      known.Remains later ∧ later.signals = known.signals := by
  obtain ⟨_, _, effect, _⟩ := moment.effect_after occurrence
  have sound := readable.subscriber.sound
  rw [Agent.subscription?_eq] at found
  obtain ⟨later, isLater, remains⟩ := effect.subscriber.remains sound found
  exact ⟨later, (Agent.subscription?_eq _ _).trans isLater, remains,
    effect.subscriber.signals sound found untold isLater⟩

/-- A subscription that is not addressed hears nothing. -/
theorem nothing
    (readable : moment.Readable)
    (occurrence : Occurrence)
    (others : ∀ {duty rest}, occurrence = .proceed → moment.duties = duty :: rest →
      duty.addresses id = false) :
    Hears id [] 0 moment (moment.after occurrence) := by
  obtain ⟨_, _, effect, _⟩ := moment.effect_after occurrence
  obtain ⟨more, outputs, follows⟩ := effect.outputs
  have untold : ¬ (moment.occasion occurrence).telling id := fun ⟨isProceed, _, isNext⟩ =>
    ne_of_beq_false (others isProceed isNext) rfl
  have resting : ¬ (moment.occasion occurrence).starting id := fun ⟨isProceed, _, _, isNext⟩ =>
    ne_of_beq_false (others isProceed isNext) rfl
  have silent : more.filterMap (Output.callback? id) = [] :=
    List.filterMap_eq_nil_iff.mpr fun output isMore =>
      Output.callback?_of_not_updates ((follows output isMore).not_updates resting)
  exact ⟨⟨more, outputs, silent⟩, remains_after readable untold⟩

section Turns

variable {progress : Progress} {rest : List Duty} {published : List ResourceId}
variable {known : Subscription}

/-- A subscription that is open is signalled when its turn comes. -/
theorem tell
    (found : progress.agent.subscription? id = some known)
    (isOpen : known.disposed = false) :
    Hears id [] 1 ⟨progress, .tell id :: rest, published⟩
      (Moment.after ⟨progress, .tell id :: rest, published⟩ .proceed) := by
  rw [after_tell found isOpen]
  refine ⟨⟨[], (List.append_nil _).symm, rfl⟩, fun {current} isCurrent => ?_⟩
  refine ⟨current.notice (progress.agent.serial id), ?_,
    ⟨rfl, rfl, List.prefix_rfl, fun disposed => ?_⟩, rfl⟩
  · refine (Agent.subscription?_updateSubscription progress id _).trans ?_
    rw [show progress.agent.subscription? id = _ from isCurrent]
    rfl
  · cases found.symm.trans isCurrent
    exact absurd disposed (Bool.eq_false_iff.mp isOpen)

/-- A callback runs when its turn comes. -/
theorem run
    {position : Nat}
    (readable : Moment.Readable ⟨progress, .run id position :: rest, published⟩)
    (found : progress.agent.subscription? id = some known)
    {callback : Callback}
    (isCallback : known.callbacks[position]? = some callback) :
    Hears id [callback.name] 0 ⟨progress, .run id position :: rest, published⟩
      (Moment.after ⟨progress, .run id position :: rest, published⟩ .proceed) := by
  obtain ⟨serial, outputs⟩ := outputs_run rest published found isCallback
  exact ⟨⟨_, outputs, by simp [Output.callback?]⟩, remains_after readable nofun⟩

end Turns

end Hears

namespace Closed

variable {moment : Moment} {id : Nat}

/--
What is to be done gets its turn before what follows it, and until then a
subscription hears nothing unless something before it addresses the subscription.
-/
theorem reach
    (closed : moment.Closed)
    (before : List Duty)
    {duty : Duty}
    {rest : List Duty}
    (agenda : moment.agenda = before ++ duty :: rest)
    (others : ∀ other ∈ before, other.addresses id = false)
    {occurrences : List Occurrence}
    (done : (occurrences.foldl Moment.after moment).agenda.length ≤ rest.length) :
    ∃ earlier later, occurrences = earlier ++ .proceed :: later ∧
      Hears id [] 0 moment (earlier.foldl Moment.after moment) ∧
      ∃ duties, (earlier.foldl Moment.after moment).duties = duty :: duties ∧
        duties.filter Duty.stays = rest := by
  induction occurrences generalizing moment before with
  | nil =>
      have length := congrArg List.length agenda
      rw [List.length_append, List.length_cons] at length
      exact absurd (length ▸ done) (by omega)
  | cons occurrence occurrences inductionHypothesis =>
      have further : ∀ between, (moment.after occurrence).agenda = between ++ duty :: rest →
          (∀ other ∈ between, other.addresses id = false) →
          Hears id [] 0 moment (moment.after occurrence) →
          ∃ earlier later, occurrence :: occurrences = earlier ++ .proceed :: later ∧
            Hears id [] 0 moment (earlier.foldl Moment.after moment) ∧
            ∃ duties, (earlier.foldl Moment.after moment).duties = duty :: duties ∧
              duties.filter Duty.stays = rest := by
        intro between agenda others hears
        obtain ⟨earlier, later, rfl, unheard, next⟩ :=
          inductionHypothesis (closed.after occurrence) between agenda others done
        exact ⟨occurrence :: earlier, later, rfl, hears.trans unheard, next⟩
      rcases closed.agenda_cases occurrence with
        ⟨same, idle⟩ | ⟨rfl, next, duties, added, isNext, stays, isAdded, runs⟩
      · refine further before (same.trans agenda) others (.nothing closed.readable occurrence ?_)
        intro next duties isProceed isNext
        have isRepay := idle isProceed isNext
        cases next with
        | repay => rfl
        | tell | run | conclude => cases isRepay
      have top : moment.agenda = next :: duties.filter Duty.stays := by
        rw [Moment.agenda, isNext, List.filter_cons_of_pos stays]
      cases before with
      | nil =>
          cases top.symm.trans agenda
          exact ⟨[], occurrences, rfl, Hears.of_same rfl, duties, isNext, rfl⟩
      | cons first before =>
          rw [top, List.cons_append, List.cons.injEq] at agenda
          obtain ⟨rfl, kept⟩ := agenda
          have unaddressed := others next List.mem_cons_self
          refine further (added ++ before) ?_ (fun other isOther => ?_)
            (.nothing closed.readable .proceed fun {other _} _ isOther => ?_)
          · rw [isAdded, kept, List.append_assoc]
          · rcases List.mem_append.mp isOther with isRun | isBefore
            · obtain ⟨subscription, _, rfl, rfl⟩ := runs other isRun
              exact unaddressed
            · exact others other (List.mem_cons_of_mem _ isBefore)
          · cases isNext.symm.trans isOther
            exact unaddressed

/-- The callbacks of a subscription run one after another before what follows them. -/
theorem runs
    (closed : moment.Closed)
    {known : Subscription}
    (found : moment.agent.subscription? id = some known)
    {names : List String}
    {position : Nat}
    (listed : names <+: (known.callbacks.map Callback.name).drop position)
    {duty : Duty}
    {rest : List Duty}
    (agenda : moment.agenda =
      (List.range' position names.length).map (.run id) ++ duty :: rest)
    {occurrences : List Occurrence}
    (done : (occurrences.foldl Moment.after moment).agenda.length ≤ rest.length) :
    ∃ earlier later, occurrences = earlier ++ .proceed :: later ∧
      Hears id names 0 moment (earlier.foldl Moment.after moment) ∧
      ∃ duties, (earlier.foldl Moment.after moment).duties = duty :: duties ∧
        duties.filter Duty.stays = rest := by
  induction names generalizing moment known position occurrences with
  | nil => exact closed.reach [] agenda nofun done
  | cons name names inductionHypothesis =>
      rw [List.length_cons, List.range'_succ, List.map_cons, List.cons_append] at agenda
      obtain ⟨earlier, later, rfl, hears, duties, isNext, kept⟩ :=
        closed.reach [] agenda nofun
          (done.trans (by rw [List.length_append, List.length_cons]; omega))
      have reached := closed.leads ⟨earlier, rfl⟩
      obtain ⟨current, isCurrent, remains, _⟩ := hears.remains found
      have listedNow : name :: names <+: (current.callbacks.map Callback.name).drop position :=
        listed.trans (List.IsPrefix.drop remains.callbacks position)
      have isName : (current.callbacks.map Callback.name)[position]? = some name := by
        have first := List.prefix_iff_getElem?.mp listedNow 0 (Nat.succ_pos _)
        rwa [List.getElem?_drop] at first
      rw [List.getElem?_map] at isName
      obtain ⟨callback, isCallback, rfl⟩ := Option.map_eq_some_iff.mp isName
      rw [List.foldl_append, List.foldl_cons] at done
      generalize isReached : earlier.foldl Moment.after moment = between
        at hears isNext reached isCurrent done
      obtain ⟨progress, _, published⟩ := between
      cases isNext
      have ran := Hears.run reached.readable isCurrent isCallback
      obtain ⟨next, isNext, remainsNext, _⟩ := ran.remains isCurrent
      have listedNext : names <+: (next.callbacks.map Callback.name).drop (position + 1) := by
        rw [← List.drop_drop]
        exact (List.IsPrefix.drop listedNow 1).trans
          (List.IsPrefix.drop (List.IsPrefix.drop remainsNext.callbacks position) 1)
      obtain ⟨middle, later, rfl, further, turn⟩ :=
        inductionHypothesis (reached.after .proceed) isNext listedNext kept done
      refine ⟨earlier ++ .proceed :: middle, later,
        (List.append_assoc earlier (.proceed :: middle) _).symm, ?_, ?_⟩
      · rw [List.foldl_append, List.foldl_cons, isReached]
        exact hears.trans (ran.trans further)
      · rw [List.foldl_append, List.foldl_cons, isReached]
        exact turn

end Closed

/-- A subscription that is open is signalled once and its callbacks run; others hear nothing. -/
def Notified (id : Nat) (known : Subscription) (first last : Moment) : Prop :=
  if known.disposed then Hears id [] 0 first last
  else Hears id (known.callbacks.map Callback.name) 1 first last

theorem Notified.found
    {id : Nat}
    {known : Subscription}
    {first last : Moment}
    (notified : Notified id known first last)
    (found : first.agent.subscription? id = some known) :
    ∃ later, last.agent.subscription? id = some later := by
  unfold Notified at notified
  split at notified <;> exact (notified.remains found).imp fun _ => And.left

/-- A subscription is told when its turn comes, and then it is to be disposed. -/
theorem Closed.notice
    {moment : Moment}
    (closed : moment.Closed)
    {id : Nat}
    {known : Subscription}
    (found : moment.agent.subscription? id = some known)
    {duties : List Duty}
    (turn : moment.duties = .tell id :: duties)
    {rest : List Duty}
    (kept : duties.filter Duty.stays = .conclude id :: rest)
    {occurrences : List Occurrence}
    (done : (occurrences.foldl Moment.after (moment.after .proceed)).agenda.length ≤
      rest.length) :
    ∃ middle later, occurrences = middle ++ .proceed :: later ∧
      Notified id known moment (middle.foldl Moment.after (moment.after .proceed)) ∧
      ∃ others, (middle.foldl Moment.after (moment.after .proceed)).duties =
        .conclude id :: others := by
  have next := closed.after .proceed
  obtain ⟨progress, _, published⟩ := moment
  cases turn
  unfold Notified
  cases disposed : known.disposed with
  | true =>
      have same : (Moment.after ⟨progress, .tell id :: duties, published⟩ .proceed) =
          ⟨progress, duties, published⟩ := after_tell_of_disposed found disposed
      rw [same] at next done ⊢
      obtain ⟨middle, later, rfl, hears, others, isNext, _⟩ :=
        next.reach [] kept nofun done
      have resting : Hears id [] 0 ⟨progress, .tell id :: duties, published⟩
          ⟨progress, duties, published⟩ := .of_same rfl
      exact ⟨middle, later, rfl, resting.trans hears, others, isNext⟩
  | false =>
      have told : Hears id [] 1 ⟨progress, .tell id :: duties, published⟩ _ :=
        Hears.tell found disposed
      obtain ⟨current, isCurrent, remains, _⟩ := told.remains found
      have agenda : (Moment.after ⟨progress, .tell id :: duties, published⟩ .proceed).agenda =
          (List.range' 0 (known.callbacks.map Callback.name).length).map (.run id) ++
            .conclude id :: rest := by
        rw [after_tell found disposed, List.length_map, ← List.range_eq_range']
        dsimp only [Moment.agenda]
        rw [List.filter_append, filter_stays_runs, kept]
      obtain ⟨middle, later, rfl, hears, others, isNext, _⟩ :=
        next.runs isCurrent remains.callbacks agenda done
      exact ⟨middle, later, rfl, told.trans hears, others, isNext⟩

/--
A subscription is told for the last time: it hears nothing until its turn comes,
and if it is still open then, it is signalled once and each of its callbacks
runs.  Then it is disposed, and hears of nothing again.
-/
structure LastNotice (id : Nat) (first reached finished : Moment) : Prop where
  waits : Hears id [] 0 first reached
  turn : ∃ rest, reached.duties = .tell id :: rest
  notified : ∃ known, reached.agent.subscription? id = some known ∧
    Notified id known reached finished
  ending : ∃ rest, finished.duties = .conclude id :: rest
  concluded : Hears id [] 0 finished (finished.after .proceed)
  disposed : ∃ ended, (finished.after .proceed).agent.subscription? id = some ended ∧
    ended.disposed = true ∧ ∀ {last}, Leads (finished.after .proceed) last →
      ∃ later, last.agent.subscription? id = some later ∧ ended.Remains later

/-- In the course of some occurrences a subscription is told for the last time. -/
def ToldLast (id : Nat) (first : Moment) (occurrences : List Occurrence) : Prop :=
  ∃ earlier middle later, occurrences = earlier ++ .proceed :: (middle ++ .proceed :: later) ∧
    LastNotice id first (earlier.foldl Moment.after first)
      (middle.foldl Moment.after ((earlier.foldl Moment.after first).after .proceed))

/-- What is to be done when the turn of a subscription comes is done before what follows. -/
theorem Closed.toldLast
    {moment : Moment}
    (closed : moment.Closed)
    {id : Nat}
    {known : Subscription}
    (found : moment.agent.subscription? id = some known)
    {before rest : List Duty}
    (agenda : moment.agenda = before ++ .tell id :: .conclude id :: rest)
    (others : ∀ other ∈ before, other.addresses id = false)
    {occurrences : List Occurrence}
    (done : (occurrences.foldl Moment.after moment).agenda.length ≤ rest.length) :
    ToldLast id moment occurrences := by
  obtain ⟨earlier, further, rfl, waits, duties, turn, kept⟩ :=
    closed.reach _ agenda others (done.trans (Nat.le_succ _))
  have reached := closed.leads ⟨earlier, rfl⟩
  obtain ⟨current, isCurrent, _, _⟩ := waits.remains found
  rw [List.foldl_append, List.foldl_cons] at done
  obtain ⟨middle, later, rfl, notified, remaining, ending⟩ :=
    reached.notice isCurrent turn kept done
  have finished := (reached.after .proceed).leads ⟨middle, rfl⟩
  obtain ⟨last, isLast⟩ := notified.found isCurrent
  have concluded := @Hears.nothing id _ finished.readable .proceed fun _ isNext =>
    List.head_eq_of_cons_eq (ending.symm.trans isNext) ▸ rfl
  obtain ⟨ended, isEnded, _⟩ := concluded.remains isLast
  have disposed : ended.disposed = true := by
    generalize middle.foldl Moment.after _ = moment at ending isEnded
    obtain ⟨progress, _, published⟩ := moment
    cases ending
    rw [Agent.subscription?_eq, after_conclude] at isEnded
    exact Subscriber.disposed_markDisposed isEnded
  exact ⟨earlier, middle, later, rfl, waits, ⟨duties, turn⟩, ⟨current, isCurrent, notified⟩,
    ⟨remaining, ending⟩, concluded, ended, isEnded, disposed, fun leads =>
      (leads.remains (finished.after .proceed).readable isEnded disposed).1⟩

theorem filter_stays_lastDuties (targets : List Nat) :
    (lastDuties targets).filter Duty.stays = lastDuties targets := by
  refine List.filter_eq_self.mpr fun duty isLast => ?_
  obtain ⟨_, _, isLast⟩ := List.mem_flatMap.mp isLast
  simp only [List.mem_cons, List.not_mem_nil, or_false] at isLast
  rcases isLast with rfl | rfl <;> rfl

/-- Only the subscriptions that are told for the last time are addressed. -/
theorem not_addresses_lastDuties
    {id : Nat}
    {targets : List Nat}
    (notTarget : id ∉ targets) :
    ∀ duty ∈ lastDuties targets, duty.addresses id = false := by
  intro duty isLast
  obtain ⟨target, isTarget, isLast⟩ := List.mem_flatMap.mp isLast
  simp only [List.mem_cons, List.not_mem_nil, or_false] at isLast
  rcases isLast with rfl | rfl
  · exact beq_false_of_ne fun same => notTarget (same ▸ isTarget)
  · rfl

/-- The subscriptions that are open are told for the last time before the disposal returns. -/
theorem toldLast_of_dispose
    {settings : AgentSettings}
    {attempts : List (Option TransportError)}
    {moment : Moment}
    (reached : Leads (.new settings attempts) moment)
    (running : moment.agent.lifecycle ≠ .disposed)
    {id : Nat}
    {known : Subscription}
    (found : moment.agent.subscription? id = some known)
    (isOpen : known.disposed = false)
    {occurrences : List Occurrence}
    (returned : (occurrences.foldl Moment.after moment.dispose).duties <:+ moment.duties) :
    ToldLast id moment.dispose occurrences := by
  have readable := (Readable.new settings attempts).leads reached
  have serves := ((Sustained.new settings attempts).leads reached).inService running
  rw [Agent.subscription?_eq] at found
  have listed := Subscriber.mem_shut readable.subscriber.sound serves
    (Subscriber.isOpen_of_find? found isOpen)
  rcases moment.dispose_cases with ⟨_, disposed | isNew⟩ | ⟨shut, duties⟩
  · exact absurd disposed running
  · rw [isNew] at found
    cases found
  have isFound : moment.dispose.agent.subscription? id = some known := by
    rw [Agent.subscription?_eq, shut, Subscriber.subscriptions_shut, found]
  obtain ⟨before, others, targets, notBefore⟩ := List.eq_append_cons_of_mem listed
  have agenda : moment.dispose.agenda =
      lastDuties before ++ .tell id :: .conclude id :: (lastDuties others ++ moment.agenda) := by
    rw [Moment.agenda, duties, List.filter_append, filter_stays_lastDuties, targets, lastDuties,
      List.flatMap_append, List.flatMap_cons, List.append_assoc]
    rfl
  refine (Closed.dispose reached running).toldLast isFound agenda
    (not_addresses_lastDuties notBefore) ?_
  have fewer := (returned.filter Duty.stays).length_le
  rw [List.length_append]
  exact Nat.le_add_left_of_le fewer

/-- The agent is final, and since it was disposed nothing was sent and no transport started. -/
structure Aftermath (disposed last : Progress) : Prop where
  final : Final last
  silent : ∃ more, last.outputs = disposed.outputs ++ more ∧
    ∀ output ∈ more, output.isOutward = false

theorem Closed.aftermath
    {first last : Moment}
    (closed : first.Closed)
    (leads : Leads first last) :
    Aftermath first.progress last.progress :=
  ⟨(closed.leads leads).final, (closed.spent.leads leads).2⟩

/-- What becomes of an agent that is disposed at a moment, in the course of some occurrences. -/
structure Ending (moment : Moment) (occurrences : List Occurrence) : Prop where
  aftermath : Aftermath (moment.after .dispose).progress
    (occurrences.foldl after (moment.after .dispose)).progress
  /-- Each subscription that was open has been told for the last time when the disposal returns. -/
  told : (occurrences.foldl after (moment.after .dispose)).duties <:+ moment.duties →
    ∀ {id known}, moment.agent.subscription? id = some known → known.disposed = false →
      ToldLast id (moment.after .dispose) occurrences
  /-- Every subscription is disposed from then on. -/
  disposed : (occurrences.foldl after (moment.after .dispose)).duties <:+ moment.duties →
    ∀ {last}, Leads (occurrences.foldl after (moment.after .dispose)) last →
      ∀ {id known}, last.agent.subscription? id = some known → known.disposed = true

/--
Once the disposal has returned, all subscriptions are disposed: whatever was
still to be done then was to be done before the disposal.
-/
theorem disposed_of_dispose
    {settings : AgentSettings}
    {attempts : List (Option TransportError)}
    {moment : Moment}
    (reached : Leads (.new settings attempts) moment)
    (running : moment.agent.lifecycle ≠ .disposed)
    {returned last : Moment}
    (leads : Leads moment.dispose returned)
    (isReturned : returned.duties <:+ moment.duties)
    (further : Leads returned last)
    {id : Nat}
    {known : Subscription}
    (found : last.agent.subscription? id = some known) :
    known.disposed = true := by
  have closed := (Closed.dispose reached running).leads leads
  obtain ⟨first, isFirst, remains⟩ := closed.earlier_leads further found
  refine (remains.disposed ?_).1
  rw [← Bool.not_eq_false]
  intro isOpen
  rw [Agent.subscription?_eq] at isFirst
  have due := isReturned.subset ((mem_agenda rfl).mp (closed.due isFirst isOpen))
  have stopped := ((Readable.new settings attempts).leads reached).ended due
  rw [((Sustained.new settings attempts).leads reached).inService running] at stopped
  cases stopped

theorem Leads.ending
    {settings : AgentSettings}
    {attempts : List (Option TransportError)}
    {moment : Moment}
    (reached : Leads (.new settings attempts) moment)
    (running : moment.agent.lifecycle ≠ .disposed)
    (occurrences : List Occurrence) :
    Ending moment occurrences := by
  have closed := Closed.dispose reached running
  exact ⟨closed.aftermath ⟨occurrences, rfl⟩,
    fun returned {_ _} found isOpen => toldLast_of_dispose reached running found isOpen returned,
    fun returned {_} further {_ _} found =>
      disposed_of_dispose reached running ⟨occurrences, rfl⟩ returned further found⟩

/--
An agent that is disposed is so for good, whatever happens afterwards: it refuses
everything, shows nothing, sends nothing and starts no transport.  Until the
disposal returns, each subscription that was open gets its turn, and if it is
still open then it is told exactly once; from then on all are disposed.  This
holds at every moment, and so for the call that disposes an agent and whatever
calls come before and after it.
-/
theorem ending_of_dispose (settings : AgentSettings) (attempts : List (Option TransportError)) :
    (∀ {moment : Moment}, Leads (.new settings attempts) moment →
      moment.agent.lifecycle ≠ .disposed → ∀ occurrences, Ending moment occurrences) ∧
      ∀ {before further : List Call} {disposal : Call} {tenancy disposed last : Tenancy},
        disposal.disposes = true → tenancy = before.foldl Tenancy.call (.new settings attempts) →
          tenancy.progress.agent.lifecycle ≠ .disposed → disposed = tenancy.call disposal →
            last = further.foldl Tenancy.call disposed →
              (∃ published later occurrences,
                Leads (.new settings attempts) ⟨tenancy.progress, [], published⟩ ∧
                occurrences.foldl after (.after ⟨tenancy.progress, [], published⟩ .dispose) =
                  ⟨disposed.progress, [], later⟩ ∧
                Ending ⟨tenancy.progress, [], published⟩ occurrences) ∧
              Aftermath disposed.progress last.progress ∧
              ∀ {id known}, last.progress.agent.subscription? id = some known →
                known.disposed = true := by
  constructor
  · intro moment reached running occurrences
    exact reached.ending running occurrences
  · rintro before further disposal tenancy disposed last disposes rfl running rfl rfl
    obtain ⟨published, reached⟩ := Leads.calls before (.new settings attempts) []
    obtain ⟨later, occurrences, returned⟩ := Leads.disposal _ disposes published
    obtain ⟨_, further⟩ := Leads.calls further _ later
    have leads : Leads (.dispose ⟨_, [], published⟩) _ := ⟨occurrences, returned⟩
    have closed := (Closed.dispose reached running).leads leads
    refine ⟨⟨published, later, occurrences, reached, returned, reached.ending running _⟩,
      closed.aftermath further, fun found => ?_⟩
    exact disposed_of_dispose reached running leads List.suffix_rfl further found

/-- The callback of one subscription disposes the other before its turn comes. -/
theorem ending_of_dispose_told :
    let query : Wire.Message := .query "Room"
    let tenancy :=
      [ Call.errand (.subscribe "Room"), .errand (.subscribe "Room")
      , .errand (.listen 1 ⟨"first", [[.dispose 2, .perform (.subscribe "again" "Room")]]⟩)
      , .errand (.listen 1 ⟨"second", []⟩), .errand (.listen 2 ⟨"third", []⟩) ].foldl
      Tenancy.call (.new ⟨30, 50⟩ [])
    let disposed := tenancy.call (.dispose 1 0)
    let last := [Call.drop 2 1, .errand (.receive 1 ⟨.nil, query.encode, .endpoint 1⟩)].foldl
      Tenancy.call disposed
    tenancy.progress.agent.lifecycle ≠ .disposed ∧
      disposed.progress.outputs = tenancy.progress.outputs ++
        [ .updated 1 "first" 1, .left, .acted "first" (.refused .disposed)
        , .updated 1 "second" 1, .stopped ] ∧
      (∃ published later occurrences,
        Leads (.new ⟨30, 50⟩ []) ⟨tenancy.progress, [], published⟩ ∧
        occurrences.foldl after (.after ⟨tenancy.progress, [], published⟩ .dispose) =
          ⟨disposed.progress, [], later⟩ ∧
        Ending ⟨tenancy.progress, [], published⟩ occurrences) ∧
      Aftermath disposed.progress last.progress ∧
      Ending (.new ⟨30, 50⟩ []) [.errand (.subscribe "Room")] := by
  intro query tenancy disposed last
  have running : tenancy.progress.agent.lifecycle ≠ .disposed := by decide +kernel
  have idle : (Moment.new ⟨30, 50⟩ []).agent.lifecycle ≠ .disposed := by decide +kernel
  have ends := ending_of_dispose ⟨30, 50⟩ []
  obtain ⟨told, aftermath, _⟩ :=
    ends.2 (show (Call.dispose 1 0).disposes = true from rfl) rfl running rfl rfl
  exact ⟨running, by decide +kernel, told, aftermath, ends.1 (.refl _) idle _⟩

end Moment

end Discovery
