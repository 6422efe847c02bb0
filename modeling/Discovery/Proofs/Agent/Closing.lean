import Discovery.Proofs.Agent.Agenda
import Discovery.Proofs.Agent.Editing
import Discovery.Proofs.Agent.Farewell
import Discovery.Proofs.Agent.Refusal
import Discovery.Proofs.Subscriber.Marking

namespace Discovery

/-!
# Agents that are closed

From the moment an agent is disposed it is closed (`Moment.Closed`), whatever
happens afterwards: it refuses everything and shows nothing
(`Moment.Closed.final`).  Nothing new is to be done but the callbacks of the
subscription that is just told, so what was to be done at the disposal is done
one after another (`Moment.Closed.agenda_cases`).
-/

namespace Subscriber

/-- A subscription that was just marked is disposed. -/
theorem disposed_markDisposed
    {subscriber : Subscriber}
    {id : Nat}
    {later : Subscription}
    (isLater : (subscriber.markDisposed id).2.subscriptions.find? id = some later) :
    later.disposed = true := by
  have ends := subscriber.marks_markDisposed id
  generalize subscriber.markDisposed id = result at ends isLater
  cases ends with
  | closed closed => exact closed isLater
  | marked found =>
      rw [update, Table.find?_modify, if_pos rfl, found] at isLater
      exact Option.some.inj isLater ▸ rfl

/-- There is nobody to tell of a change when every subscription is one of a shut subscriber. -/
theorem collect_of_stopped
    {subscriber : Subscriber}
    (sound : subscriber.Sound)
    (stopped : ∀ {id known}, subscriber.subscriptions.find? id = some known →
      subscriber.stopped = true) :
    subscriber.collect.1 = [] := by
  unfold collect
  dsimp only
  split
  next => rfl
  next running =>
    refine List.eq_nil_iff_forall_not_mem.mpr fun id collected => ?_
    obtain ⟨category, isMarked, isMember⟩ := List.mem_flatMap.mp collected
    obtain ⟨name, isCategory⟩ := mem_lives.mp (List.mem_of_mem_filter isMarked)
    have enrolled : subscriber.enrolment.find? name = some (category.epoch, category.members) := by
      rw [find?_enrolment, isCategory]
      rfl
    have rolled := sound.rolled enrolled isMember
    rw [find?_roll] at rolled
    obtain ⟨_, found, _⟩ := Option.map_eq_some_iff.mp rolled
    exact running (stopped found)

/-- A subscriber that is shut shows nothing to anybody. -/
theorem Readable.nothing_of_stopped
    {subscriber : Subscriber}
    (readable : subscriber.Readable)
    (stopped : ∀ {id known}, subscriber.subscriptions.find? id = some known →
      subscriber.stopped = true)
    (id : Nat) :
    (subscriber.read id).1.resources = [] := by
  cases found : subscriber.subscriptions.find? id with
  | none =>
      rw [read, found]
      rfl
  | some known =>
      cases isOpen : known.disposed with
      | false =>
          rw [readable.resources_read found isOpen,
            readable.snapshot_of_stopped (stopped found)]
      | true =>
          rw [read, found]
          dsimp only
          rw [isOpen, if_pos rfl]
          rfl

end Subscriber

namespace Progress

/-- A disposed agent refuses everything and shows nothing. -/
structure Final (progress : Progress) : Prop where
  disposed : progress.agent.lifecycle = .disposed
  localResources : progress.agent.localResources = []
  read : ∀ id, (progress.agent.read id).1.resources = []
  subscribe : ∀ category, progress.subscribe category = (.error .disposed, progress)
  publish : ∀ now id category connection attributes,
    progress.publish now id category connection attributes = (.error .disposed, progress)
  commit : ∀ now editor, progress.commit now editor = (.error .disposed, progress)
  dispose : ∀ now, progress.beginDispose now = (false, progress)
  drop : ∀ now, progress.drop now = progress

end Progress

namespace Moment

open Progress (Final)

/-- Once it is its turn, a subscription is disposed. -/
theorem after_conclude
    (progress : Progress)
    (rest : List Duty)
    (published : List ResourceId)
    (id : Nat) :
    (Moment.after ⟨progress, .conclude id :: rest, published⟩ .proceed).agent.subscriberOrNew =
      (progress.agent.subscriberOrNew.markDisposed id).2 := by
  change (Moment.conclude ⟨progress, rest, published⟩ id).agent.subscriberOrNew = _
  unfold conclude agent Agent.subscriberOrNew
  dsimp only
  cases isSubscriber : progress.agent.subscriber with
  | none =>
      dsimp only
      rw [isSubscriber]
      rfl
  | some subscriber => rfl

/-- An agent that is being disposed or has been: every open subscription is still to be disposed. -/
structure Closed (moment : Moment) : Prop where
  spent : moment.Spent
  readable : moment.Readable
  stopped : ∀ {id known}, moment.agent.subscriberOrNew.subscriptions.find? id = some known →
    moment.agent.subscriberOrNew.stopped = true
  due : ∀ {id known}, moment.agent.subscriberOrNew.subscriptions.find? id = some known →
    known.disposed = false → .conclude id ∈ moment.agenda

namespace Closed

variable {moment : Moment}

/-- A disposal closes the agent. -/
theorem dispose
    {settings : AgentSettings}
    {attempts : List (Option TransportError)}
    (reached : Leads (.new settings attempts) moment)
    (running : moment.agent.lifecycle ≠ .disposed) :
    moment.dispose.Closed := by
  have readable := (Readable.new settings attempts).leads reached
  have inService := (InService.new settings attempts).leads reached running
  have serves := ((Sustained.new settings attempts).leads reached).inService running
  refine ⟨.dispose inService, readable.after .dispose, ?_, ?_⟩ <;>
    rcases moment.dispose_cases with ⟨same, disposed | isNew⟩ | ⟨shut, duties⟩
  · exact absurd disposed running
  · rw [same, isNew]
    nofun
  · rw [shut]
    exact fun _ => Subscriber.Step.stopped_shut _
  · exact absurd disposed running
  · rw [same, isNew]
    nofun
  · rw [shut, Subscriber.subscriptions_shut]
    intro id known found isOpen
    have told := Subscriber.mem_shut readable.subscriber.sound serves
      (Subscriber.isOpen_of_find? found isOpen)
    rw [mem_agenda rfl, duties]
    exact List.mem_append_left _
      (List.mem_flatMap.mpr ⟨id, told, List.mem_cons_of_mem _ List.mem_cons_self⟩)

theorem unwanted
    (closed : moment.Closed)
    (occurrence : Occurrence)
    (name : String) :
    ¬ (moment.occasion occurrence).wanted name :=
  fun wanted => wanted.1 closed.spent.disposed

/-- No subscription is made any more. -/
theorem earlier
    (closed : moment.Closed)
    {occurrence : Occurrence}
    {id : Nat}
    {later : Subscription}
    (isLater : (moment.after occurrence).agent.subscriberOrNew.subscriptions.find? id =
      some later) :
    ∃ known, moment.agent.subscriberOrNew.subscriptions.find? id = some known ∧
      known.Remains later := by
  obtain ⟨_, _, effect, _⟩ := moment.effect_after occurrence
  obtain ⟨known, found⟩ := effect.subscriber.earlier (closed.unwanted occurrence) isLater
  obtain ⟨_, isSame, remains⟩ :=
    effect.subscriber.remains closed.readable.subscriber.sound found
  cases isSame.symm.trans isLater
  exact ⟨known, found, remains⟩

/-- Whatever happens, the agent stays closed. -/
theorem after
    (closed : moment.Closed)
    (occurrence : Occurrence) :
    (moment.after occurrence).Closed := by
  refine ⟨(closed.spent.after occurrence).1, closed.readable.after occurrence,
    fun isLater => ?_, fun {id later} isLater isOpen => ?_⟩
  · obtain ⟨_, found, _⟩ := closed.earlier isLater
    obtain ⟨_, _, effect, _⟩ := moment.effect_after occurrence
    exact effect.subscriber.stopped (closed.stopped found)
  · obtain ⟨known, found, remains⟩ := closed.earlier isLater
    have due := closed.due found (remains.wasOpen isOpen)
    rcases moment.agenda_after occurrence with kept | ⟨rfl, duty, rest, isNext, kept⟩
    · exact kept.subset due
    obtain ⟨progress, duties, published⟩ := moment
    cases isNext
    rcases List.mem_cons.mp ((mem_agenda rfl).mp due) with rfl | inRest
    · rw [after_conclude] at isLater
      rw [Subscriber.disposed_markDisposed isLater] at isOpen
      cases isOpen
    · exact kept.subset (List.mem_filter.mpr ⟨inRest, rfl⟩)

theorem leads
    {first last : Moment}
    (closed : first.Closed)
    (leads : Leads first last) :
    last.Closed := by
  obtain ⟨occurrences, rfl⟩ := leads
  exact List.foldlRecOn occurrences _ closed fun _ closed occurrence _ => closed.after occurrence

theorem earlier_leads
    {first last : Moment}
    (closed : first.Closed)
    (leads : Leads first last)
    {id : Nat}
    {later : Subscription}
    (isLater : last.agent.subscription? id = some later) :
    ∃ known, first.agent.subscription? id = some known ∧ known.Remains later := by
  obtain ⟨occurrences, rfl⟩ := leads
  induction occurrences generalizing first with
  | nil => exact ⟨later, isLater, .refl later⟩
  | cons occurrence occurrences inductionHypothesis =>
      obtain ⟨between, isBetween, remains⟩ := inductionHypothesis (closed.after occurrence) isLater
      rw [Agent.subscription?_eq] at isBetween
      obtain ⟨known, found, remainsSo⟩ := closed.earlier isBetween
      exact ⟨known, (Agent.subscription?_eq _ _).trans found, remains.trans remainsSo⟩

/-- A closed agent refuses everything and shows nothing. -/
theorem final (closed : moment.Closed) : Final moment.progress := by
  have disposed : moment.progress.agent.lifecycle = .disposed := closed.spent.disposed
  have begun : ∀ now, moment.progress.beginDispose now = (false, moment.progress) :=
    fun _ => if_pos disposed
  refine ⟨disposed, ?_, fun id => ?_, fun _ => if_pos disposed, fun _ _ _ _ _ => ?_,
    fun now editor => ?_, begun, fun now => by rw [Progress.drop, begun]; rfl⟩
  · rw [Agent.localResources_eq]
    exact Publisher.resources_of_empty closed.spent.nothing
  · rw [resources_read]
    exact closed.readable.subscriber.nothing_of_stopped closed.stopped id
  · rw [Progress.publish, Progress.obtainPublisher, if_pos disposed]
  · refine Progress.commit_of_not_owned _ ?_ now
    rw [show moment.progress.agent.publisherOrNew.owned = ∅ from closed.spent.nothing]
    rfl

/-- What was to be done stays, or the next thing is done and leads to callbacks at most. -/
theorem agenda_cases
    (closed : moment.Closed)
    (occurrence : Occurrence) :
    (moment.after occurrence).agenda = moment.agenda ∧
        (∀ {duty rest}, occurrence = .proceed → moment.duties = duty :: rest →
          duty.stays = false) ∨
      occurrence = .proceed ∧ ∃ duty rest added, moment.duties = duty :: rest ∧
        duty.stays = true ∧ (moment.after occurrence).agenda = added ++ rest.filter Duty.stays ∧
          ∀ other ∈ added, ∃ id position, duty = .tell id ∧ other = .run id position := by
  have idle : ∀ {other : Occurrence}, other ≠ .proceed → ∀ {duty rest},
      other = .proceed → moment.duties = duty :: rest → duty.stays = false :=
    fun different _ _ same => absurd same different
  have none : ∀ {duty : Duty}, ∀ other ∈ ([] : List Duty), ∃ id position,
      duty = .tell id ∧ other = .run id position :=
    fun other isOther => absurd isOther List.not_mem_nil
  cases occurrence with
  | errand errand =>
      refine .inl ⟨?_, idle Occurrence.noConfusion⟩
      change (moment.run errand).agenda = moment.agenda
      rcases moment.run_cases errand with ⟨now, rfl⟩ | ⟨published, isRun⟩
      · change moment.deliver.agenda = moment.agenda
        have nobody := Subscriber.collect_of_stopped closed.readable.subscriber.sound
          closed.stopped
        unfold deliver
        split
        next => rfl
        next subscriber known =>
          rw [Agent.subscriberOrNew, known, Option.getD_some] at nobody
          dsimp only
          rw [nobody]
          rfl
      · rw [isRun]
        rfl
  | dispose =>
      refine .inl ⟨?_, idle Occurrence.noConfusion⟩
      change moment.dispose.agenda = moment.agenda
      rw [Moment.dispose, if_pos closed.spent.disposed]
  | release | report | ask => exact .inl ⟨rfl, idle Occurrence.noConfusion⟩
  | proceed =>
      obtain ⟨progress, duties, published⟩ := moment
      cases duties with
      | nil => exact .inl ⟨rfl, fun _ isNext => absurd isNext.symm (List.cons_ne_nil _ _)⟩
      | cons duty rest =>
          cases duty with
          | repay count =>
              refine .inl ⟨rfl, fun {duty _} _ isNext => ?_⟩
              cases isNext
              rfl
          | run id position =>
              exact .inr ⟨rfl, _, rest, [], rfl, rfl, rfl, none⟩
          | conclude id =>
              exact .inr ⟨rfl, _, rest, [], rfl, rfl,
                agenda_conclude ⟨progress, rest, published⟩ id, none⟩
          | tell id =>
              obtain ⟨positions, told⟩ := agenda_tell ⟨progress, rest, published⟩ id
              refine .inr ⟨rfl, _, rest, _, rfl, rfl, told, fun other isRun => ?_⟩
              obtain ⟨position, _, rfl⟩ := List.mem_map.mp isRun
              exact ⟨id, position, rfl, rfl⟩

end Closed

end Moment

end Discovery
