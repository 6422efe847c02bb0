import Discovery.Proofs.Agent.Agenda
import Discovery.Proofs.Agent.Serial
import Discovery.Proofs.Subscriber.Marking

namespace Discovery

/-!
# No change is kept from a subscription

At every moment of an agent the delivery task is called while some category is
marked.  When the serial number of a subscription moves, the news is on its way:
the category is marked, or the subscription is to be told, or it has been told
and the rest of its callbacks is to be run (`Moment.Course`).  Whatever happens
in between, callbacks and deliveries within deliveries included, the news stays
on its way, so once nothing is left to be done it has arrived
(`Moment.caughtUp_of_moved`).
-/

open scoped List

/-- The callback that ran, if it was one of the given subscription. -/
def Output.callback? (subscription : Nat) : Output → Option String
  | .updated other callback _ => if other = subscription then some callback else none
  | _ => none

/-- The delivery task is called while a category is marked. -/
def Agent.Alert (agent : Agent) : Prop :=
  ∀ ⦃name category⦄, agent.subscriberOrNew.categories.find? name = some category →
    category.dirty = true → agent.deliverReady = true

/-- No category is marked. -/
def Agent.Unmarked (agent : Agent) : Prop :=
  ∀ ⦃name category⦄, agent.subscriberOrNew.categories.find? name = some category →
    category.dirty = false

theorem Agent.Alert.unmarked
    {agent : Agent}
    (alert : agent.Alert)
    (settled : agent.deliverReady = false) :
    agent.Unmarked := by
  intro name category found
  rw [← Bool.not_eq_true]
  intro marked
  rw [alert found marked] at settled
  cases settled

namespace Moment

/-- The callbacks of a subscription that are still to be run, from a position on. -/
def remainingRuns (subscription count position : Nat) : List Duty :=
  (List.range' position (count - position)).map (.run subscription)

/--
How far the news of a change has come on its way to a subscription that has the
named callbacks, of which some have been heard to run.
-/
inductive Course
    (id : Nat)
    (names heard : List String)
    (moment : Moment)
    (known : Subscription) : Prop where
  | marked
      {category : Category}
      (found : moment.agent.subscriberOrNew.categories.find? known.category = some category)
      (marked : category.dirty = true)
  | due (due : .tell id ∈ moment.agenda)
  | told
      (signal : known.signal = moment.agent.subscriberOrNew.serial known.epoch)
      (position : Nat)
      (ran : names.take position <+ heard)
      (due : remainingRuns id names.length position <+ moment.agenda)

/-- An agent that has no subscriber yet has nothing to tell. -/
theorem alert_of_subscriberOrNew
    {agent : Agent}
    (alert : agent.subscriberOrNew.Alert) :
    agent.Alert := by
  intro name category found marked
  have called := alert found marked
  unfold Agent.subscriberOrNew at found called
  unfold Agent.deliverReady
  cases known : agent.subscriber with
  | none =>
      rw [known] at found
      cases found
  | some subscriber => rwa [known] at called

theorem Leads.alert
    {settings : AgentSettings}
    {attempts : List (Option TransportError)}
    {moment : Moment}
    (reached : Leads (.new settings attempts) moment) :
    moment.agent.Alert := by
  obtain ⟨occurrences, rfl⟩ := reached
  refine alert_of_subscriberOrNew (List.foldlRecOn
    (motive := fun moment : Moment => moment.Orderly ∧ moment.agent.subscriberOrNew.Alert)
    occurrences _ ⟨.new settings attempts, nofun⟩ ?_).2
  rintro moment ⟨orderly, alert⟩ occurrence _
  obtain ⟨_, _, effect, _⟩ := moment.effect_after occurrence
  exact ⟨orderly.after occurrence, effect.subscriber.alert orderly.subscriber alert⟩

section Changes

variable {moment : Moment} {id : Nat} {known later : Subscription}

/-- Whether the category of a subscription is marked. -/
def IsMarked (known : Subscription) (subscriber : Subscriber) : Prop :=
  ∃ category, subscriber.categories.find? known.category = some category ∧ category.dirty = true

/-- The serial number of a subscription stands still, and its category was not marked. -/
def Still (known later : Subscription) (before after : Subscriber) : Prop :=
  after.serial later.epoch = before.serial known.epoch ∧ ¬ IsMarked known before

/-- A subscriber whose categories and serial numbers stay has no news but what it had. -/
theorem marked_or_still_of_same
    {before after : Subscriber}
    (remains : known.Remains later)
    (categories : after.categories = before.categories)
    (serial : ∀ epoch, after.serial epoch = before.serial epoch) :
    IsMarked later after ∨ Still known later before after := by
  rw [IsMarked, categories, remains.category]
  by_cases marked : IsMarked known before
  · exact .inl marked
  · exact .inr ⟨by rw [serial, remains.epoch], marked⟩

/-- The open subscriptions of a marked category are to be told once a delivery has begun. -/
theorem news_deliver
    (orderly : moment.Orderly)
    (found : moment.agent.subscriberOrNew.subscriptions.find? id = some known)
    (wasOpen : known.disposed = false)
    (remains : known.Remains later) :
    .tell id ∈ moment.deliver.agenda ∨
      Still known later moment.agent.subscriberOrNew moment.deliver.agent.subscriberOrNew := by
  have sound := orderly.subscriber.readable.sound
  by_cases marked : IsMarked known moment.agent.subscriberOrNew
  · obtain ⟨category, isCategory, isMarked⟩ := marked
    have running : moment.agent.subscriberOrNew.stopped = false := by
      cases stopped : moment.agent.subscriberOrNew.stopped with
      | false => rfl
      | true =>
          rw [Subscriber.noCategory sound stopped] at isCategory
          cases isCategory
    have told := Subscriber.mem_collect sound running found wasOpen isCategory isMarked
    refine .inl ((mem_agenda rfl).mpr ?_)
    unfold deliver
    cases isSubscriber : moment.agent.subscriber with
    | none =>
        rw [Agent.subscriberOrNew, isSubscriber] at found
        cases found
    | some subscriber =>
        rw [Agent.subscriberOrNew, isSubscriber] at told
        exact List.mem_append_left _ (List.mem_map_of_mem told)
  · refine .inr ⟨?_, marked⟩
    rw [remains.epoch]
    unfold deliver
    cases isSubscriber : moment.agent.subscriber with
    | none => rfl
    | some subscriber =>
        have same : moment.agent.subscriberOrNew = subscriber :=
          congrArg (·.getD Subscriber.new) isSubscriber
        rw [same]
        exact Subscriber.serial_collect known.epoch

/-- The open subscriptions are to be told once the agent has been disposed. -/
theorem news_dispose
    (orderly : moment.Orderly)
    (found : moment.agent.subscriberOrNew.subscriptions.find? id = some known)
    (wasOpen : known.disposed = false)
    (remains : known.Remains later) :
    IsMarked later moment.dispose.agent.subscriberOrNew ∨
      .tell id ∈ moment.dispose.agenda ∨
        Still known later moment.agent.subscriberOrNew
          moment.dispose.agent.subscriberOrNew := by
  have resting : moment.dispose.agent.subscriberOrNew = moment.agent.subscriberOrNew →
      IsMarked later moment.dispose.agent.subscriberOrNew ∨
        .tell id ∈ moment.dispose.agenda ∨
          Still known later moment.agent.subscriberOrNew
            moment.dispose.agent.subscriberOrNew := fun same =>
    (marked_or_still_of_same remains (by rw [same]) fun _ => by rw [same]).imp_right .inr
  rcases moment.dispose_cases with ⟨same, _⟩ | ⟨shut, duties⟩
  · exact resting same
  cases stopped : moment.agent.subscriberOrNew.stopped with
  | true =>
      rw [Subscriber.shut, if_pos stopped] at shut
      exact resting shut
  | false =>
      have told := Subscriber.mem_shut orderly.subscriber.readable.sound stopped
        (Subscriber.isOpen_of_find? found wasOpen)
      refine .inr (.inl ((mem_agenda rfl).mpr ?_))
      rw [duties]
      exact List.mem_append_left _ (List.mem_flatMap.mpr ⟨id, told, List.mem_cons_self⟩)

/--
After whatever has happened the category of an open subscription is marked, the
subscription is to be told, or nothing has changed in an unmarked category.
-/
theorem news_after
    (orderly : moment.Orderly)
    (found : moment.agent.subscriberOrNew.subscriptions.find? id = some known)
    (occurrence : Occurrence)
    (isLater : (moment.after occurrence).agent.subscriberOrNew.subscriptions.find? id = some later)
    (remains : known.Remains later)
    (isOpen : later.disposed = false) :
    IsMarked later (moment.after occurrence).agent.subscriberOrNew ∨
      .tell id ∈ (moment.after occurrence).agenda ∨
        Still known later moment.agent.subscriberOrNew
          (moment.after occurrence).agent.subscriberOrNew := by
  have readable := orderly.subscriber.readable
  have wasOpen := remains.wasOpen isOpen
  by_cases isDisposal : occurrence = .dispose
  · subst isDisposal
    exact news_dispose orderly found wasOpen remains
  obtain ⟨_, _, effect, _⟩ := moment.effect_after occurrence
  have running : (moment.after occurrence).agent.subscriberOrNew.stopped =
      moment.agent.subscriberOrNew.stopped :=
    effect.subscriber.stopped_cases.resolve_right fun shut => isDisposal shut.1
  rcases effect.subscriber.marked_cases orderly.subscriber.distinct with
    marked | ⟨⟨now, rfl⟩, collected⟩ | ⟨due, _⟩
  · cases stopped : moment.agent.subscriberOrNew.stopped with
    | true =>
        have frozen := Subscriber.Frozen.step effect.subscriber readable.sound stopped
        refine .inr (.inr ⟨?_, ?_⟩)
        · exact remains.epoch ▸ frozen.serial later.epoch
        · rintro ⟨category, isCategory, _⟩
          rw [Subscriber.noCategory readable.sound stopped] at isCategory
          cases isCategory
    | false =>
        have sound := (orderly.after occurrence).subscriber.readable.sound
        have begun := readable.tidy.begun found
        rcases marked.marked_or_still sound (running.trans stopped) begun remains isLater isOpen
          with isMarked | ⟨still, unmarked⟩
        · exact .inl isMarked
        · refine .inr (.inr ⟨still, ?_⟩)
          rintro ⟨category, isCategory, isMarked⟩
          rw [unmarked isCategory] at isMarked
          cases isMarked
  · exact .inr (news_deliver orderly found wasOpen remains)
  · exact absurd due isDisposal

/-- Nothing is signalled but the serial number. -/
theorem signal_after
    (orderly : moment.Orderly)
    (found : moment.agent.subscriberOrNew.subscriptions.find? id = some known)
    (occurrence : Occurrence)
    (isLater : (moment.after occurrence).agent.subscriberOrNew.subscriptions.find? id = some later)
    (signal : known.signal = moment.agent.subscriberOrNew.serial known.epoch) :
    later.signal = moment.agent.subscriberOrNew.serial known.epoch := by
  obtain ⟨_, _, effect, _⟩ := moment.effect_after occurrence
  rcases effect.subscriber.signalled orderly.subscriber.readable.sound isLater with
    ⟨earlier, had, _, same⟩ | ⟨absent, _⟩
  · cases had.symm.trans found
    exact same.elim (·.trans signal) fun current => current
  · cases absent.symm.trans found

/-- The callback at a position of an open subscription's list runs when its turn comes. -/
theorem outputs_run
    {progress : Progress}
    (rest : List Duty)
    (published : List ResourceId)
    (found : progress.agent.subscription? id = some known)
    {position : Nat}
    {callback : Callback}
    (isCallback : known.callbacks[position]? = some callback) :
    ∃ serial, (Moment.after ⟨progress, .run id position :: rest, published⟩ .proceed).outputs =
      progress.outputs ++ [.updated id callback.name serial] := by
  change ∃ serial, (progress.startCallback id position).outputs = _
  unfold Progress.startCallback
  dsimp only
  rw [found, Option.bind_some, isCallback]
  exact ⟨_, rfl⟩

end Changes

namespace Course

variable {moment : Moment} {id : Nat} {names heard : List String} {known later : Subscription}

/-- A change sends the news on its way. -/
theorem of_moved
    (orderly : moment.Orderly)
    (found : moment.agent.subscriberOrNew.subscriptions.find? id = some known)
    (occurrence : Occurrence)
    (isLater : (moment.after occurrence).agent.subscriberOrNew.subscriptions.find? id = some later)
    (remains : known.Remains later)
    (isOpen : later.disposed = false)
    (moved : (moment.after occurrence).agent.subscriberOrNew.serial later.epoch ≠
      moment.agent.subscriberOrNew.serial known.epoch) :
    Course id names heard (moment.after occurrence) later := by
  rcases news_after orderly found occurrence isLater remains isOpen with
    ⟨category, isCategory, marked⟩ | due | still
  · exact .marked isCategory marked
  · exact .due due
  · exact absurd still.1 moved

/-- The runs of callbacks are things to be done. -/
theorem remainingRuns_sublist
    {count position : Nat}
    {duties : List Duty}
    (due : remainingRuns id count position <+ duties) :
    remainingRuns id count position <+ duties.filter Duty.stays := by
  have runs : (remainingRuns id count position).filter Duty.stays =
      remainingRuns id count position := filter_stays_runs id _
  exact runs ▸ due.filter Duty.stays

/-- A subscription that is open is told when its turn comes. -/
theorem of_tell
    {progress : Progress}
    {rest : List Duty}
    {published : List ResourceId}
    (found : progress.agent.subscriberOrNew.subscriptions.find? id = some known)
    (isOpen : known.disposed = false)
    (listed : names <+: known.callbacks.map Callback.name)
    {next : Moment}
    (isNext : Moment.after ⟨progress, .tell id :: rest, published⟩ .proceed = next)
    (isLater : next.agent.subscriberOrNew.subscriptions.find? id = some later) :
    Course id names heard next later := by
  have isSubscription := found
  rw [← Agent.subscription?_eq] at isSubscription
  obtain rfl := isNext.symm.trans (after_tell isSubscription isOpen)
  rw [← Agent.subscription?_eq] at isLater
  change (progress.updateSubscription id _).agent.subscription? id = _ at isLater
  rw [Agent.subscription?_updateSubscription, isSubscription] at isLater
  cases isLater
  refine .told ?_ 0 (List.nil_sublist _) (remainingRuns_sublist ?_)
  · change progress.agent.serial id =
      (progress.updateSubscription id _).agent.subscriberOrNew.serial known.epoch
    rw [Agent.subscriberOrNew_updateSubscription, Agent.serial_eq isSubscription]
    rfl
  · have fewer := listed.length_le
    rw [List.length_map] at fewer
    refine List.Sublist.trans ?_ (List.sublist_append_left ..)
    rw [remainingRuns, Nat.sub_zero, List.range_eq_range']
    exact (List.range'_sublist_right.mpr fewer).map _

/-- When the turn of something comes, all is as before or the next callback is heard to run. -/
theorem remainingRuns_proceed
    {progress : Progress}
    {duty : Duty}
    {rest : List Duty}
    {published : List ResourceId}
    (found : progress.agent.subscriberOrNew.subscriptions.find? id = some known)
    (listed : names <+: known.callbacks.map Callback.name)
    {position : Nat}
    (ran : names.take position <+ heard)
    (due : remainingRuns id names.length position <+ duty :: rest)
    {more : List Output}
    (outputs : (Moment.after ⟨progress, duty :: rest, published⟩ .proceed).outputs =
      progress.outputs ++ more) :
    ∃ next, names.take next <+ heard ++ more.filterMap (Output.callback? id) ∧
      remainingRuns id names.length next <+ rest := by
  have heardStill : heard <+ heard ++ more.filterMap (Output.callback? id) :=
    List.sublist_append_left ..
  by_cases allRan : names.length ≤ position
  · refine ⟨position, ran.trans heardStill, ?_⟩
    rw [remainingRuns, Nat.sub_eq_zero_of_le allRan]
    exact List.nil_sublist _
  have isName := Nat.lt_of_not_le allRan
  have isRun : remainingRuns id names.length position =
      .run id position :: remainingRuns id names.length (position + 1) := by
    rw [remainingRuns, ← Nat.sub_add_cancel (Nat.sub_pos_of_lt isName), List.range'_succ,
      remainingRuns, Nat.sub_sub]
    rfl
  rw [isRun] at due
  cases due with
  | cons _ due => exact ⟨position, ran.trans heardStill, isRun ▸ due⟩
  | cons_cons _ due =>
      have named := List.prefix_iff_getElem?.mp listed position isName
      rw [List.getElem?_map] at named
      obtain ⟨callback, isCallback, isNamed⟩ := Option.map_eq_some_iff.mp named
      rw [← Agent.subscription?_eq] at found
      obtain ⟨serial, isRun⟩ := outputs_run rest published found isCallback
      cases List.append_cancel_left (outputs.symm.trans isRun)
      refine ⟨position + 1, ?_, due⟩
      rw [← List.take_append_getElem isName, ← isNamed]
      refine ran.append (Eq.subst ?_ (List.Sublist.refl _))
      simp [Output.callback?]

/-- Whatever happens, the news stays on its way. -/
theorem after
    (course : Course id names heard moment known)
    (orderly : moment.Orderly)
    (found : moment.agent.subscriberOrNew.subscriptions.find? id = some known)
    (listed : names <+: known.callbacks.map Callback.name)
    (occurrence : Occurrence)
    (isLater : (moment.after occurrence).agent.subscriberOrNew.subscriptions.find? id = some later)
    (remains : known.Remains later)
    (isOpen : later.disposed = false)
    {more : List Output}
    (outputs : (moment.after occurrence).outputs = moment.outputs ++ more) :
    Course id names (heard ++ more.filterMap (Output.callback? id)) (moment.after occurrence)
      later := by
  rcases news_after orderly found occurrence isLater remains isOpen with
    ⟨category, isCategory, marked⟩ | due | ⟨still, unmarked⟩
  · exact .marked isCategory marked
  · exact .due due
  cases course with
  | marked isCategory marked => exact absurd ⟨_, isCategory, marked⟩ unmarked
  | due due =>
      rcases moment.agenda_after occurrence with kept | ⟨rfl, duty, rest, isNext, kept⟩
      · exact .due (kept.subset due)
      obtain ⟨progress, duties, published⟩ := moment
      cases isNext
      rcases List.mem_cons.mp ((mem_agenda rfl).mp due) with rfl | later
      · exact of_tell found (remains.wasOpen isOpen) listed rfl isLater
      · exact .due (kept.subset (List.mem_filter.mpr ⟨later, rfl⟩))
  | told signal position ran due =>
      have signalled := signal_after orderly found occurrence isLater signal
      rw [← still] at signalled
      rcases moment.agenda_after occurrence with kept | ⟨rfl, duty, rest, isNext, kept⟩
      · exact .told signalled position (ran.trans (List.sublist_append_left ..))
          (due.trans kept.sublist)
      obtain ⟨progress, duties, published⟩ := moment
      cases isNext
      obtain ⟨next, ran, due⟩ :=
        remainingRuns_proceed found listed ran (due.trans List.filter_sublist) outputs
      exact .told signalled next ran ((remainingRuns_sublist due).trans kept.sublist)

end Course

/--
There is no news for a subscription until its serial number moves, and from then
on the news is on its way to it.
-/
theorem Leads.course
    {first last : Moment}
    (leads : Leads first last)
    (orderly : first.Orderly)
    {id : Nat}
    {known later : Subscription}
    (found : first.agent.subscriberOrNew.subscriptions.find? id = some known)
    (isLater : last.agent.subscriberOrNew.subscriptions.find? id = some later)
    (isOpen : later.disposed = false)
    (moved : last.agent.subscriberOrNew.serial later.epoch ≠
      first.agent.subscriberOrNew.serial known.epoch) :
    ∃ more, last.outputs = first.outputs ++ more ∧
      Course id (known.callbacks.map Callback.name) (more.filterMap (Output.callback? id)) last
        later := by
  obtain ⟨occurrences, rfl⟩ := leads
  have course := List.foldlRecOn
    (motive := fun moment : Moment => moment.Orderly ∧ ∃ more current,
      moment.outputs = first.outputs ++ more ∧
      moment.agent.subscriberOrNew.subscriptions.find? id = some current ∧
      known.Remains current ∧
      (current.disposed = false →
        moment.agent.subscriberOrNew.serial current.epoch =
            first.agent.subscriberOrNew.serial known.epoch ∨
          Course id (known.callbacks.map Callback.name) (more.filterMap (Output.callback? id))
            moment current))
    occurrences Moment.after
    ⟨orderly, [], known, (List.append_nil _).symm, found, .refl known, fun _ => .inl rfl⟩ ?_
  · obtain ⟨_, more, current, outputs, isCurrent, _, news⟩ := course
    cases isCurrent.symm.trans isLater
    exact ⟨more, outputs, (news isOpen).resolve_left moved⟩
  rintro moment ⟨orderly, more, current, outputs, isCurrent, remains, news⟩ occurrence _
  obtain ⟨_, _, effect, _⟩ := moment.effect_after occurrence
  obtain ⟨next, isNext, remainsNext⟩ :=
    effect.subscriber.remains orderly.subscriber.readable.sound isCurrent
  refine ⟨orderly.after occurrence, ?_⟩
  obtain ⟨further, furtherOutputs, _⟩ := effect.outputs
  have allOutputs : (moment.after occurrence).outputs = first.outputs ++ (more ++ further) := by
    rw [← List.append_assoc, ← outputs]
    exact furtherOutputs
  refine ⟨more ++ further, next, allOutputs, isNext, remainsNext.trans remains, fun nextOpen => ?_⟩
  rw [List.filterMap_append]
  rcases news (remainsNext.wasOpen nextOpen) with still | course
  · refine or_iff_not_imp_left.mpr fun moved => ?_
    exact .of_moved orderly isCurrent occurrence isNext remainsNext nextOpen (still ▸ moved)
  · exact .inr (course.after orderly isCurrent remains.callbacks occurrence isNext remainsNext
      nextOpen furtherOutputs)

/-- A subscription has signalled the present serial number, and its callbacks have run. -/
structure CaughtUp
    (id : Nat)
    (names : List String)
    (later : Subscription)
    (first last : Progress) : Prop where
  signal : later.signal = last.agent.serial id
  told : ∃ more, last.outputs = first.outputs ++ more ∧
    names <+ more.filterMap (Output.callback? id)

/--
While a category is marked the delivery task is called, so no category is marked
once it is not called.  When nothing is left to be done either, every open
subscription whose serial number has moved in the meantime has signalled the
present one, and all callbacks that it had before have run since.  This holds at
every moment and after every call.
-/
theorem caughtUp_of_moved (settings : AgentSettings) (attempts : List (Option TransportError)) :
    (∀ {moment : Moment}, Leads (.new settings attempts) moment →
      moment.agent.Alert ∧ (moment.agent.deliverReady = false → moment.agent.Unmarked)) ∧
    (∀ {first last : Moment} {id : Nat} {known later : Subscription},
      Leads (.new settings attempts) first → first.agent.subscription? id = some known →
        Leads first last → last.agent.serial id ≠ first.agent.serial id →
          last.duties = [] → last.agent.deliverReady = false →
            last.agent.subscription? id = some later → later.disposed = false →
              CaughtUp id (known.callbacks.map Callback.name) later first.progress
                last.progress) ∧
    ∀ {before further : List Call} {tenancy last : Tenancy},
      tenancy = before.foldl Tenancy.call (.new settings attempts) →
        last = further.foldl Tenancy.call tenancy →
          (last.progress.agent.Alert ∧
            (last.progress.agent.deliverReady = false → last.progress.agent.Unmarked)) ∧
          ∀ {id : Nat} {known later : Subscription},
            tenancy.progress.agent.subscription? id = some known →
              last.progress.agent.serial id ≠ tenancy.progress.agent.serial id →
                last.progress.agent.deliverReady = false →
                  last.progress.agent.subscription? id = some later → later.disposed = false →
                    CaughtUp id (known.callbacks.map Callback.name) later tenancy.progress
                      last.progress := by
  have orderly : ∀ {moment : Moment}, Leads (.new settings attempts) moment → moment.Orderly :=
    fun reached => (Orderly.new settings attempts).leads reached
  have caughtUp : ∀ {first last : Moment} {id : Nat} {known later : Subscription},
      Leads (.new settings attempts) first → first.agent.subscription? id = some known →
        Leads first last → last.agent.serial id ≠ first.agent.serial id →
          last.duties = [] → last.agent.deliverReady = false →
            last.agent.subscription? id = some later → later.disposed = false →
              CaughtUp id (known.callbacks.map Callback.name) later first.progress
                last.progress := by
    intro first last id known later reached found leads moved nothing settled isLater isOpen
    have agenda : last.agenda = [] := by rw [agenda, nothing, List.filter_nil]
    have unmarked := (reached.trans leads).alert.unmarked settled
    rw [Agent.serial_eq found, Agent.serial_eq isLater] at moved
    have serial := Agent.serial_eq isLater
    rw [Agent.subscription?_eq] at found isLater
    obtain ⟨more, outputs, course⟩ := leads.course (orderly reached) found isLater isOpen moved
    cases course with
    | marked isCategory marked =>
        rw [unmarked isCategory] at marked
        cases marked
    | due due =>
        rw [agenda] at due
        cases due
    | told signal position ran due =>
        rw [agenda, List.sublist_nil, remainingRuns, List.map_eq_nil_iff, List.range'_eq_nil_iff,
          Nat.sub_eq_zero_iff_le] at due
        rw [List.take_of_length_le due] at ran
        exact ⟨signal.trans serial.symm, more, outputs, ran⟩
  refine ⟨fun reached => ⟨reached.alert, reached.alert.unmarked⟩, caughtUp, ?_⟩
  rintro before further tenancy last rfl rfl
  obtain ⟨published, reached⟩ := Leads.calls before (.new settings attempts) []
  obtain ⟨later, leads⟩ := Leads.calls further _ published
  have alert := (reached.trans leads).alert
  refine ⟨⟨alert, alert.unmarked⟩, fun found moved settled isLater isOpen => ?_⟩
  exact caughtUp reached found leads moved rfl settled isLater isOpen

/-- A resource is announced, and both callbacks of the subscription hear of it. -/
theorem caughtUp_of_moved_announced :
    let id : ResourceId := ⟨List.replicate 16 1, List.length_replicate⟩
    let hello : Wire.Message := .hello ⟨"Room", "here", 30, ∅⟩
    let errands : List Errand :=
      [.subscribe "Room", .listen 1 ⟨"first", []⟩, .listen 1 ⟨"second", []⟩]
    let announced : List Errand := [.receive 0 ⟨id, hello.encode, .endpoint 1⟩, .deliver 0]
    let tenancy := (errands.map Call.errand).foldl Tenancy.call (.new ⟨30, 50⟩ [])
    let told := (announced.map Call.errand).foldl Tenancy.call tenancy
    ∃ (first last : Moment) (known later : Subscription),
      Leads (.new ⟨30, 50⟩ []) first ∧ first.progress = tenancy.progress ∧
        first.agent.subscription? 1 = some known ∧
        known.callbacks.map Callback.name = ["first", "second"] ∧
        Leads first last ∧ last.progress = told.progress ∧
        last.agent.serial 1 ≠ first.agent.serial 1 ∧ last.duties = [] ∧
        last.agent.deliverReady = false ∧ last.agent.subscription? 1 = some later ∧
        later.disposed = false ∧ last.agent.Alert ∧ last.agent.Unmarked ∧
        CaughtUp 1 ["first", "second"] later first.progress last.progress ∧
        CaughtUp 1 ["first", "second"] later tenancy.progress told.progress := by
  intro id hello errands announced tenancy told
  obtain ⟨published, reached⟩ := Leads.calls (errands.map Call.errand) (.new ⟨30, 50⟩ []) []
  obtain ⟨_, leads⟩ := Leads.calls (announced.map Call.errand) tenancy published
  have subscribes : ((tenancy.progress.agent.subscription? 1).any fun known =>
      decide (known.callbacks.map Callback.name = ["first", "second"])) = true := by
    decide +kernel
  have listens : ((told.progress.agent.subscription? 1).any fun later =>
      !later.disposed) = true := by decide +kernel
  have moved : told.progress.agent.serial 1 ≠ tenancy.progress.agent.serial 1 := by
    decide +kernel
  have settled : told.progress.agent.deliverReady = false := by decide +kernel
  obtain ⟨known, found, isNames⟩ := (Option.any_eq_true ..).mp subscribes
  obtain ⟨later, isLater, notDisposed⟩ := (Option.any_eq_true ..).mp listens
  have names : known.callbacks.map Callback.name = ["first", "second"] :=
    of_decide_eq_true isNames
  have isOpen : later.disposed = false := by simpa using notDisposed
  obtain ⟨alert, caughtUp, calls⟩ := caughtUp_of_moved ⟨30, 50⟩ []
  obtain ⟨_, caughtUpCalls⟩ :=
    @calls (errands.map Call.errand) (announced.map Call.errand) tenancy told rfl rfl
  obtain ⟨isAlert, unmarked⟩ := alert (reached.trans leads)
  have heard := caughtUp reached found leads moved rfl settled isLater isOpen
  have heardCalls := caughtUpCalls found moved settled isLater isOpen
  rw [names] at heard heardCalls
  exact ⟨_, _, known, later, reached, rfl, found, names, leads, rfl, moved, rfl, settled, isLater,
    isOpen, isAlert, unmarked settled, heard, heardCalls⟩

end Moment

end Discovery
