import Discovery.Proofs.Publisher.Arrangement

namespace Discovery.Publisher

/-!
# Publishers that do not oversleep

The deadline of the timer is only ever lowered, and cleared when the timer
fires, so whatever changes the schedule has to set it again.  Even if names are
used twice, each resource keeps a place in the schedule at the time of its next
announcement, and the timer is set for it or earlier (`Publisher.Attentive`).
-/

/-- The timer of a publisher in service fires no later than anything is due. -/
structure Attentive (publisher : Publisher) : Prop where
  listed : publisher.Listed
  ended : publisher.stopped = true → publisher.owned = ∅
  timer : publisher.timer.Sound
  running : publisher.stopped = false → publisher.timer.closed = false
  armed : publisher.Armed

/-- A timer that is set to the next deadline fires no later than anything is due. -/
theorem Listed.attentive
    {publisher : Publisher}
    (listed : publisher.Listed)
    (ended : publisher.stopped = true → publisher.owned = ∅)
    (timer : publisher.timer.Sound)
    (running : publisher.stopped = false → publisher.timer.closed = false) :
    Attentive { publisher with timer := publisher.timer.armEarlier? publisher.nextDeadline? } :=
  ⟨listed, ended, timer.armEarlier? _,
    fun notStopped => (Timer.closed_armEarlier? ..).trans (running notStopped),
    armed_armEarlier? listed⟩

namespace Attentive

variable {publisher next : Publisher}

theorem new : Attentive Publisher.new :=
  ⟨nofun, nofun, .new, fun _ => rfl, nofun⟩

theorem withFront
    (attentive : publisher.Attentive)
    (front : List ResourceId) :
    Attentive { publisher with front := front } :=
  ⟨attentive.listed, attentive.ended, attentive.timer, attentive.running, attentive.armed⟩

/-- The timer does not oversleep the time of an announcement. -/
theorem heeds
    (attentive : publisher.Attentive)
    {id : ResourceId}
    {scheduled : Scheduled}
    (owned : publisher.owned.find? id = some scheduled) :
    publisher.timer.Heeds scheduled.nextAnnounce :=
  attentive.timer.heeds (attentive.running (notStopped_of_owned attentive.ended owned))
    (attentive.armed owned)

theorem publish
    (attentive : publisher.Attentive)
    {now : Instant}
    {resource : LocalResource}
    (published : publisher.publish now resource = .ok next) :
    next.Attentive := by
  obtain ⟨_, notStopped, rfl⟩ := publish_cases published
  exact ⟨attentive.listed.enter resource now,
    fun stopped => absurd (stopped.symm.trans notStopped) nofun, attentive.timer.armEarlier now,
    fun _ => (Timer.closed_armEarlier ..).trans (attentive.running notStopped),
    Armed.enter attentive.armed resource now⟩

/-- When the timer has fired, it is set for what is due next. -/
theorem turn
    (attentive : publisher.Attentive)
    (now : Instant) :
    (publisher.turn now).2.Attentive := by
  have timer := Timer.Sound.turn publisher.timer now
  have running : publisher.stopped = false → (publisher.timer.turn now).2.closed = false :=
    fun notStopped => (Timer.closed_turn ..).trans (attentive.running notStopped)
  have listed : (publisher.ticked now).Listed := attentive.listed
  obtain ⟨_, sameStopped, sameTimer⟩ := (publisher.ticked now).takeDue_keeps now
  rcases publisher.turn_cases now with ⟨idle, same⟩ | ⟨notStopped, same⟩ <;> rw [same]
  · exact ⟨listed, attentive.ended, timer, running,
      Armed.ticked attentive.armed attentive.ended idle⟩
  · rw [← sameTimer]
    refine (listed.takeDue now).attentive (fun stopped => ?_) (sameTimer ▸ timer) fun _ => ?_
    · exact absurd ((sameStopped.symm.trans stopped).symm.trans notStopped) nofun
    · exact (congrArg Timer.closed sameTimer).trans (running notStopped)

theorem commit
    (attentive : publisher.Attentive)
    {now : Instant}
    {editor : Editor}
    {outgoing : List Outgoing}
    (committed : publisher.commit now editor = .ok (outgoing, next)) :
    next.Attentive := by
  obtain ⟨scheduled, edited, _, owned, _, rfl, rfl, rfl⟩ := commit_cases committed
  have listed := attentive.listed.edit owned edited
  obtain ⟨_, sameStopped, sameTimer⟩ :=
    reschedule_keeps (publisher.amend editor.resource { scheduled with resource := edited })
      editor.resource now
  have notStopped := notStopped_of_owned attentive.ended owned
  refine (listed.reschedule editor.resource now).attentive (fun stopped => ?_) ?_ fun _ => ?_
  · exact absurd (sameStopped.symm.trans stopped) (Bool.eq_false_iff.mp notStopped)
  · rw [sameTimer]
    exact attentive.timer
  · exact (congrArg Timer.closed sameTimer).trans (attentive.running notStopped)

theorem stop (attentive : publisher.Attentive) : publisher.stop.2.Attentive := by
  unfold Publisher.stop
  split
  next => exact attentive
  next => exact ⟨nofun, fun _ => rfl, .close publisher.timer, nofun, nofun⟩

end Attentive

/-- Whatever becomes of a publisher, it does not oversleep. -/
theorem Step.attentive
    {occasion : Occasion}
    {publisher next : Publisher}
    {said : List Outgoing}
    {accepted : List ResourceId}
    (step : publisher.Step occasion said accepted next)
    (attentive : publisher.Attentive) :
    next.Attentive := by
  cases step with
  | rest | answer => exact attentive
  | publish _ _ published => exact attentive.publish published
  | @turn now _ => exact attentive.turn now
  | commit _ committed => exact attentive.commit committed
  | stop => exact attentive.stop
  | shuffle front => exact attentive.withFront front

theorem attentive_foldl_carryOut (operations : List Operation) :
    (operations.foldl carryOut new).Attentive := by
  refine List.foldlRecOn (motive := fun publisher : Publisher => publisher.Attentive)
    operations _ .new fun publisher attentive operation _ => ?_
  obtain ⟨_, _, step, _⟩ := publisher.step_carryOut operation
  exact step.attentive attentive

end Discovery.Publisher
