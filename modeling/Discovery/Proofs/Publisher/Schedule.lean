import Discovery.Config.Basic
import Discovery.Proofs.Publisher.Interval
import Discovery.Proofs.Timer.Deadline
import Discovery.Publisher.Basic
import Discovery.Table.Lemmas

namespace Discovery

/-!
# Announcements in time

A resource is announced again before its last announcement lapses, because the
interval is shorter than the expiry.  `Publisher.Sound` says that a publisher
forgets none of its announcements: every resource that it owns has its place in
the schedule, and the timer fires no later than the earliest of them is due.
-/

namespace AgentSettings

/-- The expiry that announcements carry is the configured one, as far as the wire can state it. -/
theorem toInt_wireExpiry (settings : AgentSettings) :
    settings.wireExpiry.toInt = min settings.resourceExpiry.toNat 0x7FFFFFFF := by
  rw [wireExpiry, Int32.toInt_ofNat_of_lt (by omega)]

theorem one_le_wireExpiry
    {settings : AgentSettings}
    (lasting : 1 ≤ settings.resourceExpiry.toNat) :
    1 ≤ settings.wireExpiry.toInt := by
  rw [toInt_wireExpiry]
  omega

end AgentSettings

namespace Scheduled

/-- The time between two announcements. -/
def interval (scheduled : Scheduled) : Span :=
  announceInterval scheduled.resource.expiry

/-- How long an announcement is believed. -/
def lifetime (scheduled : Scheduled) : Span :=
  scheduled.resource.expiry.toInt.toNat * second

/-- The resource with another time of its next announcement. -/
def dueAt (scheduled : Scheduled) (instant : Instant) : Scheduled :=
  { scheduled with nextAnnounce := instant }

@[simp]
theorem resource_dueAt
    (scheduled : Scheduled)
    (instant : Instant) :
    (scheduled.dueAt instant).resource = scheduled.resource :=
  rfl

@[simp]
theorem nextAnnounce_dueAt
    (scheduled : Scheduled)
    (instant : Instant) :
    (scheduled.dueAt instant).nextAnnounce = instant :=
  rfl

/-- A resource that has been announced at an instant. -/
def announcedAt (scheduled : Scheduled) (instant : Instant) : Scheduled :=
  scheduled.dueAt (instant + scheduled.interval)

@[simp]
theorem resource_announcedAt
    (scheduled : Scheduled)
    (instant : Instant) :
    (scheduled.announcedAt instant).resource = scheduled.resource :=
  resource_dueAt scheduled _

@[simp]
theorem nextAnnounce_announcedAt
    (scheduled : Scheduled)
    (instant : Instant) :
    (scheduled.announcedAt instant).nextAnnounce = instant + scheduled.interval := by
  rw [announcedAt, nextAnnounce_dueAt]

/-- The interval is that of the resource. -/
theorem interval_of_resource
    {first second : Scheduled}
    (same : first.resource = second.resource) :
    first.interval = second.interval := by
  rw [interval, same, interval]

theorem dueAt_dueAt
    (scheduled : Scheduled)
    (first second : Instant) :
    (scheduled.dueAt first).dueAt second = scheduled.dueAt second :=
  rfl

theorem announcedAt_announcedAt
    (scheduled : Scheduled)
    (instant : Instant) :
    (scheduled.announcedAt instant).announcedAt instant = scheduled.announcedAt instant := by
  rw [announcedAt, interval_of_resource (scheduled.resource_announcedAt instant), announcedAt,
    dueAt_dueAt]

end Scheduled

/-- What comes earlier in a schedule is not due later. -/
theorem Slot.due_le_of_lt
    {first later : Slot}
    (before : Slot.order first later = .lt) :
    first.due ≤ later.due := by
  have notLater : (compareOn Slot.due first later).isLE = true := by
    unfold Slot.order compareLex at before
    cases ordering : compareOn Slot.due first later with
    | lt | eq => rfl
    | gt =>
        rw [ordering] at before
        cases before
  exact Nat.isLE_compare.mp notLater

namespace Publisher

/-- What a publisher owns can be announced, and has its place in the schedule. -/
structure Stocked (now : Instant) (publisher : Publisher) : Prop where
  named : ∀ {id scheduled}, publisher.owned.find? id = some scheduled →
    scheduled.resource.id = id
  real : ∀ {id}, (publisher.resource? id).isSome → id.isNil = false
  valid : ∀ {id scheduled}, publisher.owned.find? id = some scheduled →
    checkResource scheduled.resource = .ok ()
  lasting : ∀ {id scheduled}, publisher.owned.find? id = some scheduled →
    1 ≤ scheduled.resource.expiry.toInt
  timely : ∀ {id scheduled}, publisher.owned.find? id = some scheduled →
    scheduled.nextAnnounce ≤ now + scheduled.interval
  listed : ∀ {id scheduled}, publisher.owned.find? id = some scheduled →
    publisher.schedule.find? ⟨scheduled.nextAnnounce, id⟩ = some ()
  inService : publisher.stopped = false → publisher.withdrawn = ∅
  ended : publisher.stopped = true → publisher.owned = ∅

/-- What is owned has a place in the schedule, which may have others. -/
def Listed (publisher : Publisher) : Prop :=
  ∀ ⦃id scheduled⦄, publisher.owned.find? id = some scheduled →
    publisher.schedule.find? ⟨scheduled.nextAnnounce, id⟩ = some ()

/-- The timer fires no later than anything is due. -/
def Armed (publisher : Publisher) : Prop :=
  ∀ {id scheduled}, publisher.owned.find? id = some scheduled →
    ∃ deadline, publisher.timer.deadline = some deadline ∧ deadline ≤ scheduled.nextAnnounce

/-- A publisher forgets none of its announcements. -/
structure Sound (now : Instant) (publisher : Publisher) : Prop extends Stocked now publisher where
  timer : publisher.timer.Sound
  running : publisher.stopped = false → publisher.timer.closed = false
  armed : publisher.Armed

/-- The publisher in which a resource is what it has become by an edit. -/
def amend (publisher : Publisher) (id : ResourceId) (scheduled : Scheduled) : Publisher :=
  { publisher with owned := publisher.owned.insert id scheduled }

theorem find?_owned_amend
    (publisher : Publisher)
    (id sought : ResourceId)
    (scheduled : Scheduled) :
    (publisher.amend id scheduled).owned.find? sought =
      if sought = id then some scheduled else publisher.owned.find? sought :=
  Table.find?_insert ..

/-- A publisher that owns something has not stopped. -/
theorem notStopped_of_owned
    {publisher : Publisher}
    (ended : publisher.stopped = true → publisher.owned = ∅)
    {id : ResourceId}
    {scheduled : Scheduled}
    (owned : publisher.owned.find? id = some scheduled) :
    publisher.stopped = false := by
  refine Bool.eq_false_iff.mpr fun stopped => ?_
  rw [ended stopped] at owned
  cases owned

theorem resource?_eq
    (publisher : Publisher)
    (id : ResourceId) :
    publisher.resource? id =
      ((publisher.owned.find? id).map Scheduled.resource).or (publisher.withdrawn.find? id) := by
  rw [resource?]
  cases publisher.owned.find? id <;> rfl

theorem resource?_of_owned
    {publisher : Publisher}
    {id : ResourceId}
    {scheduled : Scheduled}
    (owned : publisher.owned.find? id = some scheduled) :
    publisher.resource? id = some scheduled.resource := by
  rw [resource?_eq, owned]
  rfl

/-- A resource in the schedule is not due before the next deadline. -/
theorem nextDeadline?_le
    {publisher : Publisher}
    {slot : Slot}
    (listed : publisher.schedule.find? slot = some ()) :
    ∃ deadline, publisher.nextDeadline? = some deadline ∧ deadline ≤ slot.due := by
  have member := Table.find?_eq_some_iff.mp listed
  have ascending := publisher.schedule.ascending
  unfold nextDeadline? Table.keys
  generalize publisher.schedule.entries = entries at member ascending
  cases entries with
  | nil => cases member
  | cons first rest =>
      refine ⟨first.1.due, rfl, ?_⟩
      rcases List.mem_cons.mp member with isFirst | inRest
      · exact Nat.le_of_eq (congrArg (fun entry => Slot.due entry.1) isFirst).symm
      · exact Slot.due_le_of_lt ((List.pairwise_cons.mp ascending).1 _ inRest)

/-- A timer that is set to the next deadline fires no later than what is listed is due. -/
theorem armed_armEarlier?
    {publisher : Publisher}
    (listed : publisher.Listed) :
    Armed { publisher with timer := publisher.timer.armEarlier? publisher.nextDeadline? } := by
  intro id scheduled owned
  obtain ⟨next, isNext, early⟩ := nextDeadline?_le (listed owned)
  obtain ⟨deadline, isDeadline, before⟩ := Timer.deadline_armEarlier_le publisher.timer next
  refine ⟨deadline, ?_, Nat.le_trans before early⟩
  rw [← isDeadline, isNext]
  rfl

namespace Armed

variable {publisher : Publisher}

/-- A resource that comes in is due at once, and so is the timer. -/
theorem enter
    (armed : publisher.Armed)
    (resource : LocalResource)
    (now : Instant) :
    Armed { publisher.enter resource now with timer := publisher.timer.armEarlier now } := by
  intro id scheduled owned
  change (publisher.owned.insert resource.id ⟨resource, now⟩).find? id = some scheduled at owned
  rw [Table.find?_insert] at owned
  split at owned
  next =>
    cases owned
    exact Timer.deadline_armEarlier_le publisher.timer now
  next => exact Timer.deadline_armEarlier_of_le (armed owned) now

/-- While the timer has nothing to do it waits, and for nothing later than what is due. -/
theorem waitsFor?
    (armed : publisher.Armed)
    (timer : publisher.timer.Sound)
    (isOpen : publisher.timer.closed = false)
    {now : Instant}
    (atRest : publisher.timer.isReady now = false)
    {id : ResourceId}
    {scheduled : Scheduled}
    (owned : publisher.owned.find? id = some scheduled) :
    ∃ deadline, publisher.timer.waitsFor? = some deadline ∧ now < deadline ∧
      deadline ≤ scheduled.nextAnnounce :=
  (timer.heeds isOpen (armed owned)).wakes atRest

end Armed

section Reschedule

variable {publisher : Publisher} {id : ResourceId}

theorem reschedule_of_not_owned
    (notOwned : publisher.owned.find? id = none)
    (announced : Instant) :
    publisher.reschedule id announced = publisher := by
  rw [reschedule, notOwned]

theorem reschedule_of_owned
    {scheduled : Scheduled}
    (owned : publisher.owned.find? id = some scheduled)
    (announced : Instant) :
    publisher.reschedule id announced =
      { publisher with
        owned := publisher.owned.insert id (scheduled.announcedAt announced)
        schedule :=
          (publisher.schedule.erase ⟨scheduled.nextAnnounce, id⟩).insert
            ⟨announced + scheduled.interval, id⟩ () } := by
  rw [reschedule, owned]
  rfl

theorem find?_owned_reschedule
    (publisher : Publisher)
    (id : ResourceId)
    (announced : Instant)
    (sought : ResourceId) :
    (publisher.reschedule id announced).owned.find? sought =
      if sought = id then (publisher.owned.find? id).map fun known => known.announcedAt announced
      else publisher.owned.find? sought := by
  obtain notOwned | ⟨scheduled, owned⟩ := Option.eq_none_or_eq_some (publisher.owned.find? id)
  · rw [reschedule_of_not_owned notOwned, notOwned]
    split
    next isId => rw [isId, notOwned]; rfl
    next => rfl
  · rw [reschedule_of_owned owned, Table.find?_insert, owned]
    rfl

/-- Rescheduling changes neither the timer nor what was withdrawn. -/
theorem reschedule_keeps
    (publisher : Publisher)
    (id : ResourceId)
    (announced : Instant) :
    (publisher.reschedule id announced).withdrawn = publisher.withdrawn ∧
      (publisher.reschedule id announced).stopped = publisher.stopped ∧
      (publisher.reschedule id announced).timer = publisher.timer := by
  unfold reschedule
  split <;> exact ⟨rfl, rfl, rfl⟩

/-- Nor does rescheduling any number of resources. -/
theorem foldl_reschedule_keeps
    (publisher : Publisher)
    (ids : List ResourceId)
    (announced : Instant) :
    let rescheduled := ids.foldl (fun current id => current.reschedule id announced) publisher
    rescheduled.withdrawn = publisher.withdrawn ∧ rescheduled.stopped = publisher.stopped ∧
      rescheduled.timer = publisher.timer := by
  induction ids generalizing publisher with
  | nil => exact ⟨rfl, rfl, rfl⟩
  | cons id rest inductionHypothesis =>
      obtain ⟨withdrawn, stopped, timer⟩ := publisher.reschedule_keeps id announced
      obtain ⟨sameWithdrawn, sameStopped, sameTimer⟩ :=
        inductionHypothesis (publisher.reschedule id announced)
      exact ⟨sameWithdrawn.trans withdrawn, sameStopped.trans stopped, sameTimer.trans timer⟩

/-- Rescheduling some resources changes them and no others. -/
theorem find?_owned_foldl_reschedule
    (publisher : Publisher)
    (ids : List ResourceId)
    (announced : Instant)
    (sought : ResourceId) :
    (ids.foldl (fun current id => current.reschedule id announced) publisher).owned.find? sought =
      if sought ∈ ids then
        (publisher.owned.find? sought).map fun known => known.announcedAt announced
      else publisher.owned.find? sought := by
  induction ids generalizing publisher with
  | nil => rfl
  | cons id rest inductionHypothesis =>
      rw [List.foldl_cons, inductionHypothesis, find?_owned_reschedule]
      by_cases isId : sought = id
      · rw [if_pos isId, ← isId, if_pos List.mem_cons_self]
        split
        next =>
          simp only [Option.map_map, Function.comp_def, Scheduled.announcedAt_announcedAt]
        next => rfl
      · rw [if_neg isId]
        simp only [List.mem_cons, isId, false_or]

theorem takeDue_keeps (publisher : Publisher) (now : Instant) :
    (publisher.takeDue now).2.withdrawn = publisher.withdrawn ∧
      (publisher.takeDue now).2.stopped = publisher.stopped ∧
      (publisher.takeDue now).2.timer = publisher.timer :=
  foldl_reschedule_keeps publisher (publisher.due now) now

theorem find?_owned_takeDue
    (publisher : Publisher)
    (now : Instant)
    (sought : ResourceId) :
    (publisher.takeDue now).2.owned.find? sought =
      if sought ∈ publisher.due now then
        (publisher.owned.find? sought).map fun known => known.announcedAt now
      else publisher.owned.find? sought :=
  find?_owned_foldl_reschedule publisher (publisher.due now) now sought

/-- Taking what is due changes no resource. -/
theorem resource_owned_takeDue
    (publisher : Publisher)
    (now : Instant)
    (sought : ResourceId) :
    ((publisher.takeDue now).2.owned.find? sought).map Scheduled.resource =
      (publisher.owned.find? sought).map Scheduled.resource := by
  rw [find?_owned_takeDue]
  split
  next => simp only [Option.map_map, Function.comp_def, Scheduled.resource_announcedAt]
  next => rfl

end Reschedule

section Operations

variable {publisher next : Publisher} {now : Instant}

/-- A publisher that accepts a resource enters it, due at once. -/
theorem publish_cases
    {resource : LocalResource}
    (published : publisher.publish now resource = .ok next) :
    checkResource resource = .ok () ∧ publisher.stopped = false ∧
      next = { publisher.enter resource now with timer := publisher.timer.armEarlier now } := by
  unfold publish at published
  split at published
  next => cases published
  next valid =>
    split at published
    next => cases published
    next running =>
      cases published
      exact ⟨valid, Bool.eq_false_iff.mpr running, rfl⟩

/-- A publisher that accepts an edit amends the resource, announces it and puts it off. -/
theorem commit_cases
    {editor : Editor}
    {outgoing : List Outgoing}
    (committed : publisher.commit now editor = .ok (outgoing, next)) :
    ∃ (scheduled : Scheduled) (edited : LocalResource) (rescheduled : Publisher),
      publisher.owned.find? editor.resource = some scheduled ∧
      scheduled.resource.edit editor.baseline editor.changes = .ok edited ∧
      outgoing = [hello edited] ∧
      rescheduled =
        (publisher.amend editor.resource { scheduled with resource := edited }).reschedule
          editor.resource now ∧
      next = { rescheduled with
        timer := rescheduled.timer.armEarlier? rescheduled.nextDeadline? } := by
  unfold commit at committed
  split at committed
  next => cases committed
  next scheduled owned =>
  split at committed
  next => cases committed
  next edited success =>
  cases committed
  exact ⟨scheduled, edited, _, owned, success, rfl, rfl, rfl⟩

/-- The publisher whose timer has taken a turn, before it announces anything. -/
def ticked (publisher : Publisher) (now : Instant) : Publisher :=
  { publisher with timer := (publisher.timer.turn now).2 }

/-- In a turn of the timer nothing else changes, or what is due is announced and put off. -/
theorem turn_cases (publisher : Publisher) (now : Instant) :
    ((publisher.timer.turn now).1 = false ∨ publisher.stopped = true) ∧
        publisher.turn now = ([], publisher.ticked now) ∨
      publisher.stopped = false ∧
        publisher.turn now =
          ( ((publisher.ticked now).takeDue now).1.map hello
          , { ((publisher.ticked now).takeDue now).2 with
              timer := (publisher.ticked now).timer.armEarlier?
                ((publisher.ticked now).takeDue now).2.nextDeadline? } ) := by
  unfold turn
  dsimp only
  split
  next =>
    unfold announce
    split
    next stopped => exact .inl ⟨.inr stopped, rfl⟩
    next running =>
      refine .inr ⟨Bool.eq_false_iff.mpr running, ?_⟩
      rw [← ((publisher.ticked now).takeDue_keeps now).2.2]
      rfl
  next silent => exact .inl ⟨.inl (Bool.eq_false_iff.mpr silent), rfl⟩

/-- A turn in which nothing is announced leaves the timer armed. -/
theorem Armed.ticked
    (armed : publisher.Armed)
    (ended : publisher.stopped = true → publisher.owned = ∅)
    (idle : (publisher.timer.turn now).1 = false ∨ publisher.stopped = true) :
    (publisher.ticked now).Armed := by
  intro id scheduled owned
  have running := notStopped_of_owned ended owned
  have silent := idle.resolve_right (Bool.eq_false_iff.mp running)
  obtain ⟨deadline, isDeadline, early⟩ := armed owned
  exact ⟨deadline, (Timer.deadline_turn silent).trans isDeadline, early⟩

/-- A turn of the timer changes no resource that is offered. -/
theorem resource_owned_turn
    (publisher : Publisher)
    (now : Instant)
    (id : ResourceId) :
    ((publisher.turn now).2.owned.find? id).map Scheduled.resource =
      (publisher.owned.find? id).map Scheduled.resource := by
  rcases publisher.turn_cases now with ⟨_, same⟩ | ⟨_, same⟩ <;> rw [same]
  · rfl
  · exact (publisher.ticked now).resource_owned_takeDue now id

/-- Nor does it withdraw anything. -/
theorem turn_keeps (publisher : Publisher) (now : Instant) :
    (publisher.turn now).2.withdrawn = publisher.withdrawn ∧
      (publisher.turn now).2.stopped = publisher.stopped := by
  rcases publisher.turn_cases now with ⟨_, same⟩ | ⟨_, same⟩ <;> rw [same]
  · exact ⟨rfl, rfl⟩
  · obtain ⟨withdrawn, stopped, _⟩ := (publisher.ticked now).takeDue_keeps now
    exact ⟨withdrawn, stopped⟩

end Operations

namespace Listed

variable {publisher : Publisher}

/-- A resource comes into a publisher, or changes there, with its place in the schedule. -/
theorem place
    (listed : publisher.Listed)
    {id : ResourceId}
    {scheduled : Scheduled}
    {schedule : Table Slot Unit Slot.order}
    (here : schedule.find? ⟨scheduled.nextAnnounce, id⟩ = some ())
    (others : ∀ {slot}, slot.id ≠ id → schedule.find? slot = publisher.schedule.find? slot) :
    Listed
      { publisher with
        owned := publisher.owned.insert id scheduled
        schedule := schedule } := by
  intro sought later owned
  rw [Table.find?_insert] at owned
  split at owned
  next isId =>
    cases owned
    exact isId ▸ here
  next different => exact (others different).trans (listed owned)

theorem enter
    (listed : publisher.Listed)
    (resource : LocalResource)
    (now : Instant) :
    Listed (publisher.enter resource now) := by
  refine listed.place ?_ fun different => ?_
  · rw [Table.find?_insert, if_pos rfl]
  · rw [Table.find?_insert, if_neg fun same => different (congrArg Slot.id same)]

theorem reschedule
    (listed : publisher.Listed)
    (id : ResourceId)
    (announced : Instant) :
    Listed (publisher.reschedule id announced) := by
  obtain notOwned | ⟨scheduled, owned⟩ := Option.eq_none_or_eq_some (publisher.owned.find? id)
  · rwa [reschedule_of_not_owned notOwned]
  rw [reschedule_of_owned owned]
  refine listed.place ?_ fun different => ?_
  · rw [Table.find?_insert, Scheduled.nextAnnounce_announcedAt, if_pos rfl]
  · rw [Table.find?_insert, if_neg fun same => different (congrArg Slot.id same),
      Table.find?_erase, if_neg fun same => different (congrArg Slot.id same)]

theorem takeDue
    (listed : publisher.Listed)
    (now : Instant) :
    Listed (publisher.takeDue now).2 :=
  List.foldlRecOn (motive := fun next : Publisher => next.Listed) _ _ listed
    fun _ before id _ => before.reschedule id now

/-- A resource changes what it announces and keeps its place in the schedule. -/
theorem edit
    (listed : publisher.Listed)
    {id : ResourceId}
    {scheduled : Scheduled}
    (owned : publisher.owned.find? id = some scheduled)
    (edited : LocalResource) :
    Listed (publisher.amend id { scheduled with resource := edited }) := by
  have here := listed owned
  refine listed.place ?_ fun _ => rfl
  exact here

end Listed

namespace Stocked

variable {now : Instant} {publisher : Publisher}

theorem new (now : Instant) : Stocked now Publisher.new :=
  ⟨nofun, nofun, nofun, nofun, nofun, nofun, fun _ => rfl, nofun⟩

/-- Time passes. -/
theorem wait
    (stocked : Stocked now publisher)
    {later : Instant}
    (after : now ≤ later) :
    Stocked later publisher :=
  { stocked with
    timely := fun owned =>
      Nat.le_trans (stocked.timely owned) (Nat.add_le_add_right after _) }

theorem withTimer
    (stocked : Stocked now publisher)
    (timer : Timer) :
    Stocked now { publisher with timer := timer } :=
  ⟨stocked.named, stocked.real, stocked.valid, stocked.lasting, stocked.timely, stocked.listed,
    stocked.inService, stocked.ended⟩

/-- A resource comes into a publisher, or changes there, with its place in the schedule. -/
theorem own
    (stocked : Stocked now publisher)
    (notStopped : publisher.stopped = false)
    {id : ResourceId}
    {scheduled : Scheduled}
    {schedule : Table Slot Unit Slot.order}
    (named : scheduled.resource.id = id)
    (real : id.isNil = false)
    (valid : checkResource scheduled.resource = .ok ())
    (lasting : 1 ≤ scheduled.resource.expiry.toInt)
    (timely : scheduled.nextAnnounce ≤ now + scheduled.interval)
    (listed : Listed
      { publisher with
        owned := publisher.owned.insert id scheduled
        schedule := schedule }) :
    Stocked now
      { publisher with
        owned := publisher.owned.insert id scheduled
        schedule := schedule } := by
  refine ⟨Table.of_find?_insert ?_ stocked.named, fun {sought} known => ?_,
    Table.of_find?_insert ?_ stocked.valid, Table.of_find?_insert ?_ stocked.lasting,
    Table.of_find?_insert ?_ stocked.timely, fun owned => listed owned, stocked.inService,
    fun stopped => absurd (stopped.symm.trans notStopped) nofun⟩
  · exact named
  · by_cases isId : sought = id
    · exact isId ▸ real
    · refine stocked.real (?_ : (publisher.resource? sought).isSome)
      rwa [resource?_eq, Table.find?_insert, if_neg isId, ← resource?_eq] at known
  · exact valid
  · exact lasting
  · exact timely

theorem notStopped
    (stocked : Stocked now publisher)
    {id : ResourceId}
    {scheduled : Scheduled}
    (owned : publisher.owned.find? id = some scheduled) :
    publisher.stopped = false :=
  notStopped_of_owned stocked.ended owned

theorem placed (stocked : Stocked now publisher) : publisher.Listed :=
  fun _ _ => stocked.listed

theorem enter
    (stocked : Stocked now publisher)
    (notStopped : publisher.stopped = false)
    {resource : LocalResource}
    (real : resource.id.isNil = false)
    (valid : checkResource resource = .ok ())
    (lasting : 1 ≤ resource.expiry.toInt) :
    Stocked now (publisher.enter resource now) :=
  stocked.own notStopped rfl real valid lasting (Nat.le_add_right now _)
    (stocked.placed.enter resource now)

theorem reschedule
    (stocked : Stocked now publisher)
    (id : ResourceId) :
    Stocked now (publisher.reschedule id now) := by
  obtain notOwned | ⟨scheduled, owned⟩ := Option.eq_none_or_eq_some (publisher.owned.find? id)
  · rwa [reschedule_of_not_owned notOwned]
  have listed := stocked.placed.reschedule id now
  rw [reschedule_of_owned owned] at listed ⊢
  have real : id.isNil = false := stocked.real (by rw [resource?_of_owned owned]; rfl)
  refine stocked.own (stocked.notStopped owned) ?_ real ?_ ?_ ?_ listed
  · rw [Scheduled.resource_announcedAt]
    exact stocked.named owned
  · rw [Scheduled.resource_announcedAt]
    exact stocked.valid owned
  · rw [Scheduled.resource_announcedAt]
    exact stocked.lasting owned
  · refine Nat.le_of_eq ?_
    rw [Scheduled.nextAnnounce_announcedAt,
      Scheduled.interval_of_resource (scheduled.resource_announcedAt now)]

/-- A resource changes what it announces and keeps its place in the schedule. -/
theorem edit
    (stocked : Stocked now publisher)
    {id : ResourceId}
    {scheduled : Scheduled}
    (owned : publisher.owned.find? id = some scheduled)
    {edited : LocalResource}
    (sameId : edited.id = scheduled.resource.id)
    (sameExpiry : edited.expiry = scheduled.resource.expiry)
    (valid : checkResource edited = .ok ()) :
    Stocked now (publisher.amend id { scheduled with resource := edited }) := by
  have real : id.isNil = false := stocked.real (by rw [resource?_of_owned owned]; rfl)
  have sameInterval : Scheduled.interval { scheduled with resource := edited } =
      scheduled.interval := by
    rw [Scheduled.interval, sameExpiry, Scheduled.interval]
  refine stocked.own (stocked.notStopped owned) (sameId.trans (stocked.named owned)) real valid
    (sameExpiry ▸ stocked.lasting owned) ?_ (stocked.placed.edit owned edited)
  rw [sameInterval]
  dsimp only
  exact stocked.timely owned

/-- A timer that is set to the next deadline fires no later than anything is due. -/
theorem sound_armEarlier
    (stocked : Stocked now publisher)
    (timer : publisher.timer.Sound)
    (running : publisher.stopped = false → publisher.timer.closed = false) :
    Sound now
      { publisher with timer := publisher.timer.armEarlier? publisher.nextDeadline? } := by
  refine ⟨stocked.withTimer _, timer.armEarlier? _, fun notStopped => ?_,
    armed_armEarlier? stocked.placed⟩
  exact (Timer.closed_armEarlier? ..).trans (running notStopped)

end Stocked

namespace Sound

variable {now : Instant} {publisher : Publisher}

theorem new (now : Instant) : Sound now Publisher.new :=
  ⟨.new now, .new, fun _ => rfl, nofun⟩

theorem withFront
    (sound : Sound now publisher)
    (front : List ResourceId) :
    Sound now { publisher with front := front } :=
  ⟨⟨sound.named, sound.real, sound.valid, sound.lasting, sound.timely, sound.listed,
    sound.inService, sound.ended⟩, sound.timer, sound.running, sound.armed⟩

/-- Time passes. -/
theorem wait
    (sound : Sound now publisher)
    {later : Instant}
    (after : now ≤ later) :
    Sound later publisher :=
  ⟨sound.toStocked.wait after, sound.timer, sound.running, sound.armed⟩

/-- While the timer has nothing to do, no announcement is due. -/
theorem lt_nextAnnounce
    (sound : Sound now publisher)
    (atRest : publisher.timer.isReady now = false)
    {id : ResourceId}
    {scheduled : Scheduled}
    (owned : publisher.owned.find? id = some scheduled) :
    now < scheduled.nextAnnounce := by
  have isOpen := sound.running (sound.notStopped owned)
  obtain ⟨_, _, ahead, early⟩ := Armed.waitsFor? sound.armed sound.timer isOpen atRest owned
  exact Nat.lt_of_lt_of_le ahead early

end Sound

end Publisher

end Discovery
