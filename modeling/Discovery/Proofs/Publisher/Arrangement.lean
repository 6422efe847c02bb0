import Discovery.Proofs.Publisher.Step

namespace Discovery

/-!
# The schedule of a publisher

The time of a next announcement is kept with its resource, and again in the
schedule as part of a key.  As long as no resource is published under a name
that is in use, the two say the same (`Publisher.Arranged`), whatever becomes of
the publisher (`Publisher.Step.arranged`).  So the schedule lists every resource
once and begins with the earliest (`Publisher.Orderly`), and what is taken when
the time has come is what is due, once each (`Publisher.TakesDue`).
-/

/-- A slot is known by its time and its resource. -/
theorem Slot.eq_mk
    {slot : Slot}
    {due : Instant}
    {id : ResourceId}
    (isDue : slot.due = due)
    (isId : slot.id = id) :
    slot = ⟨due, id⟩ := by
  rw [← isDue, ← isId]

namespace Publisher

/-- The resources whose time has come, the earliest first. -/
def dues (publisher : Publisher) (now : Instant) : List LocalResource :=
  (publisher.due now).filterMap fun id => (publisher.owned.find? id).map Scheduled.resource

/-- What is owned has one place in the schedule, and nothing else has any. -/
structure Arranged (publisher : Publisher) : Prop where
  named : ∀ {id scheduled}, publisher.owned.find? id = some scheduled →
    scheduled.resource.id = id
  listed : ∀ slot, publisher.schedule.find? slot = some () ↔
    (publisher.owned.find? slot.id).map Scheduled.nextAnnounce = some slot.due
  ended : publisher.stopped = true → publisher.owned = ∅

namespace Arranged

variable {publisher : Publisher}

theorem new : Arranged Publisher.new :=
  ⟨nofun, fun _ => ⟨nofun, nofun⟩, nofun⟩

theorem withTimer
    (arranged : publisher.Arranged)
    (timer : Timer) :
    Arranged { publisher with timer := timer } :=
  ⟨arranged.named, arranged.listed, arranged.ended⟩

theorem withFront
    (arranged : publisher.Arranged)
    (front : List ResourceId) :
    Arranged { publisher with front := front } :=
  ⟨arranged.named, arranged.listed, arranged.ended⟩

/-- A resource comes into a publisher, or changes there, and has the only place in the schedule. -/
theorem place
    (arranged : publisher.Arranged)
    (notStopped : publisher.stopped = false)
    {id : ResourceId}
    {scheduled : Scheduled}
    {schedule : Table Slot Unit Slot.order}
    (named : scheduled.resource.id = id)
    (listed : ∀ slot, schedule.find? slot = some () ↔
      if slot.id = id then scheduled.nextAnnounce = slot.due
      else publisher.schedule.find? slot = some ()) :
    Arranged
      { publisher with
        owned := publisher.owned.insert id scheduled
        schedule := schedule } := by
  refine ⟨Table.of_find?_insert ?_ arranged.named, fun slot => ?_,
    fun stopped => absurd (stopped.symm.trans notStopped) nofun⟩
  · exact named
  · rw [listed, Table.find?_insert]
    split
    next => rw [Option.map_some, Option.some_inj]
    next => exact arranged.listed slot

/-- A resource that is not owned has no place in the schedule. -/
theorem unlisted
    (arranged : publisher.Arranged)
    {slot : Slot}
    (notOwned : publisher.owned.find? slot.id = none) :
    publisher.schedule.find? slot ≠ some () := by
  rw [Ne, arranged.listed, notOwned]
  exact nofun

/-- A resource that is owned has its place at the time of its next announcement. -/
theorem listed_of_owned
    (arranged : publisher.Arranged)
    {id : ResourceId}
    {scheduled : Scheduled}
    (owned : publisher.owned.find? id = some scheduled) :
    publisher.schedule.find? ⟨scheduled.nextAnnounce, id⟩ = some () :=
  (arranged.listed ⟨scheduled.nextAnnounce, id⟩).mpr (by rw [owned]; rfl)

/-- It has no other place. -/
theorem listed_iff_of_owned
    (arranged : publisher.Arranged)
    {slot : Slot}
    {scheduled : Scheduled}
    (owned : publisher.owned.find? slot.id = some scheduled) :
    publisher.schedule.find? slot = some () ↔ scheduled.nextAnnounce = slot.due := by
  rw [arranged.listed, owned]
  exact Option.some_inj

theorem enter
    (arranged : publisher.Arranged)
    (notStopped : publisher.stopped = false)
    {resource : LocalResource}
    (isNew : publisher.owned.find? resource.id = none)
    (now : Instant) :
    Arranged (publisher.enter resource now) := by
  refine arranged.place notStopped rfl fun slot => ?_
  rw [Table.find?_insert]
  by_cases isSlot : slot = ⟨now, resource.id⟩
  · subst isSlot
    simp
  · rw [if_neg isSlot]
    split
    next isId =>
      exact iff_of_false (arranged.unlisted (isId ▸ isNew)) fun isDue =>
        isSlot (Slot.eq_mk isDue.symm isId)
    next => rfl

/-- A resource that is announced moves to another place. -/
theorem reschedule
    (arranged : publisher.Arranged)
    (id : ResourceId)
    (announced : Instant) :
    Arranged (publisher.reschedule id announced) := by
  obtain notOwned | ⟨scheduled, owned⟩ := Option.eq_none_or_eq_some (publisher.owned.find? id)
  · rwa [reschedule_of_not_owned notOwned]
  rw [reschedule_of_owned owned]
  have named := arranged.named owned
  rw [← scheduled.resource_announcedAt announced] at named
  refine arranged.place (notStopped_of_owned arranged.ended owned) named fun slot => ?_
  rw [Scheduled.nextAnnounce_announcedAt, Table.find?_insert, Table.find?_erase]
  generalize announced + scheduled.interval = next
  by_cases isId : slot.id = id
  · subst isId
    rw [if_pos rfl]
    by_cases isNext : next = slot.due
    · rw [if_pos (Slot.eq_mk isNext.symm rfl)]
      exact iff_of_true rfl isNext
    · rw [if_neg fun same => isNext (congrArg Slot.due same).symm]
      refine iff_of_false ?_ isNext
      split
      next => exact nofun
      next different =>
        exact fun listed =>
          different (Slot.eq_mk ((arranged.listed_iff_of_owned owned).mp listed).symm rfl)
  · rw [if_neg isId, if_neg fun same => isId (congrArg Slot.id same),
      if_neg fun same => isId (congrArg Slot.id same)]

/-- A resource changes what it announces and keeps its place in the schedule. -/
theorem edit
    (arranged : publisher.Arranged)
    {id : ResourceId}
    {scheduled : Scheduled}
    (owned : publisher.owned.find? id = some scheduled)
    {edited : LocalResource}
    (sameId : edited.id = scheduled.resource.id) :
    Arranged (publisher.amend id { scheduled with resource := edited }) := by
  refine arranged.place (notStopped_of_owned arranged.ended owned)
    (sameId.trans (arranged.named owned)) fun slot => ?_
  split
  next isId =>
    have here := arranged.listed_iff_of_owned (isId ▸ owned)
    exact here
  next => rfl

section Due

/-- What the schedule begins with is what is due. -/
theorem mem_takeWhile_keys
    {schedule : Table Slot Unit Slot.order}
    {now : Instant}
    {slot : Slot} :
    slot ∈ schedule.keys.takeWhile (fun other => decide (other.due ≤ now)) ↔
      schedule.find? slot = some () ∧ slot.due ≤ now := by
  have ascending : schedule.keys.Pairwise fun earlier later => earlier.due ≤ later.due :=
    List.pairwise_map.mpr (schedule.ascending.imp Slot.due_le_of_lt)
  have listed : schedule.find? slot = some () ↔ slot ∈ schedule.keys :=
    ⟨fun found => Table.mem_keys_iff.mpr ⟨(), found⟩,
      fun member => (Table.mem_keys_iff.mp member).elim fun _ found => found⟩
  rw [listed]
  generalize schedule.keys = slots at ascending
  induction slots with
  | nil => simp
  | cons first rest inductionHypothesis =>
      obtain ⟨least, others⟩ := List.pairwise_cons.mp ascending
      have further := inductionHypothesis others
      rw [List.takeWhile_cons]
      by_cases isDue : first.due ≤ now
      · rw [if_pos (decide_eq_true isDue), List.mem_cons, List.mem_cons, or_and_right]
        exact or_congr ⟨fun isFirst => ⟨isFirst, isFirst ▸ isDue⟩, And.left⟩ further
      · rw [if_neg fun past => isDue (of_decide_eq_true past)]
        refine iff_of_false List.not_mem_nil ?_
        rintro ⟨member, past⟩
        rcases List.mem_cons.mp member with rfl | inRest
        · exact isDue past
        · exact isDue (Nat.le_trans (least slot inRest) past)

/-- A resource is due if it is owned and its time has come. -/
theorem mem_due
    (arranged : publisher.Arranged)
    {now : Instant}
    {id : ResourceId} :
    id ∈ publisher.due now ↔
      ∃ scheduled, publisher.owned.find? id = some scheduled ∧ scheduled.nextAnnounce ≤ now := by
  rw [due, List.mem_map]
  constructor
  · rintro ⟨slot, isDue, rfl⟩
    obtain ⟨listed, past⟩ := mem_takeWhile_keys.mp isDue
    obtain ⟨scheduled, owned, next⟩ := Option.map_eq_some_iff.mp ((arranged.listed slot).mp listed)
    exact ⟨scheduled, owned, next ▸ past⟩
  · rintro ⟨scheduled, owned, past⟩
    exact ⟨⟨scheduled.nextAnnounce, id⟩,
      mem_takeWhile_keys.mpr ⟨arranged.listed_of_owned owned, past⟩, rfl⟩

/-- A resource is due once. -/
theorem nodup_due
    (arranged : publisher.Arranged)
    (now : Instant) :
    (publisher.due now).Nodup := by
  have distinct := publisher.schedule.nodup_keys.sublist
    (List.takeWhile_sublist fun slot => decide (slot.due ≤ now))
  refine List.pairwise_map.mpr (distinct.imp_of_mem fun {first second} isFirst isSecond apart => ?_)
  intro sameId
  have firstDue := (arranged.listed first).mp (mem_takeWhile_keys.mp isFirst).1
  have secondDue := (arranged.listed second).mp (mem_takeWhile_keys.mp isSecond).1
  rw [sameId, secondDue] at firstDue
  exact apart (Slot.eq_mk (Option.some.inj firstDue).symm sameId)

/-- The resources whose time has come are those that are due, in the same order. -/
theorem map_id_dues
    (arranged : publisher.Arranged)
    (now : Instant) :
    (publisher.dues now).map LocalResource.id = publisher.due now := by
  have owned : ∀ id ∈ publisher.due now, ∃ scheduled, publisher.owned.find? id = some scheduled :=
    fun id isDue => (arranged.mem_due.mp isDue).imp fun _ => And.left
  unfold dues
  generalize publisher.due now = ids at owned
  induction ids with
  | nil => rfl
  | cons id rest inductionHypothesis =>
      obtain ⟨scheduled, isOwned⟩ := owned id List.mem_cons_self
      have others := inductionHypothesis fun other inRest =>
        owned other (List.mem_cons_of_mem id inRest)
      rw [List.filterMap_cons, isOwned, Option.map_some]
      rw [List.map_cons, arranged.named isOwned, others]

/-- The resources whose time has come. -/
theorem mem_dues
    (arranged : publisher.Arranged)
    {now : Instant}
    {resource : LocalResource} :
    resource ∈ publisher.dues now ↔
      ∃ scheduled, publisher.owned.find? resource.id = some scheduled ∧
        scheduled.resource = resource ∧ scheduled.nextAnnounce ≤ now := by
  rw [dues, List.mem_filterMap]
  constructor
  · rintro ⟨id, isDue, found⟩
    obtain ⟨scheduled, owned, rfl⟩ := Option.map_eq_some_iff.mp found
    obtain ⟨same, isOwned, past⟩ := arranged.mem_due.mp isDue
    rw [owned] at isOwned
    cases isOwned
    exact ⟨scheduled, (arranged.named owned).symm ▸ owned, rfl, past⟩
  · rintro ⟨scheduled, owned, rfl, past⟩
    exact ⟨_, arranged.mem_due.mpr ⟨scheduled, owned, past⟩, by rw [owned]; rfl⟩

/-- A publisher that has stopped has nothing to announce. -/
theorem due_of_stopped
    (arranged : publisher.Arranged)
    (stopped : publisher.stopped = true)
    (now : Instant) :
    publisher.due now = [] := by
  refine List.eq_nil_iff_forall_not_mem.mpr fun id isDue => ?_
  obtain ⟨scheduled, owned, _⟩ := arranged.mem_due.mp isDue
  rw [arranged.ended stopped] at owned
  cases owned

end Due

section TakeDue

variable (now : Instant)

theorem takeDue (arranged : publisher.Arranged) : (publisher.takeDue now).2.Arranged :=
  List.foldlRecOn (motive := Arranged) _ _ arranged fun _ before id _ => before.reschedule id now

theorem ticked (arranged : publisher.Arranged) : (publisher.ticked now).Arranged :=
  arranged.withTimer _

theorem turn (arranged : publisher.Arranged) : (publisher.turn now).2.Arranged := by
  rcases publisher.turn_cases now with ⟨_, same⟩ | ⟨_, same⟩ <;> rw [same]
  · exact arranged.ticked now
  · exact ((arranged.ticked now).takeDue now).withTimer _

end TakeDue

section Step

variable {next : Publisher} {now : Instant}

theorem publish
    (arranged : publisher.Arranged)
    {resource : LocalResource}
    (published : publisher.publish now resource = .ok next)
    (isNew : publisher.owned.find? resource.id = none) :
    next.Arranged := by
  obtain ⟨_, notStopped, rfl⟩ := publish_cases published
  exact (arranged.enter notStopped isNew now).withTimer _

theorem commit
    (arranged : publisher.Arranged)
    {editor : Editor}
    {outgoing : List Outgoing}
    (committed : publisher.commit now editor = .ok (outgoing, next)) :
    next.Arranged := by
  obtain ⟨scheduled, edited, _, owned, success, rfl, rfl, rfl⟩ := commit_cases committed
  have sameId : edited.id = scheduled.resource.id := by rw [(edit_ok success).1]
  exact ((arranged.edit owned sameId).reschedule editor.resource now).withTimer _

theorem stop (arranged : publisher.Arranged) : publisher.stop.2.Arranged := by
  unfold Publisher.stop
  split
  next => exact arranged
  next => exact ⟨nofun, fun _ => ⟨nofun, nofun⟩, fun _ => rfl⟩

end Step

end Arranged

/-- What is due is taken as it is. -/
theorem takeDue_fst (publisher : Publisher) (now : Instant) :
    (publisher.takeDue now).1 = publisher.dues now :=
  congrArg (List.filterMap · (publisher.due now)) (funext (publisher.resource_owned_takeDue now))

/-- The next announcement of what is taken is put off, and nothing else changes. -/
theorem Arranged.owned_takeDue
    {publisher : Publisher}
    (arranged : publisher.Arranged)
    (now : Instant) :
    (publisher.takeDue now).2.owned = publisher.owned.map fun _ known =>
      if known.nextAnnounce ≤ now then known.announcedAt now else known := by
  apply Table.ext_find?
  intro id
  rw [find?_owned_takeDue, Table.find?_map]
  simp only [arranged.mem_due]
  cases publisher.owned.find? id with
  | none => split <;> rfl
  | some known =>
      simp only [Option.map_some, Option.some.injEq, exists_eq_left']
      split <;> rfl

namespace Step

variable {occasion : Occasion} {publisher next : Publisher}
variable {said : List Outgoing} {accepted : List ResourceId}

/-- Whatever becomes of a publisher, the schedule stays in order unless a name is used twice. -/
theorem arranged
    (step : publisher.Step occasion said accepted next)
    (arranged : publisher.Arranged)
    (isNew : ∀ id ∈ accepted, publisher.owned.find? id = none) :
    next.Arranged := by
  cases step with
  | rest | answer => exact arranged
  | publish _ _ published => exact arranged.publish published (isNew _ List.mem_cons_self)
  | @turn now _ => exact arranged.turn now
  | commit _ committed => exact arranged.commit committed
  | stop => exact arranged.stop
  | shuffle front => exact arranged.withFront front

/-- What is owned was owned before, unless it is accepted. -/
theorem isSome_or_mem
    (step : publisher.Step occasion said accepted next)
    {id : ResourceId}
    (owned : (next.owned.find? id).isSome) :
    (publisher.owned.find? id).isSome ∨ id ∈ accepted := by
  cases step with
  | rest | answer | shuffle => exact .inl owned
  | publish _ _ published =>
      rw [find?_owned_publish published] at owned
      split at owned
      next isId => exact .inr (List.mem_singleton.mpr isId)
      next => exact .inl owned
  | @turn now _ =>
      have same := congrArg Option.isSome (resource_owned_turn publisher now id)
      rw [Option.isSome_map, Option.isSome_map] at same
      exact .inl (same ▸ owned)
  | commit _ committed =>
      obtain ⟨_, _, _, isEdited⟩ := edited_commit committed
      have same := congrArg Option.isSome (isEdited.id id)
      rw [Option.isSome_map, Option.isSome_map] at same
      exact .inl (same ▸ owned)
  | stop =>
      unfold Publisher.stop at owned
      split at owned
      next => exact .inl owned
      next => cases owned

end Step

section Orderly

/-- The places of the resources that are owned. -/
def slots (publisher : Publisher) : List Slot :=
  publisher.owned.entries.map fun entry => ⟨entry.2.nextAnnounce, entry.1⟩

/-- The earliest time at which a resource is to be announced. -/
def earliest? (publisher : Publisher) : Option Instant :=
  (publisher.owned.values.map Scheduled.nextAnnounce).min?

/-- The schedule lists what is owned and nothing else, and begins with the earliest. -/
structure Orderly (publisher : Publisher) : Prop where
  slots : publisher.schedule.keys.Perm publisher.slots
  named : ∀ {id scheduled}, publisher.owned.find? id = some scheduled →
    scheduled.resource.id = id
  next : publisher.nextDeadline? = publisher.earliest?

variable {publisher : Publisher}

theorem earliest?_eq_some_iff {next : Instant} :
    publisher.earliest? = some next ↔
      (∃ id scheduled, publisher.owned.find? id = some scheduled ∧
        scheduled.nextAnnounce = next) ∧
      ∀ {id scheduled}, publisher.owned.find? id = some scheduled →
        next ≤ scheduled.nextAnnounce := by
  have isNext : ∀ {instant}, instant ∈ publisher.owned.values.map Scheduled.nextAnnounce ↔
      ∃ id scheduled, publisher.owned.find? id = some scheduled ∧
        scheduled.nextAnnounce = instant := by
    intro instant
    simp only [List.mem_map, Table.mem_values_iff]
    exact ⟨fun ⟨scheduled, ⟨id, owned⟩, isNext⟩ => ⟨id, scheduled, owned, isNext⟩,
      fun ⟨id, scheduled, owned, isNext⟩ => ⟨scheduled, ⟨id, owned⟩, isNext⟩⟩
  rw [earliest?, List.min?_eq_some_iff, isNext]
  refine and_congr_right fun _ => ⟨fun least id scheduled owned => ?_, fun least instant due => ?_⟩
  · exact least _ (isNext.mpr ⟨id, scheduled, owned, rfl⟩)
  · obtain ⟨id, scheduled, owned, rfl⟩ := isNext.mp due
    exact least owned

namespace Arranged

theorem keys_perm_slots (arranged : publisher.Arranged) :
    publisher.schedule.keys.Perm publisher.slots := by
  have distinct : publisher.slots.Nodup :=
    List.pairwise_map.mpr ((List.pairwise_map.mp publisher.owned.nodup_keys).imp
      fun apart same => apart (congrArg Slot.id same))
  refine (List.perm_ext_iff_of_nodup publisher.schedule.nodup_keys distinct).mpr fun slot => ?_
  have listed : slot ∈ publisher.schedule.keys ↔ publisher.schedule.find? slot = some () :=
    Table.mem_keys_iff.trans ⟨fun ⟨_, found⟩ => found, fun found => ⟨(), found⟩⟩
  rw [listed, arranged.listed, Option.map_eq_some_iff, slots, List.mem_map]
  constructor
  · rintro ⟨scheduled, owned, isDue⟩
    exact ⟨(slot.id, scheduled), Table.find?_eq_some_iff.mp owned, (Slot.eq_mk isDue.symm rfl).symm⟩
  · rintro ⟨entry, isEntry, rfl⟩
    exact ⟨entry.2, Table.find?_eq_some_iff.mpr isEntry, rfl⟩

/-- The schedule is in ascending order, so it begins with the earliest. -/
theorem nextDeadline?_eq (arranged : publisher.Arranged) :
    publisher.nextDeadline? = publisher.earliest? := by
  have ascending : (publisher.schedule.keys.map Slot.due).Pairwise
      fun earlier later => min earlier later = earlier := by
    refine List.pairwise_map.mpr (List.pairwise_map.mpr ?_)
    exact publisher.schedule.ascending.imp fun before => Nat.min_eq_left (Slot.due_le_of_lt before)
  have same : (publisher.schedule.keys.map Slot.due).Perm
      (publisher.owned.values.map Scheduled.nextAnnounce) := by
    have dues := arranged.keys_perm_slots.map Slot.due
    rw [slots, List.map_map] at dues
    rw [Table.values, List.map_map]
    exact dues
  rw [nextDeadline?, ← List.head?_map, ← List.min?_eq_head? ascending]
  refine Option.ext fun instant => ?_
  rw [earliest?, List.min?_eq_some_iff, List.min?_eq_some_iff]
  simp only [same.mem_iff]

theorem orderly (arranged : publisher.Arranged) : publisher.Orderly :=
  ⟨arranged.keys_perm_slots, arranged.named, arranged.nextDeadline?_eq⟩

end Arranged

end Orderly

section TakesDue

/-- What is taken when the time has come, and what becomes of everything else. -/
structure TakesDue (publisher : Publisher) (now : Instant) : Prop where
  taken : (publisher.takeDue now).1.Perm
    ((publisher.owned.values.filter fun known => known.nextAnnounce ≤ now).map Scheduled.resource)
  once : ((publisher.takeDue now).1.map LocalResource.id).Nodup
  owned : (publisher.takeDue now).2.owned = publisher.owned.map fun _ known =>
    if known.nextAnnounce ≤ now then known.announcedAt now else known
  /-- What is taken is not due again before a tenth of a second has passed. -/
  postponed : ∀ {resource}, resource ∈ (publisher.takeDue now).1 →
    ∃ scheduled, (publisher.takeDue now).2.owned.find? resource.id = some scheduled ∧
      scheduled.resource = resource ∧
      scheduled.nextAnnounce = now + announceInterval resource.expiry ∧
      now + 100 * millisecond ≤ scheduled.nextAnnounce
  ahead : ∀ {next}, (publisher.takeDue now).2.nextDeadline? = some next → now < next
  nothingLeft : ((publisher.takeDue now).2.takeDue now).1 = []
  orderly : (publisher.takeDue now).2.Orderly
  kept : (publisher.takeDue now).2.withdrawn = publisher.withdrawn ∧
    (publisher.takeDue now).2.stopped = publisher.stopped ∧
    (publisher.takeDue now).2.timer = publisher.timer

namespace Arranged

variable {publisher : Publisher} {now : Instant}

/-- Once what is due has been taken, nothing is. -/
theorem lt_nextAnnounce_takeDue
    (arranged : publisher.Arranged)
    {id : ResourceId}
    {scheduled : Scheduled}
    (owned : (publisher.takeDue now).2.owned.find? id = some scheduled) :
    now < scheduled.nextAnnounce := by
  rw [arranged.owned_takeDue, Table.find?_map] at owned
  obtain ⟨known, _, rfl⟩ := Option.map_eq_some_iff.mp owned
  split
  next =>
    rw [Scheduled.nextAnnounce_announcedAt]
    have positive : 0 < known.interval :=
      Nat.lt_of_lt_of_le (by decide) (minAnnounceInterval_le known.resource.expiry)
    exact Nat.lt_add_of_pos_right positive
  next notPast => exact Nat.lt_of_not_le notPast

theorem lt_nextDeadline?_takeDue
    (arranged : publisher.Arranged)
    {next : Instant}
    (isNext : (publisher.takeDue now).2.nextDeadline? = some next) :
    now < next := by
  rw [(arranged.takeDue now).nextDeadline?_eq, earliest?_eq_some_iff] at isNext
  obtain ⟨⟨_, _, owned, rfl⟩, _⟩ := isNext
  exact arranged.lt_nextAnnounce_takeDue owned

/-- What is taken is owned, and due. -/
theorem dues_perm (arranged : publisher.Arranged) :
    (publisher.dues now).Perm
      ((publisher.owned.values.filter fun known => known.nextAnnounce ≤ now).map
        Scheduled.resource) := by
  have apart : ∀ {resources : List LocalResource}, (resources.map LocalResource.id).Nodup →
      resources.Nodup := fun distinct =>
    (List.pairwise_map.mp distinct).imp fun apart same => apart (congrArg LocalResource.id same)
  have named : publisher.owned.values.map (fun known => known.resource.id) =
      publisher.owned.keys := by
    rw [Table.values, List.map_map]
    exact List.map_congr_left fun entry isEntry =>
      arranged.named (Table.find?_eq_some_iff.mpr isEntry)
  have due : ((publisher.dues now).map LocalResource.id).Nodup :=
    arranged.map_id_dues now ▸ arranged.nodup_due now
  refine (List.perm_ext_iff_of_nodup (apart due) (apart ?_)).mpr fun resource => ?_
  · rw [List.map_map]
    refine List.Nodup.sublist (List.filter_sublist.map _) ?_
    exact named ▸ publisher.owned.nodup_keys
  · rw [arranged.mem_dues]
    simp only [List.mem_map, List.mem_filter, Table.mem_values_iff, decide_eq_true_iff]
    constructor
    · rintro ⟨scheduled, owned, isResource, past⟩
      exact ⟨scheduled, ⟨⟨_, owned⟩, past⟩, isResource⟩
    · rintro ⟨scheduled, ⟨⟨id, owned⟩, past⟩, rfl⟩
      exact ⟨scheduled, (arranged.named owned).symm ▸ owned, rfl, past⟩

theorem takesDue (arranged : publisher.Arranged) (now : Instant) : publisher.TakesDue now := by
  have still := arranged.takeDue now
  refine ⟨publisher.takeDue_fst now ▸ arranged.dues_perm, ?_, arranged.owned_takeDue now,
    fun {resource} taken => ?_, arranged.lt_nextDeadline?_takeDue, ?_, still.orderly,
    publisher.takeDue_keeps now⟩
  · rw [takeDue_fst, arranged.map_id_dues]
    exact arranged.nodup_due now
  · rw [takeDue_fst, arranged.mem_dues] at taken
    obtain ⟨known, owned, rfl, past⟩ := taken
    refine ⟨known.announcedAt now, ?_, known.resource_announcedAt now,
      known.nextAnnounce_announcedAt now, ?_⟩
    · rw [arranged.owned_takeDue, Table.find?_map, owned, Option.map_some, if_pos past]
    · rw [known.nextAnnounce_announcedAt]
      exact Nat.add_le_add_left (minAnnounceInterval_le known.resource.expiry) now
  · rw [takeDue_fst]
    refine List.eq_nil_iff_forall_not_mem.mpr fun resource isDue => ?_
    obtain ⟨scheduled, owned, _, past⟩ := still.mem_dues.mp isDue
    exact Nat.not_le_of_lt (arranged.lt_nextAnnounce_takeDue owned) past

/-- However much there was to announce, the timer does not fire twice at the same instant. -/
theorem not_fires_turn (arranged : publisher.Arranged) (now : Instant) :
    ((publisher.turn now).2.timer.turn now).1 = false := by
  have atRest : ((publisher.timer.turn now).2.turn now).1 = false :=
    @Timer.not_fires_armEarlier?_turn publisher.timer now none nofun
  rcases publisher.turn_cases now with ⟨_, same⟩ | ⟨_, same⟩ <;> rw [same]
  · exact atRest
  · exact Timer.not_fires_armEarlier?_turn publisher.timer
      (arranged.ticked now).lt_nextDeadline?_takeDue

end Arranged

end TakesDue

/-- A publisher keeps its schedule in order and takes what is due, and its timer does not spin. -/
structure KeepsSchedule (publisher : Publisher) : Prop where
  orderly : publisher.Orderly
  takesDue : ∀ now, publisher.TakesDue now
  calm : ∀ now, ((publisher.turn now).2.timer.turn now).1 = false

theorem Arranged.keepsSchedule {publisher : Publisher} (arranged : publisher.Arranged) :
    publisher.KeepsSchedule :=
  ⟨arranged.orderly, arranged.takesDue, arranged.not_fires_turn⟩

/-- What can be done to a publisher. -/
inductive Operation where
  | publish (now : Instant) (resource : LocalResource)
  /-- The timer of the announcements takes a turn. -/
  | turn (now : Instant)
  /-- A query arrives. -/
  | answer (origin : Origin) (category : String)
  | commit (now : Instant) (editor : Editor)
  | stop
  /-- Other resources come first when all of them are gone through. -/
  | shuffle (front : List ResourceId)

/-- The name under which a resource is to be published. -/
def Operation.names? : Operation → Option ResourceId
  | .publish _ resource => some resource.id
  | _ => none

/-- Carry out an operation; one that is refused changes nothing. -/
def carryOut (publisher : Publisher) : Operation → Publisher
  | .publish now resource =>
      match publisher.publish now resource with
      | .ok next => next
      | .error _ => publisher
  | .turn now => (publisher.turn now).2
  | .answer _ _ => publisher
  | .commit now editor =>
      match publisher.commit now editor with
      | .ok (_, next) => next
      | .error _ => publisher
  | .stop => publisher.stop.2
  | .shuffle front => { publisher with front := front }

/-- An operation is one step, and accepts nothing but what it publishes. -/
theorem step_carryOut (publisher : Publisher) (operation : Operation) :
    ∃ said accepted,
      publisher.Step { Occasion.service with stopping := True } said accepted
          (publisher.carryOut operation) ∧
        ∀ id ∈ accepted, operation.names? = some id := by
  cases operation with
  | publish now resource =>
      rw [carryOut]
      cases published : publisher.publish now resource with
      | error => exact ⟨[], [], .rest, nofun⟩
      | ok next =>
          refine ⟨[], [resource.id], .publish trivial trivial published, fun id isAccepted => ?_⟩
          rw [List.mem_singleton.mp isAccepted]
          rfl
  | turn now => exact ⟨_, [], .turn trivial, nofun⟩
  | answer origin category => exact ⟨_, [], .answer origin category, nofun⟩
  | commit now editor =>
      rw [carryOut]
      cases committed : publisher.commit now editor with
      | error => exact ⟨[], [], .rest, nofun⟩
      | ok result => exact ⟨result.1, [], .commit trivial committed, nofun⟩
  | stop => exact ⟨_, [], .stop trivial, nofun⟩
  | shuffle front => exact ⟨_, [], .shuffle front, nofun⟩

/-- Any number of operations keeps the schedule in order, unless a name is used twice. -/
theorem Arranged.foldl_carryOut
    {publisher : Publisher}
    (arranged : publisher.Arranged)
    {operations : List Operation}
    (fresh : (operations.filterMap Operation.names?).Nodup)
    (unused : ∀ id ∈ operations.filterMap Operation.names?, publisher.owned.find? id = none) :
    (operations.foldl Publisher.carryOut publisher).Arranged := by
  induction operations generalizing publisher with
  | nil => exact arranged
  | cons operation rest inductionHypothesis =>
      obtain ⟨said, accepted, step, names⟩ := publisher.step_carryOut operation
      have split : (operation :: rest).filterMap Operation.names? =
          operation.names?.toList ++ rest.filterMap Operation.names? := by
        rw [List.filterMap_cons]
        cases operation.names? <;> rfl
      rw [split] at fresh unused
      obtain ⟨_, freshRest, apart⟩ := List.nodup_append.mp fresh
      have named : ∀ id ∈ accepted, id ∈ operation.names?.toList := by
        intro id isAccepted
        rw [names id isAccepted]
        exact List.mem_singleton_self id
      refine inductionHypothesis (step.arranged arranged fun id isAccepted => ?_) freshRest
        fun id inRest => ?_
      · exact unused id (List.mem_append_left _ (named id isAccepted))
      · refine Option.eq_none_iff_forall_ne_some.mpr fun scheduled owned => ?_
        rcases step.isSome_or_mem (Option.isSome_of_eq_some owned) with wasOwned | isAccepted
        · rw [unused id (List.mem_append_right _ inRest)] at wasOwned
          cases wasOwned
        · exact apart id (named id isAccepted) id inRest rfl

end Publisher

end Discovery
