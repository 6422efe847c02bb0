import Discovery.Proofs.Subscriber.Serial

namespace Discovery

/-!
# Marks and calls

A change that readers can see marks its category and calls the delivery task,
which takes the marks off again when it collects the subscriptions to be told.
`Subscriber.Marked` says of one operation that it moves no serial number without
leaving such a mark, and that every mark it leaves is covered by a call.  Every
step is marked that neither collects nor shuts down (`Subscriber.Step.marked`),
so the delivery task is always called while there is something to tell.
-/

namespace Subscriber

/-- While a category is marked the delivery task is called. -/
def Alert (subscriber : Subscriber) : Prop :=
  ∀ ⦃name category⦄, subscriber.categories.find? name = some category →
    category.dirty = true → subscriber.called = true

/-- No serial number moves without a mark, and no mark is left without a call. -/
structure Marked (after before : Subscriber) : Prop where
  called : before.called = true → after.called = true
  nextEpoch : before.nextEpoch ≤ after.nextEpoch
  covered : ∀ ⦃name later⦄, after.categories.find? name = some later → later.dirty = true →
    after.called = true ∨
      ∃ earlier, before.categories.find? name = some earlier ∧ earlier.dirty = true
  lives : ∀ ⦃name later⦄, after.categories.find? name = some later →
    later.epoch < before.nextEpoch →
      ∃ earlier, before.categories.find? name = some earlier ∧ earlier.epoch = later.epoch ∧
        (later.dirty = true ∨
          earlier.dirty = false ∧ after.serial later.epoch = before.serial later.epoch)

section Relations

variable {first second third before after : Subscriber}

/-- An operation is marked if no category is touched but in its members. -/
theorem Marked.of_less
    (less : ∀ {name later}, after.categories.find? name = some later →
      later.epoch < before.nextEpoch ∨ later.dirty = true →
        ∃ earlier, before.categories.find? name = some earlier ∧ earlier.epoch = later.epoch ∧
          earlier.dirty = later.dirty)
    (serial : ∀ {epoch}, epoch < before.nextEpoch → after.serial epoch = before.serial epoch)
    (called : after.called = before.called)
    (nextEpoch : before.nextEpoch ≤ after.nextEpoch) :
    Marked after before := by
  refine ⟨called.trans, nextEpoch, fun name later has marked => ?_, fun name later has isOld => ?_⟩
  · obtain ⟨earlier, had, _, same⟩ := less has (.inr marked)
    exact .inr ⟨earlier, had, same.trans marked⟩
  · obtain ⟨earlier, had, sameLife, same⟩ := less has (.inl isOld)
    refine ⟨earlier, had, sameLife, ?_⟩
    rw [same, serial isOld]
    exact (Bool.eq_false_or_eq_true later.dirty).imp_right fun unmarked => ⟨unmarked, rfl⟩

theorem Marked.of_same
    (categories : after.categories = before.categories)
    (serials : after.serials = before.serials)
    (called : after.called = before.called)
    (nextEpoch : after.nextEpoch = before.nextEpoch) :
    Marked after before :=
  .of_less (fun {_ later} has _ => ⟨later, categories ▸ has, rfl, rfl⟩)
    (fun _ => by rw [serial, serials, serial]) called nextEpoch.ge

theorem Marked.refl (subscriber : Subscriber) : Marked subscriber subscriber :=
  .of_same rfl rfl rfl rfl

theorem Marked.trans
    (later : Marked third second)
    (earlier : Marked second first) :
    Marked third first := by
  refine ⟨fun called => later.called (earlier.called called),
    Nat.le_trans earlier.nextEpoch later.nextEpoch, fun name last has marked => ?_,
    fun name last has isOld => ?_⟩
  · rcases later.covered has marked with called | ⟨between, isBetween, wasMarked⟩
    · exact .inl called
    · exact (earlier.covered isBetween wasMarked).imp_left later.called
  · obtain ⟨between, isBetween, sameLife, moved⟩ :=
      later.lives has (Nat.lt_of_lt_of_le isOld earlier.nextEpoch)
    obtain ⟨begun, wasBegun, sameBefore, movedBefore⟩ :=
      earlier.lives isBetween (sameLife ▸ isOld)
    refine ⟨begun, wasBegun, sameBefore.trans sameLife, ?_⟩
    rcases moved with marked | ⟨unmarked, still⟩
    · exact .inl marked
    · rw [unmarked, sameLife] at movedBefore
      obtain ⟨wasUnmarked, stillBefore⟩ := movedBefore.resolve_left Bool.false_ne_true
      exact .inr ⟨wasUnmarked, still.trans stillBefore⟩

theorem Marked.alert
    (marked : Marked after before)
    (alert : before.Alert) :
    after.Alert := by
  intro name later has dirty
  rcases marked.covered has dirty with called | ⟨earlier, had, wasDirty⟩
  · exact called
  · exact marked.called (alert had wasDirty)

end Relations

section Operations

variable {before : Subscriber}

/-- A revision marks the category whose serial number it moves. -/
theorem marked_revise
    (distinct : before.Distinct)
    (revision : Revision) :
    Marked (before.revise revision) before := by
  have called : before.called = true → (before.revise revision).called = true :=
    fun called => Bool.or_eq_true_iff.mpr (.inl called)
  have touched : ∀ {name later}, (before.revise revision).categories.find? name = some later →
      ∃ earlier, before.categories.find? name = some earlier ∧ earlier.epoch = later.epoch ∧
        later.dirty =
          (earlier.dirty || (decide (name = revision.category) && revision.visible)) := by
    intro name later has
    rw [revise, Table.find?_modify] at has
    split at has
    next isName =>
      obtain ⟨earlier, had, rfl⟩ := Option.map_eq_some_iff.mp has
      exact ⟨earlier, had, rfl, by rw [decide_eq_true isName, Bool.true_and]; rfl⟩
    next isOther =>
      exact ⟨later, has, rfl, by rw [decide_eq_false isOther, Bool.false_and, Bool.or_false]⟩
  refine ⟨called, Nat.le_refl _, fun name later has marked => ?_, fun name later has _ => ?_⟩
  · obtain ⟨earlier, had, _, isMarked⟩ := touched has
    rw [isMarked, Bool.or_eq_true_iff, Bool.and_eq_true] at marked
    rcases marked with wasMarked | ⟨_, visible⟩
    · exact .inr ⟨earlier, had, wasMarked⟩
    · exact .inl (Bool.or_eq_true_iff.mpr (.inr visible))
  · obtain ⟨earlier, had, sameLife, isMarked⟩ := touched has
    refine ⟨earlier, had, sameLife, ?_⟩
    rw [isMarked]
    cases wasMarked : earlier.dirty with
    | true => exact .inl (Bool.true_or _)
    | false =>
        rw [Bool.false_or, Bool.and_eq_true, decide_eq_true_iff, serial_revise]
        by_cases moves : before.advances? revision = some later.epoch
        · refine .inl ?_
          unfold advances? at moves
          split at moves
          next visible =>
            exact ⟨distinct (sameLife ▸ epoch?_of_find? had) moves, visible⟩
          next => cases moves
        · exact .inr ⟨rfl, if_neg moves⟩

theorem marked_hear
    (distinct : before.Distinct)
    (now : Instant)
    (id : StreamId)
    (announcement : Wire.Announcement) :
    Marked (before.hear now id announcement) before := by
  rw [hear_eq_revise]
  cases before.heard? now id announcement with
  | none => exact .refl before
  | some revision => exact marked_revise distinct revision

theorem marked_forget
    (distinct : before.Distinct)
    (id : StreamId) :
    Marked (before.forget id) before := by
  rw [forget_eq_revise]
  cases before.withdrawn? id with
  | none => exact .refl before
  | some revision => exact marked_revise distinct revision

/-- A category of which something lapses is marked. -/
theorem marked_expireCategory
    (distinct : before.Distinct)
    (now : Instant)
    (name : String) :
    Marked (expireCategory now before name) before := by
  have ends := before.expires_expireCategory now name
  generalize expireCategory now before name = next at ends ⊢
  cases ends with
  | kept => exact .refl before
  | @lapsed category _ found =>
      refine ⟨fun _ => rfl, Nat.le_refl _, fun _ _ _ _ => .inl rfl, fun sought later has _ => ?_⟩
      have has := (Table.find?_insert ..).symm.trans has
      split at has
      next isName =>
        cases has
        exact ⟨category, isName ▸ found, rfl, .inl rfl⟩
      next isOther =>
        have otherLife : later.epoch ≠ category.epoch := fun same =>
          isOther (distinct (epoch?_of_find? has) (same ▸ epoch?_of_find? found))
        have still := (serial_advance before category.epoch later.epoch).trans (if_neg otherLife)
        refine ⟨later, has, rfl, ?_⟩
        exact (Bool.eq_false_or_eq_true later.dirty).imp_right fun unmarked => ⟨unmarked, still⟩

theorem marked_turn
    (distinct : before.Distinct)
    (now : Instant) :
    Marked (before.turn now) before := by
  have turned : (before.turn now).Distinct ∧ Marked (before.turn now) before := by
    refine before.turn_induction (motive := fun next => next.Distinct ∧ Marked next before) now
      ⟨distinct, .refl before⟩ ?timed ?expired
    case timed =>
      rintro next timer ⟨distinct, marked⟩
      exact ⟨distinct, marked.called, marked.nextEpoch, marked.covered, marked.lives⟩
    case expired =>
      rintro next name ⟨distinct, marked⟩
      have counted := countedIn_expireCategory distinct now name
      exact ⟨counted.distinct distinct, (marked_expireCategory distinct now name).trans marked⟩
  exact turned.2

/-- Leaving a category takes away the category or one of its members. -/
theorem marked_leave (before : Subscriber) (subscription : Subscription) :
    Marked (before.leave subscription) before := by
  have ends := before.leaves_leave subscription
  generalize before.leave subscription = next at ends ⊢
  cases ends with
  | unwatched => exact .refl before
  | ended =>
      exact .of_less (fun has _ => ⟨_, Table.find?_of_find?_erase has, rfl, rfl⟩) (fun _ => rfl)
        rfl (Nat.le_refl _)
  | left found =>
      refine .of_less (fun has _ => ?_) (fun _ => rfl) rfl (Nat.le_refl _)
      obtain ⟨earlier, had, epoch, _, marked⟩ := exists_of_members found has
      exact ⟨earlier, had, epoch.symm, marked.symm⟩

theorem marked_markDisposed (before : Subscriber) (id : Nat) :
    Marked (before.markDisposed id).2 before := by
  have ends := before.marks_markDisposed id
  generalize before.markDisposed id = result at ends ⊢
  cases ends <;> exact .of_same rfl rfl rfl rfl

theorem marked_dispose (before : Subscriber) (id : Nat) : Marked (before.dispose id).2 before := by
  have ends := before.disposes_dispose id
  generalize before.dispose id = result at ends ⊢
  cases ends with
  | closed => exact .refl before
  | @disposed subscription =>
      exact (marked_leave _ subscription).trans (marked_markDisposed before id)

theorem marked_read (before : Subscriber) (id : Nat) : Marked (before.read id).2 before := by
  rcases before.read_cases id with same | ⟨_, _, same⟩ <;> rw [same]
  · exact .refl before
  · exact .of_same rfl rfl rfl rfl

/-- A category comes to life without a mark. -/
theorem marked_subscribe (before : Subscriber) (name : String) :
    Marked (before.subscribe name).2 before := by
  have ends := before.subscribes_subscribe name
  generalize before.subscribe name = result at ends ⊢
  cases ends with
  | unencodable | disposed => exact .refl before
  | further _ _ found =>
      refine .of_less (fun has _ => ?_) (fun _ => rfl) rfl (Nat.le_refl _)
      obtain ⟨earlier, had, epoch, _, marked⟩ := exists_of_members found has
      exact ⟨earlier, had, epoch.symm, marked.symm⟩
  | first =>
      refine .of_less (fun {sought later} has touched => ?_) (fun {epoch} isOld => ?_) rfl
        (Nat.le_succ _)
      · rw [Table.find?_insert] at has
        split at has
        next =>
          cases has
          rcases touched with isOld | marked
          · exact absurd isOld (Nat.lt_irrefl _)
          · cases marked
        next => exact ⟨later, has, rfl, rfl⟩
      · rw [serial, Table.find?_insert, if_neg (Nat.ne_of_lt isOld), serial]

end Operations

section Steps

variable {occasion : Occasion} {before after : Subscriber}

/-- Every step is marked but those that collect or shut down. -/
theorem Step.marked_cases
    (step : before.Step occasion after)
    (distinct : before.Distinct) :
    Marked after before ∨ occasion.collecting ∧ after = before.collect.2 ∨
      occasion.stopping ∧ after = before.shut.2 := by
  cases step with
  | rest => exact .inl (.refl before)
  | @subscribe name _ => exact .inl (marked_subscribe before name)
  | dispose id => exact .inl (marked_dispose before id)
  | conclude id => exact .inl (marked_markDisposed before id)
  | @hear now _ id _ announcement => exact .inl (marked_hear distinct now id announcement)
  | @forget id _ => exact .inl (marked_forget distinct id)
  | @turn now _ => exact .inl (marked_turn distinct now)
  | collect due => exact .inr (.inl ⟨due, rfl⟩)
  | read id => exact .inl (marked_read before id)
  | notice | register | shuffle => exact .inl (.of_same rfl rfl rfl rfl)
  | shut due => exact .inr (.inr ⟨due, rfl⟩)

/-- An open subscription is a member of its category. -/
theorem member_of_open
    (sound : before.Sound)
    (running : before.stopped = false)
    {id : Nat}
    {known : Subscription}
    (found : before.subscriptions.find? id = some known)
    (isOpen : known.disposed = false)
    {category : Category}
    (isCategory : before.categories.find? known.category = some category) :
    id ∈ category.members := by
  have rolled : before.roll.find? id = some known.standing := by
    rw [find?_roll, found, Option.map_some]
  obtain ⟨members, enrolled, isMember⟩ := sound.enrolled running rolled isOpen
  rw [find?_enrolment] at enrolled
  obtain ⟨_, isSame, same⟩ := Option.map_eq_some_iff.mp enrolled
  cases isCategory.symm.trans isSame
  rwa [(Prod.mk.inj same).2]

/-- The open subscriptions of a marked category are collected. -/
theorem mem_collect
    (sound : before.Sound)
    (running : before.stopped = false)
    {id : Nat}
    {known : Subscription}
    (found : before.subscriptions.find? id = some known)
    (isOpen : known.disposed = false)
    {category : Category}
    (isCategory : before.categories.find? known.category = some category)
    (marked : category.dirty = true) :
    id ∈ before.collect.1 := by
  have listed : category ∈ before.lives.filter Category.dirty :=
    List.mem_filter.mpr ⟨mem_lives.mpr ⟨_, isCategory⟩, marked⟩
  rw [collect, running, if_neg Bool.false_ne_true]
  exact List.mem_flatMap.mpr
    ⟨category, listed, member_of_open sound running found isOpen isCategory⟩

/-- Collecting takes every mark off. -/
theorem unmarked_collect
    (sound : before.Sound)
    {name : String}
    {category : Category}
    (found : before.collect.2.categories.find? name = some category) :
    category.dirty = false := by
  unfold collect at found
  dsimp only at found
  split at found
  next stopped =>
    rw [noCategory sound stopped] at found
    cases found
  next =>
    rw [Table.find?_map] at found
    obtain ⟨_, _, rfl⟩ := Option.map_eq_some_iff.mp found
    rfl

/-- Collecting moves no serial number. -/
theorem serial_collect (epoch : Nat) : before.collect.2.serial epoch = before.serial epoch := by
  unfold collect
  dsimp only
  split <;> rfl

/--
After an operation that is marked, the category of an open subscription is
marked, or it was not marked before and its serial number stands still.
-/
theorem Marked.marked_or_still
    (marked : Marked after before)
    (soundAfter : after.Sound)
    (running : after.stopped = false)
    {id : Nat}
    {known later : Subscription}
    (begun : known.epoch < before.nextEpoch)
    (remains : known.Remains later)
    (isLater : after.subscriptions.find? id = some later)
    (isOpen : later.disposed = false) :
    (∃ category, after.categories.find? later.category = some category ∧
        category.dirty = true) ∨
      after.serial later.epoch = before.serial known.epoch ∧
        ∀ {category}, before.categories.find? known.category = some category →
          category.dirty = false := by
  obtain ⟨category, isCategory, sameLife⟩ := category_of_open soundAfter running isLater isOpen
  have isOld : category.epoch < before.nextEpoch := by rwa [sameLife, remains.epoch]
  obtain ⟨earlier, had, _, marked | ⟨unmarked, still⟩⟩ := marked.lives isCategory isOld
  · exact .inl ⟨category, isCategory, marked⟩
  · refine .inr ⟨?_, fun {other} isOther => ?_⟩
    · rw [sameLife] at still
      rw [still, remains.epoch]
    · rw [← remains.category, had] at isOther
      exact Option.some.inj isOther ▸ unmarked

/-- Every step keeps the delivery task called while there is something to tell. -/
theorem Step.alert
    (step : before.Step occasion after)
    (orderly : before.Orderly)
    (alert : before.Alert) :
    after.Alert := by
  have sound := orderly.readable.sound
  rcases step.marked_cases orderly.distinct with marked | ⟨_, rfl⟩ | ⟨_, rfl⟩
  · exact marked.alert alert
  · intro name category found marked
    rw [unmarked_collect sound found] at marked
    cases marked
  · intro name category found _
    rw [noCategory (sound_shut sound) (Step.stopped_shut before)] at found
    cases found

end Steps

end Subscriber

end Discovery
