import Discovery.Proofs.Agent.Occasion
import Discovery.Proofs.Subscriber.Upkeep

namespace Discovery

/-!
# One step of a subscriber

Between two moments an agent does one thing to its subscriber.
`Subscriber.Step` lists what it may be, and every step keeps the subscriber
sound and readable.  A subscription is the same afterwards, and one that is
disposed stays so and signals nothing more.
-/

/-- What a subscription remains, and what it does no more once it is disposed. -/
structure Subscription.Remains (known later : Subscription) : Prop where
  category : later.category = known.category
  epoch : later.epoch = known.epoch
  /-- The callbacks keep their places. -/
  callbacks : known.callbacks.map Callback.name <+: later.callbacks.map Callback.name
  disposed : known.disposed = true →
    later.disposed = true ∧ later.signal = known.signal ∧ later.signals = known.signals

namespace Subscription.Remains

theorem refl (known : Subscription) : Remains known known :=
  ⟨rfl, rfl, List.prefix_rfl, fun disposed => ⟨disposed, rfl, rfl⟩⟩

theorem trans
    {first second third : Subscription}
    (later : Remains second third)
    (earlier : Remains first second) :
    Remains first third := by
  refine ⟨later.category.trans earlier.category, later.epoch.trans earlier.epoch,
    earlier.callbacks.trans later.callbacks, ?_⟩
  intro disposed
  obtain ⟨between, signal, signals⟩ := earlier.disposed disposed
  obtain ⟨still, laterSignal, laterSignals⟩ := later.disposed between
  exact ⟨still, laterSignal.trans signal, laterSignals.trans signals⟩

/-- What is open was open before. -/
theorem wasOpen
    {known later : Subscription}
    (remains : Remains known later)
    (isOpen : later.disposed = false) :
    known.disposed = false := by
  cases disposed : known.disposed with
  | false => rfl
  | true => exact absurd (remains.disposed disposed).1 (Bool.eq_false_iff.mp isOpen)

end Subscription.Remains

namespace Subscriber

/--
What becomes of a subscriber in one step.  It is shut only when the agent stops,
and its subscriptions are concluded only when that is due.  The callbacks of a
subscription keep their places, and new ones are added behind them.
-/
inductive Step
    (occasion : Occasion)
    (subscriber : Subscriber) : Subscriber → Prop where
  | rest : Step occasion subscriber subscriber
  | subscribe {name : String} (wanted : occasion.wanted name) :
      Step occasion subscriber (subscriber.subscribe name).2
  | dispose (id : Nat) : Step occasion subscriber (subscriber.dispose id).2
  | conclude (id : Nat) (due : occasion.concluding) :
      Step occasion subscriber (subscriber.markDisposed id).2
  | hear
      {now : Instant}
      (timely : occasion.timely now)
      {id : StreamId}
      (heard : occasion.heard id)
      (announcement : Wire.Announcement) :
      Step occasion subscriber (subscriber.hear now id announcement)
  | forget {id : StreamId} (heard : occasion.heard id) :
      Step occasion subscriber (subscriber.forget id)
  | turn {now : Instant} (timely : occasion.timely now) :
      Step occasion subscriber (subscriber.turn now)
  | collect (due : occasion.collecting) : Step occasion subscriber subscriber.collect.2
  | read (id : Nat) : Step occasion subscriber (subscriber.read id).2
  | notice
      {id : Nat}
      (due : occasion.telling id)
      {known : Subscription}
      (found : subscriber.subscriptions.find? id = some known)
      (isOpen : known.disposed = false) :
      Step occasion subscriber
        (subscriber.update id fun current => current.notice (subscriber.serial known.epoch))
  | register
      (id : Nat)
      (change : List Callback → List Callback)
      (grows : ∀ {known}, subscriber.subscriptions.find? id = some known →
        known.callbacks.map Callback.name <+: (change known.callbacks).map Callback.name) :
      Step occasion subscriber
        (subscriber.update id fun known => { known with callbacks := change known.callbacks })
  | shut (due : occasion.stopping) : Step occasion subscriber subscriber.shut.2
  | shuffle (front : List String) : Step occasion subscriber { subscriber with front := front }

/-- What may become of one subscription in a step. -/
inductive Amends
    (occasion : Occasion)
    (subscriber : Subscriber)
    (id : Nat) : (Subscription → Subscription) → Prop where
  | dispose : Amends occasion subscriber id fun known => { known with disposed := true }
  | keep (list : CachedList) :
      Amends occasion subscriber id fun known => { known with cache := some list }
  | notice
      {known : Subscription}
      (due : occasion.telling id)
      (found : subscriber.subscriptions.find? id = some known)
      (isOpen : known.disposed = false) :
      Amends occasion subscriber id fun current => current.notice (subscriber.serial known.epoch)
  | register
      (change : List Callback → List Callback)
      (grows : ∀ {known}, subscriber.subscriptions.find? id = some known →
        known.callbacks.map Callback.name <+: (change known.callbacks).map Callback.name) :
      Amends occasion subscriber id fun known => { known with callbacks := change known.callbacks }

namespace Amends

variable {occasion : Occasion} {before : Subscriber}
variable {id : Nat} {change : Subscription → Subscription} {known : Subscription}

theorem remains
    (amends : Amends occasion before id change)
    (found : before.subscriptions.find? id = some known) :
    known.Remains (change known) := by
  cases amends with
  | dispose => exact ⟨rfl, rfl, List.prefix_rfl, fun _ => ⟨rfl, rfl, rfl⟩⟩
  | keep => exact ⟨rfl, rfl, List.prefix_rfl, fun disposed => ⟨disposed, rfl, rfl⟩⟩
  | notice _ told isOpen =>
      refine ⟨rfl, rfl, List.prefix_rfl, fun disposed => ?_⟩
      cases found.symm.trans told
      exact absurd disposed (Bool.eq_false_iff.mp isOpen)
  | register change grows => exact ⟨rfl, rfl, grows found, fun disposed => ⟨disposed, rfl, rfl⟩⟩

theorem signals
    (amends : Amends occasion before id change)
    (untold : ¬ occasion.telling id) :
    (change known).signals = known.signals := by
  cases amends with
  | dispose | keep | register => rfl
  | notice due => exact absurd due untold

/-- Nothing is signalled but the serial number. -/
theorem signal
    (amends : Amends occasion before id change)
    (found : before.subscriptions.find? id = some known) :
    (change known).signal = known.signal ∨
      (change known).signal = before.serial known.epoch := by
  cases amends with
  | dispose | keep | register => exact .inl rfl
  | notice _ told => exact .inr (Option.some.inj (told.symm.trans found) ▸ rfl)

end Amends

section Subscriptions

variable (subscriber : Subscriber)

theorem subscriptions_hear
    (now : Instant)
    (id : StreamId)
    (announcement : Wire.Announcement) :
    (subscriber.hear now id announcement).subscriptions = subscriber.subscriptions := by
  rw [hear_eq_revise]
  cases subscriber.heard? now id announcement <;> rfl

theorem subscriptions_expireCategory
    (now : Instant)
    (name : String) :
    (expireCategory now subscriber name).subscriptions = subscriber.subscriptions := by
  have ends := subscriber.expires_expireCategory now name
  generalize expireCategory now subscriber name = next at ends ⊢
  cases ends <;> rfl

theorem subscriptions_turn (now : Instant) :
    (subscriber.turn now).subscriptions = subscriber.subscriptions := by
  refine subscriber.turn_induction
    (motive := fun next => next.subscriptions = subscriber.subscriptions) now rfl
    (fun _ same => same) fun {next} name same => ?_
  exact (subscriptions_expireCategory next now name).trans same

theorem subscriptions_collect : subscriber.collect.2.subscriptions = subscriber.subscriptions := by
  unfold collect
  dsimp only
  split <;> rfl

theorem subscriptions_leave (subscription : Subscription) :
    (subscriber.leave subscription).subscriptions = subscriber.subscriptions := by
  have ends := subscriber.leaves_leave subscription
  generalize subscriber.leave subscription = next at ends ⊢
  cases ends <;> rfl

theorem serials_leave (subscription : Subscription) :
    (subscriber.leave subscription).serials = subscriber.serials := by
  have ends := subscriber.leaves_leave subscription
  generalize subscriber.leave subscription = next at ends ⊢
  cases ends <;> rfl

theorem subscriptions_shut : subscriber.shut.2.subscriptions = subscriber.subscriptions := by
  unfold shut
  split
  next => rfl
  next =>
    exact List.foldlRecOn
      (motive := fun next : Subscriber => next.subscriptions = subscriber.subscriptions)
      _ _ rfl fun _ same _ _ => same

end Subscriptions

namespace Step

variable {occasion : Occasion} {before after : Subscriber}

/-- The number of a new subscription has not been given before. -/
theorem remains_subscribe
    (sound : before.Sound)
    (name : String)
    {id : Nat}
    {known : Subscription}
    (found : before.subscriptions.find? id = some known) :
    (before.subscribe name).2.subscriptions.find? id = some known := by
  have rolled : before.roll.find? id = some known.standing := by
    rw [find?_roll, found, Option.map_some]
  have notNew : id ≠ before.nextSubscription := Nat.ne_of_lt (sound.numbered rolled).2
  have ends := before.subscribes_subscribe name
  generalize before.subscribe name = result at ends ⊢
  cases ends with
  | unencodable | disposed => exact found
  | further | first => exact (Table.find?_insert ..).trans ((if_neg notNew).trans found)

/-- At most one subscription is amended in a step, or one is made. -/
theorem amends (step : Step occasion before after) :
    after.subscriptions = before.subscriptions ∨
      (∃ id change, before.Amends occasion id change ∧
        after.subscriptions = before.subscriptions.modify id change) ∨
      ∃ name, occasion.wanted name ∧ after = (before.subscribe name).2 := by
  have marked : ∀ sought : Nat,
      (before.markDisposed sought).2.subscriptions = before.subscriptions ∨
        (∃ id change, before.Amends occasion id change ∧
          (before.markDisposed sought).2.subscriptions =
            before.subscriptions.modify id change) := by
    intro sought
    have ends := before.marks_markDisposed sought
    generalize before.markDisposed sought = result at ends ⊢
    cases ends with
    | closed => exact .inl rfl
    | marked => exact .inr ⟨sought, _, .dispose, rfl⟩
  cases step with
  | rest => exact .inl rfl
  | @subscribe name wanted => exact .inr (.inr ⟨name, wanted, rfl⟩)
  | dispose sought =>
      have ends := before.disposes_dispose sought
      generalize before.dispose sought = result at ends ⊢
      cases ends with
      | closed => exact .inl rfl
      | disposed =>
          rw [subscriptions_leave]
          exact (marked sought).imp_right .inl
  | conclude sought => exact (marked sought).imp_right .inl
  | @hear now _ stream _ announcement =>
      exact .inl (subscriptions_hear before now stream announcement)
  | @forget stream _ => exact .inl (before.advanced_forget stream).subscriptions
  | @turn now _ => exact .inl (subscriptions_turn before now)
  | collect => exact .inl (subscriptions_collect before)
  | read sought =>
      rcases before.read_cases sought with unchanged | ⟨reader, list, kept⟩
      · exact .inl (by rw [unchanged])
      · exact .inr (.inl ⟨reader, _, .keep list, by rw [kept, Subscriber.update]⟩)
  | notice due found isOpen => exact .inr (.inl ⟨_, _, .notice due found isOpen, rfl⟩)
  | register id change grows => exact .inr (.inl ⟨id, _, .register change grows, rfl⟩)
  | shut => exact .inl (subscriptions_shut before)
  | shuffle => exact .inl rfl

/-- A subscription is amended in a step, or it stays the same. -/
theorem amended
    (step : Step occasion before after)
    (sound : before.Sound)
    {id : Nat}
    {known : Subscription}
    (found : before.subscriptions.find? id = some known) :
    after.subscriptions.find? id = some known ∨
      ∃ change, before.Amends occasion id change ∧
        after.subscriptions.find? id = some (change known) := by
  rcases step.amends with same | ⟨sought, change, amends, modified⟩ | ⟨name, _, rfl⟩
  · exact .inl (by rw [same, found])
  · rw [modified, Table.find?_modify, found]
    split
    next isSought => exact .inr ⟨change, isSought ▸ amends, rfl⟩
    next => exact .inl rfl
  · exact .inl (remains_subscribe sound name found)

/-- A subscription remains what it is in every step. -/
theorem remains
    (step : Step occasion before after)
    (sound : before.Sound)
    {id : Nat}
    {known : Subscription}
    (found : before.subscriptions.find? id = some known) :
    ∃ later, after.subscriptions.find? id = some later ∧ known.Remains later := by
  rcases step.amended sound found with same | ⟨change, amends, changed⟩
  · exact ⟨known, same, .refl known⟩
  · exact ⟨change known, changed, amends.remains found⟩

/-- Nothing is signalled to a subscription that is not told. -/
theorem signals
    (step : Step occasion before after)
    (sound : before.Sound)
    {id : Nat}
    {known later : Subscription}
    (found : before.subscriptions.find? id = some known)
    (untold : ¬ occasion.telling id)
    (isLater : after.subscriptions.find? id = some later) :
    later.signals = known.signals := by
  rcases step.amended sound found with same | ⟨change, amends, changed⟩
  · cases same.symm.trans isLater
    rfl
  · cases changed.symm.trans isLater
    exact amends.signals untold

/-- No subscription is made unless a category is wanted. -/
theorem earlier
    (step : Step occasion before after)
    (unwanted : ∀ name, ¬ occasion.wanted name)
    {id : Nat}
    {later : Subscription}
    (isLater : after.subscriptions.find? id = some later) :
    ∃ known, before.subscriptions.find? id = some known := by
  rcases step.amends with same | ⟨sought, change, _, modified⟩ | ⟨name, wanted, _⟩
  · exact ⟨later, same ▸ isLater⟩
  · rw [modified, Table.find?_modify] at isLater
    split at isLater
    next =>
      obtain ⟨known, found, _⟩ := Option.map_eq_some_iff.mp isLater
      exact ⟨known, found⟩
    next => exact ⟨later, isLater⟩
  · exact absurd wanted (unwanted name)

/-- A subscriber stays as it is, in service or not, unless it is shut. -/
theorem stopped_cases (step : Step occasion before after) :
    after.stopped = before.stopped ∨ occasion.stopping ∧ after = before.shut.2 := by
  cases step with
  | rest => exact .inl rfl
  | @subscribe name _ =>
      rcases joined : before.subscribe name with ⟨_ | ⟨id, isFirst⟩, next⟩
      · rw [subscribe_error joined]
        exact .inl rfl
      · obtain ⟨epoch, isJoined⟩ := subscribe_ok joined
        exact .inl (isJoined.stopped.trans isJoined.running.symm)
  | dispose id =>
      rcases before.dispose_cases id with ⟨_, kept⟩ | ⟨_, next, disposed, struck, _⟩
      · rw [kept]
        exact .inl rfl
      · rw [disposed]
        exact .inl struck.stopped
  | conclude id =>
      rcases before.markDisposed_cases id with ⟨_, kept⟩ | ⟨_, next, marked, struck, _⟩
      · rw [kept]
        exact .inl rfl
      · rw [marked]
        exact .inl struck.stopped
  | @hear now _ id _ announcement =>
      exact .inl (before.sameMembership_hear now id announcement).stopped
  | @forget id _ => exact .inl (before.sameMembership_forget id).stopped
  | @turn now _ => exact .inl (before.sameMembership_turn now).stopped
  | collect => exact .inl before.sameMembership_collect.stopped
  | read id => exact .inl (before.sameMembership_read id).stopped
  | notice | register | shuffle => exact .inl rfl
  | shut due => exact .inr ⟨due, rfl⟩

theorem stopped_shut (subscriber : Subscriber) : subscriber.shut.2.stopped = true := by
  rcases subscriber.shut_cases with ⟨stopped, kept⟩ | ⟨_, _, _, shut, _, _, stopped, _, _⟩
  · rwa [kept]
  · rw [shut]
    exact stopped

/-- A subscriber that is shut stays so. -/
theorem stopped
    (step : Step occasion before after)
    (stopped : before.stopped = true) :
    after.stopped = true := by
  rcases step.stopped_cases with same | ⟨_, rfl⟩
  · exact same.trans stopped
  · exact stopped_shut before

/-- Every step keeps the account of the subscriptions. -/
theorem sound
    (step : Step occasion before after)
    (ended : occasion.concluding → before.stopped = true)
    (sound : before.Sound) :
    after.Sound := by
  cases step with
  | rest => exact sound
  | @subscribe name _ =>
      rcases joined : before.subscribe name with ⟨_ | ⟨id, isFirst⟩, next⟩
      · rwa [subscribe_error joined]
      · obtain ⟨epoch, isJoined⟩ := subscribe_ok joined
        exact isJoined.sound sound
  | dispose id => exact sound_dispose sound id
  | conclude id due => exact sound_markDisposed sound (ended due) id
  | @hear now _ id _ announcement =>
      exact (before.sameMembership_hear now id announcement).sound sound
  | @forget id _ => exact (before.sameMembership_forget id).sound sound
  | @turn now _ => exact (before.sameMembership_turn now).sound sound
  | collect => exact before.sameMembership_collect.sound sound
  | read id => exact (before.sameMembership_read id).sound sound
  | @notice id _ known _ _ =>
      have same := before.sameMembership_update id
        (show ∀ current : Subscription,
          (current.notice (before.serial known.epoch)).standing = current.standing from
            fun _ => rfl)
      exact same.sound sound
  | @register id change _ =>
      have same := before.sameMembership_update id
        (show ∀ known : Subscription,
          { known with callbacks := change known.callbacks }.standing = known.standing from
            fun _ => rfl)
      exact same.sound sound
  | shut => exact sound_shut sound
  | shuffle front => exact (before.sameMembership_shuffle front).sound sound

end Step

/-- A subscriber that is shut has no categories. -/
theorem noCategory
    {subscriber : Subscriber}
    (sound : subscriber.Sound)
    (stopped : subscriber.stopped = true)
    (name : String) :
    subscriber.categories.find? name = none := by
  have none : subscriber.enrolment.find? name = none := by
    rw [sound.ended stopped]
    rfl
  rw [find?_enrolment] at none
  exact Option.map_eq_none_iff.mp none

theorem readFresh_of_stopped
    {subscriber : Subscriber}
    (sound : subscriber.Sound)
    (stopped : subscriber.stopped = true)
    (subscription : Subscription) :
    subscriber.readFresh subscription = (.nothing, subscriber) := by
  rw [readFresh, noCategory sound stopped]

/-- The serial numbers stand still, and so do the lists that are kept. -/
structure Frozen (after before : Subscriber) : Prop where
  serials : after.serials = before.serials
  lists : ∀ {id later}, after.subscriptions.find? id = some later →
    ∃ earlier, before.subscriptions.find? id = some earlier ∧ later.epoch = earlier.epoch ∧
      later.cache = earlier.cache ∧ (later.disposed = false → earlier.disposed = false)

namespace Frozen

variable {subscriber : Subscriber}

theorem of_same
    {after : Subscriber}
    (serials : after.serials = subscriber.serials)
    (subscriptions : after.subscriptions = subscriber.subscriptions) :
    Frozen after subscriber :=
  ⟨serials, fun found => ⟨_, subscriptions ▸ found, rfl, rfl, fun isOpen => isOpen⟩⟩

theorem serial
    {after : Subscriber}
    (frozen : Frozen after subscriber)
    (epoch : Nat) :
    after.serial epoch = subscriber.serial epoch := by
  rw [Subscriber.serial, frozen.serials, Subscriber.serial]

theorem refl (subscriber : Subscriber) : Frozen subscriber subscriber :=
  .of_same rfl rfl

theorem update
    (subscriber : Subscriber)
    (id : Nat)
    {change : Subscription → Subscription}
    (alike : ∀ known, (change known).epoch = known.epoch ∧ (change known).cache = known.cache ∧
      ((change known).disposed = false → known.disposed = false)) :
    Frozen (subscriber.update id change) subscriber := by
  refine ⟨rfl, fun {sought later} found => ?_⟩
  rw [Subscriber.update, Table.find?_modify] at found
  split at found
  next =>
    obtain ⟨earlier, wasFound, rfl⟩ := Option.map_eq_some_iff.mp found
    exact ⟨earlier, wasFound, alike earlier⟩
  next => exact ⟨later, found, rfl, rfl, fun isOpen => isOpen⟩

theorem markDisposed
    (subscriber : Subscriber)
    (id : Nat) :
    Frozen (subscriber.markDisposed id).2 subscriber := by
  have ends := subscriber.marks_markDisposed id
  generalize subscriber.markDisposed id = result at ends ⊢
  cases ends with
  | closed => exact .refl subscriber
  | marked => exact .update subscriber id fun _ => ⟨rfl, rfl, nofun⟩

/-- Nothing moves in a subscriber that is shut. -/
theorem step
    {occasion : Occasion}
    {after : Subscriber}
    (step : subscriber.Step occasion after)
    (sound : subscriber.Sound)
    (stopped : subscriber.stopped = true) :
    Frozen after subscriber := by
  cases step with
  | rest => exact .refl subscriber
  | @subscribe name _ =>
      have ends := subscriber.subscribes_subscribe name
      generalize subscriber.subscribe name = result at ends ⊢
      cases ends with
      | unencodable | disposed => exact .refl subscriber
      | further _ running | first _ running =>
          rw [stopped] at running
          cases running
  | dispose id =>
      have ends := subscriber.disposes_dispose id
      generalize subscriber.dispose id = result at ends ⊢
      cases ends with
      | closed => exact .refl subscriber
      | @disposed subscription =>
          have marked := markDisposed subscriber id
          have left := (subscriber.markDisposed id).2.subscriptions_leave subscription
          have serials := (subscriber.markDisposed id).2.serials_leave subscription
          exact ⟨serials.trans marked.serials, fun found => marked.lists (left ▸ found)⟩
  | conclude id => exact markDisposed subscriber id
  | @hear now _ id _ announcement =>
      rw [Subscriber.hear, if_pos (.inr (.inl stopped))]
      exact .refl subscriber
  | @forget id _ =>
      rw [Subscriber.forget, if_pos stopped]
      exact .refl subscriber
  | @turn now _ =>
      have ends := subscriber.turns_turn now
      generalize subscriber.turn now = next at ends ⊢
      cases ends with
      | silent | stopped => exact .of_same rfl rfl
      | swept running =>
          rw [stopped] at running
          cases running
  | collect =>
      unfold Subscriber.collect
      dsimp only
      rw [if_pos stopped]
      exact .of_same rfl rfl
  | read id =>
      unfold Subscriber.read
      split
      next => exact .refl subscriber
      next subscription _ =>
        rw [readFresh_of_stopped sound stopped]
        split
        next => exact .refl subscriber
        next =>
          split
          next => split <;> exact .refl subscriber
          next => exact .refl subscriber
  | notice | register =>
      exact .update subscriber _ fun _ => ⟨rfl, rfl, fun isOpen => isOpen⟩
  | shuffle => exact .of_same rfl rfl
  | shut =>
      rw [Subscriber.shut, if_pos stopped]
      exact .refl subscriber

end Frozen

/-- Whoever reads gets the present list of a category, or nothing once there are no categories. -/
structure Readable (subscriber : Subscriber) : Prop where
  sound : subscriber.Sound
  tidy : subscriber.Tidy fun _ => True
  /-- No list that was kept before shutting down is used again. -/
  outdated : subscriber.stopped = true →
    ∀ {id subscription kept}, subscriber.subscriptions.find? id = some subscription →
      subscription.disposed = false → subscription.cache = some kept →
        kept.serial < subscriber.serial subscription.epoch

/-- The resources of a category as they are now, whoever asks. -/
def snapshot (subscriber : Subscriber) (name : String) : List RemoteResource :=
  (subscriber.categories.find? name).elim [] Category.listing

namespace Readable

variable {occasion : Occasion} {subscriber after : Subscriber}

theorem new : Readable Subscriber.new :=
  ⟨sound_new, .new _, nofun⟩

/-- Whatever list an open subscription returns, it is the one made anew. -/
theorem resources_read
    (readable : subscriber.Readable)
    {id : Nat}
    {subscription : Subscription}
    (found : subscriber.subscriptions.find? id = some subscription)
    (isOpen : subscription.disposed = false) :
    (subscriber.read id).1.resources = subscriber.snapshot subscription.category := by
  cases stopped : subscriber.stopped with
  | false =>
      obtain ⟨category, isCategory, read⟩ :=
        Subscriber.resources_read readable.tidy readable.sound stopped found isOpen
      rw [read, snapshot, isCategory, Option.elim_some]
  | true =>
      have absent := noCategory readable.sound stopped subscription.category
      have fresh : (subscriber.readFresh subscription).1.resources = [] := by
        rw [readFresh_of_stopped readable.sound stopped]
        rfl
      rw [snapshot, absent, Option.elim_none, Subscriber.read, found]
      dsimp only
      rw [isOpen, if_neg Bool.false_ne_true]
      split
      next kept isKept =>
        rw [if_neg (Nat.ne_of_lt (readable.outdated stopped found isOpen isKept))]
        exact fresh
      next => exact fresh

/-- The resources of a category are listed once each, in the order of their identifiers. -/
theorem ascending_snapshot
    (readable : subscriber.Readable)
    (name : String) :
    (subscriber.snapshot name).Pairwise fun first second => compare first.id second.id = .lt := by
  unfold snapshot
  cases found : subscriber.categories.find? name with
  | none => exact .nil
  | some category =>
      refine Category.ascending_listing fun {id entry} isEntry => ?_
      exact (readable.tidy.named (by rw [known?, found, Option.map_some, isEntry])).1

/-- They are the resources that are known in it. -/
theorem mem_snapshot
    (readable : subscriber.Readable)
    {name : String}
    {resource : RemoteResource} :
    resource ∈ subscriber.snapshot name ↔
      ∃ entry, subscriber.known? name resource.id = some (some entry) ∧
        entry.resource = resource := by
  unfold snapshot known?
  cases found : subscriber.categories.find? name with
  | none => simp
  | some category =>
      have named : ∀ {id entry}, category.resources.find? id = some entry →
          entry.resource.id = id := fun {id entry} isEntry =>
        (readable.tidy.named (by rw [known?, found, Option.map_some, isEntry])).1
      simp only [Option.elim_some, Category.mem_listing named, Option.map_some, Option.some.injEq,
        Option.map_eq_some_iff]

theorem snapshot_of_stopped
    (readable : subscriber.Readable)
    (stopped : subscriber.stopped = true)
    (name : String) :
    subscriber.snapshot name = [] := by
  rw [snapshot, noCategory readable.sound stopped, Option.elim_none]

/-- An announcement is ignored, or it names a resource and is learnt if its category is watched. -/
theorem hear_cases
    (readable : subscriber.Readable)
    (now : Instant)
    (id : StreamId)
    (announcement : Wire.Announcement) :
    subscriber.hear now id announcement = subscriber ∨
      id.isNil = false ∧ (subscriber.hear now id announcement).Tidy (fun _ => True) ∧
        Taught now id (some announcement) (subscriber.hear now id announcement) subscriber := by
  by_cases ignored :
      id.isNil ∨ subscriber.stopped ∨ subscriber.knownElsewhere id announcement.category
  · exact .inl (if_pos ignored)
  · simp only [not_or, Bool.not_eq_true] at ignored
    obtain ⟨real, _, notElsewhere⟩ := ignored
    refine .inr ⟨real, taught_hear readable.tidy readable.sound now real
      fun {category} indexed => ?_⟩
    rw [knownElsewhere, indexed, Option.any_some] at notElsewhere
    simpa using notElsewhere

theorem tidy_hear
    (readable : subscriber.Readable)
    (now : Instant)
    (id : StreamId)
    (announcement : Wire.Announcement) :
    (subscriber.hear now id announcement).Tidy fun _ => True := by
  rcases readable.hear_cases now id announcement with same | ⟨_, tidy, _⟩
  · rw [same]
    exact readable.tidy
  · exact tidy

theorem tidy_step
    (readable : subscriber.Readable)
    (step : subscriber.Step occasion after) :
    after.Tidy fun _ => True := by
  cases step with
  | rest => exact readable.tidy
  | @subscribe name _ =>
      rcases joined : subscriber.subscribe name with ⟨_ | ⟨id, isFirst⟩, next⟩
      · rw [subscribe_error joined]
        exact readable.tidy
      · exact (watching_subscribe readable.tidy trivial joined).tidy
  | dispose id => exact (faded_dispose readable.tidy 0 id).2
  | conclude id => exact (tidy_markDisposed readable.tidy id).1
  | @hear now _ id _ announcement => exact readable.tidy_hear now id announcement
  | @forget id _ => exact (taught_forget readable.tidy readable.sound 0 id).1
  | @turn now _ => exact (faded_turn readable.tidy now).2
  | collect => exact (tidy_collect readable.tidy).1
  | read id => exact (tidy_read readable.tidy readable.sound id).1
  | notice | register =>
      exact tidy_update readable.tidy _ fun _ =>
        ⟨rfl, rfl, rfl, fun allowed => allowed, fun isOpen => isOpen⟩
  | shut => exact (faded_shut readable.tidy 0).2
  | shuffle front => exact tidy_shuffle readable.tidy front

/-- Shutting down moves the serial number of every category on. -/
theorem serial_lt_foldl_advance
    {categories : List Category}
    {category : Category}
    (member : category ∈ categories)
    (current : Subscriber) :
    current.serial category.epoch <
      (categories.foldl (fun current category => current.advance category.epoch) current).serial
        category.epoch := by
  induction categories generalizing current with
  | nil => cases member
  | cons first rest inductionHypothesis =>
      rw [List.foldl_cons]
      rcases List.mem_cons.mp member with rfl | inRest
      · have moved : current.serial category.epoch <
            (current.advance category.epoch).serial category.epoch := by
          rw [serial_advance, if_pos rfl]
          exact Nat.lt_succ_self _
        exact Nat.lt_of_lt_of_le moved ((advanced_foldl_advance rest _).serial _)
      · exact Nat.lt_of_le_of_lt (serial_le_advance current first.epoch category.epoch)
          (inductionHypothesis inRest _)

/-- No list is used again after shutting down. -/
theorem outdated_shut
    (readable : subscriber.Readable)
    (running : subscriber.stopped = false)
    {id : Nat}
    {subscription : Subscription}
    {kept : CachedList}
    (found : subscriber.shut.2.subscriptions.find? id = some subscription)
    (isOpen : subscription.disposed = false)
    (isKept : subscription.cache = some kept) :
    kept.serial < subscriber.shut.2.serial subscription.epoch := by
  rw [subscriptions_shut] at found
  obtain ⟨category, isCategory, sameLife⟩ :=
    category_of_open readable.sound running found isOpen
  have listed : category ∈ subscriber.lives := mem_lives.mpr ⟨_, isCategory⟩
  have moved := serial_lt_foldl_advance listed subscriber
  have notAhead := (readable.tidy.cached found isOpen isKept).1
  rw [sameLife] at moved
  rw [Subscriber.shut, running, if_neg Bool.false_ne_true]
  exact Nat.lt_of_le_of_lt notAhead moved

/--
Every step keeps a subscriber readable: one that is stopped stands still, and
only the step that stops it moves the serial numbers.
-/
theorem step
    (readable : subscriber.Readable)
    (step : subscriber.Step occasion after)
    (ended : occasion.concluding → subscriber.stopped = true) :
    after.Readable := by
  refine ⟨step.sound ended readable.sound, readable.tidy_step step, fun stopped => ?_⟩
  intro id subscription kept found isOpen isKept
  cases running : subscriber.stopped with
  | true =>
      have frozen := Frozen.step step readable.sound running
      obtain ⟨earlier, wasFound, epoch, cache, wasOpen⟩ := frozen.lists found
      rw [serial, frozen.serials, epoch]
      exact readable.outdated running wasFound (wasOpen isOpen) (cache ▸ isKept)
  | false =>
      rcases step.stopped_cases with same | ⟨_, rfl⟩
      · rw [same, running] at stopped
        cases stopped
      · exact readable.outdated_shut running found isOpen isKept

end Readable

end Subscriber

end Discovery
