import Discovery.Proofs.Subscriber.Step
import Discovery.Proofs.Timer.Deadline

namespace Discovery.Subscriber

/-!
# What is held, and for how long

The index names the category in which a resource is held, and no other, so an
announcement that is turned away because of the index is turned away because of
what is held.  The timer is set for the first entry that lapses or earlier.
`Subscriber.Watchful` says both of a subscriber, and whatever happens to it
while it is in service keeps both.
-/

/-- Whether a resource is held in another category than the one given. -/
def holdsElsewhere (subscriber : Subscriber) (id : ResourceId) (category : String) : Bool :=
  subscriber.categories.entries.any fun entry =>
    entry.1 != category && entry.2.resources.contains id

/--
Whether an announcement counts: it names a resource, its category is subscribed,
and the resource is not held in another one.
-/
def accepts (subscriber : Subscriber) (id : StreamId) (announcement : Wire.Announcement) : Bool :=
  !id.isNil && subscriber.categories.contains announcement.category &&
    !subscriber.holdsElsewhere id announcement.category

theorem holdsElsewhere_iff
    {subscriber : Subscriber}
    {id : ResourceId}
    {category : String} :
    subscriber.holdsElsewhere id category = true ↔
      ∃ other entry, other ≠ category ∧ subscriber.known? other id = some (some entry) := by
  simp only [holdsElsewhere, List.any_eq_true, Bool.and_eq_true, bne_iff_ne, known?,
    Option.map_eq_some_iff, Table.contains, Option.isSome_iff_exists]
  constructor
  · rintro ⟨⟨other, found⟩, listed, different, entry, isEntry⟩
    exact ⟨other, entry, different, found, Table.find?_eq_some_iff.mpr listed, isEntry⟩
  · rintro ⟨other, entry, different, found, isFound, isEntry⟩
    exact ⟨(other, found), Table.find?_eq_some_iff.mp isFound, different, entry, isEntry⟩

/-- What is indexed is held. -/
def Indexed (subscriber : Subscriber) : Prop :=
  ∀ {id category}, subscriber.index.find? id = some category →
    ∃ entry, subscriber.known? category id = some (some entry)

/-- What is indexed is held, and the timer is set for the first entry that lapses or earlier. -/
structure Watchful (subscriber : Subscriber) : Prop where
  held : subscriber.Indexed
  timer : subscriber.timer.Sound
  running : subscriber.timer.closed = false
  armed : ∀ {category id entry}, subscriber.known? category id = some (some entry) →
    ∃ deadline, subscriber.timer.deadline = some deadline ∧ deadline ≤ entry.expiresAt

section Elsewhere

variable {allowed : List Callback → Prop} {subscriber : Subscriber}

/-- The index says where a resource is held. -/
theorem knownElsewhere_eq
    (tidy : subscriber.Tidy allowed)
    (watchful : subscriber.Watchful)
    (id : ResourceId)
    (category : String) :
    subscriber.knownElsewhere id category = subscriber.holdsElsewhere id category := by
  refine Bool.eq_iff_iff.mpr ?_
  rw [holdsElsewhere_iff, knownElsewhere, Option.any_eq_true]
  constructor
  · rintro ⟨other, indexed, different⟩
    obtain ⟨entry, isKnown⟩ := watchful.held indexed
    exact ⟨other, entry, bne_iff_ne.mp different, isKnown⟩
  · rintro ⟨other, entry, different, isKnown⟩
    exact ⟨other, tidy.filed isKnown, bne_iff_ne.mpr different⟩

/-- An announcement that does not count changes nothing. -/
theorem hear_of_not_accepts
    (tidy : subscriber.Tidy allowed)
    (watchful : subscriber.Watchful)
    {id : StreamId}
    {announcement : Wire.Announcement}
    (refused : subscriber.accepts id announcement = false)
    (now : Instant) :
    subscriber.hear now id announcement = subscriber := by
  unfold hear
  split
  next => rfl
  next counts =>
    rw [knownElsewhere_eq tidy watchful] at counts
    simp only [not_or, Bool.not_eq_true] at counts
    obtain ⟨real, _, notElsewhere⟩ := counts
    simp only [accepts, real, notElsewhere, Bool.not_false, Bool.true_and, Bool.and_true,
      Table.contains, Option.isSome_eq_false_iff, Option.isNone_iff_eq_none] at refused
    rw [refused]

/-- A resource whose announcement counts is held nowhere else. -/
theorem own_of_accepts
    (tidy : subscriber.Tidy allowed)
    (watchful : subscriber.Watchful)
    {id : StreamId}
    {announcement : Wire.Announcement}
    (counts : subscriber.accepts id announcement = true) :
    id.isNil = false ∧ (subscriber.known? announcement.category id).isSome ∧
      ∀ {category}, subscriber.index.find? id = some category →
        category = announcement.category := by
  simp only [accepts, Bool.and_eq_true, Bool.not_eq_true'] at counts
  obtain ⟨⟨real, isSubscribed⟩, notElsewhere⟩ := counts
  refine ⟨real, by rwa [known?, Option.isSome_map], fun {category} indexed => ?_⟩
  rw [← knownElsewhere_eq tidy watchful, knownElsewhere, indexed, Option.any_some] at notElsewhere
  simpa using notElsewhere

end Elsewhere

section Timers

variable (subscriber : Subscriber)

theorem timer_subscribe (name : String) :
    (subscriber.subscribe name).2.timer = subscriber.timer := by
  have ends := subscriber.subscribes_subscribe name
  generalize subscriber.subscribe name = result at ends ⊢
  cases ends <;> rfl

theorem timer_leave (subscription : Subscription) :
    (subscriber.leave subscription).timer = subscriber.timer := by
  have ends := subscriber.leaves_leave subscription
  generalize subscriber.leave subscription = next at ends ⊢
  cases ends <;> rfl

theorem timer_markDisposed (id : Nat) :
    (subscriber.markDisposed id).2.timer = subscriber.timer := by
  have ends := subscriber.marks_markDisposed id
  generalize subscriber.markDisposed id = result at ends ⊢
  cases ends <;> rfl

theorem timer_collect : subscriber.collect.2.timer = subscriber.timer := by
  unfold collect
  dsimp only
  split <;> rfl

theorem timer_read (id : Nat) : (subscriber.read id).2.timer = subscriber.timer := by
  rcases subscriber.read_cases id with same | ⟨_, _, same⟩
  · rw [same]
  · rw [same, update]

theorem timer_expireCategory (now : Instant) (name : String) :
    (expireCategory now subscriber name).timer = subscriber.timer := by
  have ends := subscriber.expires_expireCategory now name
  generalize expireCategory now subscriber name = next at ends ⊢
  cases ends <;> rfl

/-- The next instant at which something lapses is not later than any entry. -/
theorem nextLapse?_le
    {category : String}
    {id : ResourceId}
    {entry : RemoteEntry}
    (isKnown : subscriber.known? category id = some (some entry)) :
    ∃ next, subscriber.nextLapse? = some next ∧ next ≤ entry.expiresAt := by
  obtain ⟨found, isFound, isEntry⟩ := Option.map_eq_some_iff.mp isKnown
  have isCategory : found ∈ subscriber.categories.values :=
    List.mem_map.mpr ⟨_, Table.find?_eq_some_iff.mp isFound, rfl⟩
  have isListed : entry ∈ found.resources.values :=
    List.mem_map.mpr ⟨_, Table.find?_eq_some_iff.mp isEntry, rfl⟩
  have among : entry.expiresAt ∈ subscriber.categories.values.flatMap fun category =>
      category.resources.values.map RemoteEntry.expiresAt :=
    List.mem_flatMap.mpr ⟨found, isCategory, List.mem_map_of_mem isListed⟩
  unfold nextLapse?
  cases least : (subscriber.categories.values.flatMap fun category =>
      category.resources.values.map RemoteEntry.expiresAt).min? with
  | none =>
      rw [List.min?_eq_none_iff.mp least] at among
      cases among
  | some next => exact ⟨next, rfl, (List.min?_eq_some_iff.mp least).2 _ among⟩

end Timers

/-- What lapses in a category is struck off the index. -/
theorem indexed_expireCategory
    {allowed : List Callback → Prop}
    {before : Subscriber}
    (held : before.Indexed)
    (tidy : before.Tidy allowed)
    (now : Instant)
    (name : String) :
    (expireCategory now before name).Indexed := by
  have faded := (faded_expireCategory tidy now name).1
  intro id category indexed
  obtain ⟨entry, isKnown⟩ := held (faded.index indexed)
  refine ⟨entry, ?_⟩
  have ends := before.expires_expireCategory now name
  generalize expireCategory now before name = next at ends indexed ⊢
  cases ends with
  | kept => exact isKnown
  | @lapsed found _ isFound isLapsed =>
      change (before.index.eraseMany _).find? id = some category at indexed
      rw [Table.find?_eraseMany] at indexed
      split at indexed
      next => cases indexed
      next notErased =>
        refine (known?_insert before name _ category id).trans ?_
        split
        next isCategory =>
          rw [isCategory, known?, isFound, Option.map_some, Option.some.injEq] at isKnown
          have lasts : now < entry.expiresAt := by
            refine Nat.lt_of_not_le fun past => notErased (Table.mem_keys_iff.mpr ⟨entry, ?_⟩)
            rw [isLapsed, Table.find?_filter, isKnown, Option.filter_some,
              if_pos (decide_eq_true past)]
          dsimp only
          rw [Table.find?_filter, isKnown, Option.filter_some, if_pos (decide_eq_true lasts)]
        next => exact isKnown

/-- Entries that lapse in some categories are struck off the index, and the timer is left alone. -/
theorem indexed_foldl_expireCategory
    {allowed : List Callback → Prop}
    {before : Subscriber}
    (held : before.Indexed)
    (tidy : before.Tidy allowed)
    (now : Instant)
    (names : List String) :
    (names.foldl (expireCategory now) before).Indexed ∧
      (names.foldl (expireCategory now) before).timer = before.timer := by
  induction names generalizing before with
  | nil => exact ⟨held, rfl⟩
  | cons name rest inductionHypothesis =>
      obtain ⟨faded, advanced⟩ := faded_expireCategory tidy now name
      obtain ⟨heldAfter, timer⟩ :=
        inductionHypothesis (indexed_expireCategory held tidy now name) (tidy.fade advanced faded)
      exact ⟨heldAfter, timer.trans (before.timer_expireCategory now name)⟩

namespace Watchful

variable {allowed : List Callback → Prop} {before after : Subscriber}

theorem new : Watchful Subscriber.new :=
  ⟨nofun, .new, rfl, nofun⟩

/-- Nothing more is held than before, and the timer is the same. -/
theorem lessen
    (watchful : before.Watchful)
    (timer : after.timer = before.timer)
    (kept : ∀ {category id entry}, after.known? category id = some (some entry) →
      before.known? category id = some (some entry))
    (held : after.Indexed) :
    after.Watchful :=
  ⟨held, timer ▸ watchful.timer, timer ▸ watchful.running,
    fun isKnown => timer ▸ watchful.armed (kept isKnown)⟩

/-- The same is held as before. -/
theorem same
    (watchful : before.Watchful)
    (timer : after.timer = before.timer)
    (known : ∀ category id, after.known? category id = before.known? category id)
    (index : after.index = before.index) :
    after.Watchful :=
  watchful.lessen timer (fun isKnown => known _ _ ▸ isKnown)
    fun indexed => known _ _ ▸ watchful.held (index ▸ indexed)

theorem subscribe
    (watchful : before.Watchful)
    (tidy : before.Tidy fun _ => True)
    (name : String) :
    (before.subscribe name).2.Watchful := by
  have timer := before.timer_subscribe name
  rcases joined : before.subscribe name with ⟨_ | ⟨id, isFirst⟩, next⟩
  · rwa [subscribe_error joined]
  rw [joined] at timer
  have watching := watching_subscribe tidy trivial joined
  refine watchful.lessen timer watching.known?_iff.mp fun {id category} indexed => ?_
  obtain ⟨entry, isKnown⟩ := watchful.held (watching.index ▸ indexed)
  exact ⟨entry, watching.known?_iff.mpr isKnown⟩

/-- A category that ends takes what is held in it along. -/
theorem leave
    (watchful : before.Watchful)
    (tidy : before.Tidy allowed)
    (subscription : Subscription) :
    (before.leave subscription).Watchful := by
  have faded := (faded_leave tidy 0 subscription).1
  refine watchful.lessen (before.timer_leave subscription) faded.kept ?_
  intro id category indexed
  obtain ⟨entry, isKnown⟩ := watchful.held (faded.index indexed)
  refine ⟨entry, ?_⟩
  have ends := before.leaves_leave subscription
  generalize before.leave subscription = next at ends indexed ⊢
  cases ends with
  | unwatched => exact isKnown
  | ended isFound =>
      rw [Table.find?_eraseMany] at indexed
      split at indexed
      next => cases indexed
      next notErased =>
        simp only [known?, Table.find?_erase]
        split
        next isCategory =>
          rw [isCategory, known?, isFound, Option.map_some, Option.some.injEq] at isKnown
          exact absurd (Table.mem_keys_iff.mpr ⟨entry, isKnown⟩) notErased
        next => exact isKnown
  | left isFound =>
      refine (known?_insert ..).trans ?_
      split
      next isCategory =>
        rw [isCategory, known?, isFound, Option.map_some] at isKnown
        exact isKnown
      next => exact isKnown

theorem dispose
    (watchful : before.Watchful)
    (tidy : before.Tidy allowed)
    (id : Nat) :
    (before.dispose id).2.Watchful := by
  obtain ⟨tidyMarked, known, index⟩ := tidy_markDisposed tidy id
  have marked := watchful.same (before.timer_markDisposed id) known index
  have ends := before.disposes_dispose id
  generalize before.dispose id = result at ends ⊢
  cases ends with
  | closed => exact watchful
  | @disposed subscription => exact marked.leave tidyMarked subscription

/-- When the timer has fired, it is set for the next entry that lapses. -/
theorem turn
    (watchful : before.Watchful)
    (tidy : before.Tidy fun _ => True)
    (inService : before.stopped = false)
    (now : Instant) :
    (before.turn now).Watchful := by
  have timer := Timer.Sound.turn before.timer now
  have running := (Timer.closed_turn before.timer now).trans watchful.running
  have ends := before.turns_turn now
  generalize before.turn now = next at ends ⊢
  cases ends with
  | silent silent =>
      refine ⟨watchful.held, timer, running, fun isKnown => ?_⟩
      obtain ⟨deadline, isDeadline, early⟩ := watchful.armed isKnown
      refine ⟨deadline, ?_, early⟩
      rw [← isDeadline]
      exact Timer.deadline_turn silent
  | stopped stopped =>
      rw [inService] at stopped
      cases stopped
  | @swept fired swept _ isFired isSwept =>
      have tidyFired : fired.Tidy fun _ => True := by
        rw [isFired]
        exact ⟨tidy.named, tidy.filed, tidy.living, tidy.begun, tidy.cached, tidy.listening⟩
      have heldFired : fired.Indexed := isFired ▸ watchful.held
      obtain ⟨held, same⟩ :=
        indexed_foldl_expireCategory heldFired tidyFired now before.categories.keys
      rw [← isSwept] at held same
      rw [isFired] at same
      refine ⟨held, ?_, ?_, fun isKnown => ?_⟩
      · exact (same ▸ timer : swept.timer.Sound).armEarlier? _
      · exact (Timer.closed_armEarlier? _ _).trans ((congrArg Timer.closed same).trans running)
      · obtain ⟨next, isNext, early⟩ := swept.nextLapse?_le isKnown
        dsimp only
        rw [isNext]
        obtain ⟨deadline, isDeadline, notLater⟩ := Timer.deadline_armEarlier_le swept.timer next
        exact ⟨deadline, isDeadline, Nat.le_trans notLater early⟩

/-- An announcement that counts is indexed where it is held, and the timer is set for its end. -/
theorem hear
    (watchful : before.Watchful)
    (tidy : before.Tidy fun _ => True)
    (inService : before.stopped = false)
    (now : Instant)
    (id : StreamId)
    (announcement : Wire.Announcement) :
    (before.hear now id announcement).Watchful := by
  cases counts : before.accepts id announcement with
  | false => rwa [hear_of_not_accepts tidy watchful counts]
  | true =>
  obtain ⟨real, isWatched, own⟩ := own_of_accepts tidy watchful counts
  obtain ⟨known, isKnown⟩ := Option.isSome_iff_exists.mp isWatched
  rw [hear_eq_revise, heard?_of_own inService now real own isKnown, Option.map_some,
    Option.getD_some]
  obtain ⟨entry, made, _, lasts, isIndexed⟩ := announced_spec tidy now isKnown
  have isId := id_announced before now id announcement known
  have isCategory := category_announced before now id announcement known
  have lapses := lapses_announced before now id announcement known
  generalize before.announced now id announcement known = revision at *
  have timer : (before.revise revision).timer =
      before.timer.armEarlier (lapse now announcement) := by
    simp only [revise, lapses, Timer.armEarlier?]
  have self : (before.revise revision).known? announcement.category id = some (some entry) := by
    rw [known?_revise_self isCategory isId isKnown, made]
  refine ⟨fun {other category} indexed => ?_, ?_, ?_, fun {category other held} isHeld => ?_⟩
  · by_cases isSame : other = id
    · subst isSame
      have here : (before.revise revision).index.find? other = some announcement.category := by
        rw [← isIndexed, ← isId]
        exact (Table.find?_assign ..).trans (if_pos rfl)
      rw [here] at indexed
      cases indexed
      exact ⟨entry, self⟩
    · rw [index_revise before (isId.trans_ne (Ne.symm isSame))] at indexed
      rw [known?_revise before (isId.trans_ne (Ne.symm isSame))]
      exact watchful.held indexed
  · rw [timer]
    exact watchful.timer.armEarlier _
  · rw [timer, Timer.closed_armEarlier]
    exact watchful.running
  · rw [timer]
    by_cases isNew : other = id ∧ category = announcement.category
    · obtain ⟨rfl, rfl⟩ := isNew
      rw [self] at isHeld
      cases isHeld
      rw [lasts]
      exact Timer.deadline_armEarlier_le before.timer _
    · have wasHeld : before.known? category other = some (some held) := by
        by_cases isSame : other = id
        · have elsewhere : category ≠ announcement.category := fun same => isNew ⟨isSame, same⟩
          rwa [known?_revise_other before fun same => elsewhere (same.trans isCategory)] at isHeld
        · rwa [known?_revise before (isId.trans_ne (Ne.symm isSame))] at isHeld
      exact Timer.deadline_armEarlier_of_le (watchful.armed wasHeld) _

/-- A resource that is withdrawn is struck off the index. -/
theorem forget
    (watchful : before.Watchful)
    (tidy : before.Tidy fun _ => True)
    (sound : before.Sound)
    (inService : before.stopped = false)
    (id : StreamId) :
    (before.forget id).Watchful := by
  obtain ⟨_, taught⟩ := taught_forget tidy sound 0 id
  have timer : (before.forget id).timer = before.timer := by
    rw [forget_eq_revise]
    unfold withdrawn?
    split
    next => rfl
    next => cases before.index.find? id <;> rfl
  have noLonger : ∀ {category entry},
      (before.forget id).known? category id ≠ some (some entry) := by
    intro category entry isKnown
    obtain ⟨_, isSaid, _⟩ := taught.learnt isKnown
    cases isSaid
  have struck : (before.forget id).index.find? id = none := by
    rw [forget_eq_revise, withdrawn?, inService, if_neg Bool.false_ne_true]
    cases indexed : before.index.find? id with
    | none => exact indexed
    | some name => exact (Table.find?_assign ..).trans (if_pos rfl)
  refine watchful.lessen timer (fun {category other entry} isKnown => ?_)
    (fun {other category} indexed => ?_)
  · have different : other ≠ id := by
      rintro rfl
      exact noLonger isKnown
    rwa [taught.others different] at isKnown
  · by_cases isSame : other = id
    · subst isSame
      rw [struck] at indexed
      cases indexed
    · rw [taught.indexOthers isSame] at indexed
      rw [taught.others isSame]
      exact watchful.held indexed

/-- A subscriber that is in service before and after a step stays watchful. -/
theorem stays
    {occasion : Occasion}
    (watchful : before.Watchful)
    (readable : before.Readable)
    (inService : before.stopped = false)
    (step : before.Step occasion after)
    (ended : occasion.concluding → before.stopped = true)
    (running : after.stopped = false) :
    after.Watchful := by
  obtain ⟨sound, tidy, _⟩ := readable
  cases step with
  | rest => exact watchful
  | @subscribe name _ => exact watchful.subscribe tidy name
  | dispose id => exact watchful.dispose tidy id
  | conclude _ due => exact absurd (ended due) (Bool.eq_false_iff.mp inService)
  | shut => exact absurd (Step.stopped_shut before) (Bool.eq_false_iff.mp running)
  | @hear now _ id _ announcement => exact watchful.hear tidy inService now id announcement
  | @forget id _ => exact watchful.forget tidy sound inService id
  | @turn now _ => exact watchful.turn tidy inService now
  | collect =>
      obtain ⟨_, known, index⟩ := tidy_collect tidy
      exact watchful.same before.timer_collect known index
  | read id =>
      obtain ⟨_, known, index⟩ := tidy_read tidy sound id
      exact watchful.same (before.timer_read id) known index
  | notice | register | shuffle => exact watchful.same rfl (fun _ _ => rfl) rfl

/-- Every step of a subscriber in service keeps it watchful. -/
theorem step
    {occasion : Occasion}
    (watchful : before.Watchful)
    (readable : before.Readable)
    (inService : before.stopped = false)
    (step : before.Step occasion after)
    (calm : ¬ occasion.stopping)
    (settled : ¬ occasion.concluding) :
    after.Watchful := by
  refine watchful.stays readable inService step (fun due => absurd due settled) ?_
  rcases step.stopped_cases with same | ⟨due, _⟩
  · exact same.trans inService
  · exact absurd due calm

end Watchful

/-- What is held of a resource stays until its time is over, unless its category is given up. -/
structure Spared (now : Instant) (id : ResourceId) (after before : Subscriber) : Prop where
  kept : ∀ {category entry}, before.known? category id = some (some entry) →
    now < entry.expiresAt → (after.known? category id).isSome →
      after.known? category id = some (some entry)
  index : ∀ {category}, after.index.find? id = some category →
    before.index.find? id = some category

namespace Spared

variable {now : Instant} {id : ResourceId} {before after : Subscriber}

theorem of_same
    (known : ∀ category, after.known? category id = before.known? category id)
    (index : after.index.find? id = before.index.find? id) :
    Spared now id after before :=
  ⟨fun isKnown _ _ => (known _).trans isKnown, fun indexed => index ▸ indexed⟩

/-- What has faded has lapsed. -/
theorem of_faded (faded : Faded now after before) : Spared now id after before := by
  refine ⟨fun {category entry} isKnown lasts watched => ?_, faded.index⟩
  obtain ⟨known, isAfter⟩ := Option.isSome_iff_exists.mp watched
  cases known with
  | none => exact absurd (faded.lapsed isAfter isKnown) (Nat.not_le_of_lt lasts)
  | some later =>
      rw [isAfter, ← isKnown]
      exact (faded.kept isAfter).symm

theorem subscribe
    (tidy : before.Tidy fun _ => True)
    (name : String) :
    Spared now id (before.subscribe name).2 before := by
  rcases joined : before.subscribe name with ⟨_ | ⟨subscription, isFirst⟩, next⟩
  · rw [subscribe_error joined]
    exact .of_same (fun _ => rfl) rfl
  have watching := watching_subscribe tidy trivial joined
  exact ⟨fun isKnown _ _ => watching.known?_iff.mpr isKnown,
    fun indexed => watching.index ▸ indexed⟩

/-- A message about another resource leaves this one alone. -/
theorem handle
    (instant : Instant)
    (arrival : StreamId × Wire.Message)
    (different : arrival.1 ≠ id) :
    Spared now id (before.handle instant arrival) before := by
  rw [handle_eq_revise]
  cases revises : before.revision? instant arrival.1 arrival.2 with
  | none => exact .of_same (fun _ => rfl) rfl
  | some revision =>
      have other : revision.id ≠ id := (id_of_revision? revises).trans_ne different
      exact .of_same (known?_revise before other) (index_revise before other)

/-- Whatever a subscriber does while it hears nothing of a resource, what it holds of it stays. -/
theorem step
    {occasion : Occasion}
    (readable : before.Readable)
    (step : before.Step occasion after)
    (timely : ∀ {instant}, occasion.timely instant → instant = now)
    (elsewhere : ¬ occasion.heard id) :
    Spared now id after before := by
  obtain ⟨sound, tidy, _⟩ := readable
  cases step with
  | rest => exact .of_same (fun _ => rfl) rfl
  | @subscribe name _ => exact .subscribe tidy name
  | dispose subscription => exact .of_faded (faded_dispose tidy now subscription).1
  | conclude subscription =>
      obtain ⟨_, known, index⟩ := tidy_markDisposed tidy subscription
      exact .of_same (fun _ => known _ _) (by rw [index])
  | @hear instant _ stream isHeard announcement =>
      have different : stream ≠ id := fun isId => elsewhere (isId ▸ isHeard)
      exact handle instant (stream, .hello announcement) different
  | @forget stream isHeard =>
      have different : stream ≠ id := fun isId => elsewhere (isId ▸ isHeard)
      exact handle now (stream, .byeBye) different
  | turn isNow =>
      rw [timely isNow]
      exact .of_faded (faded_turn tidy now).1
  | collect =>
      obtain ⟨_, known, index⟩ := tidy_collect tidy
      exact .of_same (fun _ => known _ _) (by rw [index])
  | read subscription =>
      obtain ⟨_, known, index⟩ := tidy_read tidy sound subscription
      exact .of_same (fun _ => known _ _) (by rw [index])
  | notice | register | shuffle => exact .of_same (fun _ => rfl) rfl
  | shut => exact .of_faded (faded_shut tidy now).1

end Spared

end Discovery.Subscriber
