import Discovery.Proofs.Subscriber.Enrolment
import Discovery.Proofs.Subscriber.Interleaving

namespace Discovery

/-!
# What a subscriber knows

What is known of a resource is kept under its own category and can be looked up
there, and a list that a subscription keeps is the list of its category as long
as the serial number has not moved.  `Subscriber.Tidy` says so.  Operations
either fade what is known (`Subscriber.Faded`), because it has lapsed or is no
longer watched, or revise it; and a list that a reader sees changes only
together with its serial number (`Subscriber.Advanced`).
-/

/-- What a reader sees of a category. -/
def Category.seen (category : Category) : Table ResourceId RemoteResource :=
  category.resources.map fun _ entry => entry.resource

theorem Category.listing_eq (category : Category) : category.listing = category.seen.values := by
  simp only [listing, seen, Table.values, Table.map, List.map_map]
  rfl

section Listing

variable {category : Category}
variable (named : ∀ {id entry}, category.resources.find? id = some entry → entry.resource.id = id)

include named

/-- A list shows each resource once, in the order of the identifiers. -/
theorem Category.ascending_listing :
    category.listing.Pairwise fun first second => compare first.id second.id = .lt := by
  have isNamed : ∀ {entry}, entry ∈ category.resources.entries → entry.2.resource.id = entry.1 :=
    fun listed => named (Table.find?_eq_some_iff.mpr listed)
  simp only [listing, Table.values, List.map_map, List.pairwise_map]
  refine category.resources.ascending.imp_of_mem fun first second before => ?_
  simpa only [Function.comp, isNamed first, isNamed second] using before

/-- A list shows what is known of each resource. -/
theorem Category.mem_listing {resource : RemoteResource} :
    resource ∈ category.listing ↔
      (category.resources.find? resource.id).map RemoteEntry.resource = some resource := by
  simp only [listing, Table.values, List.mem_map, Option.map_eq_some_iff]
  constructor
  · rintro ⟨_, ⟨⟨id, entry⟩, listed, rfl⟩, rfl⟩
    have found := Table.find?_eq_some_iff.mpr listed
    exact ⟨entry, (named found).symm ▸ found, rfl⟩
  · rintro ⟨entry, found, isResource⟩
    exact ⟨entry, ⟨(resource.id, entry), Table.find?_eq_some_iff.mp found, rfl⟩, isResource⟩

end Listing

namespace Subscriber

/-- The life of a category and what a reader sees of it. -/
def seen? (subscriber : Subscriber) (name : String) : Option (Nat × List RemoteResource) :=
  (subscriber.categories.find? name).map fun category => (category.epoch, category.listing)

/--
What is known is in its place, and lists that are kept are right.  Which
callbacks may have been registered on a subscription is left open.
-/
structure Tidy (allowed : List Callback → Prop) (subscriber : Subscriber) : Prop where
  named : ∀ {category id entry}, subscriber.known? category id = some (some entry) →
    entry.resource.id = id ∧ entry.resource.category = category
  filed : ∀ {category id entry}, subscriber.known? category id = some (some entry) →
    subscriber.index.find? id = some category
  living : ∀ {name epoch listing}, subscriber.seen? name = some (epoch, listing) →
    epoch < subscriber.nextEpoch
  begun : ∀ {id subscription}, subscriber.subscriptions.find? id = some subscription →
    subscription.epoch < subscriber.nextEpoch
  /-- A list that is kept under the present serial number is the present list. -/
  cached : ∀ {id subscription kept}, subscriber.subscriptions.find? id = some subscription →
    subscription.disposed = false → subscription.cache = some kept →
      kept.serial ≤ subscriber.serial subscription.epoch ∧
        ∀ {listing}, kept.serial = subscriber.serial subscription.epoch →
          subscriber.seen? subscription.category = some (subscription.epoch, listing) →
            kept.resources = listing
  listening : ∀ {id subscription}, subscriber.subscriptions.find? id = some subscription →
    allowed subscription.callbacks

/-- Tidy, and nobody has registered a callback. -/
abbrev Silent (subscriber : Subscriber) : Prop :=
  subscriber.Tidy fun callbacks => callbacks = []

theorem Tidy.new (allowed : List Callback → Prop) : Tidy allowed Subscriber.new :=
  ⟨nofun, nofun, nofun, nofun, nofun, nofun⟩

/-- Less is known than before: what has lapsed or is no longer watched. -/
structure Faded (now : Instant) (after before : Subscriber) : Prop where
  watched : ∀ {category id}, (after.known? category id).isSome →
    (before.known? category id).isSome
  kept : ∀ {category id entry}, after.known? category id = some (some entry) →
    before.known? category id = some (some entry)
  lapsed : ∀ {category id entry}, after.known? category id = some none →
    before.known? category id = some (some entry) → entry.expiresAt ≤ now
  index : ∀ {id category}, after.index.find? id = some category →
    before.index.find? id = some category
  filed : ∀ {category id entry}, after.known? category id = some (some entry) →
    before.index.find? id = some category → after.index.find? id = some category

/-- What a reader sees changes only together with its serial number. -/
structure Advanced (after before : Subscriber) : Prop where
  subscriptions : after.subscriptions = before.subscriptions
  nextEpoch : after.nextEpoch = before.nextEpoch
  serial : ∀ epoch, before.serial epoch ≤ after.serial epoch
  seen : ∀ {name epoch listing}, after.seen? name = some (epoch, listing) →
    ∃ earlier, before.seen? name = some (epoch, earlier) ∧
      (listing = earlier ∨ before.serial epoch < after.serial epoch)

section Relations

variable {allowed : List Callback → Prop}
variable {now : Instant} {first second third : Subscriber}

/-- What is still watched is known as before. -/
theorem Faded.of_fewer
    (fewer : ∀ {category id known}, second.known? category id = some known →
      first.known? category id = some known)
    (index : ∀ {id category}, second.index.find? id = some category →
      first.index.find? id = some category)
    (filed : ∀ {category id entry}, second.known? category id = some (some entry) →
      first.index.find? id = some category → second.index.find? id = some category) :
    Faded now second first := by
  refine ⟨fun watched => ?_, fewer, fun unknown isKnown => ?_, index, filed⟩
  · obtain ⟨known, isKnown⟩ := Option.isSome_iff_exists.mp watched
    rw [fewer isKnown]
    rfl
  · rw [fewer unknown] at isKnown
    cases isKnown

theorem Faded.refl (now : Instant) (subscriber : Subscriber) : Faded now subscriber subscriber :=
  .of_fewer id id fun _ indexed => indexed

/-- The same is known as before. -/
theorem Faded.of_same
    (known : ∀ category id, second.known? category id = first.known? category id)
    (index : second.index = first.index) :
    Faded now second first := by
  refine .of_fewer (fun isKnown => ?_) (fun indexed => ?_) fun _ indexed => ?_
  · rwa [← known]
  · rwa [← index]
  · rwa [index]

theorem Faded.trans
    (later : Faded now third second)
    (earlier : Faded now second first) :
    Faded now third first := by
  refine
    ⟨fun known => earlier.watched (later.watched known),
      fun known => earlier.kept (later.kept known), ?_,
      fun indexed => earlier.index (later.index indexed),
      fun known indexed => later.filed known (earlier.filed (later.kept known) indexed)⟩
  intro category id entry unknown known
  obtain ⟨between, isBetween⟩ :=
    Option.isSome_iff_exists.mp (later.watched (by rw [unknown]; rfl))
  cases between with
  | none => exact earlier.lapsed isBetween known
  | some other =>
      have same := earlier.kept isBetween
      rw [known] at same
      cases same
      exact later.lapsed unknown isBetween

theorem Advanced.refl (subscriber : Subscriber) : Advanced subscriber subscriber :=
  ⟨rfl, rfl, fun _ => Nat.le_refl _, fun seen => ⟨_, seen, .inl rfl⟩⟩

theorem Advanced.trans
    (later : Advanced third second)
    (earlier : Advanced second first) :
    Advanced third first := by
  refine
    ⟨later.subscriptions.trans earlier.subscriptions, later.nextEpoch.trans earlier.nextEpoch,
      fun epoch => Nat.le_trans (earlier.serial epoch) (later.serial epoch), ?_⟩
  intro name epoch listing seen
  obtain ⟨between, isBetween, lately⟩ := later.seen seen
  obtain ⟨before, isBefore, early⟩ := earlier.seen isBetween
  refine ⟨before, isBefore, ?_⟩
  rcases lately with same | moved
  · rcases early with same' | moved
    · exact .inl (same.trans same')
    · exact .inr (Nat.lt_of_lt_of_le moved (later.serial epoch))
  · exact .inr (Nat.lt_of_le_of_lt (earlier.serial epoch) moved)

/-- Lists that are kept stay right while what a reader sees moves with its serial number. -/
theorem Tidy.advance
    (tidy : first.Tidy allowed)
    (advanced : Advanced second first)
    (named : ∀ {category id entry}, second.known? category id = some (some entry) →
      entry.resource.id = id ∧ entry.resource.category = category)
    (filed : ∀ {category id entry}, second.known? category id = some (some entry) →
      second.index.find? id = some category) :
    second.Tidy allowed := by
  refine ⟨named, filed, ?_, ?_, ?_, ?_⟩
  · intro name epoch listing seen
    obtain ⟨earlier, wasSeen, _⟩ := advanced.seen seen
    rw [advanced.nextEpoch]
    exact tidy.living wasSeen
  · rw [advanced.subscriptions, advanced.nextEpoch]
    exact tidy.begun
  · intro id subscription kept found isOpen isKept
    rw [advanced.subscriptions] at found
    obtain ⟨notAhead, right⟩ := tidy.cached found isOpen isKept
    refine ⟨Nat.le_trans notAhead (advanced.serial _), fun same seen => ?_⟩
    obtain ⟨earlier, wasSeen, sameListing | moved⟩ := advanced.seen seen
    · have still := advanced.serial subscription.epoch
      rw [sameListing]
      exact right (by omega) wasSeen
    · omega
  · rw [advanced.subscriptions]
    exact tidy.listening

theorem Tidy.fade
    (tidy : first.Tidy allowed)
    (advanced : Advanced second first)
    (faded : Faded now second first) :
    second.Tidy allowed :=
  tidy.advance advanced (fun known => tidy.named (faded.kept known))
    fun known => faded.filed known (tidy.filed (faded.kept known))

end Relations

section Messages

variable (subscriber : Subscriber)

/-- A revision advances the serial number of the life that it concerns, if any. -/
theorem serial_revise
    (revision : Revision)
    (epoch : Nat) :
    (subscriber.revise revision).serial epoch =
      if subscriber.advances? revision = some epoch then subscriber.serial epoch + 1
      else subscriber.serial epoch := by
  unfold serial
  dsimp only [revise]
  cases subscriber.advances? revision with
  | none => rfl
  | some advanced =>
      simp only [advanceSerial, Table.find?_insert, Option.some.injEq, @eq_comm _ advanced]
      split
      next isAdvanced => rw [isAdvanced]; rfl
      next => rfl

theorem seen?_revise
    (revision : Revision)
    (name : String) :
    (subscriber.revise revision).seen? name =
      if name = revision.category then
        (subscriber.categories.find? name).map fun category =>
          (category.epoch, (revision.onCategory category).listing)
      else subscriber.seen? name := by
  simp only [seen?, revise, Table.find?_modify]
  split
  next => rw [Option.map_map]; rfl
  next => rfl

/-- A revision that changes what a reader sees is visible. -/
theorem advanced_revise
    {revision : Revision}
    (sameListing : revision.visible = false → ∀ {category},
      subscriber.categories.find? revision.category = some category →
        (revision.onCategory category).listing = category.listing) :
    Advanced (subscriber.revise revision) subscriber := by
  have notLess : ∀ epoch, subscriber.serial epoch ≤ (subscriber.revise revision).serial epoch := by
    intro epoch
    rw [serial_revise]
    split <;> omega
  refine ⟨rfl, rfl, notLess, fun {name epoch listing} seen => ?_⟩
  rw [seen?_revise] at seen
  split at seen
  next isCategory =>
    subst isCategory
    obtain ⟨category, found, isSeen⟩ := Option.map_eq_some_iff.mp seen
    cases isSeen
    refine ⟨category.listing, by rw [seen?, found]; rfl, ?_⟩
    cases visible : revision.visible with
    | false => exact .inl (sameListing visible found)
    | true =>
        have advances : subscriber.advances? revision = some category.epoch := by
          rw [advances?, visible, if_pos rfl, epoch?, found]
          rfl
        rw [serial_revise, if_pos advances]
        exact .inr (Nat.lt_succ_self _)
  next => exact ⟨listing, seen, .inl rfl⟩

/-- A reader sees no difference if an entry stays the same but for its time. -/
theorem listing_onCategory
    {revision : Revision}
    {category : Category}
    (same : revision.entry.map RemoteEntry.resource =
      (category.resources.find? revision.id).map RemoteEntry.resource) :
    (revision.onCategory category).listing = category.listing := by
  rw [Category.listing_eq, Category.listing_eq]
  congr 1
  apply Table.ext_find?
  intro sought
  simp only [Category.seen, Revision.onCategory, Table.find?_map, Table.find?_assign]
  split
  next isId => rw [isId, same]
  next => rfl

theorem advanced_announced
    (now : Instant)
    {id : ResourceId}
    {announcement : Wire.Announcement}
    {known : Option RemoteEntry}
    (isKnown : subscriber.known? announcement.category id = some known) :
    Advanced (subscriber.revise (subscriber.announced now id announcement known)) subscriber := by
  refine subscriber.advanced_revise fun invisible category found => ?_
  rw [category_announced] at found
  rw [known?, found, Option.map_some, Option.some.injEq] at isKnown
  cases known with
  | none => cases invisible
  | some entry =>
      have same : entry.resource.differsFrom announcement = false := invisible
      refine listing_onCategory ?_
      rw [id_announced, isKnown]
      simp only [announced, same, Bool.false_eq_true, if_false, Option.map_some]

theorem advanced_forget (id : StreamId) : Advanced (subscriber.forget id) subscriber := by
  rw [forget_eq_revise]
  unfold withdrawn?
  split
  next => exact .refl subscriber
  next =>
    cases subscriber.index.find? id with
    | none => exact .refl subscriber
    | some name =>
        refine subscriber.advanced_revise fun invisible category found => listing_onCategory ?_
        have unknown : category.resources.find? id = none := by
          dsimp only at invisible found
          rwa [known?, found, Option.map_some, Option.any_some, Option.isSome_eq_false_iff,
            Option.isNone_iff_eq_none] at invisible
        rw [unknown]

/-- A subscriber learns what a word says of a resource, if it watches its category. -/
structure Taught
    (now : Instant)
    (id : ResourceId)
    (said : Option Wire.Announcement)
    (after before : Subscriber) : Prop where
  others : ∀ {category other}, other ≠ id →
    after.known? category other = before.known? category other
  watched : ∀ {category other}, (after.known? category other).isSome →
    (before.known? category other).isSome
  indexOthers : ∀ {other}, other ≠ id → after.index.find? other = before.index.find? other
  index : ∀ {category}, after.index.find? id = some category →
    before.index.find? id = some category ∨
      ∃ announcement, said = some announcement ∧ announcement.category = category
  learnt : ∀ {category entry}, after.known? category id = some (some entry) →
    ∃ announcement, said = some announcement ∧ entry.resource = .ofAnnouncement id announcement
  known : ∀ {announcement known}, said = some announcement →
    after.known? announcement.category id = some known →
      ∃ entry, known = some entry ∧ entry.expiresAt = lapse now announcement

end Messages

section Learning

variable {allowed : List Callback → Prop} {subscriber : Subscriber}

/-- Revising watches no other categories than before. -/
theorem isSome_known?_revise
    (subscriber : Subscriber)
    (revision : Revision)
    (category : String)
    (id : ResourceId) :
    ((subscriber.revise revision).known? category id).isSome =
      (subscriber.known? category id).isSome := by
  simp only [known?, revise, Option.isSome_map, Table.find?_modify]
  split
  next => rw [Option.isSome_map]
  next => rfl

/-- A revision in one category leaves what is known in the others. -/
theorem known?_revise_other
    (subscriber : Subscriber)
    {revision : Revision}
    {category : String}
    (different : category ≠ revision.category)
    (id : ResourceId) :
    (subscriber.revise revision).known? category id = subscriber.known? category id := by
  simp only [known?, revise, Table.find?_modify, if_neg different]

/-- A stopped subscriber watches nothing. -/
theorem running_of_known
    (sound : subscriber.Sound)
    {category : String}
    {id : ResourceId}
    (known : (subscriber.known? category id).isSome) :
    subscriber.stopped = false := by
  refine Bool.eq_false_iff.mpr fun stopped => ?_
  rw [known?, Option.isSome_map, Option.isSome_iff_exists] at known
  obtain ⟨found, isFound⟩ := known
  have enrolled : subscriber.enrolment.find? category = some (found.epoch, found.members) := by
    rw [find?_enrolment, isFound]
    rfl
  rw [sound.ended stopped] at enrolled
  cases enrolled

/-- Nothing is watched without an open subscription. -/
theorem unwatched_of_openCount
    (sound : subscriber.Sound)
    (noneOpen : subscriber.openCount = 0)
    (category : String)
    (id : ResourceId) :
    subscriber.known? category id = none := by
  refine Option.map_eq_none_iff.mpr (Option.eq_none_iff_forall_ne_some.mpr fun found isFound => ?_)
  have enrolled : subscriber.enrolment.find? category = some (found.epoch, found.members) := by
    rw [find?_enrolment, isFound]
    rfl
  obtain ⟨member, isMember⟩ := List.exists_mem_of_ne_nil _ (sound.inhabited enrolled)
  have isClosed := openCount_eq_zero_iff.mp noneOpen member
  rw [isOpen, sound.rolled enrolled isMember] at isClosed
  cases isClosed

/-- Nothing is watched after shutting down. -/
theorem unwatched_shut
    (sound : subscriber.Sound)
    (category : String)
    (id : ResourceId) :
    subscriber.shut.2.known? category id = none := by
  unfold shut
  split
  next stopped =>
    refine Option.eq_none_iff_forall_ne_some.mpr fun known isKnown => ?_
    rw [running_of_known sound (by rw [isKnown]; rfl)] at stopped
    cases stopped
  next => rfl

/-- What differs from no announcement was described by it. -/
theorem eq_ofAnnouncement
    {resource : RemoteResource}
    {announcement : Wire.Announcement}
    (category : resource.category = announcement.category)
    (same : resource.differsFrom announcement = false) :
    resource = .ofAnnouncement resource.id announcement := by
  obtain ⟨id, name, connection, attributes⟩ := resource
  simp only [RemoteResource.differsFrom, Bool.or_eq_false_iff, bne_eq_false_iff_eq] at same
  obtain ⟨rfl, rfl⟩ := same
  subst category
  rfl

/-- An announcement that counts is known afterwards as it was made. -/
theorem announced_spec
    (tidy : subscriber.Tidy allowed)
    (now : Instant)
    {id : ResourceId}
    {announcement : Wire.Announcement}
    {known : Option RemoteEntry}
    (isKnown : subscriber.known? announcement.category id = some known) :
    ∃ entry, (subscriber.announced now id announcement known).entry = some entry ∧
      entry.resource = .ofAnnouncement id announcement ∧
      entry.expiresAt = lapse now announcement ∧
      (subscriber.announced now id announcement known).indexed = some announcement.category := by
  cases known with
  | none => exact ⟨_, rfl, rfl, rfl, rfl⟩
  | some entry =>
      obtain ⟨isId, isCategory⟩ := tidy.named isKnown
      refine ⟨_, rfl, ?_, rfl, tidy.filed isKnown⟩
      cases differs : entry.resource.differsFrom announcement with
      | true => rfl
      | false => exact isId ▸ eq_ofAnnouncement isCategory differs

/-- An announcement of a resource that is known nowhere else counts. -/
theorem heard?_of_own
    (running : subscriber.stopped = false)
    (now : Instant)
    {id : ResourceId}
    {announcement : Wire.Announcement}
    (real : id.isNil = false)
    (own : ∀ {category}, subscriber.index.find? id = some category →
      category = announcement.category)
    {known : Option RemoteEntry}
    (isKnown : subscriber.known? announcement.category id = some known) :
    subscriber.heard? now id announcement =
      some (subscriber.announced now id announcement known) := by
  have notElsewhere : subscriber.knownElsewhere id announcement.category = false := by
    unfold knownElsewhere
    cases indexed : subscriber.index.find? id with
    | none => rfl
    | some category => simp [own indexed]
  simp only [heard?, real, running, notElsewhere, Bool.false_eq_true, or_self, if_false, isKnown,
    Option.map_some]

/--
A revision teaches what is said of its resource, if whatever is known of the
resource afterwards was said and can be looked up.
-/
theorem taught_revise
    (tidy : subscriber.Tidy allowed)
    (now : Instant)
    {id : ResourceId}
    {said : Option Wire.Announcement}
    {revision : Revision}
    (isId : revision.id = id)
    (advanced : Advanced (subscriber.revise revision) subscriber)
    (index : ∀ {category}, (subscriber.revise revision).index.find? id = some category →
      subscriber.index.find? id = some category ∨
        ∃ announcement, said = some announcement ∧ announcement.category = category)
    (learnt : ∀ {category entry},
      (subscriber.revise revision).known? category id = some (some entry) →
        ∃ announcement, said = some announcement ∧ announcement.category = category ∧
          entry.resource = .ofAnnouncement id announcement ∧
          (subscriber.revise revision).index.find? id = some category)
    (known : ∀ {announcement known}, said = some announcement →
      (subscriber.revise revision).known? announcement.category id = some known →
        ∃ entry, known = some entry ∧ entry.expiresAt = lapse now announcement) :
    (subscriber.revise revision).Tidy allowed ∧
      Taught now id said (subscriber.revise revision) subscriber := by
  have others : ∀ {category other}, other ≠ id →
      (subscriber.revise revision).known? category other = subscriber.known? category other :=
    fun different => known?_revise subscriber (isId.trans_ne different.symm) _
  have indexOthers : ∀ {other}, other ≠ id →
      (subscriber.revise revision).index.find? other = subscriber.index.find? other :=
    fun different => index_revise subscriber (isId.trans_ne different.symm)
  refine ⟨tidy.advance advanced ?_ ?_, others, ?_, indexOthers, index, ?_, known⟩
  · intro category other entry isKnown
    by_cases isSame : other = id
    · subst isSame
      obtain ⟨announcement, _, isCategory, isResource, _⟩ := learnt isKnown
      rw [isResource]
      exact ⟨rfl, isCategory⟩
    · rw [others isSame] at isKnown
      exact tidy.named isKnown
  · intro category other entry isKnown
    by_cases isSame : other = id
    · subst isSame
      obtain ⟨_, _, _, _, indexed⟩ := learnt isKnown
      exact indexed
    · rw [others isSame] at isKnown
      rw [indexOthers isSame]
      exact tidy.filed isKnown
  · intro category other watched
    rwa [isSome_known?_revise] at watched
  · intro category entry isKnown
    obtain ⟨announcement, isSaid, _, isResource, _⟩ := learnt isKnown
    exact ⟨announcement, isSaid, isResource⟩

theorem taught_hear
    (tidy : subscriber.Tidy allowed)
    (sound : subscriber.Sound)
    (now : Instant)
    {id : ResourceId}
    {announcement : Wire.Announcement}
    (real : id.isNil = false)
    (own : ∀ {category}, subscriber.index.find? id = some category →
      category = announcement.category) :
    (subscriber.hear now id announcement).Tidy allowed ∧
      Taught now id (some announcement) (subscriber.hear now id announcement) subscriber := by
  rw [hear_eq_revise]
  obtain unwatched | ⟨known, isKnown⟩ :=
    Option.eq_none_or_eq_some (subscriber.known? announcement.category id)
  · have ignored : subscriber.heard? now id announcement = none := by
      rw [heard?, unwatched]
      split <;> rfl
    rw [ignored, Option.map_none, Option.getD_none]
    refine ⟨tidy, fun _ => rfl, fun watched => watched, fun _ => rfl, .inl, ?_, ?_⟩
    · intro category entry known
      rw [own (tidy.filed known), unwatched] at known
      cases known
    · intro said known isSaid isKnown
      cases isSaid
      rw [show subscriber.known? announcement.category id = _ from isKnown] at unwatched
      cases unwatched
  have running := running_of_known sound (by rw [isKnown]; rfl)
  rw [heard?_of_own running now real own isKnown, Option.map_some, Option.getD_some]
  obtain ⟨entry, made, isResource, lasts, isIndexed⟩ := announced_spec tidy now isKnown
  have isId := id_announced subscriber now id announcement known
  have isCategory := category_announced subscriber now id announcement known
  have advanced := subscriber.advanced_announced now isKnown
  generalize subscriber.announced now id announcement known = revision at *
  have self : (subscriber.revise revision).known? announcement.category id =
      some (some entry) := by
    rw [known?_revise_self isCategory isId isKnown, made]
  have indexed : (subscriber.revise revision).index.find? id = some announcement.category := by
    rw [← isIndexed, ← isId]
    exact (Table.find?_assign ..).trans (if_pos rfl)
  refine taught_revise tidy now isId advanced ?_ ?_ ?_
  · intro category isAfter
    rw [indexed] at isAfter
    exact .inr ⟨announcement, rfl, Option.some.inj isAfter⟩
  · intro category other isOther
    by_cases same : announcement.category = category
    · subst same
      rw [self] at isOther
      cases isOther
      exact ⟨announcement, rfl, rfl, isResource, indexed⟩
    · have different : category ≠ revision.category := fun isSame =>
        same (isSame.trans isCategory).symm
      rw [known?_revise_other subscriber different] at isOther
      exact absurd (own (tidy.filed isOther)).symm same
  · intro said later isSaid isLater
    cases isSaid
    rw [self] at isLater
    exact ⟨entry, (Option.some.inj isLater).symm, lasts⟩

theorem taught_forget
    (tidy : subscriber.Tidy allowed)
    (sound : subscriber.Sound)
    (now : Instant)
    (id : ResourceId) :
    (subscriber.forget id).Tidy allowed ∧ Taught now id none (subscriber.forget id) subscriber := by
  have advanced := subscriber.advanced_forget id
  have unchanged : (∀ {category entry}, subscriber.known? category id ≠ some (some entry)) →
      subscriber.Tidy allowed ∧ Taught now id none subscriber subscriber := by
    intro unknown
    refine ⟨tidy, fun _ => rfl, fun watched => watched, fun _ => rfl, .inl, ?_, nofun⟩
    exact fun known => absurd known unknown
  rw [forget_eq_revise] at advanced ⊢
  unfold withdrawn? at advanced ⊢
  split at advanced
  next stopped =>
    rw [if_pos stopped]
    refine unchanged fun known => ?_
    rw [running_of_known sound (by rw [known]; rfl)] at stopped
    cases stopped
  next running =>
    rw [if_neg running]
    obtain absent | ⟨name, indexed⟩ := Option.eq_none_or_eq_some (subscriber.index.find? id)
    · rw [absent]
      refine unchanged fun known => ?_
      rw [tidy.filed known] at absent
      cases absent
    rw [indexed, Option.map_some, Option.map_some, Option.getD_some] at advanced ⊢
    generalize isRevision :
      (Revision.mk id name none none ((subscriber.known? name id).any Option.isSome) none) =
        revision at advanced ⊢
    have isId : revision.id = id := by rw [← isRevision]
    have isCategory : revision.category = name := by rw [← isRevision]
    have forgotten : ∀ {category entry},
        (subscriber.revise revision).known? category id ≠ some (some entry) := by
      intro category entry known
      by_cases same : category = name
      · obtain ⟨before, wasKnown⟩ : ∃ before, subscriber.known? category id = some before := by
          refine Option.isSome_iff_exists.mp ?_
          rw [← isSome_known?_revise subscriber revision, known]
          rfl
        rw [known?_revise_self (isCategory.trans same.symm) isId wasKnown, ← isRevision] at known
        cases known
      · have other : category ≠ revision.category := fun isSame => same (isSame.trans isCategory)
        rw [known?_revise_other subscriber other] at known
        have filed := tidy.filed known
        rw [indexed] at filed
        exact same (Option.some.inj filed).symm
    have struck : (subscriber.revise revision).index.find? id = none := by
      rw [← isRevision]
      exact (Table.find?_assign ..).trans (if_pos rfl)
    refine taught_revise tidy now isId advanced ?_ ?_ nofun
    · intro category isIndexed
      rw [struck] at isIndexed
      cases isIndexed
    · exact fun known => absurd known forgotten

end Learning

end Subscriber

end Discovery
