import Discovery.Proofs.Subscriber.Step

namespace Discovery

/-!
# What a serial number counts

The serial number of a category moves on by one when an operation changes the
content of the category, that is the connection or the attributes that are
known of some resource, and stands still otherwise.  `Subscriber.Counted` says
so of one operation, and every step of a subscriber in order is counted
(`Subscriber.Step.tallied`).  No step advances a serial number by more than one,
whether its category lives on or not (`Subscriber.Step.serial_le`).  What a
subscription signals is taken from the serial number, so neither of them ever
decreases.
-/

/-- What readers see of a resource besides its name. -/
def RemoteResource.shown (resource : RemoteResource) : String × Attributes :=
  (resource.connection, resource.attributes)

/-- An announcement says nothing new if it shows what is known. -/
theorem RemoteResource.differsFrom_eq_false_iff
    {resource : RemoteResource}
    {announcement : Wire.Announcement} :
    resource.differsFrom announcement = false ↔
      resource.shown = (announcement.connection, announcement.attributes) := by
  simp [differsFrom, shown]

namespace Category

/-- What readers see of each resource of a category. -/
def content (category : Category) : Table ResourceId (String × Attributes) :=
  category.resources.map fun _ entry => entry.resource.shown

theorem find?_content
    (category : Category)
    (id : ResourceId) :
    category.content.find? id =
      (category.resources.find? id).map fun entry => entry.resource.shown :=
  Table.find?_map ..

/-- A revision changes the content of a category if it changes what is shown of its resource. -/
theorem content_onCategory_eq_iff
    {revision : Revision}
    {category : Category} :
    (revision.onCategory category).content = category.content ↔
      (revision.entry.map fun entry => entry.resource.shown) =
        (category.resources.find? revision.id).map fun entry => entry.resource.shown := by
  have revised : ∀ id, (revision.onCategory category).content.find? id =
      if id = revision.id then revision.entry.map fun entry => entry.resource.shown
      else category.content.find? id := by
    intro id
    rw [find?_content, find?_content, Revision.onCategory, Table.find?_assign]
    split <;> rfl
  constructor
  · intro same
    have here := revised revision.id
    rw [same, if_pos rfl, find?_content] at here
    exact here.symm
  · intro same
    apply Table.ext_find?
    intro id
    rw [revised]
    split
    next isId => rw [isId, find?_content, same]
    next => rfl

end Category

namespace Subscriber

/-- No two categories live the same life. -/
def Distinct (subscriber : Subscriber) : Prop :=
  ∀ ⦃first second epoch⦄, subscriber.epoch? first = some epoch →
    subscriber.epoch? second = some epoch → first = second

/-- The serial number of a category that lives on tells whether its content has changed. -/
def Counted (after before : Subscriber) : Prop :=
  ∀ ⦃name earlier later⦄, before.categories.find? name = some earlier →
    after.categories.find? name = some later →
      later.epoch = earlier.epoch ∧
        after.serial later.epoch =
          before.serial earlier.epoch + if later.content = earlier.content then 0 else 1

/-- An operation is counted that concerns no other categories than those named. -/
structure CountedIn (names : List String) (after before : Subscriber) : Prop where
  epochs : ∀ name, after.epoch? name = before.epoch? name
  counted : Counted after before
  others : ∀ ⦃name earlier later⦄, name ∉ names → before.categories.find? name = some earlier →
    after.categories.find? name = some later →
      later.content = earlier.content ∧ after.serial later.epoch = before.serial earlier.epoch
  serial : ∀ epoch, before.serial epoch ≤ after.serial epoch
  nextEpoch : after.nextEpoch = before.nextEpoch

section Counting

variable {first second third : Subscriber}

theorem epoch?_of_find?
    {subscriber : Subscriber}
    {name : String}
    {category : Category}
    (found : subscriber.categories.find? name = some category) :
    subscriber.epoch? name = some category.epoch := by
  rw [epoch?, found, Option.map_some]

/-- An operation that leaves the categories alone is counted as nothing. -/
theorem CountedIn.of_same
    (names : List String)
    (categories : second.categories = first.categories)
    (serial : ∀ epoch, second.serial epoch = first.serial epoch)
    (nextEpoch : second.nextEpoch = first.nextEpoch) :
    CountedIn names second first := by
  have same : ∀ {name earlier later}, first.categories.find? name = some earlier →
      second.categories.find? name = some later → later = earlier := by
    intro name earlier later had has
    rw [categories, had] at has
    exact (Option.some.inj has).symm
  refine ⟨fun name => by rw [epoch?, categories, epoch?], fun name earlier later had has => ?_,
    fun name earlier later _ had has => ?_, fun epoch => (serial epoch).ge, nextEpoch⟩
  · rw [same had has, serial, if_pos rfl]
    exact ⟨rfl, rfl⟩
  · rw [same had has, serial]
    exact ⟨rfl, rfl⟩

theorem CountedIn.refl (names : List String) (subscriber : Subscriber) :
    CountedIn names subscriber subscriber :=
  .of_same names rfl (fun _ => rfl) rfl

/-- No operation that is counted brings a category to life. -/
theorem CountedIn.distinct
    {names : List String}
    (counted : CountedIn names second first)
    (distinct : first.Distinct) :
    second.Distinct := by
  intro name other epoch isName isOther
  rw [counted.epochs] at isName isOther
  exact distinct isName isOther

/-- An operation on one category and one on others are counted together. -/
theorem CountedIn.trans
    {name : String}
    {names : List String}
    (later : CountedIn names third second)
    (earlier : CountedIn [name] second first)
    (apart : name ∉ names) :
    CountedIn (name :: names) third first := by
  have between : ∀ {sought category}, first.categories.find? sought = some category →
      ∃ next, second.categories.find? sought = some next := by
    intro sought category found
    have lives := earlier.epochs sought
    rw [epoch?_of_find? found] at lives
    obtain ⟨next, isNext, _⟩ := Option.map_eq_some_iff.mp lives
    exact ⟨next, isNext⟩
  refine ⟨fun sought => (later.epochs sought).trans (earlier.epochs sought), ?_, ?_,
    fun epoch => Nat.le_trans (earlier.serial epoch) (later.serial epoch),
    later.nextEpoch.trans earlier.nextEpoch⟩
  · intro sought before after had has
    obtain ⟨next, isNext⟩ := between had
    obtain ⟨lateEpoch, late⟩ := later.counted isNext has
    obtain ⟨earlyEpoch, early⟩ := earlier.counted had isNext
    refine ⟨lateEpoch.trans earlyEpoch, ?_⟩
    by_cases isName : sought = name
    · obtain ⟨content, serial⟩ := later.others (isName ▸ apart) isNext has
      rw [serial, early, content]
    · obtain ⟨content, serial⟩ := earlier.others (mt List.mem_singleton.mp isName) had isNext
      rw [late, serial, content]
  · intro sought before after notNamed had has
    obtain ⟨next, isNext⟩ := between had
    rw [List.mem_cons, not_or] at notNamed
    obtain ⟨lateContent, lateSerial⟩ := later.others notNamed.2 isNext has
    obtain ⟨earlyContent, earlySerial⟩ :=
      earlier.others (mt List.mem_singleton.mp notNamed.1) had isNext
    exact ⟨lateContent.trans earlyContent, lateSerial.trans earlySerial⟩

/-- One category is changed, and its serial number advanced if its content is. -/
theorem CountedIn.of_change
    (distinct : first.Distinct)
    {name : String}
    {before : Category}
    (found : first.categories.find? name = some before)
    {after : Category}
    (epoch : after.epoch = before.epoch)
    (categories : ∀ sought, second.categories.find? sought =
      if sought = name then some after else first.categories.find? sought)
    (serial : ∀ sought, second.serial sought =
      if sought = before.epoch ∧ after.content ≠ before.content then first.serial sought + 1
      else first.serial sought)
    (nextEpoch : second.nextEpoch = first.nextEpoch) :
    CountedIn [name] second first := by
  refine ⟨fun sought => ?_, fun sought earlier later had has => ?_,
    fun sought earlier later notName had has => ?_, fun sought => ?_, nextEpoch⟩
  · rw [epoch?, categories, epoch?]
    split
    next isName => rw [isName, found, Option.map_some, Option.map_some, epoch]
    next => rfl
  · rw [categories] at has
    split at has
    next isName =>
      rw [isName, found] at had
      cases had
      cases has
      refine ⟨epoch, ?_⟩
      rw [serial, epoch]
      by_cases same : after.content = before.content
      · rw [if_neg fun moved => moved.2 same, if_pos same, Nat.add_zero]
      · rw [if_pos ⟨rfl, same⟩, if_neg same]
    next isOther =>
      rw [had] at has
      cases has
      have notMoved : ¬ (earlier.epoch = before.epoch ∧ after.content ≠ before.content) :=
        fun moved => isOther (distinct (epoch?_of_find? had) (moved.1 ▸ epoch?_of_find? found))
      exact ⟨rfl, by rw [serial, if_neg notMoved, if_pos rfl, Nat.add_zero]⟩
  · have isOther := mt List.mem_singleton.mpr notName
    rw [categories, if_neg isOther, had] at has
    cases has
    have notMoved : ¬ (earlier.epoch = before.epoch ∧ after.content ≠ before.content) :=
      fun moved => isOther (distinct (epoch?_of_find? had) (moved.1 ▸ epoch?_of_find? found))
    exact ⟨rfl, by rw [serial, if_neg notMoved]⟩
  · rw [serial]
    split
    next => exact Nat.le_succ _
    next => exact Nat.le_refl _

end Counting

section Operations

variable {subscriber : Subscriber}

/-- A revision is counted if it is called visible just when it changes what is shown. -/
theorem countedIn_revise
    (distinct : subscriber.Distinct)
    (revision : Revision)
    (visible : ∀ {category}, subscriber.categories.find? revision.category = some category →
      (revision.visible = false ↔
        (revision.entry.map fun entry => entry.resource.shown) =
          (category.resources.find? revision.id).map fun entry => entry.resource.shown)) :
    CountedIn [revision.category] (subscriber.revise revision) subscriber := by
  obtain absent | ⟨category, found⟩ :=
    Option.eq_none_or_eq_some (subscriber.categories.find? revision.category)
  · have same : (subscriber.revise revision).categories = subscriber.categories :=
      Table.modify_of_find?_eq_none absent _
    have serial : ∀ epoch,
        (subscriber.revise revision).serial epoch = subscriber.serial epoch := by
      intro epoch
      have nothing : subscriber.advances? revision = none := by
        rw [advances?, epoch?, absent]
        split <;> rfl
      rw [serial_revise, nothing, if_neg (Option.some_ne_none epoch).symm]
    exact .of_same _ same serial rfl
  · refine .of_change distinct found (show (revision.onCategory category).epoch = _ from rfl)
      (fun sought => ?_) (fun sought => ?_) rfl
    · refine (Table.find?_modify ..).trans ?_
      split
      next isCategory => rw [isCategory, found, Option.map_some]
      next => rfl
    · have changes : revision.visible = true ↔
          (revision.onCategory category).content ≠ category.content := by
        rw [Ne, Category.content_onCategory_eq_iff, ← visible found, Bool.not_eq_false]
      rw [serial_revise, advances?, epoch?_of_find? found]
      by_cases isVisible : revision.visible = true
      · simp only [if_pos isVisible, Option.some.injEq, changes.mp isVisible, ne_eq,
          not_false_eq_true, and_true, @eq_comm _ sought]
      · rw [if_neg isVisible, if_neg (Option.some_ne_none sought).symm,
          if_neg fun moved : sought = category.epoch ∧ _ => isVisible (changes.mpr moved.2)]

theorem countedIn_hear
    (distinct : subscriber.Distinct)
    (now : Instant)
    (id : StreamId)
    (announcement : Wire.Announcement) :
    CountedIn [announcement.category] (subscriber.hear now id announcement) subscriber := by
  rw [hear_eq_revise]
  unfold heard?
  split
  next => exact .refl _ subscriber
  next =>
    cases isKnown : subscriber.known? announcement.category id with
    | none => exact .refl _ subscriber
    | some known =>
        have isCategory := category_announced subscriber now id announcement known
        have counted : CountedIn [(subscriber.announced now id announcement known).category]
            (subscriber.revise (subscriber.announced now id announcement known)) subscriber := by
          refine countedIn_revise distinct _ fun {category} found => ?_
          rw [isCategory] at found
          rw [known?, found, Option.map_some, Option.some.injEq] at isKnown
          rw [id_announced, isKnown]
          cases known with
          | none => simp [announced]
          | some entry =>
              cases differs : entry.resource.differsFrom announcement with
              | false => simp [announced, differs]
              | true =>
                  have changes : (announcement.connection, announcement.attributes) ≠
                      entry.resource.shown := by
                    intro same
                    rw [RemoteResource.differsFrom_eq_false_iff.mpr same.symm] at differs
                    cases differs
                  simpa [announced, differs, RemoteResource.ofAnnouncement,
                    RemoteResource.shown] using changes
        rwa [isCategory] at counted

theorem countedIn_forget
    (distinct : subscriber.Distinct)
    (id : StreamId) :
    ∃ names, CountedIn names (subscriber.forget id) subscriber := by
  rw [forget_eq_revise]
  unfold withdrawn?
  split
  next => exact ⟨[], .refl [] subscriber⟩
  next =>
    cases subscriber.index.find? id with
    | none => exact ⟨[], .refl [] subscriber⟩
    | some name =>
        refine ⟨[name], countedIn_revise distinct ⟨id, name, none, none,
          (subscriber.known? name id).any Option.isSome, none⟩ fun {category} found => ?_⟩
        rw [known?, found, Option.map_some]
        cases category.resources.find? id <;> simp

/-- What lapses in one category is counted as one change. -/
theorem countedIn_expireCategory
    (distinct : subscriber.Distinct)
    (now : Instant)
    (name : String) :
    CountedIn [name] (expireCategory now subscriber name) subscriber := by
  have ends := subscriber.expires_expireCategory now name
  generalize expireCategory now subscriber name = next at ends ⊢
  cases ends with
  | kept => exact .refl _ subscriber
  | @lapsed category _ found isLapsed some =>
      let left : Category := { category with
        resources := category.resources.filter fun _ entry => decide (now < entry.expiresAt)
        dirty := true }
      have changes : left.content ≠ category.content := by
        intro same
        refine Bool.eq_false_iff.mp some
          (List.isEmpty_iff.mpr (List.eq_nil_iff_forall_not_mem.mpr ?_))
        rintro ⟨id, entry⟩ gone
        have past := Table.find?_eq_some_iff.mpr gone
        rw [isLapsed, Table.find?_filter, Option.filter_eq_some_iff] at past
        have shown := congrArg (fun content => content.find? id) same
        have expired : entry.expiresAt ≤ now := by simpa using past.2
        simp [left, Category.find?_content, Table.find?_filter, past.1] at shown
        exact absurd expired (not_le_of_gt shown)
      refine .of_change distinct found (show left.epoch = _ from rfl)
        (fun sought => ?_) (fun sought => ?_) rfl
      · exact Table.find?_insert ..
      · refine (serial_advance subscriber category.epoch sought).trans ?_
        by_cases isLife : sought = category.epoch
        · rw [if_pos isLife, if_pos ⟨isLife, changes⟩, isLife]
        · rw [if_neg isLife, if_neg fun moved => isLife moved.1]

/-- Entries that lapse in several categories are counted once in each. -/
theorem countedIn_foldl_expireCategory
    (now : Instant)
    {names : List String}
    (nodup : names.Nodup)
    (subscriber : Subscriber)
    (distinct : subscriber.Distinct) :
    CountedIn names (names.foldl (expireCategory now) subscriber) subscriber := by
  induction names generalizing subscriber with
  | nil => exact .refl [] subscriber
  | cons name rest inductionHypothesis =>
      obtain ⟨apart, restNodup⟩ := List.nodup_cons.mp nodup
      have here := countedIn_expireCategory distinct now name
      exact (inductionHypothesis restNodup _ (here.distinct distinct)).trans here apart

theorem countedIn_turn
    (distinct : subscriber.Distinct)
    (now : Instant) :
    ∃ names, CountedIn names (subscriber.turn now) subscriber := by
  have timed : ∀ {names : List String} {next : Subscriber} (timer : Timer),
      CountedIn names next subscriber →
        CountedIn names { next with timer := timer } subscriber := fun _ counted =>
    ⟨counted.epochs, counted.counted, counted.others, counted.serial, counted.nextEpoch⟩
  have waiting := timed (subscriber.timer.turn now).2 (.refl [] subscriber)
  have ends := subscriber.turns_turn now
  generalize subscriber.turn now = next at ends ⊢
  cases ends with
  | silent | stopped => exact ⟨[], waiting⟩
  | swept _ isFired isSwept =>
      subst isSwept isFired
      have swept := countedIn_foldl_expireCategory now (Table.nodup_keys subscriber.categories)
        { subscriber with timer := (subscriber.timer.turn now).2 } distinct
      exact ⟨_, timed _ ⟨swept.epochs, swept.counted, swept.others, swept.serial,
        swept.nextEpoch⟩⟩

end Operations

/-- What a step does to the lives of the categories and to their serial numbers. -/
structure Tallied (after before : Subscriber) : Prop where
  counted : Counted after before
  serial : ∀ ⦃epoch⦄, epoch < before.nextEpoch → before.serial epoch ≤ after.serial epoch
  nextEpoch : before.nextEpoch ≤ after.nextEpoch
  /-- At most one category comes to life, and no category has lived that life before. -/
  lives : ∃ born, ∀ ⦃name epoch⦄, after.epoch? name = some epoch →
    before.epoch? name = some epoch ∨ name = born ∧ epoch = before.nextEpoch

/-- Every life of a category has begun. -/
def Begun (subscriber : Subscriber) : Prop :=
  ∀ ⦃name epoch⦄, subscriber.epoch? name = some epoch → epoch < subscriber.nextEpoch

theorem Readable.begun
    {subscriber : Subscriber}
    (readable : subscriber.Readable) :
    subscriber.Begun := by
  intro name epoch isLife
  obtain ⟨category, found, rfl⟩ := Option.map_eq_some_iff.mp isLife
  exact readable.tidy.living (by rw [seen?, found, Option.map_some])

section Tallies

variable {occasion : Occasion} {before after : Subscriber}

theorem CountedIn.tallied
    {names : List String}
    (counted : CountedIn names after before) :
    Tallied after before :=
  ⟨counted.counted, fun _ _ => counted.serial _, counted.nextEpoch.ge, "", fun name _ isLife =>
    .inl (counted.epochs name ▸ isLife)⟩

/-- What shows each reader the same as before, or nothing any more, changes no serial number. -/
theorem Tallied.of_less
    (less : ∀ {name later}, after.categories.find? name = some later →
      ∃ earlier, before.categories.find? name = some earlier ∧ later.epoch = earlier.epoch ∧
        later.content = earlier.content)
    (serials : after.serials = before.serials)
    (nextEpoch : after.nextEpoch = before.nextEpoch) :
    Tallied after before := by
  have serial : ∀ epoch, after.serial epoch = before.serial epoch := fun epoch => by
    rw [Subscriber.serial, serials, Subscriber.serial]
  refine ⟨fun name earlier later had has => ?_, fun epoch _ => (serial epoch).ge, nextEpoch.ge,
    "", fun name epoch isLife => .inl ?_⟩
  · obtain ⟨known, isKnown, epoch, content⟩ := less has
    rw [had] at isKnown
    cases isKnown
    exact ⟨epoch, by rw [serial, epoch, if_pos content, Nat.add_zero]⟩
  · obtain ⟨later, has, rfl⟩ := Option.map_eq_some_iff.mp isLife
    obtain ⟨earlier, had, epoch, _⟩ := less has
    rw [epoch?_of_find? had, epoch]

theorem Tallied.of_same
    (categories : after.categories = before.categories)
    (serials : after.serials = before.serials)
    (nextEpoch : after.nextEpoch = before.nextEpoch) :
    Tallied after before :=
  .of_less (fun {_ later} has => ⟨later, categories ▸ has, rfl, rfl⟩) serials nextEpoch

theorem Tallied.refl (subscriber : Subscriber) : Tallied subscriber subscriber :=
  .of_same rfl rfl rfl

/-- What was done before matters only for the categories and their serial numbers. -/
theorem Tallied.since
    {between : Subscriber}
    (tallied : Tallied after between)
    (categories : between.categories = before.categories)
    (serials : between.serials = before.serials)
    (nextEpoch : between.nextEpoch = before.nextEpoch) :
    Tallied after before := by
  have lives : between.epoch? = before.epoch? := by
    funext name
    rw [epoch?, categories, epoch?]
  have serial : between.serial = before.serial := by
    funext epoch
    rw [Subscriber.serial, serials, Subscriber.serial]
  refine ⟨?_, ?_, ?_, ?_⟩
  · have counted := tallied.counted
    unfold Counted at counted ⊢
    rwa [categories, serial] at counted
  · rw [← nextEpoch, ← serial]
    exact tallied.serial
  · rw [← nextEpoch]
    exact tallied.nextEpoch
  · rw [← lives, ← nextEpoch]
    exact tallied.lives

/-- A category that has other members shows the same as before, in the same life. -/
theorem exists_of_members
    {name : String}
    {category : Category}
    {members : List Nat}
    (found : before.categories.find? name = some category)
    {sought : String}
    {later : Category}
    (has : (before.categories.insert name { category with members := members }).find? sought =
      some later) :
    ∃ earlier, before.categories.find? sought = some earlier ∧ later.epoch = earlier.epoch ∧
      later.content = earlier.content ∧ later.dirty = earlier.dirty := by
  rw [Table.find?_insert] at has
  split at has
  next isName =>
    cases has
    exact ⟨category, isName ▸ found, rfl, rfl, rfl⟩
  next => exact ⟨later, has, rfl, rfl, rfl⟩

/-- Whoever leaves a category changes it for nobody else. -/
theorem tallied_leave
    (before : Subscriber)
    (subscription : Subscription) :
    Tallied (before.leave subscription) before := by
  have ends := before.leaves_leave subscription
  generalize before.leave subscription = next at ends ⊢
  cases ends with
  | unwatched => exact .refl before
  | ended => exact .of_less (fun has => ⟨_, Table.find?_of_find?_erase has, rfl, rfl⟩) rfl rfl
  | left found =>
      refine .of_less (fun has => ?_) rfl rfl
      obtain ⟨earlier, had, epoch, content, _⟩ := exists_of_members found has
      exact ⟨earlier, had, epoch, content⟩

/-- To mark a subscription concerns no category. -/
theorem categories_markDisposed (subscriber : Subscriber) (id : Nat) :
    (subscriber.markDisposed id).2.categories = subscriber.categories ∧
      (subscriber.markDisposed id).2.serials = subscriber.serials ∧
      (subscriber.markDisposed id).2.nextEpoch = subscriber.nextEpoch := by
  have ends := subscriber.marks_markDisposed id
  generalize subscriber.markDisposed id = result at ends ⊢
  cases ends <;> exact ⟨rfl, rfl, rfl⟩

theorem tallied_dispose (id : Nat) : Tallied (before.dispose id).2 before := by
  have ends := before.disposes_dispose id
  generalize before.dispose id = result at ends ⊢
  cases ends with
  | closed => exact .refl before
  | @disposed subscription =>
      obtain ⟨categories, serials, nextEpoch⟩ := before.categories_markDisposed id
      have left := tallied_leave (before.markDisposed id).2 subscription
      exact left.since categories serials nextEpoch

/-- A list that is made anew is entered with the subscription only. -/
theorem tallied_read (id : Nat) : Tallied (before.read id).2 before := by
  rcases before.read_cases id with same | ⟨_, _, same⟩ <;> rw [same]
  · exact .refl before
  · exact .of_same rfl rfl rfl

theorem tallied_collect : Tallied before.collect.2 before := by
  unfold collect
  dsimp only
  split
  next => exact .of_same rfl rfl rfl
  next =>
    refine .of_less (fun {name later} has => ?_) rfl rfl
    rw [Table.find?_map] at has
    obtain ⟨earlier, had, rfl⟩ := Option.map_eq_some_iff.mp has
    exact ⟨earlier, had, rfl, rfl⟩

/-- The serial number of a category that comes to life is kept apart from all others. -/
theorem tallied_subscribe
    (begun : before.Begun)
    (name : String) :
    Tallied (before.subscribe name).2 before := by
  have ends := before.subscribes_subscribe name
  generalize before.subscribe name = result at ends ⊢
  cases ends with
  | unencodable | disposed => exact .refl before
  | further _ _ found =>
      refine .of_less (fun has => ?_) rfl rfl
      obtain ⟨earlier, had, epoch, content, _⟩ := exists_of_members found has
      exact ⟨earlier, had, epoch, content⟩
  | first _ _ absent =>
      have kept : ∀ {epoch}, epoch < before.nextEpoch →
          ((before.serials.insert before.nextEpoch 0).find? epoch).getD 0 =
            before.serial epoch := by
        intro epoch isOld
        rw [Table.find?_insert, if_neg (Nat.ne_of_lt isOld), serial]
      refine ⟨fun sought earlier later had has => ?_, fun epoch isOld => (kept isOld).ge,
        Nat.le_succ _, name, fun sought epoch isLife => ?_⟩
      · rw [Table.find?_insert] at has
        split at has
        next isName =>
          rw [isName, absent] at had
          cases had
        next =>
          rw [had] at has
          cases has
          rw [if_pos rfl]
          exact ⟨rfl, kept (begun (epoch?_of_find? had))⟩
      · rw [epoch?, Table.find?_insert] at isLife
        split at isLife
        next isName => exact .inr ⟨isName, (Option.some.inj isLife).symm⟩
        next => exact .inl isLife

/-- A subscriber that is shut has no categories whose content could be compared. -/
theorem tallied_shut : Tallied before.shut.2 before := by
  unfold shut
  split
  next => exact .refl before
  next =>
    have advanced := advanced_foldl_advance before.lives before
    exact ⟨nofun, fun epoch _ => advanced.serial epoch, advanced.nextEpoch.ge, "", nofun⟩

/-- Every step of a subscriber is counted. -/
theorem Step.tallied
    (step : Step occasion before after)
    (begun : before.Begun)
    (distinct : before.Distinct) :
    Tallied after before := by
  cases step with
  | rest => exact .refl before
  | @subscribe name _ => exact tallied_subscribe begun name
  | dispose id => exact tallied_dispose id
  | conclude id =>
      obtain ⟨categories, serials, nextEpoch⟩ := before.categories_markDisposed id
      exact .of_same categories serials nextEpoch
  | @hear now _ id _ announcement => exact (countedIn_hear distinct now id announcement).tallied
  | @forget id _ =>
      obtain ⟨_, counted⟩ := countedIn_forget distinct id
      exact counted.tallied
  | @turn now _ =>
      obtain ⟨_, counted⟩ := countedIn_turn distinct now
      exact counted.tallied
  | collect => exact tallied_collect
  | read id => exact tallied_read id
  | notice | register | shuffle => exact .of_same rfl rfl rfl
  | shut => exact tallied_shut

/-- No life of a category is lived again under another name. -/
theorem Tallied.distinct
    (tallied : Tallied after before)
    (begun : before.Begun)
    (distinct : before.Distinct) :
    after.Distinct := by
  obtain ⟨born, lives⟩ := tallied.lives
  intro first second epoch isFirst isSecond
  rcases lives isFirst with wasFirst | ⟨firstBorn, isNew⟩
  · rcases lives isSecond with wasSecond | ⟨_, isNew⟩
    · exact distinct wasFirst wasSecond
    · exact absurd (begun wasFirst) (isNew ▸ Nat.lt_irrefl _)
  · rcases lives isSecond with wasSecond | ⟨secondBorn, _⟩
    · exact absurd (begun wasSecond) (isNew ▸ Nat.lt_irrefl _)
    · exact firstBorn.trans secondBorn.symm

end Tallies

section Bounds

variable {occasion : Occasion} {subscriber before after : Subscriber}

theorem serial_advance_some
    (subscriber : Subscriber)
    (epoch sought : Nat) :
    (subscriber.advance epoch).serial sought =
      subscriber.serial sought + if some epoch = some sought then 1 else 0 := by
  rw [serial_advance]
  by_cases isLife : sought = epoch
  · simp [isLife]
  · simp [isLife, Ne.symm isLife]

/-- Whoever advances lives one after another advances each as often as it is among them. -/
theorem serial_foldl_le
    {Item : Type}
    {advances : Subscriber → Item → Subscriber}
    (life : Item → Option Nat)
    (kept : Subscriber → Prop)
    (keeps : ∀ {subscriber} item, kept subscriber → kept (advances subscriber item))
    (once : ∀ {subscriber} item epoch, kept subscriber →
      (advances subscriber item).serial epoch ≤
        subscriber.serial epoch + if life item = some epoch then 1 else 0)
    (items : List Item)
    (start : kept subscriber)
    (epoch : Nat) :
    (items.foldl advances subscriber).serial epoch ≤
      subscriber.serial epoch + (items.filterMap life).count epoch := by
  induction items generalizing subscriber with
  | nil => exact Nat.le_refl _
  | cons item rest inductionHypothesis =>
      have first := once item epoch start
      have later := inductionHypothesis (keeps item start)
      have counts : ((item :: rest).filterMap life).count epoch =
          (rest.filterMap life).count epoch + if life item = some epoch then 1 else 0 := by
        rw [List.filterMap_cons]
        cases life item with
        | none => rfl
        | some advanced => simp [List.count_cons]
      rw [List.foldl_cons, counts]
      omega

/-- Different categories live different lives. -/
theorem Distinct.nodup_lives
    (distinct : subscriber.Distinct)
    {names : List String}
    (nodup : names.Nodup) :
    (names.filterMap subscriber.epoch?).Nodup :=
  nodup.filterMap fun _ _ _ isFirst isSecond => distinct isFirst isSecond

/-- What lapses in a category advances its life, and no other one. -/
theorem serial_expireCategory_le
    (now : Instant)
    (name : String)
    (epoch : Nat) :
    (expireCategory now subscriber name).serial epoch ≤
      subscriber.serial epoch + if subscriber.epoch? name = some epoch then 1 else 0 := by
  have ends := subscriber.expires_expireCategory now name
  generalize expireCategory now subscriber name = next at ends ⊢
  cases ends with
  | kept => exact Nat.le_add_right ..
  | @lapsed category _ found =>
      rw [epoch?_of_find? found]
      exact Nat.le_of_eq (subscriber.serial_advance_some category.epoch epoch)

theorem serial_foldl_expireCategory_le
    (distinct : subscriber.Distinct)
    (now : Instant)
    {names : List String}
    (nodup : names.Nodup)
    (epoch : Nat) :
    (names.foldl (expireCategory now) subscriber).serial epoch ≤ subscriber.serial epoch + 1 := by
  refine Nat.le_trans (serial_foldl_le subscriber.epoch?
    (fun next => next.Distinct ∧ next.epoch? = subscriber.epoch?)
    (fun name kept => ?_) (fun name epoch kept => ?_) names ⟨distinct, rfl⟩ epoch) ?_
  · have counted := countedIn_expireCategory kept.1 now name
    exact ⟨counted.distinct kept.1, (funext counted.epochs).trans kept.2⟩
  · rw [← kept.2]
    exact serial_expireCategory_le now name epoch
  · exact Nat.add_le_add_left (List.nodup_iff_count_le_one.mp (distinct.nodup_lives nodup) epoch) _

theorem serial_turn_le
    (distinct : subscriber.Distinct)
    (now : Instant)
    (epoch : Nat) :
    (subscriber.turn now).serial epoch ≤ subscriber.serial epoch + 1 := by
  have ends := subscriber.turns_turn now
  generalize subscriber.turn now = next at ends ⊢
  cases ends with
  | silent | stopped => exact Nat.le_succ _
  | swept _ isFired isSwept =>
      subst isSwept isFired
      have distinctFired : { subscriber with
          timer := (subscriber.timer.turn now).2 }.Distinct := distinct
      exact serial_foldl_expireCategory_le distinctFired now
        (Table.nodup_keys subscriber.categories) epoch

/-- The lives of the categories, in whatever order they are gone through, are different ones. -/
theorem nodup_epoch_lives (distinct : subscriber.Distinct) :
    (subscriber.lives.map Category.epoch).Nodup := by
  have named : subscriber.lives.map Category.epoch =
      (subscriber.categories.shuffledKeys subscriber.front).filterMap subscriber.epoch? := by
    rw [lives, Table.shuffledValues, Table.shuffledKeys, List.map_map, List.filterMap_map,
      ← List.filterMap_eq_map]
    refine List.filterMap_congr fun entry listed => ?_
    exact (epoch?_of_find? (Table.find?_eq_some_iff.mpr (Table.mem_shuffled.mp listed))).symm
  rw [named]
  exact distinct.nodup_lives (Table.nodup_shuffledKeys _ _)

theorem serial_shut_le
    (distinct : subscriber.Distinct)
    (epoch : Nat) :
    subscriber.shut.2.serial epoch ≤ subscriber.serial epoch + 1 := by
  unfold shut
  split
  next => exact Nat.le_succ _
  next =>
    refine Nat.le_trans (serial_foldl_le (fun category : Category => some category.epoch)
      (fun _ => True) (fun _ kept => kept)
      (fun category epoch _ => Nat.le_of_eq (serial_advance_some _ category.epoch epoch))
      subscriber.lives trivial epoch) ?_
    · rw [List.filterMap_eq_map']
      exact Nat.add_le_add_left
        (List.nodup_iff_count_le_one.mp (nodup_epoch_lives distinct) epoch) _

/-- Every step advances a serial number by one at most. -/
theorem Step.serial_le
    (step : Step occasion before after)
    (distinct : before.Distinct)
    (epoch : Nat) :
    after.serial epoch ≤ before.serial epoch + 1 := by
  have still : ∀ {next : Subscriber}, next.serials = before.serials →
      next.serial epoch ≤ before.serial epoch + 1 := by
    intro next same
    rw [Subscriber.serial, same]
    exact Nat.le_succ _
  have revised : ∀ revision? : Option Revision,
      ((revision?.map before.revise).getD before).serial epoch ≤ before.serial epoch + 1 := by
    intro revision?
    cases revision? with
    | none => exact still rfl
    | some revision =>
        refine Nat.le_trans (Nat.le_of_eq (serial_revise before revision epoch)) ?_
        split
        next => exact Nat.le_refl _
        next => exact Nat.le_succ _
  cases step with
  | rest | notice | register | shuffle => exact still rfl
  | @subscribe name _ =>
      have ends := before.subscribes_subscribe name
      generalize before.subscribe name = result at ends ⊢
      cases ends with
      | unencodable | disposed | further => exact still rfl
      | first =>
          rw [Subscriber.serial, Table.find?_insert]
          split
          next => exact Nat.zero_le _
          next => exact still rfl
  | dispose id =>
      have ends := before.disposes_dispose id
      generalize before.dispose id = result at ends ⊢
      cases ends with
      | closed => exact still rfl
      | @disposed subscription =>
          exact still (((before.markDisposed id).2.serials_leave subscription).trans
            (before.categories_markDisposed id).2.1)
  | conclude id => exact still (before.categories_markDisposed id).2.1
  | hear =>
      rw [hear_eq_revise]
      exact revised _
  | forget =>
      rw [forget_eq_revise]
      exact revised _
  | turn => exact serial_turn_le distinct _ epoch
  | collect =>
      unfold Subscriber.collect
      dsimp only
      split
      next => exact still rfl
      next => exact still rfl
  | read id =>
      rcases before.read_cases id with same | ⟨_, _, same⟩ <;> rw [same]
      · exact still rfl
      · exact still rfl
  | shut => exact serial_shut_le distinct epoch

end Bounds

/-- A subscription signals what it did before, or the serial number of its category. -/
def Signalled (after before : Subscriber) : Prop :=
  ∀ ⦃id later⦄, after.subscriptions.find? id = some later →
    (∃ known, before.subscriptions.find? id = some known ∧ later.epoch = known.epoch ∧
      (later.signal = known.signal ∨ later.signal = before.serial known.epoch)) ∨
      before.subscriptions.find? id = none ∧ later.signal = 0

section Signals

variable {occasion : Occasion} {before after : Subscriber}

theorem Signalled.of_same
    (subscriptions : after.subscriptions = before.subscriptions) :
    Signalled after before :=
  fun _ later found => .inl ⟨later, subscriptions ▸ found, rfl, .inl rfl⟩

/-- A new subscription has signalled nothing. -/
theorem signalled_subscribe
    (sound : before.Sound)
    (name : String) :
    Signalled (before.subscribe name).2 before := by
  have added : ∀ {epoch sought later},
      (before.subscriptions.insert before.nextSubscription
        (.new before.nextSubscription name epoch)).find? sought = some later →
      (∃ known, before.subscriptions.find? sought = some known ∧ later.epoch = known.epoch ∧
        (later.signal = known.signal ∨ later.signal = before.serial known.epoch)) ∨
        before.subscriptions.find? sought = none ∧ later.signal = 0 := by
    intro epoch sought later found
    rw [Table.find?_insert] at found
    split at found
    next isNew =>
      cases found
      refine .inr ⟨Option.eq_none_iff_forall_ne_some.mpr fun known had => ?_, rfl⟩
      have rolled : before.roll.find? sought = some known.standing := by
        rw [find?_roll, had, Option.map_some]
      exact absurd (sound.numbered rolled).2 (isNew ▸ Nat.lt_irrefl _)
    next => exact .inl ⟨later, found, rfl, .inl rfl⟩
  have ends := before.subscribes_subscribe name
  generalize before.subscribe name = result at ends ⊢
  cases ends with
  | unencodable | disposed => exact .of_same rfl
  | further | first => exact fun _ _ found => added found

/-- Every step signals nothing but the serial number. -/
theorem Step.signalled
    (step : Step occasion before after)
    (sound : before.Sound) :
    Signalled after before := by
  rcases step.amends with same | ⟨sought, change, amends, modified⟩ | ⟨name, _, rfl⟩
  · exact .of_same same
  · intro id later isLater
    rw [modified, Table.find?_modify] at isLater
    split at isLater
    next isSought =>
      subst isSought
      obtain ⟨known, found, rfl⟩ := Option.map_eq_some_iff.mp isLater
      exact .inl ⟨known, found, (amends.remains found).epoch, amends.signal found⟩
    next => exact .inl ⟨later, isLater, rfl, .inl rfl⟩
  · exact signalled_subscribe sound name

end Signals

/-- A subscriber whose serial numbers are in order. -/
structure Orderly (subscriber : Subscriber) : Prop where
  readable : subscriber.Readable
  distinct : subscriber.Distinct
  /-- No subscription has signalled a serial number that is still to come. -/
  reached : ∀ ⦃id known⦄, subscriber.subscriptions.find? id = some known →
    known.signal ≤ subscriber.serial known.epoch

namespace Orderly

variable {occasion : Occasion} {before after : Subscriber}

theorem new : Orderly Subscriber.new :=
  ⟨.new, nofun, nofun⟩

/-- What a subscription shows and what it signals never decreases. -/
theorem ahead
    (orderly : before.Orderly)
    (step : before.Step occasion after)
    {id : Nat}
    {known : Subscription}
    (found : before.subscriptions.find? id = some known) :
    ∃ later, after.subscriptions.find? id = some later ∧ later.epoch = known.epoch ∧
      before.serial known.epoch ≤ after.serial later.epoch ∧ known.signal ≤ later.signal := by
  obtain ⟨later, isLater, remains⟩ := step.remains orderly.readable.sound found
  have tallied := step.tallied orderly.readable.begun orderly.distinct
  have begun := orderly.readable.tidy.begun found
  refine ⟨later, isLater, remains.epoch, by rw [remains.epoch]; exact tallied.serial begun, ?_⟩
  rcases step.signalled orderly.readable.sound isLater with
    ⟨earlier, had, _, same | current⟩ | ⟨absent, _⟩
  · rw [found] at had
    cases had
    exact same.ge
  · rw [found] at had
    cases had
    exact current ▸ orderly.reached found
  · rw [found] at absent
    cases absent

/-- Every step keeps the serial numbers in order. -/
theorem step
    (orderly : before.Orderly)
    (step : before.Step occasion after)
    (ended : occasion.concluding → before.stopped = true) :
    after.Orderly := by
  have tallied := step.tallied orderly.readable.begun orderly.distinct
  refine ⟨orderly.readable.step step ended, tallied.distinct orderly.readable.begun
    orderly.distinct, fun id later isLater => ?_⟩
  rcases step.signalled orderly.readable.sound isLater with
    ⟨known, found, epoch, same | current⟩ | ⟨_, nothing⟩
  · have moved := tallied.serial (orderly.readable.tidy.begun found)
    rw [same, epoch]
    exact Nat.le_trans (orderly.reached found) moved
  · rw [current, epoch]
    exact tallied.serial (orderly.readable.tidy.begun found)
  · exact nothing ▸ Nat.zero_le _

end Orderly

end Subscriber

end Discovery
