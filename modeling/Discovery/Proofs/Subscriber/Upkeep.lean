import Discovery.Proofs.Subscriber.Knowledge

namespace Discovery.Subscriber

/-!
# Lapsing, leaving and reading

What a subscriber does on its own account: entries lapse, categories end with
their last subscription, and lists are made for readers.  Nothing new becomes
known in any of this, and the knowledge stays tidy.
-/

section Fading

variable {allowed : List Callback → Prop} {subscriber : Subscriber} {now : Instant}

theorem serial_advance
    (subscriber : Subscriber)
    (epoch sought : Nat) :
    (subscriber.advance epoch).serial sought =
      if sought = epoch then subscriber.serial epoch + 1 else subscriber.serial sought := by
  simp only [serial, advance, Table.find?_insert]
  split <;> rfl

theorem serial_le_advance
    (subscriber : Subscriber)
    (epoch sought : Nat) :
    subscriber.serial sought ≤ (subscriber.advance epoch).serial sought := by
  rw [serial_advance]
  split
  next same => rw [same]; exact Nat.le_succ _
  next => exact Nat.le_refl _

theorem advanced_change
    {name : String}
    {before after : Category}
    (found : subscriber.categories.find? name = some before)
    (epoch : after.epoch = before.epoch) :
    Advanced (subscriber.change name after) subscriber := by
  have moved : ∀ sought, (subscriber.change name after).serial sought =
      (subscriber.advance after.epoch).serial sought := fun _ => rfl
  refine ⟨rfl, rfl, fun sought => ?_, fun {sought life listing} seen => ?_⟩
  · rw [moved]
    exact serial_le_advance subscriber after.epoch sought
  · have isSeen : ((subscriber.categories.insert name { after with dirty := true }).find?
        sought).map (fun category => (category.epoch, category.listing)) =
          some (life, listing) := seen
    rw [Table.find?_insert] at isSeen
    split at isSeen
    next isName =>
      cases isSeen
      refine ⟨before.listing, by rw [isName, seen?, found, epoch]; rfl, .inr ?_⟩
      rw [moved, serial_advance, if_pos rfl]
      exact Nat.lt_succ_self _
    next => exact ⟨listing, isSeen, .inl rfl⟩

theorem known?_insert
    (subscriber : Subscriber)
    (name : String)
    (category : Category)
    (sought : String)
    (id : ResourceId) :
    known? { subscriber with categories := subscriber.categories.insert name category } sought id =
      if sought = name then some (category.resources.find? id)
      else subscriber.known? sought id := by
  simp only [known?, Table.find?_insert]
  split <;> rfl

/-- Dropping some of what is known in a category keeps the index right. -/
theorem filed_eraseMany
    (tidy : subscriber.Tidy allowed)
    (name : String)
    {category : String}
    {ids : List ResourceId}
    {id : ResourceId}
    (known : ∀ {other}, other ∈ ids → ∃ entry, subscriber.known? name other = some (some entry))
    (kept : category = name → id ∉ ids)
    (indexed : subscriber.index.find? id = some category) :
    (subscriber.index.eraseMany ids).find? id = some category := by
  rw [Table.find?_eraseMany]
  split
  next isErased =>
    obtain ⟨entry, isKnown⟩ := known isErased
    have filed := tidy.filed isKnown
    rw [indexed] at filed
    exact absurd isErased (kept (Option.some.inj filed))
  next => exact indexed

theorem index_eraseMany
    {ids : List ResourceId}
    {id : ResourceId}
    {category : String}
    (indexed : (subscriber.index.eraseMany ids).find? id = some category) :
    subscriber.index.find? id = some category := by
  rw [Table.find?_eraseMany] at indexed
  split at indexed
  next => cases indexed
  next => exact indexed

/-- A category of which less is kept, and the others as they were, have faded. -/
theorem faded_of_kept
    (tidy : subscriber.Tidy allowed)
    {next : Subscriber}
    {name : String}
    {category : Category}
    (found : subscriber.categories.find? name = some category)
    (kept : ResourceId → Option RemoteEntry)
    {ids : List ResourceId}
    (known : ∀ sought id, next.known? sought id =
      if sought = name then some (kept id) else subscriber.known? sought id)
    (index : next.index = subscriber.index.eraseMany ids)
    (fewer : ∀ {id entry}, kept id = some entry → category.resources.find? id = some entry)
    (lapsed : ∀ {id entry}, kept id = none → category.resources.find? id = some entry →
      entry.expiresAt ≤ now)
    (erased : ∀ {id}, id ∈ ids → kept id = none ∧ ∃ entry,
      category.resources.find? id = some entry) :
    Faded now next subscriber := by
  have here : ∀ id, subscriber.known? name id = some (category.resources.find? id) := by
    intro id
    rw [known?, found, Option.map_some]
  refine ⟨?_, ?_, ?_, ?_, ?_⟩
  · intro sought id watched
    rw [known] at watched
    split at watched
    next isName => rw [isName, here]; rfl
    next => exact watched
  · intro sought id entry isKnown
    rw [known] at isKnown
    split at isKnown
    next isName => rw [isName, here, fewer (Option.some.inj isKnown)]
    next => exact isKnown
  · intro sought id entry unknown isKnown
    rw [known] at unknown
    split at unknown
    next isName =>
      rw [isName, here] at isKnown
      exact lapsed (Option.some.inj unknown) (Option.some.inj isKnown)
    next =>
      rw [unknown] at isKnown
      cases isKnown
  · intro id sought indexed
    rw [index] at indexed
    exact index_eraseMany indexed
  · intro sought id entry isKnown indexed
    rw [index]
    refine filed_eraseMany tidy name ?_ ?_ indexed
    · intro other isErased
      obtain ⟨_, entry, isEntry⟩ := erased isErased
      exact ⟨entry, by rw [here, isEntry]⟩
    · rintro rfl isErased
      rw [known, if_pos rfl, (erased isErased).1] at isKnown
      cases isKnown

/-- What lapses in one category is no longer known there. -/
theorem faded_expireCategory
    (tidy : subscriber.Tidy allowed)
    (now : Instant)
    (name : String) :
    Faded now (expireCategory now subscriber name) subscriber ∧
      Advanced (expireCategory now subscriber name) subscriber := by
  have ends := subscriber.expires_expireCategory now name
  generalize expireCategory now subscriber name = next at ends ⊢
  cases ends with
  | kept => exact ⟨.refl now subscriber, .refl subscriber⟩
  | @lapsed category lapsed found isLapsed =>
      constructor
      · refine faded_of_kept tidy found
          (fun id =>
            (category.resources.find? id).filter fun entry => decide (now < entry.expiresAt))
          (fun sought id => ?_) rfl ?_ ?_ ?_
        · exact (known?_insert subscriber name _ sought id).trans (by rw [Table.find?_filter])
        · intro id entry isKept
          exact (Option.filter_eq_some_iff.mp isKept).1
        · intro id entry notKept isKnown
          rw [isKnown] at notKept
          simpa using notKept
        · intro id isErased
          obtain ⟨entry, isGone⟩ := Table.mem_keys_iff.mp isErased
          rw [isLapsed, Table.find?_filter] at isGone
          obtain ⟨isKnown, past⟩ := Option.filter_eq_some_iff.mp isGone
          refine ⟨?_, entry, isKnown⟩
          rw [isKnown]
          simpa using past
      · let struck : Subscriber :=
          { subscriber with index := subscriber.index.eraseMany lapsed.keys }
        have wasFound : struck.categories.find? name = some category := found
        let after : Category :=
          { category with
            resources := category.resources.filter fun _ entry => decide (now < entry.expiresAt) }
        have advanced : Advanced (struck.change name after) struck := advanced_change wasFound rfl
        exact ⟨advanced.subscriptions, advanced.nextEpoch, advanced.serial, advanced.seen⟩

/-- A turn of the timer lets some of what is known lapse. -/
theorem faded_turn
    (tidy : subscriber.Tidy allowed)
    (now : Instant) :
    Faded now (subscriber.turn now) subscriber ∧ (subscriber.turn now).Tidy allowed := by
  refine subscriber.turn_induction
    (motive := fun next => Faded now next subscriber ∧ next.Tidy allowed) now
    ⟨.refl now subscriber, tidy⟩ ?timed ?expired
  case timed =>
    rintro next timer ⟨faded, tidyNext⟩
    exact ⟨⟨faded.watched, faded.kept, faded.lapsed, faded.index, faded.filed⟩,
      ⟨tidyNext.named, tidyNext.filed, tidyNext.living, tidyNext.begun, tidyNext.cached,
        tidyNext.listening⟩⟩
  case expired =>
    rintro next name ⟨faded, tidyNext⟩
    obtain ⟨later, advanced⟩ := faded_expireCategory tidyNext now name
    exact ⟨later.trans faded, tidyNext.fade advanced later⟩

/-- Whoever leaves a category takes nothing along unless it is the last one. -/
theorem faded_leave
    (tidy : subscriber.Tidy allowed)
    (now : Instant)
    (subscription : Subscription) :
    Faded now (subscriber.leave subscription) subscriber ∧
      Advanced (subscriber.leave subscription) subscriber := by
  have ends := subscriber.leaves_leave subscription
  generalize subscriber.leave subscription = next at ends ⊢
  cases ends with
  | unwatched => exact ⟨.refl now subscriber, .refl subscriber⟩
  | @ended category found =>
      have remains : ∀ {sought id known},
          known?
              { subscriber with
                categories := subscriber.categories.erase subscription.category
                index := subscriber.index.eraseMany category.resources.keys } sought id =
            some known →
          sought ≠ subscription.category ∧ subscriber.known? sought id = some known := by
        intro sought id known isKnown
        simp only [known?, Table.find?_erase] at isKnown
        split at isKnown
        next => cases isKnown
        next different => exact ⟨different, isKnown⟩
      refine ⟨.of_fewer (fun isKnown => (remains isKnown).2) index_eraseMany ?_,
        rfl, rfl, fun _ => Nat.le_refl _, ?_⟩
      · intro sought id entry isKnown indexed
        obtain ⟨different, _⟩ := remains isKnown
        refine filed_eraseMany tidy subscription.category ?_ (fun same => absurd same different)
          indexed
        intro other isErased
        obtain ⟨entry, isEntry⟩ := Table.mem_keys_iff.mp isErased
        exact ⟨entry, by rw [known?, found, Option.map_some, isEntry]⟩
      · intro name epoch listing seen
        simp only [seen?, Table.find?_erase] at seen
        split at seen
        next => cases seen
        next => exact ⟨listing, seen, .inl rfl⟩
  | @left category found =>
      refine ⟨.of_same (fun sought id => ?_) rfl, rfl, rfl, fun _ => Nat.le_refl _, ?_⟩
      · rw [known?_insert]
        split
        next isCategory => rw [isCategory, known?, found, Option.map_some]
        next => rfl
      · intro name epoch listing seen
        simp only [seen?, Table.find?_insert] at seen
        split at seen
        next isCategory =>
          cases seen
          exact ⟨category.listing, by rw [isCategory, seen?, found]; rfl, .inl rfl⟩
        next => exact ⟨listing, seen, .inl rfl⟩

/-- The serial numbers of categories that end only grow. -/
theorem advanced_foldl_advance
    (categories : List Category)
    (subscriber : Subscriber) :
    Advanced
      (categories.foldl (fun current category => current.advance category.epoch) subscriber)
      subscriber := by
  induction categories generalizing subscriber with
  | nil => exact .refl subscriber
  | cons category rest inductionHypothesis =>
      have first : Advanced (subscriber.advance category.epoch) subscriber :=
        ⟨rfl, rfl, serial_le_advance subscriber category.epoch, fun seen => ⟨_, seen, .inl rfl⟩⟩
      exact (inductionHypothesis (subscriber.advance category.epoch)).trans first

theorem faded_shut
    (tidy : subscriber.Tidy allowed)
    (now : Instant) :
    Faded now subscriber.shut.2 subscriber ∧ subscriber.shut.2.Tidy allowed := by
  unfold shut
  split
  next => exact ⟨.refl now subscriber, tidy⟩
  next =>
    have all := advanced_foldl_advance subscriber.lives subscriber
    have ended : Advanced
        { subscriber.lives.foldl
            (fun current category => current.advance category.epoch) subscriber with
          categories := ∅
          index := ∅
          stopped := true
          timer := subscriber.timer.close
          called := true } subscriber :=
      ⟨all.subscriptions, all.nextEpoch, all.serial, nofun⟩
    exact ⟨⟨nofun, nofun, nofun, nofun, nofun⟩, tidy.advance ended nofun nofun⟩

end Fading

section Keeping

variable {allowed : List Callback → Prop} {subscriber : Subscriber}

/-- Collecting takes only the marks off the categories. -/
theorem tidy_collect (tidy : subscriber.Tidy allowed) :
    subscriber.collect.2.Tidy allowed ∧
      (∀ category id, subscriber.collect.2.known? category id = subscriber.known? category id) ∧
        subscriber.collect.2.index = subscriber.index := by
  unfold collect
  dsimp only
  split
  next =>
    exact
      ⟨⟨tidy.named, tidy.filed, tidy.living, tidy.begun, tidy.cached, tidy.listening⟩,
        fun _ _ => rfl, rfl⟩
  next =>
    have known : ∀ category id,
        known?
            { subscriber with
              called := false
              categories :=
                subscriber.categories.map fun _ category => { category with dirty := false } }
            category id =
          subscriber.known? category id := by
      intro category id
      simp only [known?, Table.find?_map, Option.map_map]
      rfl
    have seen : ∀ name,
        seen?
            { subscriber with
              called := false
              categories :=
                subscriber.categories.map fun _ category => { category with dirty := false } }
            name =
          subscriber.seen? name := by
      intro name
      simp only [seen?, Table.find?_map, Option.map_map]
      rfl
    have advanced : Advanced
        { subscriber with
          called := false
          categories :=
            subscriber.categories.map fun _ category => { category with dirty := false } }
        subscriber :=
      ⟨rfl, rfl, fun _ => Nat.le_refl _, fun isSeen => ⟨_, seen _ ▸ isSeen, .inl rfl⟩⟩
    exact ⟨tidy.advance advanced (fun isKnown => tidy.named (known _ _ ▸ isKnown))
      fun isKnown => tidy.filed (known _ _ ▸ isKnown), known, rfl⟩

theorem tidy_shuffle
    (tidy : subscriber.Tidy allowed)
    (front : List String) :
    { subscriber with front := front }.Tidy allowed :=
  ⟨tidy.named, tidy.filed, tidy.living, tidy.begun, tidy.cached, tidy.listening⟩

/-- Updating a subscription without touching its list keeps the knowledge tidy. -/
theorem tidy_update
    (tidy : subscriber.Tidy allowed)
    (id : Nat)
    {change : Subscription → Subscription}
    (alike : ∀ known, (change known).category = known.category ∧
      (change known).epoch = known.epoch ∧ (change known).cache = known.cache ∧
      (allowed known.callbacks → allowed (change known).callbacks) ∧
      ((change known).disposed = false → known.disposed = false)) :
    (subscriber.update id change).Tidy allowed := by
  have before : ∀ {sought later},
      (subscriber.update id change).subscriptions.find? sought = some later →
        ∃ earlier, subscriber.subscriptions.find? sought = some earlier ∧
          later.category = earlier.category ∧ later.epoch = earlier.epoch ∧
          later.cache = earlier.cache ∧ (allowed earlier.callbacks → allowed later.callbacks) ∧
          (later.disposed = false → earlier.disposed = false) := by
    intro sought later found
    simp only [update, Table.find?_modify] at found
    split at found
    next =>
      obtain ⟨earlier, wasFound, rfl⟩ := Option.map_eq_some_iff.mp found
      exact ⟨earlier, wasFound, alike earlier⟩
    next => exact ⟨later, found, rfl, rfl, rfl, fun heard => heard, fun isOpen => isOpen⟩
  refine ⟨tidy.named, tidy.filed, tidy.living, ?_, ?_, ?_⟩
  · intro sought later found
    obtain ⟨earlier, wasFound, _, epoch, _⟩ := before found
    rw [epoch]
    exact tidy.begun wasFound
  · intro sought later kept found isOpen isKept
    obtain ⟨earlier, wasFound, category, epoch, cache, _, wasOpen⟩ := before found
    rw [epoch, category]
    exact tidy.cached wasFound (wasOpen isOpen) (cache ▸ isKept)
  · intro sought later found
    obtain ⟨earlier, wasFound, _, _, _, callbacks, _⟩ := before found
    exact callbacks (tidy.listening wasFound)

theorem tidy_markDisposed
    (tidy : subscriber.Tidy allowed)
    (id : Nat) :
    (subscriber.markDisposed id).2.Tidy allowed ∧
      (∀ category other,
        (subscriber.markDisposed id).2.known? category other = subscriber.known? category other) ∧
        (subscriber.markDisposed id).2.index = subscriber.index := by
  have ends := subscriber.marks_markDisposed id
  generalize subscriber.markDisposed id = result at ends ⊢
  cases ends with
  | closed => exact ⟨tidy, fun _ _ => rfl, rfl⟩
  | marked =>
      exact ⟨tidy_update tidy id fun _ => ⟨rfl, rfl, rfl, fun heard => heard, nofun⟩,
        fun _ _ => rfl, rfl⟩

/-- Disposing a subscription lets fade what nobody watches any longer. -/
theorem faded_dispose
    (tidy : subscriber.Tidy allowed)
    (now : Instant)
    (id : Nat) :
    Faded now (subscriber.dispose id).2 subscriber ∧ (subscriber.dispose id).2.Tidy allowed := by
  obtain ⟨marked, known, index⟩ := tidy_markDisposed tidy id
  have ends := subscriber.disposes_dispose id
  generalize subscriber.dispose id = result at ends ⊢
  cases ends with
  | closed => exact ⟨.refl now subscriber, tidy⟩
  | @disposed subscription =>
      obtain ⟨faded, advanced⟩ := faded_leave marked now subscription
      exact ⟨faded.trans (.of_same known index), marked.fade advanced faded⟩

/-- A new subscription has seen nothing; the first one to a category begins to watch it. -/
structure Watching
    (allowed : List Callback → Prop)
    (subscriber next : Subscriber)
    (name : String)
    (isFirst : Bool) : Prop where
  valid : Wire.checkText name = .ok ()
  tidy : next.Tidy allowed
  index : next.index = subscriber.index
  further : isFirst = false → ∀ category id,
    next.known? category id = subscriber.known? category id
  unwatched : isFirst = true → ∀ id, subscriber.known? name id = none
  first : isFirst = true → ∀ category id,
    next.known? category id =
      if category = name then some none else subscriber.known? category id

/-- The entries are the same, whether the category was watched before or not. -/
theorem Watching.known?_iff
    {next : Subscriber}
    {name : String}
    {isFirst : Bool}
    (watching : Watching allowed subscriber next name isFirst)
    {category : String}
    {id : ResourceId}
    {entry : RemoteEntry} :
    next.known? category id = some (some entry) ↔
      subscriber.known? category id = some (some entry) := by
  cases isFirst with
  | false => rw [watching.further rfl]
  | true =>
      rw [watching.first rfl]
      split
      next isName =>
        rw [isName, watching.unwatched rfl]
        exact ⟨nofun, nofun⟩
      next => rfl

/-- A subscription that has seen nothing keeps no list. -/
theorem tidy_enter
    (tidy : subscriber.Tidy allowed)
    (mayBeEmpty : allowed [])
    {name : String}
    {epoch : Nat}
    (begun : epoch < subscriber.nextEpoch)
    (id nextSubscription : Nat) :
    Tidy allowed
      { subscriber with
        subscriptions := subscriber.subscriptions.insert id (.new id name epoch)
        nextSubscription := nextSubscription } := by
  have before : ∀ {sought subscription},
      (subscriber.subscriptions.insert id (.new id name epoch)).find? sought =
          some subscription →
        subscription = .new id name epoch ∨
          subscriber.subscriptions.find? sought = some subscription := by
    intro sought subscription found
    rw [Table.find?_insert] at found
    split at found
    next => exact .inl (Option.some.inj found).symm
    next => exact .inr found
  refine ⟨tidy.named, tidy.filed, tidy.living, ?_, ?_, ?_⟩
  · intro sought subscription found
    rcases before found with rfl | wasFound
    · exact begun
    · exact tidy.begun wasFound
  · intro sought subscription kept found isOpen isKept
    rcases before found with rfl | wasFound
    · cases isKept
    · exact tidy.cached wasFound isOpen isKept
  · intro sought subscription found
    rcases before found with rfl | wasFound
    · exact mayBeEmpty
    · exact tidy.listening wasFound

/-- A category that comes to life is watched, and nothing is known in it. -/
theorem tidy_begin
    (tidy : subscriber.Tidy allowed)
    (name : String)
    (members : List Nat) :
    Tidy allowed
      { subscriber with
        categories := subscriber.categories.insert name ⟨subscriber.nextEpoch, ∅, false, members⟩
        serials := subscriber.serials.insert subscriber.nextEpoch 0
        nextEpoch := subscriber.nextEpoch + 1 } := by
  have known : ∀ {sought id entry},
      known?
          { subscriber with
            categories :=
              subscriber.categories.insert name ⟨subscriber.nextEpoch, ∅, false, members⟩ }
          sought id = some (some entry) →
        subscriber.known? sought id = some (some entry) := by
    intro sought id entry isKnown
    rw [known?_insert] at isKnown
    split at isKnown
    next => cases isKnown
    next => exact isKnown
  have serial : ∀ {epoch}, epoch < subscriber.nextEpoch →
      ((subscriber.serials.insert subscriber.nextEpoch 0).find? epoch).getD 0 =
        subscriber.serial epoch := by
    intro epoch earlier
    rw [Table.find?_insert, if_neg (Nat.ne_of_lt earlier), Subscriber.serial]
  refine ⟨fun isKnown => tidy.named (known isKnown), fun isKnown => tidy.filed (known isKnown), ?_,
    fun found => Nat.lt_succ_of_lt (tidy.begun found), ?_, tidy.listening⟩
  · intro sought epoch listing seen
    simp only [seen?, Table.find?_insert] at seen
    split at seen
    next =>
      cases seen
      exact Nat.lt_succ_self _
    next => exact Nat.lt_succ_of_lt (tidy.living seen)
  · intro id subscription kept found isOpen isKept
    obtain ⟨notAhead, right⟩ := tidy.cached found isOpen isKept
    have earlier := tidy.begun found
    refine ⟨Nat.le_trans notAhead (Nat.le_of_eq (serial earlier).symm), fun same seen => ?_⟩
    refine right (same.trans (serial earlier)) ?_
    simp only [seen?, Table.find?_insert] at seen
    split at seen
    next =>
      have isNext : subscriber.nextEpoch = subscription.epoch := by
        rw [Option.map_some, Option.some.injEq, Prod.mk.injEq] at seen
        exact seen.1
      rw [isNext] at earlier
      exact absurd earlier (Nat.lt_irrefl _)
    next => exact seen

theorem watching_subscribe
    (tidy : subscriber.Tidy allowed)
    (mayBeEmpty : allowed [])
    {next : Subscriber}
    {name : String}
    {id : Nat}
    {isFirst : Bool}
    (joined : subscriber.subscribe name = (.ok (id, isFirst), next)) :
    Watching allowed subscriber next name isFirst := by
  have ends := subscriber.subscribes_subscribe name
  rw [joined] at ends
  cases ends with
  | @further category valid _ found =>
      let base : Subscriber :=
        { subscriber with
          categories := subscriber.categories.insert name
            { category with members := category.members ++ [subscriber.nextSubscription] } }
      have known : ∀ sought other, base.known? sought other = subscriber.known? sought other := by
        intro sought other
        refine (known?_insert ..).trans ?_
        split
        next isName => rw [isName, known?, found, Option.map_some]
        next => rfl
      have wasSeen : subscriber.seen? name = some (category.epoch, category.listing) := by
        rw [seen?, found, Option.map_some]
      have seen : ∀ sought, base.seen? sought = subscriber.seen? sought := by
        intro sought
        simp only [base, seen?, Table.find?_insert]
        split
        next isName => rw [isName, found]; rfl
        next => rfl
      have advanced : Advanced base subscriber :=
        ⟨rfl, rfl, fun _ => Nat.le_refl _, fun isSeen => ⟨_, seen _ ▸ isSeen, .inl rfl⟩⟩
      have tidyBase : base.Tidy allowed :=
        tidy.advance advanced (fun isKnown => tidy.named (known _ _ ▸ isKnown))
          fun isKnown => tidy.filed (known _ _ ▸ isKnown)
      have notFirst : false ≠ true := Bool.false_ne_true
      exact ⟨valid, tidy_enter tidyBase mayBeEmpty (tidy.living wasSeen) _ _, rfl, fun _ => known,
        fun isFirst => absurd isFirst notFirst, fun isFirst => absurd isFirst notFirst⟩
  | first valid _ absent =>
      refine ⟨valid, tidy_enter (tidy_begin tidy name _) mayBeEmpty (Nat.lt_succ_self _) _ _, rfl,
        fun isFurther => absurd isFurther.symm Bool.false_ne_true, fun _ other => ?_, fun _ => ?_⟩
      · rw [known?, absent, Option.map_none]
      · exact known?_insert subscriber name ⟨subscriber.nextEpoch, ∅, false, _⟩

/-- The category of an open subscription is in the life in which it was joined. -/
theorem category_of_open
    (sound : subscriber.Sound)
    (running : subscriber.stopped = false)
    {id : Nat}
    {subscription : Subscription}
    (found : subscriber.subscriptions.find? id = some subscription)
    (isOpen : subscription.disposed = false) :
    ∃ category, subscriber.categories.find? subscription.category = some category ∧
      category.epoch = subscription.epoch := by
  have rolled : subscriber.roll.find? id = some subscription.standing := by
    rw [find?_roll, found, Option.map_some]
  obtain ⟨members, enrolled, _⟩ := sound.enrolled running rolled isOpen
  rw [find?_enrolment] at enrolled
  obtain ⟨category, isCategory, same⟩ := Option.map_eq_some_iff.mp enrolled
  exact ⟨category, isCategory, (Prod.mk.inj same).1⟩

/-- Reading gives an open subscription the present list of its category. -/
theorem resources_read
    (tidy : subscriber.Tidy allowed)
    (sound : subscriber.Sound)
    (running : subscriber.stopped = false)
    {id : Nat}
    {subscription : Subscription}
    (found : subscriber.subscriptions.find? id = some subscription)
    (isOpen : subscription.disposed = false) :
    ∃ category, subscriber.categories.find? subscription.category = some category ∧
      (subscriber.read id).1.resources = category.listing := by
  obtain ⟨category, isCategory, sameLife⟩ := category_of_open sound running found isOpen
  refine ⟨category, isCategory, ?_⟩
  have fresh : (subscriber.readFresh subscription).1.resources = category.listing := by
    rw [readFresh, isCategory]
    dsimp only
    split <;> rfl
  rw [read, found]
  dsimp only
  rw [isOpen, if_neg Bool.false_ne_true]
  split
  next kept isKept =>
    split
    next present =>
      refine (tidy.cached found isOpen isKept).2 present ?_
      rw [seen?, isCategory, Option.map_some, sameLife]
    next => exact fresh
  next => exact fresh

/-- A list that was made under the present serial number may be kept. -/
theorem tidy_keep
    (tidy : subscriber.Tidy allowed)
    {id : Nat}
    {subscription : Subscription}
    {category : Category}
    (found : subscriber.subscriptions.find? id = some subscription)
    (isCategory : subscriber.categories.find? subscription.category = some category)
    (sameLife : category.epoch = subscription.epoch) :
    (subscriber.update id fun known =>
      { known with
        cache := some ⟨subscriber.serial category.epoch, category.listing⟩ }).Tidy allowed := by
  have before : ∀ {sought later},
      (subscriber.update id fun known =>
          { known with
            cache := some ⟨subscriber.serial category.epoch, category.listing⟩
          }).subscriptions.find? sought = some later →
        (later = { subscription with
          cache := some ⟨subscriber.serial category.epoch, category.listing⟩ }) ∨
          subscriber.subscriptions.find? sought = some later := by
    intro sought later isFound
    simp only [update, Table.find?_modify] at isFound
    split at isFound
    next isId =>
      rw [isId, found] at isFound
      exact .inl (Option.some.inj isFound).symm
    next => exact .inr isFound
  have begun := tidy.begun found
  have silent := tidy.listening found
  refine ⟨tidy.named, tidy.filed, tidy.living, ?_, ?_, ?_⟩
  · intro sought later isFound
    rcases before isFound with rfl | wasFound
    · exact begun
    · exact tidy.begun wasFound
  · intro sought later kept isFound isOpen isKept
    rcases before isFound with rfl | wasFound
    · cases isKept
      refine ⟨Nat.le_of_eq (congrArg subscriber.serial sameLife), fun {listing} _ seen => ?_⟩
      have isSeen : subscriber.seen? subscription.category =
          some (category.epoch, category.listing) := by
        rw [seen?, isCategory, Option.map_some]
      have same := isSeen.symm.trans seen
      rw [Option.some.injEq, Prod.mk.injEq] at same
      exact same.2
    · exact tidy.cached wasFound isOpen isKept
  · intro sought later isFound
    rcases before isFound with rfl | wasFound
    · exact silent
    · exact tidy.listening wasFound

/-- Reading changes at most the list that a subscription keeps. -/
theorem tidy_read
    (tidy : subscriber.Tidy allowed)
    (sound : subscriber.Sound)
    (id : Nat) :
    (subscriber.read id).2.Tidy allowed ∧
      (∀ category other,
        (subscriber.read id).2.known? category other = subscriber.known? category other) ∧
        (subscriber.read id).2.index = subscriber.index := by
  have unchanged : subscriber.Tidy allowed ∧
      (∀ category other, subscriber.known? category other = subscriber.known? category other) ∧
        subscriber.index = subscriber.index := ⟨tidy, fun _ _ => rfl, rfl⟩
  unfold read
  split
  next => exact unchanged
  next subscription found =>
  split
  next => exact unchanged
  next isOpen =>
  have sameId : subscription.id = id := by
    have rolled : subscriber.roll.find? id = some subscription.standing := by
      rw [find?_roll, found, Option.map_some]
    exact (sound.numbered rolled).1
  have fresh : (subscriber.readFresh subscription).2.Tidy allowed ∧
      (∀ category other,
        (subscriber.readFresh subscription).2.known? category other =
          subscriber.known? category other) ∧
        (subscriber.readFresh subscription).2.index = subscriber.index := by
    unfold readFresh
    split
    next => exact unchanged
    next category isCategory =>
    dsimp only
    split
    next =>
      have watched : (subscriber.known? subscription.category .nil).isSome := by
        rw [known?, isCategory]
        rfl
      have running := running_of_known sound watched
      obtain ⟨_, isSame, sameLife⟩ :=
        category_of_open sound running found (Bool.eq_false_iff.mpr isOpen)
      rw [isCategory] at isSame
      cases isSame
      exact ⟨sameId ▸ tidy_keep tidy (sameId ▸ found) isCategory sameLife, fun _ _ => rfl, rfl⟩
    next => exact unchanged
  split
  next =>
    split
    next => exact unchanged
    next => exact fresh
  next => exact fresh

end Keeping

end Discovery.Subscriber
