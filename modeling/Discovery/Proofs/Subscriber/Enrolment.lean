import Discovery.Proofs.Subscriber.Membership

namespace Discovery

/-!
# Joining and leaving

Subscribing enters a new number in the roll and in the list of its category;
disposing strikes it off both, and ends a category with its last member.
Shutting down ends every category at once and names the subscriptions that
were open, which are then disposed one after another.
-/

namespace Subscriber

section Joining

variable {subscriber next : Subscriber}

/-- What is found in the roll is the standing of what is found among the subscriptions. -/
theorem find?_roll
    (subscriber : Subscriber)
    (id : Nat) :
    subscriber.roll.find? id = (subscriber.subscriptions.find? id).map Subscription.standing :=
  Table.find?_map _ _ id

theorem isOpen_of_find?
    {id : Nat}
    {known : Subscription}
    (found : subscriber.subscriptions.find? id = some known)
    (isOpen : known.disposed = false) :
    subscriber.isOpen id = true := by
  rw [Subscriber.isOpen, find?_roll, found, Option.map_some, Option.any_some]
  exact congrArg not isOpen

/-- A subscription that is unknown or disposed is not open. -/
theorem isOpen_of_closed
    {id : Nat}
    (closed : ∀ {known}, subscriber.subscriptions.find? id = some known → known.disposed = true) :
    subscriber.isOpen id = false := by
  rw [isOpen, find?_roll]
  cases found : subscriber.subscriptions.find? id with
  | none => rfl
  | some known => exact congrArg not (closed found)

theorem find?_enrolment
    (subscriber : Subscriber)
    (name : String) :
    subscriber.enrolment.find? name =
      (subscriber.categories.find? name).map fun category => (category.epoch, category.members) :=
  Table.find?_map _ _ name

theorem sound_new : Subscriber.new.Sound where
  numbered found := by cases found
  enrolled _ _ _ found := by cases found
  rolled found := by cases found
  inhabited found := by cases found
  ended _ := rfl

/-- A refused subscription leaves the subscriber as it is. -/
theorem subscribe_error
    {name : String}
    {cause : AgentError}
    (refused : subscriber.subscribe name = (.error cause, next)) :
    next = subscriber := by
  have ends := subscriber.subscribes_subscribe name
  rw [refused] at ends
  cases ends <;> rfl

/-- A new subscription is entered under the next number and becomes a member of its category. -/
structure Joined (subscriber next : Subscriber) (name : String) (id epoch : Nat) : Prop where
  running : subscriber.stopped = false
  number : id = subscriber.nextSubscription
  roll : next.roll = subscriber.roll.insert id ⟨id, name, epoch, false⟩
  enrolment : ∃ others,
    ((subscriber.enrolment.find? name = some (epoch, others)) ∨
      (subscriber.enrolment.find? name = none ∧ others = [])) ∧
    next.enrolment = subscriber.enrolment.insert name (epoch, others ++ [id])
  stopped : next.stopped = false
  nextSubscription : next.nextSubscription = id + 1

theorem subscribe_ok
    {name : String}
    {id : Nat}
    {isFirst : Bool}
    (joined : subscriber.subscribe name = (.ok (id, isFirst), next)) :
    ∃ epoch, Joined subscriber next name id epoch := by
  have rolled : ∀ epoch,
      (subscriber.subscriptions.insert subscriber.nextSubscription
          (.new subscriber.nextSubscription name epoch)).map
          (fun _ subscription => subscription.standing) =
        subscriber.roll.insert subscriber.nextSubscription
          ⟨subscriber.nextSubscription, name, epoch, false⟩ := by
    intro epoch
    apply Table.ext_find?
    intro sought
    simp only [roll, Table.find?_map, Table.find?_insert]
    split <;> rfl
  have enrolled : ∀ category : Category,
      (subscriber.categories.insert name category).map
          (fun _ category => (category.epoch, category.members)) =
        subscriber.enrolment.insert name (category.epoch, category.members) := by
    intro category
    apply Table.ext_find?
    intro sought
    simp only [enrolment, Table.find?_map, Table.find?_insert]
    split <;> rfl
  have ends := subscriber.subscribes_subscribe name
  rw [joined] at ends
  cases ends with
  | @further category _ running found =>
      exact
        ⟨category.epoch, running, rfl, rolled category.epoch,
          ⟨category.members, .inl (by rw [find?_enrolment, found]; rfl), enrolled _⟩,
          running, rfl⟩
  | first _ running absent =>
      exact
        ⟨subscriber.nextEpoch, running, rfl, rolled subscriber.nextEpoch,
          ⟨[], .inr ⟨by rw [find?_enrolment, absent]; rfl, rfl⟩, enrolled _⟩,
          running, rfl⟩

namespace Joined

variable {name : String} {id epoch : Nat}

/-- The number of a new subscription was free. -/
theorem unused
    (joined : Joined subscriber next name id epoch)
    (sound : subscriber.Sound) :
    subscriber.roll.find? id = none := by
  refine Option.eq_none_iff_forall_ne_some.mpr fun standing found => ?_
  have before := (sound.numbered found).2
  rw [joined.number] at before
  exact Nat.lt_irrefl _ before

/-- It is no member of any category yet. -/
theorem not_mem
    (joined : Joined subscriber next name id epoch)
    (sound : subscriber.Sound)
    {category : String}
    {life : Nat}
    {members : List Nat}
    (found : subscriber.enrolment.find? category = some (life, members)) :
    id ∉ members := by
  intro member
  have rolled := sound.rolled found member
  rw [joined.unused sound] at rolled
  cases rolled

theorem openCount
    (joined : Joined subscriber next name id epoch)
    (sound : subscriber.Sound) :
    next.openCount = subscriber.openCount + 1 := by
  have counted :=
    Table.count_insert subscriber.roll id ⟨id, name, epoch, false⟩ fun standing =>
      !standing.disposed
  rw [joined.unused sound] at counted
  simpa [Subscriber.openCount, joined.roll] using counted

theorem sound
    (joined : Joined subscriber next name id epoch)
    (sound : subscriber.Sound) :
    next.Sound := by
  obtain ⟨others, before, enrolment⟩ := joined.enrolment
  constructor
  · intro sought standing found
    rw [joined.roll, Table.find?_insert] at found
    rw [joined.nextSubscription]
    split at found
    next isNew =>
      cases found
      exact ⟨isNew.symm, isNew ▸ Nat.lt_succ_self sought⟩
    next =>
      have before := (sound.numbered found).2
      rw [← joined.number] at before
      exact ⟨(sound.numbered found).1, Nat.lt_succ_of_lt before⟩
  · intro _ sought standing found isOpen
    rw [joined.roll, Table.find?_insert] at found
    rw [enrolment, Table.find?_insert]
    split at found
    next isNew =>
      cases found
      exact ⟨others ++ [id], if_pos rfl, by simp [isNew]⟩
    next =>
      obtain ⟨members, enrolled, member⟩ := sound.enrolled joined.running found isOpen
      by_cases same : standing.category = name
      · rw [if_pos same]
        rw [same] at enrolled
        rcases before with known | ⟨unknown, _⟩
        · rw [known] at enrolled
          cases enrolled
          exact ⟨others ++ [id], rfl, List.mem_append_left _ member⟩
        · rw [unknown] at enrolled
          cases enrolled
      · rw [if_neg same]
        exact ⟨members, enrolled, member⟩
  · intro sought life members other found member
    rw [enrolment, Table.find?_insert] at found
    rw [joined.roll, Table.find?_insert]
    split at found
    next same =>
      cases found
      rcases List.mem_append.mp member with inOthers | isNew
      · rcases before with known | ⟨_, empty⟩
        · have different : other ≠ id := fun isNew =>
            joined.not_mem sound known (isNew ▸ inOthers)
          rw [if_neg different, same]
          exact sound.rolled known inOthers
        · rw [empty] at inOthers
          cases inOthers
      · rw [List.mem_singleton] at isNew
        rw [if_pos isNew, isNew, same]
    next =>
      have different : other ≠ id := fun isNew =>
        joined.not_mem sound found (isNew ▸ member)
      rw [if_neg different]
      exact sound.rolled found member
  · intro sought life members found
    rw [enrolment, Table.find?_insert] at found
    split at found
    next =>
      cases found
      simp
    next => exact sound.inhabited found
  · intro ended
    rw [joined.stopped] at ended
    cases ended

end Joined

end Joining

section Leaving

variable {subscriber next : Subscriber}

/-- An open subscription has been disposed, whatever became of its category. -/
structure Struck (subscriber next : Subscriber) (id : Nat) (standing : Standing) : Prop where
  found : subscriber.roll.find? id = some standing
  wasOpen : standing.disposed = false
  roll : next.roll = subscriber.roll.insert id { standing with disposed := true }
  stopped : next.stopped = subscriber.stopped
  nextSubscription : next.nextSubscription = subscriber.nextSubscription

namespace Struck

variable {id : Nat} {standing : Standing}

theorem isOpen (struck : Struck subscriber next id standing) : subscriber.isOpen id = true := by
  simp [Subscriber.isOpen, struck.found, struck.wasOpen]

/-- Disposing closes the subscription itself and no other. -/
theorem isOpen_iff
    (struck : Struck subscriber next id standing)
    (other : Nat) :
    next.isOpen other = true ↔ other ≠ id ∧ subscriber.isOpen other = true := by
  simp only [Subscriber.isOpen, struck.roll, Table.find?_insert]
  split
  next isSame => simp [isSame]
  next different => simp [different]

theorem openCount (struck : Struck subscriber next id standing) :
    next.openCount + 1 = subscriber.openCount := by
  have counted :=
    Table.count_insert subscriber.roll id { standing with disposed := true } fun standing =>
      !standing.disposed
  rw [struck.found] at counted
  simpa [Subscriber.openCount, struck.roll, struck.wasOpen] using counted

end Struck

theorem markDisposed_cases
    (subscriber : Subscriber)
    (id : Nat) :
    (subscriber.isOpen id = false ∧ subscriber.markDisposed id = (false, subscriber)) ∨
      ∃ standing next,
        subscriber.markDisposed id = (true, next) ∧
          Struck subscriber next id standing ∧ next.enrolment = subscriber.enrolment := by
  have ends := subscriber.marks_markDisposed id
  generalize subscriber.markDisposed id = result at ends ⊢
  cases ends with
  | closed closed => exact .inl ⟨isOpen_of_closed closed, rfl⟩
  | @marked subscription found wasOpen =>
      have rolled : subscriber.roll.find? id = some subscription.standing := by
        rw [find?_roll, found]
        rfl
      refine .inr ⟨subscription.standing, _, rfl, ⟨rolled, wasOpen, ?_, rfl, rfl⟩, rfl⟩
      apply Table.ext_find?
      intro sought
      simp only [update, roll, Table.modify_eq_insert found, Table.find?_map, Table.find?_insert]
      split <;> rfl

/-- Those who stay when a subscription leaves; a category without members ends. -/
def remaining (id : Nat) (enrolled : Nat × List Nat) : Option (Nat × List Nat) :=
  let members := enrolled.2.filter (· != id)
  if members.isEmpty then none else some (enrolled.1, members)

/-- Whoever remains was there before and is not the one who left. -/
theorem mem_of_remaining
    {id life : Nat}
    {enrolled : Nat × List Nat}
    {members : List Nat}
    (remains : remaining id enrolled = some (life, members)) :
    enrolled.1 = life ∧ members ≠ [] ∧ ∀ other ∈ members, other ∈ enrolled.2 ∧ other ≠ id := by
  unfold remaining at remains
  dsimp only at remains
  split at remains
  next => cases remains
  next notEmpty =>
    cases remains
    refine ⟨rfl, fun isNil => notEmpty (isNil ▸ rfl), fun other member => ?_⟩
    obtain ⟨wasMember, different⟩ := List.mem_filter.mp member
    exact ⟨wasMember, bne_iff_ne.mp different⟩

/-- Whoever else was there remains. -/
theorem remaining_of_mem
    {id life other : Nat}
    {members : List Nat}
    (member : other ∈ members)
    (different : other ≠ id) :
    remaining id (life, members) = some (life, members.filter (· != id)) ∧
      other ∈ members.filter (· != id) := by
  have remains : other ∈ members.filter (· != id) :=
    List.mem_filter.mpr ⟨member, bne_iff_ne.mpr different⟩
  have notEmpty : (members.filter (· != id)).isEmpty = false :=
    List.isEmpty_eq_false_iff.mpr (List.ne_nil_of_mem remains)
  exact ⟨by simp only [remaining, notEmpty, Bool.false_eq_true, if_false], remains⟩

theorem find?_enrolment_leave
    (subscriber : Subscriber)
    (subscription : Subscription)
    (name : String) :
    (subscriber.leave subscription).enrolment.find? name =
      if name = subscription.category then
        (subscriber.enrolment.find? name).bind (remaining subscription.id)
      else subscriber.enrolment.find? name := by
  have ends := subscriber.leaves_leave subscription
  generalize subscriber.leave subscription = next at ends ⊢
  cases ends with
  | unwatched absent =>
      split
      next isCategory =>
        subst isCategory
        rw [find?_enrolment, absent]
        rfl
      next => rfl
  | ended found alone =>
      simp only [find?_enrolment, Table.find?_erase]
      split
      next isCategory =>
        rw [isCategory, found]
        exact (if_pos alone).symm
      next => rfl
  | left found others =>
      simp only [find?_enrolment, Table.find?_insert]
      split
      next isCategory =>
        rw [isCategory, found]
        exact (if_neg (Bool.eq_false_iff.mp others)).symm
      next => rfl

/-- Leaving a category disposes nothing. -/
theorem leave_keeps
    (subscriber : Subscriber)
    (subscription : Subscription) :
    (subscriber.leave subscription).roll = subscriber.roll ∧
      (subscriber.leave subscription).stopped = subscriber.stopped ∧
      (subscriber.leave subscription).nextSubscription = subscriber.nextSubscription := by
  have ends := subscriber.leaves_leave subscription
  generalize subscriber.leave subscription = next at ends ⊢
  cases ends <;> exact ⟨rfl, rfl, rfl⟩

theorem dispose_cases
    (subscriber : Subscriber)
    (id : Nat) :
    (subscriber.isOpen id = false ∧ subscriber.dispose id = (false, subscriber)) ∨
      ∃ standing next,
        subscriber.dispose id = (true, next) ∧ Struck subscriber next id standing ∧
          ∀ name, next.enrolment.find? name =
            if name = standing.category then
              (subscriber.enrolment.find? name).bind (remaining standing.id)
            else subscriber.enrolment.find? name := by
  have ends := subscriber.disposes_dispose id
  generalize subscriber.dispose id = result at ends ⊢
  cases ends with
  | closed closed => exact .inl ⟨isOpen_of_closed closed, rfl⟩
  | @disposed subscription found wasOpen =>
      rcases markDisposed_cases subscriber id with
        ⟨closed, _⟩ | ⟨standing, marked, flipped, struck, enrolment⟩
      · rw [isOpen_of_find? found wasOpen] at closed
        cases closed
      · have isStanding : standing = subscription.standing := by
          have rolled := struck.found
          rw [find?_roll, found] at rolled
          exact (Option.some.inj rolled).symm
        obtain ⟨roll, stopped, number⟩ := leave_keeps marked subscription
        refine .inr
          ⟨standing, marked.leave subscription, by rw [flipped],
            ⟨struck.found, struck.wasOpen, roll.trans struck.roll, stopped.trans struck.stopped,
              number.trans struck.nextSubscription⟩, ?_⟩
        intro name
        rw [find?_enrolment_leave, enrolment, isStanding]
        rfl

theorem sound_dispose
    (sound : subscriber.Sound)
    (id : Nat) :
    (subscriber.dispose id).2.Sound := by
  rcases dispose_cases subscriber id with
    ⟨_, kept⟩ | ⟨standing, next, disposed, struck, enrolment⟩
  · rw [kept]
    exact sound
  rw [disposed]
  have isSelf : standing.id = id := (sound.numbered struck.found).1
  rw [isSelf] at enrolment
  have stays : ∀ {name life members},
      next.enrolment.find? name = some (life, members) →
        ∃ before, subscriber.enrolment.find? name = some (life, before) ∧ members ≠ [] ∧
          ∀ other ∈ members, other ∈ before ∧ (name = standing.category → other ≠ id) := by
    intro name life members found
    rw [enrolment] at found
    split at found
    next isCategory =>
      obtain ⟨⟨_, before⟩, known, remains⟩ := Option.bind_eq_some_iff.mp found
      obtain ⟨rfl, notEmpty, each⟩ := mem_of_remaining remains
      exact ⟨before, known, notEmpty, fun other member =>
        (each other member).imp_right fun different _ => different⟩
    next elsewhere =>
      exact ⟨members, found, sound.inhabited found, fun other member =>
        ⟨member, fun isCategory => absurd isCategory elsewhere⟩⟩
  constructor
  · intro sought known found
    rw [struck.roll, Table.find?_insert] at found
    rw [struck.nextSubscription]
    split at found
    next isDisposed =>
      cases found
      exact ⟨isDisposed ▸ isSelf, isDisposed ▸ (sound.numbered struck.found).2⟩
    next => exact sound.numbered found
  · intro running sought known found isOpen
    rw [struck.stopped] at running
    rw [struck.roll, Table.find?_insert] at found
    split at found
    next =>
      cases found
      cases isOpen
    next different =>
      obtain ⟨members, enrolled, member⟩ := sound.enrolled running found isOpen
      rw [enrolment, enrolled]
      split
      next => exact ⟨_, remaining_of_mem member different⟩
      next => exact ⟨members, rfl, member⟩
  · intro name life members other found member
    obtain ⟨before, known, _, each⟩ := stays found
    obtain ⟨wasMember, notSelf⟩ := each other member
    have rolled := sound.rolled known wasMember
    have different : other ≠ id := by
      intro isDisposed
      rw [isDisposed, struck.found] at rolled
      have inCategory : name = standing.category := by rw [Option.some.inj rolled]
      exact notSelf inCategory isDisposed
    rw [struck.roll, Table.find?_insert, if_neg different]
    exact rolled
  · intro name life members found
    obtain ⟨_, _, notEmpty, _⟩ := stays found
    exact notEmpty
  · intro ended
    rw [struck.stopped] at ended
    apply Table.ext_find?
    intro name
    rw [enrolment, sound.ended ended]
    split <;> rfl

/-- Without categories only the numbers of the subscriptions matter. -/
theorem Sound.of_ended
    (numbered : ∀ {id standing}, subscriber.roll.find? id = some standing →
      standing.id = id ∧ id < subscriber.nextSubscription)
    (stopped : subscriber.stopped = true)
    (none : subscriber.enrolment = ∅) :
    subscriber.Sound := by
  refine ⟨numbered, fun running => ?_, fun found => ?_, fun found => ?_, fun _ => none⟩
  · rw [stopped] at running
    cases running
  · rw [none] at found
    cases found
  · rw [none] at found
    cases found

/-- Marking in a stopped subscriber leaves it sound: it has no categories any more. -/
theorem sound_markDisposed
    (sound : subscriber.Sound)
    (stopped : subscriber.stopped = true)
    (id : Nat) :
    (subscriber.markDisposed id).2.Sound := by
  rcases markDisposed_cases subscriber id with
    ⟨_, kept⟩ | ⟨standing, next, marked, struck, enrolment⟩
  · rw [kept]
    exact sound
  rw [marked]
  refine .of_ended (fun {sought known} found => ?_) (struck.stopped.trans stopped)
    (enrolment.trans (sound.ended stopped))
  rw [struck.roll, Table.find?_insert] at found
  rw [struck.nextSubscription]
  split at found
  next isMarked =>
    cases found
    rw [isMarked]
    exact ⟨(sound.numbered struck.found).1, (sound.numbered struck.found).2⟩
  next => exact sound.numbered found

/-- Shutting down disposes nothing yet, but names every open subscription. -/
theorem shut_cases (subscriber : Subscriber) :
    (subscriber.stopped = true ∧ subscriber.shut = ([], subscriber)) ∨
      ∃ targets next,
        subscriber.stopped = false ∧ subscriber.shut = (targets, next) ∧
          next.roll = subscriber.roll ∧ next.enrolment = ∅ ∧ next.stopped = true ∧
          next.nextSubscription = subscriber.nextSubscription ∧
          targets.Perm (subscriber.enrolment.values.flatMap Prod.snd) := by
  unfold shut
  split
  next stopped => exact .inl ⟨stopped, rfl⟩
  next running =>
    have advanced : ∀ (categories : List Category) (current : Subscriber),
        (categories.foldl (fun current category => current.advance category.epoch)
          current).subscriptions = current.subscriptions ∧
        (categories.foldl (fun current category => current.advance category.epoch)
          current).nextSubscription = current.nextSubscription := by
      intro categories
      induction categories with
      | nil => exact fun current => ⟨rfl, rfl⟩
      | cons category rest inductionHypothesis =>
          exact fun current => inductionHypothesis (current.advance category.epoch)
    obtain ⟨subscriptions, number⟩ := advanced subscriber.lives subscriber
    refine .inr ⟨_, _, Bool.eq_false_iff.mpr running, rfl, ?_, rfl, rfl, number, ?_⟩
    · rw [roll, roll]
      exact congrArg (Table.map · fun _ subscription => subscription.standing) subscriptions
    · refine (subscriber.perm_lives.flatMap_right _).trans (.of_eq ?_)
      simp only [enrolment, Table.values, Table.map, List.map_map, List.flatMap_map]
      rfl

theorem sound_shut (sound : subscriber.Sound) : subscriber.shut.2.Sound := by
  rcases shut_cases subscriber with
    ⟨_, kept⟩ | ⟨targets, next, _, ended, roll, none, stopped, number, _⟩
  · rw [kept]
    exact sound
  rw [ended]
  refine .of_ended ?_ stopped none
  rw [roll, number]
  exact sound.numbered

/-- Every open subscription is among those that shutting down names. -/
theorem mem_shut
    (sound : subscriber.Sound)
    (running : subscriber.stopped = false)
    {id : Nat}
    (isOpen : subscriber.isOpen id = true) :
    id ∈ subscriber.shut.1 := by
  rcases shut_cases subscriber with
    ⟨stopped, _⟩ | ⟨targets, next, _, ended, _, _, _, _, isTargets⟩
  · rw [running] at stopped
    cases stopped
  obtain ⟨standing, found, notDisposed⟩ := (Option.any_eq_true _ _).mp isOpen
  obtain ⟨members, enrolled, member⟩ :=
    sound.enrolled running found (by simpa using notDisposed)
  rw [ended]
  refine isTargets.mem_iff.mpr (List.mem_flatMap.mpr ⟨(standing.epoch, members), ?_, member⟩)
  exact List.mem_map_of_mem (f := Prod.snd) (Table.find?_eq_some_iff.mp enrolled)

/-- Counting finds no open subscription exactly if there is none. -/
theorem openCount_eq_zero_iff :
    subscriber.openCount = 0 ↔ ∀ id, subscriber.isOpen id = false := by
  refine Table.count_eq_zero_iff.trans (forall_congr' fun id => ?_)
  rw [isOpen]
  cases subscriber.roll.find? id <;> simp

end Leaving

end Subscriber

end Discovery
