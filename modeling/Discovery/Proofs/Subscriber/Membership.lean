import Discovery.Proofs.Subscriber.Outcomes
import Discovery.Proofs.Subscriber.Revision

namespace Discovery

/-!
# Who is subscribed

A subscriber keeps account of its subscriptions twice: in the table of all
subscriptions, the disposed ones included, and in the lists of members of the
categories.  `Subscriber.Sound` says that the two agree.  Subscribing,
disposing and shutting down keep them in agreement, and everything else that a
subscriber does leaves both as they are.
-/

/-- What a subscription is to its subscriber; its list and its callbacks do not matter. -/
structure Standing where
  id : Nat
  category : String
  epoch : Nat
  disposed : Bool
  deriving DecidableEq, Repr

/-- The standing of a subscription. -/
def Subscription.standing (subscription : Subscription) : Standing :=
  ⟨subscription.id, subscription.category, subscription.epoch, subscription.disposed⟩

namespace Subscriber

/-- The standing of every subscription there has been. -/
def roll (subscriber : Subscriber) : Table Nat Standing :=
  subscriber.subscriptions.map fun _ subscription => subscription.standing

/-- The life and the members of every category. -/
def enrolment (subscriber : Subscriber) : Table String (Nat × List Nat) byteOrder :=
  subscriber.categories.map fun _ category => (category.epoch, category.members)

/-- How many subscriptions are open. -/
def openCount (subscriber : Subscriber) : Nat :=
  subscriber.roll.count fun standing => !standing.disposed

/-- Whether a subscription is open. -/
def isOpen (subscriber : Subscriber) (id : Nat) : Bool :=
  (subscriber.roll.find? id).any fun standing => !standing.disposed

/-- The subscriptions and the members of the categories agree. -/
structure Sound (subscriber : Subscriber) : Prop where
  numbered : ∀ {id standing}, subscriber.roll.find? id = some standing →
    standing.id = id ∧ id < subscriber.nextSubscription
  enrolled : subscriber.stopped = false →
    ∀ {id standing}, subscriber.roll.find? id = some standing → standing.disposed = false →
      ∃ members, subscriber.enrolment.find? standing.category = some (standing.epoch, members) ∧
        id ∈ members
  rolled : ∀ {name epoch members id}, subscriber.enrolment.find? name = some (epoch, members) →
    id ∈ members → subscriber.roll.find? id = some ⟨id, name, epoch, false⟩
  inhabited : ∀ {name epoch members},
    subscriber.enrolment.find? name = some (epoch, members) → members ≠ []
  ended : subscriber.stopped = true → subscriber.enrolment = ∅

/-- Two subscribers agree on who is subscribed. -/
structure SameMembership (after before : Subscriber) : Prop where
  roll : after.roll = before.roll
  enrolment : after.enrolment = before.enrolment
  stopped : after.stopped = before.stopped
  nextSubscription : after.nextSubscription = before.nextSubscription

namespace SameMembership

theorem refl (subscriber : Subscriber) : SameMembership subscriber subscriber :=
  ⟨rfl, rfl, rfl, rfl⟩

theorem trans
    {first second third : Subscriber}
    (later : SameMembership third second)
    (earlier : SameMembership second first) :
    SameMembership third first :=
  ⟨later.roll.trans earlier.roll, later.enrolment.trans earlier.enrolment,
    later.stopped.trans earlier.stopped,
    later.nextSubscription.trans earlier.nextSubscription⟩

variable {after before : Subscriber}

theorem sound (same : SameMembership after before) (sound : before.Sound) : after.Sound := by
  obtain ⟨roll, enrolment, stopped, next⟩ := same
  constructor
  · rw [roll, next]
    exact sound.numbered
  · rw [roll, enrolment, stopped]
    exact sound.enrolled
  · rw [roll, enrolment]
    exact sound.rolled
  · rw [enrolment]
    exact sound.inhabited
  · rw [enrolment, stopped]
    exact sound.ended

theorem openCount (same : SameMembership after before) : after.openCount = before.openCount := by
  rw [Subscriber.openCount, same.roll, Subscriber.openCount]

theorem isOpen
    (same : SameMembership after before)
    (id : Nat) :
    after.isOpen id = before.isOpen id := by
  rw [Subscriber.isOpen, same.roll, Subscriber.isOpen]

end SameMembership

section Quiet

variable {subscriber : Subscriber}

/-- Changing a category in place changes no enrolment if its life and members stay. -/
theorem enrolment_insert
    {name : String}
    {before after : Category}
    (found : subscriber.categories.find? name = some before)
    (epoch : after.epoch = before.epoch)
    (members : after.members = before.members) :
    (subscriber.categories.insert name after).map
        (fun _ category => (category.epoch, category.members)) =
      subscriber.enrolment := by
  apply Table.ext_find?
  intro sought
  simp only [enrolment, Table.find?_map, Table.find?_insert]
  split
  next isName => rw [isName, found, Option.map_some, Option.map_some, epoch, members]
  next => rfl

/-- A change that readers can see concerns no membership. -/
theorem sameMembership_change
    {name : String}
    {before after : Category}
    (found : subscriber.categories.find? name = some before)
    (epoch : after.epoch = before.epoch)
    (members : after.members = before.members) :
    SameMembership (subscriber.change name after) subscriber :=
  ⟨rfl, enrolment_insert found epoch members, rfl, rfl⟩

/-- A message concerns no membership. -/
theorem sameMembership_revise
    (subscriber : Subscriber)
    (revision : Revision) :
    SameMembership (subscriber.revise revision) subscriber := by
  refine ⟨rfl, ?_, rfl, rfl⟩
  obtain absent | ⟨category, found⟩ :=
    Option.eq_none_or_eq_some (subscriber.categories.find? revision.category)
  · simp only [enrolment, revise, Table.modify_of_find?_eq_none absent]
  · simp only [revise, Table.modify_eq_insert found]
    exact enrolment_insert found rfl rfl

theorem sameMembership_hear
    (subscriber : Subscriber)
    (now : Instant)
    (id : StreamId)
    (announcement : Wire.Announcement) :
    SameMembership (subscriber.hear now id announcement) subscriber := by
  rw [hear_eq_revise]
  cases subscriber.heard? now id announcement with
  | none => exact .refl subscriber
  | some revision => exact sameMembership_revise subscriber revision

theorem sameMembership_forget
    (subscriber : Subscriber)
    (id : StreamId) :
    SameMembership (subscriber.forget id) subscriber := by
  rw [forget_eq_revise]
  cases subscriber.withdrawn? id with
  | none => exact .refl subscriber
  | some revision => exact sameMembership_revise subscriber revision

theorem sameMembership_expireCategory
    (now : Instant)
    (subscriber : Subscriber)
    (name : String) :
    SameMembership (expireCategory now subscriber name) subscriber := by
  have ends := subscriber.expires_expireCategory now name
  generalize expireCategory now subscriber name = next at ends ⊢
  cases ends with
  | kept => exact .refl subscriber
  | @lapsed category lapsed found =>
      let struck : Subscriber :=
        { subscriber with index := subscriber.index.eraseMany lapsed.keys }
      have same : SameMembership struck subscriber := ⟨rfl, rfl, rfl, rfl⟩
      have kept : struck.categories.find? name = some category := found
      exact SameMembership.trans (sameMembership_change kept rfl rfl) same

theorem sameMembership_turn
    (subscriber : Subscriber)
    (now : Instant) :
    SameMembership (subscriber.turn now) subscriber := by
  refine subscriber.turn_induction (motive := (SameMembership · subscriber)) now
    (.refl subscriber) ?timed ?expired
  case timed =>
    exact fun _ same => ⟨same.roll, same.enrolment, same.stopped, same.nextSubscription⟩
  case expired =>
    exact fun name same => (sameMembership_expireCategory now _ name).trans same

/-- Collecting takes only the marks off the categories. -/
theorem sameMembership_collect (subscriber : Subscriber) :
    SameMembership subscriber.collect.2 subscriber := by
  unfold collect
  dsimp only
  split
  next => exact ⟨rfl, rfl, rfl, rfl⟩
  next =>
    refine ⟨rfl, ?_, rfl, rfl⟩
    apply Table.ext_find?
    intro name
    simp only [enrolment, Table.find?_map, Option.map_map]
    rfl

theorem sameMembership_shuffle
    (subscriber : Subscriber)
    (front : List String) :
    SameMembership { subscriber with front := front } subscriber :=
  ⟨rfl, rfl, rfl, rfl⟩

/-- Updating a subscription in its list and its callbacks concerns no membership. -/
theorem sameMembership_update
    (subscriber : Subscriber)
    (id : Nat)
    {change : Subscription → Subscription}
    (alike : ∀ known, (change known).standing = known.standing) :
    SameMembership (subscriber.update id change) subscriber := by
  refine ⟨?_, rfl, rfl, rfl⟩
  apply Table.ext_find?
  intro sought
  simp only [roll, update, Table.find?_map, Table.find?_modify]
  split
  next =>
    rw [Option.map_map]
    congr 1
    funext known
    exact alike known
  next => rfl

/-- Reading changes nothing but the list that a subscription keeps. -/
theorem read_cases
    (subscriber : Subscriber)
    (id : Nat) :
    (subscriber.read id).2 = subscriber ∨
      ∃ sought kept, (subscriber.read id).2 =
        subscriber.update sought fun known => { known with cache := some kept } := by
  have fresh : ∀ subscription, (subscriber.readFresh subscription).2 = subscriber ∨
      ∃ sought kept, (subscriber.readFresh subscription).2 =
        subscriber.update sought fun known => { known with cache := some kept } := by
    intro subscription
    unfold readFresh
    split
    next => exact .inl rfl
    next =>
      dsimp only
      split
      next => exact .inr ⟨_, _, rfl⟩
      next => exact .inl rfl
  unfold read
  split
  next => exact .inl rfl
  next subscription _ =>
    split
    next => exact .inl rfl
    next =>
      split
      next =>
        split
        next => exact .inl rfl
        next => exact fresh subscription
      next => exact fresh subscription

theorem sameMembership_read
    (subscriber : Subscriber)
    (id : Nat) :
    SameMembership (subscriber.read id).2 subscriber := by
  rcases subscriber.read_cases id with same | ⟨sought, _, same⟩ <;> rw [same]
  · exact .refl subscriber
  · exact sameMembership_update subscriber sought fun _ => rfl

end Quiet

end Subscriber

end Discovery
