import Discovery.Agent.Error
import Discovery.Subscriber.Subscription
import Discovery.Table.Shuffle
import Discovery.Timer

namespace Discovery

/-!
# Subscribers

A subscriber keeps, for each category with an open subscription, what the
others have announced.  An announcement adds or refreshes an entry; a bye-bye
or the passing of its time removes it.  Every change that a reader can see
advances the serial number of the category, marks the category and calls the
delivery task, which later collects the subscriptions to be told.

A category lives from its first subscription to its last.  Each life has a
number of its own, under which its serial number is kept, because a
subscription that was disposed goes on showing the serial number of the life
that it belonged to.

The categories are in no order: whoever goes through all of them meets some
categories first (`Subscriber.front`), and these may become others at any time.
Serial numbers are numbers without bound; none of them ever exceeds the number of
things that have happened (`Moment.serial_le_length`).
-/

/-- What is known in one category. -/
structure Category where
  epoch : Nat
  resources : Table ResourceId RemoteEntry
  /-- Whether a change is still to be told. -/
  dirty : Bool
  /-- The open subscriptions, in the order in which they were made. -/
  members : List Nat
  deriving DecidableEq, Repr

namespace Category

/-- The resources of a category in the order of their identifiers. -/
def listing (category : Category) : List RemoteResource :=
  category.resources.values.map RemoteEntry.resource

end Category

/-- Categories and subscriptions. -/
structure Subscriber where
  categories : Table String Category byteOrder
  /-- The category in which each resource is known. -/
  index : Table ResourceId String
  /-- The serial number of each life of a category. -/
  serials : Table Nat Nat
  subscriptions : Table Nat Subscription
  nextSubscription : Nat
  nextEpoch : Nat
  stopped : Bool
  /-- The timer of the next entry to lapse. -/
  timer : Timer
  /-- Whether the delivery task has been called. -/
  called : Bool
  /-- The categories that come first when all of them are gone through. -/
  front : List String
  deriving Repr

namespace Subscriber

/-- A subscriber without subscriptions, whose delivery task is about to start. -/
def new : Subscriber :=
  ⟨∅, ∅, ∅, ∅, 1, 0, false, .new, true, []⟩

/-- The categories in the order in which they are gone through. -/
def lives (subscriber : Subscriber) : List Category :=
  subscriber.categories.shuffledValues subscriber.front

theorem perm_lives (subscriber : Subscriber) :
    subscriber.lives.Perm subscriber.categories.values :=
  subscriber.categories.perm_shuffledValues subscriber.front

theorem mem_lives {subscriber : Subscriber} {category : Category} :
    category ∈ subscriber.lives ↔ ∃ name, subscriber.categories.find? name = some category :=
  Table.mem_shuffledValues.trans Table.mem_values_iff

/-- The serial number of a life of a category. -/
def serial (subscriber : Subscriber) (epoch : Nat) : Nat :=
  (subscriber.serials.find? epoch).getD 0

/-- Call the delivery task. -/
def call (subscriber : Subscriber) : Subscriber :=
  { subscriber with called := true }

/-- Advance the serial number of a life of a category. -/
def advance (subscriber : Subscriber) (epoch : Nat) : Subscriber :=
  { subscriber with serials := subscriber.serials.insert epoch (subscriber.serial epoch + 1) }

/-- Change a subscription. -/
def update
    (subscriber : Subscriber)
    (id : Nat)
    (change : Subscription → Subscription) : Subscriber :=
  { subscriber with subscriptions := subscriber.subscriptions.modify id change }

/-- Enter what is known in a category, after a change that readers can see. -/
def change (subscriber : Subscriber) (name : String) (category : Category) : Subscriber :=
  let entered :=
    { subscriber with
      categories := subscriber.categories.insert name { category with dirty := true } }
  (entered.advance category.epoch).call

/--
Subscribe to a category.  The result is the subscription and whether the
category has just come to life.
-/
def subscribe
    (subscriber : Subscriber)
    (name : String) : Except AgentError (Nat × Bool) × Subscriber :=
  match Wire.checkText name with
  | .error cause => (.error (.unencodable cause), subscriber)
  | .ok () =>
      if subscriber.stopped then (.error .disposed, subscriber)
      else
        let id := subscriber.nextSubscription
        match subscriber.categories.find? name with
        | some category =>
            ( .ok (id, false)
            , { subscriber with
                categories :=
                  subscriber.categories.insert name
                    { category with members := category.members ++ [id] }
                subscriptions :=
                  subscriber.subscriptions.insert id (.new id name category.epoch)
                nextSubscription := id + 1 } )
        | none =>
            let epoch := subscriber.nextEpoch
            ( .ok (id, true)
            , { subscriber with
                categories := subscriber.categories.insert name ⟨epoch, ∅, false, [id]⟩
                serials := subscriber.serials.insert epoch 0
                subscriptions := subscriber.subscriptions.insert id (.new id name epoch)
                nextSubscription := id + 1
                nextEpoch := epoch + 1 } )

/-- Strike a subscription off its category, which ends with its last one. -/
def leave (subscriber : Subscriber) (subscription : Subscription) : Subscriber :=
  match subscriber.categories.find? subscription.category with
  | none => subscriber
  | some category =>
      let members := category.members.filter (· != subscription.id)
      if members.isEmpty then
        { subscriber with
          categories := subscriber.categories.erase subscription.category
          index := subscriber.index.eraseMany category.resources.keys }
      else
        { subscriber with
          categories :=
            subscriber.categories.insert subscription.category
              { category with members := members } }

/-- Mark a subscription as disposed, and say whether it was open. -/
def markDisposed (subscriber : Subscriber) (id : Nat) : Bool × Subscriber :=
  match subscriber.subscriptions.find? id with
  | none => (false, subscriber)
  | some subscription =>
      if subscription.disposed then (false, subscriber)
      else (true, subscriber.update id fun known => { known with disposed := true })

/-- Dispose a subscription, and say whether it was open. -/
def dispose (subscriber : Subscriber) (id : Nat) : Bool × Subscriber :=
  match subscriber.subscriptions.find? id with
  | none => (false, subscriber)
  | some subscription =>
      let (wasOpen, marked) := subscriber.markDisposed id
      if wasOpen then (true, marked.leave subscription) else (false, subscriber)

/-- A list of resources as a reader gets it. -/
structure Reading where
  resources : List RemoteResource
  /-- The serial number under which the subscription keeps this list, if it keeps it. -/
  keptAt : Option Nat
  /-- Whether the list had been kept before. -/
  reused : Bool
  deriving DecidableEq, Repr

/-- The list of someone who may see nothing. -/
def Reading.nothing : Reading :=
  ⟨[], none, false⟩

/-- Make the list of a category anew, and let a subscription keep it. -/
def readFresh (subscriber : Subscriber) (subscription : Subscription) : Reading × Subscriber :=
  match subscriber.categories.find? subscription.category with
  | none => (.nothing, subscriber)
  | some category =>
      let serial := subscriber.serial category.epoch
      let resources := category.listing
      if subscription.cache.all fun kept => decide (kept.serial < serial) then
        ( ⟨resources, some serial, false⟩
        , subscriber.update subscription.id fun known =>
            { known with cache := some ⟨serial, resources⟩ } )
      else (⟨resources, none, false⟩, subscriber)

/--
The resources that a subscription sees.  A list that was kept is used again
while the serial number has not moved.
-/
def read (subscriber : Subscriber) (id : Nat) : Reading × Subscriber :=
  match subscriber.subscriptions.find? id with
  | none => (.nothing, subscriber)
  | some subscription =>
      if subscription.disposed then (.nothing, subscriber)
      else
        match subscription.cache with
        | some kept =>
            if kept.serial = subscriber.serial subscription.epoch then
              (⟨kept.resources, some kept.serial, true⟩, subscriber)
            else subscriber.readFresh subscription
        | none => subscriber.readFresh subscription

/-- Whether a resource is known in another category than the one given. -/
def knownElsewhere (subscriber : Subscriber) (id : ResourceId) (category : String) : Bool :=
  (subscriber.index.find? id).any (· != category)

/--
Handle a hello or a reply.  It counts only if it names a resource, its category
is subscribed, and the resource is not known in another category.
-/
def hear
    (subscriber : Subscriber)
    (now : Instant)
    (id : ResourceId)
    (announcement : Wire.Announcement) : Subscriber :=
  if id.isNil ∨ subscriber.stopped ∨ subscriber.knownElsewhere id announcement.category then
    subscriber
  else
    match subscriber.categories.find? announcement.category with
    | none => subscriber
    | some category =>
        let expiresAt := lapse now announcement
        let heard : RemoteEntry := ⟨.ofAnnouncement id announcement, expiresAt⟩
        let armed := { subscriber with timer := subscriber.timer.armEarlier expiresAt }
        match category.resources.find? id with
        | none =>
            let indexed := { armed with index := armed.index.insert id announcement.category }
            indexed.change announcement.category
              { category with resources := category.resources.insert id heard }
        | some entry =>
            if entry.resource.differsFrom announcement then
              armed.change announcement.category
                { category with resources := category.resources.insert id heard }
            else
              { armed with
                categories :=
                  armed.categories.insert announcement.category
                    { category with
                      resources :=
                        category.resources.insert id { entry with expiresAt := expiresAt } } }

/-- Handle a bye-bye. -/
def forget (subscriber : Subscriber) (id : ResourceId) : Subscriber :=
  if subscriber.stopped then subscriber
  else
    match subscriber.index.find? id with
    | none => subscriber
    | some name =>
        let struck := { subscriber with index := subscriber.index.erase id }
        match struck.categories.find? name with
        | none => struck
        | some category =>
            if category.resources.contains id then
              struck.change name { category with resources := category.resources.erase id }
            else struck

/-- The earliest time at which some entry lapses. -/
def nextLapse? (subscriber : Subscriber) : Option Instant :=
  (subscriber.categories.values.flatMap fun category =>
    category.resources.values.map RemoteEntry.expiresAt).min?

/-- Drop the entries of one category that have lapsed. -/
def expireCategory (now : Instant) (subscriber : Subscriber) (name : String) : Subscriber :=
  match subscriber.categories.find? name with
  | none => subscriber
  | some category =>
      let kept := category.resources.filter fun _ entry => decide (now < entry.expiresAt)
      let lapsed := category.resources.filter fun _ entry => decide (entry.expiresAt ≤ now)
      if lapsed.isEmpty then subscriber
      else
        let struck := { subscriber with index := subscriber.index.eraseMany lapsed.keys }
        struck.change name { category with resources := kept }

/-- What is done when the timer fires: drop what has lapsed. -/
def expire (subscriber : Subscriber) (now : Instant) : Subscriber :=
  if subscriber.stopped then subscriber
  else
    let swept := subscriber.categories.keys.foldl (expireCategory now) subscriber
    { swept with timer := swept.timer.armEarlier? swept.nextLapse? }

/-- One turn of the timer. -/
def turn (subscriber : Subscriber) (now : Instant) : Subscriber :=
  let (fires, timer) := subscriber.timer.turn now
  if fires then expire { subscriber with timer := timer } now
  else { subscriber with timer := timer }

/-- Take the subscriptions of every category with an untold change. -/
def collect (subscriber : Subscriber) : List Nat × Subscriber :=
  let answered := { subscriber with called := false }
  if subscriber.stopped then ([], answered)
  else
    ( (subscriber.lives.filter Category.dirty).flatMap Category.members
    , { answered with
        categories :=
          subscriber.categories.map fun _ category => { category with dirty := false } } )

/-- Forget every category for good, and say which subscriptions were open. -/
def shut (subscriber : Subscriber) : List Nat × Subscriber :=
  if subscriber.stopped then ([], subscriber)
  else
    let ended := subscriber.lives
    let advanced := ended.foldl (fun current category => current.advance category.epoch) subscriber
    ( ended.flatMap Category.members
    , { advanced with
        categories := ∅
        index := ∅
        stopped := true
        timer := subscriber.timer.close
        called := true } )

end Subscriber

end Discovery
