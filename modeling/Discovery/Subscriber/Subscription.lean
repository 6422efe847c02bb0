import Discovery.Resource.Remote

namespace Discovery

/-!
# Subscriptions

A subscription watches one category.  It keeps the list of resources that it
last read, tells callbacks about changes, and signals the serial number of the
category to whoever waits for one.  A callback is given by its name and by
what it does in each of its runs; what it does is the business of the agent
that the subscription belongs to.  Serial numbers are numbers without bound; how
great they become is told by `Moment.serial_le_length`.
-/

/-- Something asked of an agent; the outcome is reported under the given name. -/
inductive Request where
  | subscribe (name category : String)
  | publish (name : String) (id : ResourceId) (category connection : String)
  deriving DecidableEq, Repr

/-- What a callback does in one of its runs, besides reporting it. -/
inductive Action where
  /-- Dispose a subscription of the same agent. -/
  | dispose (subscription : Nat)
  /-- Register a further callback on a subscription of the same agent. -/
  | listen (subscription : Nat) (name : String) (script : List (List Action))
  /-- Ask something of the same agent. -/
  | perform (request : Request)
  /-- Ask something of another agent. -/
  | elsewhere (agent : String) (request : Request)
  deriving Repr

/-- A callback, with what it will do in its next runs. -/
structure Callback where
  name : String
  script : List (List Action)
  deriving Repr

/-- A list of resources and the serial number of the category when it was made. -/
structure CachedList where
  serial : Nat
  resources : List RemoteResource
  deriving DecidableEq, Repr

/-- A subscription. -/
structure Subscription where
  id : Nat
  category : String
  /-- Which life of the category this subscription belongs to. -/
  epoch : Nat
  cache : Option CachedList
  callbacks : List Callback
  /-- The serial number signalled last. -/
  signal : Nat
  /-- How often a serial number was signalled. -/
  signals : Nat
  disposed : Bool
  deriving Repr

namespace Subscription

/-- A subscription that has seen nothing. -/
def new (id : Nat) (category : String) (epoch : Nat) : Subscription :=
  ⟨id, category, epoch, none, [], 0, 0, false⟩

/-- Register a callback. -/
def listen (subscription : Subscription) (callback : Callback) : Subscription :=
  { subscription with callbacks := subscription.callbacks ++ [callback] }

/-- Signal a serial number. -/
def notice (subscription : Subscription) (serial : Nat) : Subscription :=
  { subscription with signal := serial, signals := subscription.signals + 1 }

end Subscription

end Discovery
