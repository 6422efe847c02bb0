import Discovery.Config.Basic
import Discovery.Publisher.Basic
import Discovery.Subscriber.Basic
import Discovery.Wire.Decode

namespace Discovery

/-!
# Agents

An agent composes a publisher and a subscriber, each made on first use, over
one transport.  Every open subscription and the publisher count as users of the
transport: it is started for the first of them and stopped after the last.
An agent is created, becomes active, and is disposed for good.

An operation may put out several things in order: it starts and stops the
transport, sends payloads, and runs callbacks.  `Progress` is an agent in the
middle of an operation together with what it has put out so far.  Operations are
carried out one after another; only callbacks may do something in the middle of
one.
-/

/-- The stages of an agent's life. -/
inductive Lifecycle where
  | created
  | active
  | disposed
  deriving DecidableEq, Repr

/-- The transport as its agent sees it. -/
structure Link where
  running : Bool
  /--
  What the next attempts to start come to: the cause of each failure, and
  nothing for each success.  When they are used up, starting succeeds.
  -/
  attempts : List (Option TransportError)
  deriving DecidableEq, Repr

/-- Try to start the transport. -/
def Link.start (link : Link) : Except TransportError Unit × Link :=
  match link.attempts.head?.join with
  | some cause => (.error cause, { link with attempts := link.attempts.tail })
  | none => (.ok (), ⟨true, link.attempts.tail⟩)

/-- What became of a request. -/
inductive Outcome where
  | subscribed (name : String) (subscription : Nat)
  | published (name : String) (id : ResourceId)
  | refused (cause : AgentError)
  deriving DecidableEq, Repr

/--
What an agent puts out.  What becomes of its count of users is put out as well;
the transport itself is concerned only with the first user and the last.
-/
inductive Output where
  /-- The transport was started for its first user. -/
  | started
  /-- The transport did not start. -/
  | startFailed
  /-- A further user joined those of a running transport. -/
  | joined
  /-- A user left a transport that others still use. -/
  | left
  /-- The transport was stopped after its last user. -/
  | stopped
  /-- A user was to leave although there was none. -/
  | overdrawn
  | sent (outgoing : Outgoing)
  /-- A callback of a subscription ran while the serial number of its category was the one given. -/
  | updated (subscription : Nat) (callback : String) (serial : Nat)
  /-- A callback made a request of its own agent. -/
  | acted (callback : String) (outcome : Outcome)
  /-- A callback makes a request of another agent. -/
  | asked (callback : String) (agent : String) (request : Request)
  deriving DecidableEq, Repr

/-- An agent. -/
structure Agent where
  settings : AgentSettings
  link : Link
  /-- How many users the transport has. -/
  users : Nat
  lifecycle : Lifecycle
  publisher : Option Publisher
  subscriber : Option Subscriber
  deriving Repr

/-- An agent in the middle of an operation, and what it has put out. -/
structure Progress where
  agent : Agent
  outputs : List Output
  deriving Repr

namespace Agent

/-- An agent that has done nothing; it needs something on which its tasks can run. -/
def create
    (runtime : Bool)
    (settings : AgentSettings)
    (attempts : List (Option TransportError)) : Except AgentError Agent :=
  if runtime then .ok ⟨settings, ⟨false, attempts⟩, 0, .created, none, none⟩
  else .error .noRuntime

/-- Whether an agent is disposed. -/
def isDisposed (agent : Agent) : Bool :=
  agent.lifecycle == .disposed

/-- The resources that an agent has published and not withdrawn. -/
def localResources (agent : Agent) : List LocalResource :=
  agent.publisher.elim [] Publisher.resources

/-- A resource that an agent has published, as it is now. -/
def localResource? (agent : Agent) (id : ResourceId) : Option LocalResource :=
  agent.publisher.bind fun publisher => publisher.resource? id

/-- A subscription of an agent, open or not. -/
def subscription? (agent : Agent) (id : Nat) : Option Subscription :=
  agent.subscriber.bind fun subscriber => subscriber.subscriptions.find? id

/-- The serial number that a subscription shows. -/
def serial (agent : Agent) (id : Nat) : Nat :=
  match agent.subscriber, agent.subscription? id with
  | some subscriber, some subscription => subscriber.serial subscription.epoch
  | _, _ => 0

/-- Change the subscriber, if there is one. -/
def updateSubscriber (agent : Agent) (change : Subscriber → Subscriber) : Agent :=
  { agent with subscriber := agent.subscriber.map change }

/-- Register a callback on a subscription. -/
def listen (agent : Agent) (subscription : Nat) (callback : Callback) : Agent :=
  agent.updateSubscriber fun subscriber =>
    subscriber.update subscription fun known => known.listen callback

/-- Let other categories and other resources come first when all of them are gone through. -/
def shuffle (agent : Agent) (categories : List String) (resources : List ResourceId) : Agent :=
  { agent with
    publisher := agent.publisher.map fun publisher => { publisher with front := resources }
    subscriber := agent.subscriber.map fun subscriber => { subscriber with front := categories } }

/-- The resources that a subscription sees. -/
def read (agent : Agent) (subscription : Nat) : Subscriber.Reading × Agent :=
  match agent.subscriber with
  | none => (.nothing, agent)
  | some subscriber =>
      let (reading, next) := subscriber.read subscription
      (reading, { agent with subscriber := some next })

/-- An agent at the beginning of an operation. -/
def begin (agent : Agent) : Progress :=
  ⟨agent, []⟩

end Agent

namespace Progress

/-- Put something out. -/
def emit (progress : Progress) (output : Output) : Progress :=
  { progress with outputs := progress.outputs ++ [output] }

/-- Send payloads one after another. -/
def send (progress : Progress) (outgoing : List Outgoing) : Progress :=
  { progress with outputs := progress.outputs ++ outgoing.map .sent }

/-- Become a user of the transport, which is started for the first one. -/
def acquire (progress : Progress) : Except TransportError Unit × Progress :=
  let agent := progress.agent
  if agent.users = 0 then
    match agent.link.start with
    | (.error cause, link) =>
        ( .error cause
        , { progress with agent := { agent with link := link } }.emit .startFailed )
    | (.ok (), link) =>
        ( .ok ()
        , { progress with agent := { agent with link := link, users := 1 } }.emit .started )
  else
    ( .ok ()
    , { progress with agent := { agent with users := agent.users + 1 } }.emit .joined )

/-- Cease to be a user of the transport, which is stopped after the last one. -/
def release (progress : Progress) : Progress :=
  let agent := progress.agent
  match agent.users with
  | 0 => progress.emit .overdrawn
  | 1 =>
      { progress with
        agent :=
          { agent with link := { agent.link with running := false }, users := 0 } }.emit .stopped
  | users + 2 => { progress with agent := { agent with users := users + 1 } }.emit .left

/-- Cease to be several users of the transport. -/
def releaseMany (progress : Progress) : Nat → Progress
  | 0 => progress
  | count + 1 => progress.release.releaseMany count

/-- Take the lifecycle to active. -/
def activate (progress : Progress) : Progress :=
  { progress with agent := { progress.agent with lifecycle := .active } }

/-- Let the agent have a publisher. -/
def enterPublisher (progress : Progress) (publisher : Publisher) : Progress :=
  { progress with agent := { progress.agent with publisher := some publisher } }

/-- Let the agent have a subscriber. -/
def enterSubscriber (progress : Progress) (subscriber : Subscriber) : Progress :=
  { progress with agent := { progress.agent with subscriber := some subscriber } }

/-- Watch a category; the first subscription to it asks everyone for its resources. -/
def subscribe (progress : Progress) (category : String) : Except AgentError Nat × Progress :=
  if progress.agent.lifecycle = .disposed then (.error .disposed, progress)
  else
    match progress.acquire with
    | (.error cause, failed) => (.error (.transport cause), failed)
    | (.ok (), acquired) =>
        let active := acquired.activate
        let subscriber := active.agent.subscriber.getD .new
        match subscriber.subscribe category with
        | (.error cause, next) => (.error cause, (active.enterSubscriber next).release)
        | (.ok (id, isFirst), next) =>
            let entered := active.enterSubscriber next
            if isFirst then
              (.ok id, entered.send [.broadcast .nil (Wire.Message.query category).encode])
            else (.ok id, entered)

/-- Dispose a subscription; nothing happens if it is disposed already. -/
def dispose (progress : Progress) (subscription : Nat) : Progress :=
  match progress.agent.subscriber with
  | none => progress
  | some subscriber =>
      let (wasOpen, next) := subscriber.dispose subscription
      if wasOpen then (progress.enterSubscriber next).release else progress

/-- The publisher, made on first use. -/
def obtainPublisher (progress : Progress) : Except AgentError Publisher × Progress :=
  if progress.agent.lifecycle = .disposed then (.error .disposed, progress)
  else
    match progress.agent.publisher with
    | some publisher => (.ok publisher, progress)
    | none =>
        match progress.acquire with
        | (.error cause, failed) => (.error (.transport cause), failed)
        | (.ok (), acquired) => (.ok .new, acquired.activate.enterPublisher .new)

/-- Publish a resource under a fresh identifier. -/
def publish
    (progress : Progress)
    (now : Instant)
    (id : ResourceId)
    (category connection : String)
    (attributes : Attributes) : Except AgentError Unit × Progress :=
  match progress.obtainPublisher with
  | (.error cause, refused) => (.error cause, refused)
  | (.ok publisher, obtained) =>
      let expiry := obtained.agent.settings.wireExpiry
      match publisher.publish now (.new id category connection expiry attributes) with
      | .error cause => (.error cause, obtained)
      | .ok next => (.ok (), obtained.enterPublisher next)

/-- Carry out a request. -/
def perform (progress : Progress) (now : Instant) : Request → Outcome × Progress
  | .subscribe name category =>
      match progress.subscribe category with
      | (.ok id, next) => (.subscribed name id, next)
      | (.error cause, next) => (.refused cause, next)
  | .publish name id category connection =>
      match progress.publish now id category connection ∅ with
      | (.ok (), next) => (.published name id, next)
      | (.error cause, next) => (.refused cause, next)

/-- Do what a callback does. -/
def act (now : Instant) (callback : String) (progress : Progress) : Action → Progress
  | .dispose subscription => progress.dispose subscription
  | .listen subscription name script =>
      { progress with agent := progress.agent.listen subscription ⟨name, script⟩ }
  | .perform request =>
      let (outcome, next) := progress.perform now request
      next.emit (.acted callback outcome)
  | .elsewhere agent request => progress.emit (.asked callback agent request)

/-- Run the callback at a position of a subscription's list. -/
def runCallback
    (now : Instant)
    (subscription : Nat)
    (progress : Progress)
    (position : Nat) : Progress :=
  let known? := progress.agent.subscription? subscription
  match known?.bind fun known => known.callbacks[position]? with
  | none => progress
  | some callback =>
      let agent := progress.agent.updateSubscriber fun subscriber =>
        subscriber.update subscription fun known =>
          { known with
            callbacks :=
              known.callbacks.set position { callback with script := callback.script.tail } }
      let reported :=
        { progress with agent := agent }.emit
          (.updated subscription callback.name (agent.serial subscription))
      (callback.script.head?.getD []).foldl (act now callback.name) reported

/--
Tell a subscription that its category has changed: signal the serial number
and run the callbacks registered so far.  A disposed subscription is told
nothing.
-/
def notify (now : Instant) (progress : Progress) (subscription : Nat) : Progress :=
  match progress.agent.subscription? subscription with
  | none => progress
  | some known =>
      if known.disposed then progress
      else
        let serial := progress.agent.serial subscription
        let agent := progress.agent.updateSubscriber fun subscriber =>
          subscriber.update subscription fun current => current.notice serial
        (List.range known.callbacks.length).foldl (runCallback now subscription)
          { progress with agent := agent }

/-- One turn of the delivery task: tell every subscription whose category has changed. -/
def deliver (progress : Progress) (now : Instant) : Progress :=
  match progress.agent.subscriber with
  | none => progress
  | some subscriber =>
      let (targets, next) := subscriber.collect
      targets.foldl (notify now) (progress.enterSubscriber next)

/-- One turn of the announcement timer. -/
def announce (progress : Progress) (now : Instant) : Progress :=
  match progress.agent.publisher with
  | none => progress
  | some publisher =>
      let (outgoing, next) := publisher.turn now
      (progress.enterPublisher next).send outgoing

/-- One turn of the timer of the entries that lapse. -/
def expire (progress : Progress) (now : Instant) : Progress :=
  match progress.agent.subscriber with
  | none => progress
  | some subscriber => progress.enterSubscriber (subscriber.turn now)

/-- Handle a payload; one that is no message is passed over. -/
def receive (progress : Progress) (now : Instant) (delivery : Delivery) : Progress :=
  match Wire.Message.decode delivery.contents with
  | .error _ => progress
  | .ok (.query category) =>
      match progress.agent.publisher with
      | none => progress
      | some publisher => progress.send (publisher.answer delivery.origin category)
  | .ok (.hello announcement) | .ok (.reply announcement) =>
      match progress.agent.subscriber with
      | none => progress
      | some subscriber =>
          progress.enterSubscriber (subscriber.hear now delivery.stream announcement)
  | .ok .byeBye =>
      match progress.agent.subscriber with
      | none => progress
      | some subscriber => progress.enterSubscriber (subscriber.forget delivery.stream)

/-- Apply an edit and announce its result. -/
def commit
    (progress : Progress)
    (now : Instant)
    (editor : Editor) : Except AgentError Unit × Progress :=
  match progress.agent.publisher with
  | none => (.error .disposed, progress)
  | some publisher =>
      match publisher.commit now editor with
      | .error cause => (.error cause, progress)
      | .ok (outgoing, next) => (.ok (), (progress.enterPublisher next).send outgoing)

/-- Withdraw everything that was published. -/
def stopPublisher (progress : Progress) : Progress :=
  match progress.agent.publisher with
  | none => progress
  | some publisher =>
      let (outgoing, next) := publisher.stop
      (progress.enterPublisher next).send outgoing

/-- Tell a subscription for the last time and dispose it, and count it if that was done here. -/
def conclude (now : Instant) (state : Nat × Progress) (subscription : Nat) : Nat × Progress :=
  let told := notify now state.2 subscription
  match told.agent.subscriber with
  | none => (state.1, told)
  | some subscriber =>
      let (wasOpen, next) := subscriber.markDisposed subscription
      (if wasOpen then state.1 + 1 else state.1, told.enterSubscriber next)

/-- Forget every category and dispose the subscriptions that are open. -/
def stopSubscriber (progress : Progress) (now : Instant) : Progress :=
  match progress.agent.subscriber with
  | none => progress
  | some subscriber =>
      let (targets, next) := subscriber.shut
      let (count, concluded) := targets.foldl (conclude now) (0, progress.enterSubscriber next)
      concluded.releaseMany count

/--
Begin to dispose the agent: withdraw everything and dispose every subscription.
The result says whether the publisher's use of the transport is still to be
released; nothing happens if the disposal has begun already.
-/
def beginDispose (progress : Progress) (now : Instant) : Bool × Progress :=
  if progress.agent.lifecycle = .disposed then (false, progress)
  else
    let disposed :=
      { progress with agent := { progress.agent with lifecycle := .disposed } }
    (progress.agent.publisher.isSome, disposed.stopPublisher.stopSubscriber now)

/-- Give an agent up without waiting for its farewells to leave. -/
def drop (progress : Progress) (now : Instant) : Progress :=
  let (holds, disposed) := progress.beginDispose now
  if holds then disposed.release else disposed

end Progress

namespace Agent

/-- Whether the announcement timer has something to do. -/
def announceReady (agent : Agent) (now : Instant) : Bool :=
  agent.publisher.any fun publisher => publisher.timer.isReady now

/-- Whether the timer of the entries that lapse has something to do. -/
def expireReady (agent : Agent) (now : Instant) : Bool :=
  agent.subscriber.any fun subscriber => subscriber.timer.isReady now

/-- Whether the delivery task has something to do. -/
def deliverReady (agent : Agent) : Bool :=
  agent.subscriber.any Subscriber.called

/-- The instants for which the timers of an agent wait. -/
def waitsFor (agent : Agent) : List Instant :=
  (agent.publisher.bind fun publisher => publisher.timer.waitsFor?).toList ++
    (agent.subscriber.bind fun subscriber => subscriber.timer.waitsFor?).toList

end Agent

end Discovery
