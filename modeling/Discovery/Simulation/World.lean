import Discovery.Agent.Description
import Discovery.Network.Basic
import Discovery.Simulation.Event

namespace Discovery.Simulation

/-!
# Simulated worlds

A world holds named agents, endpoints, timers, subscriptions, editors and
published resources on one virtual clock, which counts whole milliseconds.
Tasks that have something to do wait in line in the order in which they were
called; when none is left the world is at rest, and only then does time move.
-/

/-- An agent of the world. -/
structure Member where
  agent : Agent
  /-- The endpoint to which the agent's transport forwards what is sent. -/
  endpoint : Option Nat
  /-- How many disposals in the background have not begun. -/
  disposals : Nat
  /-- When the farewells of a disposal in the background are taken to have left. -/
  flushUntil : Option Instant
  dropped : Bool
  deriving Repr

/-- An endpoint without an agent. -/
structure Station where
  number : Nat
  /-- Where the messages received so far came from. -/
  received : List Origin
  deriving DecidableEq, Repr

/-- A timer of the world. -/
structure Alarm where
  timer : Timer
  /-- How long after firing it is set again. -/
  period : Span
  /-- How many more times it is set again. -/
  repeats : Nat
  deriving DecidableEq, Repr

/-- A subscription under its name. -/
structure Handle where
  agent : String
  subscription : Nat
  /-- The serial number under which the list read last is kept. -/
  lastRead : Option Nat
  dropped : Bool
  deriving DecidableEq, Repr

/-- Someone who waits for the signals of a subscription. -/
structure Watcher where
  handle : String
  /-- How many signals have been seen. -/
  seen : Nat
  deriving DecidableEq, Repr

/-- A task that may have something to do. -/
inductive Task where
  | pump (endpoint : Nat)
  | announce (agent : String)
  | expire (agent : String)
  | deliver (agent : String)
  | flush (agent : String)
  | dispose (agent : String)
  | alarm (name : String)
  deriving DecidableEq, Repr

/-- A table of named things. -/
abbrev Named (Thing : Type) := Table String Thing byteOrder

/-- Everything there is at one instant. -/
structure World where
  now : Instant
  network : Network
  members : Named Member
  stations : Named Station
  alarms : Named Alarm
  handles : Named Handle
  watchers : Named Watcher
  editors : Named (String × Editor)
  resources : Named (String × ResourceId)
  /-- The names of the published resources. -/
  labels : Table ResourceId String
  /-- How many identifiers have been given out. -/
  drawn : Nat
  /-- The tasks that wait, in line. -/
  line : List Task
  /-- What has happened, the latest first. -/
  record : List Event
  deriving Repr

/-- The identifier that is given out after the given number of others. -/
def freshId (drawn : Nat) : ResourceId :=
  ⟨[0x64, 0x69, 0x73, 0x63, 0x6f, 0x76, 0x65, 0x72, 0x79, 0xf3, 0xa1, 0x5c] ++
      Bytes.wordBytes (UInt32.ofNat drawn), rfl⟩

namespace World

/-- The world at its beginning. -/
def new : World :=
  ⟨0, .new, ∅, ∅, ∅, ∅, ∅, ∅, ∅, ∅, 0, [], []⟩

/-- How an identifier is shown. -/
def label (world : World) (id : ResourceId) : String :=
  match world.labels.find? id with
  | some name => "@" ++ name
  | none => if id.isNil then "nil" else id.text

/-- How an identifier is shown inside a description. -/
def plainLabel (world : World) (id : ResourceId) : String :=
  match world.labels.find? id with
  | some name => "@" ++ name
  | none => id.text

/-- Record that someone did something. -/
def note (world : World) (who : String) (deed : Deed) : World :=
  { world with record := ⟨world.now, who, deed⟩ :: world.record }

/-- Give out an identifier. -/
def draw (world : World) : ResourceId × World :=
  (freshId world.drawn, { world with drawn := world.drawn + 1 })

/-- Change a member. -/
def updateMember (world : World) (name : String) (change : Member → Member) : World :=
  { world with members := world.members.modify name change }

/-- Let a subscription have a name. -/
def bindHandle (world : World) (name agent : String) (subscription : Nat) : World :=
  { world with handles := world.handles.insert name ⟨agent, subscription, none, false⟩ }

/-- Let a resource have a name. -/
def bindResource (world : World) (name agent : String) (id : ResourceId) : World :=
  { world with
    resources := world.resources.insert name (agent, id)
    labels := world.labels.insert id name }

/-- Let the outcome of a request have its name. -/
def bind (world : World) (agent : String) : Outcome → World
  | .subscribed name subscription => world.bindHandle name agent subscription
  | .published name id => world.bindResource name agent id
  | .refused _ => world

/-- Record what an agent sends. -/
def noteSent (world : World) (agent : String) : Outgoing → World
  | .broadcast stream payload =>
      world.note agent (.broadcast (world.label stream) (.ofPayload payload))
  | .reply origin stream payload =>
      world.note agent (.replied (world.label stream) origin (.ofPayload payload))

/-- Let the network carry something out, if the agent has an endpoint there. -/
def onNetwork
    (world : World)
    (agent : String)
    (change : Network → Nat → Network) : World :=
  match (world.members.find? agent).bind Member.endpoint with
  | some number => { world with network := change world.network number }
  | none => world

/-- Start an endpoint if it is not started. -/
def startEndpoint (network : Network) (number : Nat) : Network :=
  match network.start true number with
  | .ok started => started
  | .error _ => network

/-- Carry out what an agent put out, requests of other agents apart. -/
def carry (agent : String) (world : World) : Output → World
  | .started => (world.note agent .started).onNetwork agent startEndpoint
  | .startFailed => world.note agent .startFailed
  | .stopped => (world.note agent .stopped).onNetwork agent Network.stop
  | .joined | .left | .overdrawn => world
  | .sent outgoing =>
      (world.noteSent agent outgoing).onNetwork agent fun network number =>
        network.send number outgoing
  | .updated _ callback serial => world.note callback (.updated serial)
  | .acted callback outcome => (world.note callback (.acted outcome)).bind agent outcome
  | .asked .. => world

/-- Carry out what one agent put out, including requests of other agents. -/
def carryOut (agent : String) (world : World) : Output → World
  | .asked callback other request =>
      match world.members.find? other with
      | none => world
      | some member =>
          let (outcome, progress) := member.agent.begin.perform world.now request
          let entered := world.updateMember other fun known =>
            { known with agent := progress.agent }
          let carried := progress.outputs.foldl (carry other) entered
          (carried.note callback (.acted outcome)).bind other outcome
  | output => world.carry agent output

/-- Take over an agent after an operation, and carry out what it put out. -/
def absorb (world : World) (name : String) (progress : Progress) : World :=
  let entered := world.updateMember name fun known => { known with agent := progress.agent }
  progress.outputs.foldl (carryOut name) entered

/-- Let an agent carry out an operation that has a result. -/
def performWith
    {Result : Type}
    (world : World)
    (name : String)
    (operation : Progress → Result × Progress) : Option (Result × World) :=
  (world.members.find? name).map fun member =>
    let (result, progress) := operation member.agent.begin
    (result, world.absorb name progress)

/-- Let an agent carry out an operation. -/
def perform (world : World) (name : String) (operation : Progress → Progress) : World :=
  match world.members.find? name with
  | none => world
  | some member => world.absorb name (operation member.agent.begin)

/-- The member with an endpoint. -/
def ownerOf? (world : World) (endpoint : Nat) : Option String :=
  (world.members.entries.find? fun entry => entry.2.endpoint == some endpoint).map (·.1)

/-- The station with an endpoint. -/
def stationAt? (world : World) (endpoint : Nat) : Option (String × Station) :=
  world.stations.entries.find? fun entry => entry.2.number == endpoint

/-- Hand a message to the owner of the endpoint at which it arrived. -/
def hand (world : World) (endpoint : Nat) (delivery : Delivery) : World :=
  match world.ownerOf? endpoint with
  | some name => world.perform name fun progress => progress.receive world.now delivery
  | none =>
      match world.stationAt? endpoint with
      | none => world
      | some (name, station) =>
          let kept :=
            { world with
              stations :=
                world.stations.insert name
                  { station with received := station.received ++ [delivery.origin] } }
          kept.note name
            (.received (world.label delivery.stream) delivery.origin (.ofPayload delivery.contents))

/-- Hand over what is queued at an endpoint, up to a number of messages. -/
def pump (endpoint : Nat) : Nat → World → World
  | 0, world => world
  | budget + 1, world =>
      match world.network.take endpoint with
      | (none, network) => { world with network := network }
      | (some delivery, network) =>
          pump endpoint budget ({ world with network := network }.hand endpoint delivery)

/-- How many messages an endpoint hands over in one turn. -/
def pumpBudget : Nat := 128

/-- Begin a disposal in the background. -/
def beginDisposal (world : World) (name : String) : World :=
  match world.performWith name fun progress => progress.beginDispose world.now with
  | none => world
  | some (holds, begun) =>
      begun.updateMember name fun known =>
        { known with
          disposals := known.disposals - 1
          flushUntil :=
            if holds then some (world.now + known.agent.settings.flush) else known.flushUntil }

/-- End a disposal in the background. -/
def endDisposal (world : World) (name : String) : World :=
  (world.perform name Progress.release).updateMember name fun known =>
    { known with flushUntil := none }

/-- One turn of a timer of the world. -/
def ring (world : World) (name : String) : World :=
  match world.alarms.find? name with
  | none => world
  | some alarm =>
      let (fires, timer) := alarm.timer.turn world.now
      if fires then
        let noted := world.note name (.fired timer.deadline.isSome)
        let next : Alarm :=
          if alarm.repeats = 0 then { alarm with timer := timer }
          else
            { alarm with
              timer := timer.arm (world.now + alarm.period)
              repeats := alarm.repeats - 1 }
        { noted with alarms := noted.alarms.insert name next }
      else { world with alarms := world.alarms.insert name { alarm with timer := timer } }

/-- One turn of a task. -/
def turn (world : World) : Task → World
  | .pump endpoint => world.pump endpoint pumpBudget
  | .announce name => world.perform name fun progress => progress.announce world.now
  | .expire name => world.perform name fun progress => progress.expire world.now
  | .deliver name => world.perform name fun progress => progress.deliver world.now
  | .flush name => world.endDisposal name
  | .dispose name => world.beginDisposal name
  | .alarm name => world.ring name

/-- Whether a task has something to do. -/
def isReady (world : World) : Task → Bool
  | .pump endpoint => world.network.isReady endpoint
  | .announce name =>
      (world.members.find? name).any fun member => member.agent.announceReady world.now
  | .expire name =>
      (world.members.find? name).any fun member => member.agent.expireReady world.now
  | .deliver name => (world.members.find? name).any fun member => member.agent.deliverReady
  | .flush name =>
      (world.members.find? name).any fun member =>
        member.flushUntil.any fun deadline => decide (deadline ≤ world.now)
  | .dispose name => (world.members.find? name).any fun member => decide (0 < member.disposals)
  | .alarm name => (world.alarms.find? name).any fun alarm => alarm.timer.isReady world.now

/-- Every task there is. -/
def tasks (world : World) : List Task :=
  world.network.endpoints.keys.map .pump ++
    (world.members.keys.flatMap fun name =>
      [.announce name, .expire name, .deliver name, .flush name, .dispose name]) ++
    world.alarms.keys.map .alarm

/-- Let the tasks that have something to do join the line. -/
def queueUp (world : World) : World :=
  { world with
    line :=
      world.line ++
        world.tasks.filter fun task => world.isReady task && !world.line.contains task }

/-- Let tasks take turns until none has anything to do, at most the given number of turns. -/
def settleWithin : Nat → World → World
  | 0, world => world
  | turns + 1, world =>
      let queued := world.queueUp
      match queued.line with
      | [] => queued
      | task :: line =>
          let taken := { queued with line := line }
          settleWithin turns (if taken.isReady task then taken.turn task else taken)

/-- How many turns may be taken at one instant. -/
def turnLimit : Nat := 1000000

/-- Let tasks take turns until the world is at rest. -/
def settle (world : World) : World :=
  world.settleWithin turnLimit

/-- The first whole millisecond not before an instant. -/
def tick (instant : Instant) : Instant :=
  (instant + (millisecond - 1)) / millisecond * millisecond

/-- The times at which some task will have something to do. -/
def wakes (world : World) : List Instant :=
  (world.members.values.flatMap fun member =>
      member.agent.waitsFor ++ member.flushUntil.toList) ++
    world.alarms.values.filterMap fun alarm => alarm.timer.waitsFor?

/-- The next time after now at which some task will have something to do. -/
def nextWake? (world : World) : Option Instant :=
  ((world.wakes.map tick).filter fun instant => decide (world.now < instant)).min?

/-- Let time pass up to an instant, each task having its turn at its own time. -/
def passWithin (target : Instant) : Nat → World → World
  | 0, world => world
  | steps + 1, world =>
      match world.nextWake? with
      | some instant =>
          if instant ≤ target then
            passWithin target steps { world with now := instant }.settle
          else { world with now := target }.settle
      | none => { world with now := target }.settle

/-- Let a number of milliseconds pass. -/
def pass (world : World) (milliseconds : Nat) : World :=
  world.settle.passWithin (world.now + milliseconds * millisecond) (milliseconds + 1)

end World

end Discovery.Simulation
