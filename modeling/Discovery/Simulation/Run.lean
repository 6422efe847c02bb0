import Discovery.Simulation.Step

namespace Discovery.Simulation

/-!
# Running a simulation

Each step acts on the world and reports; then the world comes to rest before
the next step, except inside a batch, whose steps follow each other at once.
What happened meanwhile goes with the report.
-/

namespace World

/-- The stream that a step names. -/
def stream? (world : World) : StreamName → Option StreamId
  | .id id => some id
  | .resource name => (world.resources.find? name).map (·.2)

/-- A published resource under its name, as it is now. -/
def resource? (world : World) (name : String) : Option LocalResource := do
  let (agent, id) ← world.resources.find? name
  let member ← world.members.find? agent
  member.agent.localResource? id

/-- A subscription under its name, with its handle and its agent. -/
def subscription? (world : World) (name : String) : Option (Handle × Agent × Subscription) := do
  let handle ← world.handles.find? name
  let member ← world.members.find? handle.agent
  let subscription ← member.agent.subscription? handle.subscription
  some (handle, member.agent, subscription)

/-- A resource of one's own as a report shows it. -/
def showLocal (world : World) (resource : LocalResource) : Shown :=
  ⟨world.label resource.id, resource.category, resource.connection, resource.attributes⟩

/-- A resource of someone else as a report shows it. -/
def showRemote (world : World) (resource : RemoteResource) : Shown :=
  ⟨world.label resource.id, resource.category, resource.connection, resource.attributes⟩

/-- A list as a report shows it: by label if one of the resources was published here. -/
def showList (world : World) (resources : List RemoteResource) : List Shown :=
  let shown := resources.map world.showRemote
  if resources.any fun resource => world.labels.contains resource.id then
    shown.mergeSort fun first second => (byteOrder first.label second.label).isLE
  else shown

/-- Report on something under a name, if the name is known. -/
def report {Thing : Type} (thing : Option Thing) (say : Thing → Report) : Report :=
  thing.elim .unknown say

/-- Take up the outcome of an operation that has a result. -/
def conclude
    {Result : Type}
    (world : World)
    (outcome : Option (Except AgentError Result × World))
    (bind : World → Result → World) : Report × World :=
  match outcome with
  | none => (.unknown, world)
  | some (.error cause, next) => (.refused cause, next)
  | some (.ok result, next) => (.done, bind next result)

/-- Create an agent, with an endpoint if it is to be networked. -/
def createAgent
    (world : World)
    (name : String)
    (settings : AgentSettings)
    (networked : Bool)
    (attempts : List (Option TransportError)) : Report × World :=
  match Agent.create true settings attempts with
  | .error cause => (.refused cause, world)
  | .ok agent =>
      let (endpoint, network) :=
        if networked then
          let (number, network) := world.network.endpoint
          (some number, network)
        else (none, world.network)
      ( .created endpoint
      , { world with
          network := network
          members := world.members.insert name ⟨agent, endpoint, 0, none, false⟩ } )

/-- Say what an agent is like. -/
def inspectAgent (world : World) (member : Member) : Report :=
  let labels := member.agent.localResources.map fun resource => world.label resource.id
  .agent member.agent.lifecycle
    (labels.mergeSort fun first second => (byteOrder first second).isLE)
    member.agent.settings member.agent.link.running
    (member.endpoint.map world.network.isStarted)

/-- Dispose an agent and wait until its farewells have left. -/
def disposeAgent (world : World) (name : String) : World :=
  match world.performWith name fun progress => progress.beginDispose world.now with
  | none => world
  | some (false, begun) => begun
  | some (true, begun) =>
      let flush := ((begun.members.find? name).map fun member =>
        member.agent.settings.shutdownFlush.toNat).getD 0
      let waited := if flush = 0 then begun else begun.pass flush
      waited.perform name Progress.release

/-- Give an agent up; one that is being disposed in the background is left to that. -/
def dropAgent (world : World) (name : String) : Report × World :=
  match world.members.find? name with
  | none => (.dropped false, world)
  | some member =>
      if member.dropped then (.dropped false, world)
      else
        let given := world.updateMember name fun known => { known with dropped := true }
        if member.disposals = 0 ∧ member.flushUntil = none then
          (.dropped true, given.perform name fun progress => progress.drop world.now)
        else (.dropped true, given)

/-- Hand payloads straight to an agent whose transport is running. -/
def inject
    (world : World)
    (name : String)
    (stream : StreamName)
    (endpoint times : Nat)
    (payload : Bytes) : Report × World :=
  match world.members.find? name, world.stream? stream with
  | some member, some id =>
      if member.agent.link.running then
        ( .done
        , (List.range times).foldl
            (fun current _ =>
              current.perform name fun progress =>
                progress.receive world.now ⟨id, payload, .endpoint endpoint⟩)
            world )
      else (.notStarted, world)
  | _, _ => (.unknown, world)

/-- Begin an edit of a published resource. -/
def beginEdit (world : World) (resource name : String) : Report × World :=
  match world.resources.find? resource, world.resource? resource with
  | some (agent, _), some known =>
      let editor := known.beginEdit
      ( .editor editor.baseline editor.changes.isEmpty
      , { world with editors := world.editors.insert name (agent, editor) } )
  | _, _ => (.unknown, world)

/-- Change what an editor has collected. -/
def edit (world : World) (name : String) (change : Changes → Changes) : Report × World :=
  match world.editors.find? name with
  | none => (.unknown, world)
  | some (agent, editor) =>
      let changed := { editor with changes := change editor.changes }
      ( .editor changed.baseline changed.changes.isEmpty
      , { world with editors := world.editors.insert name (agent, changed) } )

/-- Commit an edit; the editor is gone either way. -/
def commit (world : World) (name : String) : Report × World :=
  match world.editors.find? name with
  | none => (.unknown, world)
  | some (agent, editor) =>
      let taken := { world with editors := world.editors.erase name }
      taken.conclude (taken.performWith agent fun progress => progress.commit world.now editor)
        fun next _ => next

/-- Read the resources that a subscription sees. -/
def read (world : World) (name : String) : Option (Subscriber.Reading × Handle × World) := do
  let handle ← world.handles.find? name
  let member ← world.members.find? handle.agent
  let (reading, agent) := member.agent.read handle.subscription
  some (reading, handle, world.updateMember handle.agent fun known => { known with agent := agent })

/-- Report on the resources that a subscription sees. -/
def readResources (world : World) (name : String) : Report × World :=
  match world.read name with
  | none => (.unknown, world)
  | some (reading, handle, next) =>
      let serial := ((next.members.find? handle.agent).map fun member =>
        member.agent.serial handle.subscription).getD 0
      let cached := reading.reused && reading.keptAt == handle.lastRead
      ( .listing serial cached (next.showList reading.resources)
      , { next with
          handles := next.handles.insert name { handle with lastRead := reading.keptAt } } )

/-- Describe something. -/
def describe (world : World) : Subject → Report × World
  | .subscription name =>
      ( report (world.subscription? name) fun (_, agent, subscription) =>
          .description (subscription.describe (agent.serial subscription.id))
      , world )
  | .item name position =>
      match world.read name with
      | none => (.unknown, world)
      | some (reading, _, next) =>
          ( report reading.resources[position]? fun resource =>
              .description (resource.describe next.plainLabel)
          , next )
  | .resource name =>
      ( report (world.resource? name) fun resource =>
          .description (resource.describe world.plainLabel)
      , world )
  | .anyResource name =>
      ( report (world.resource? name) fun resource =>
          .description (resource.describeAny world.plainLabel)
      , world )
  | .editor name =>
      ( report
          (do
            let (agent, editor) ← world.editors.find? name
            let member ← world.members.find? agent
            let resource ← member.agent.localResource? editor.resource
            some (resource, editor))
          fun (resource, editor) => .description (editor.describe world.plainLabel resource)
      , world )

/-- The action of a reaction, for a subscription of an agent. -/
def action (world : World) (handle : Handle) : Reaction → Action × World
  | .disposeOwn => (.dispose handle.subscription, world)
  | .listen name => (.listen handle.subscription name [], world)
  | .subscribe agent name category =>
      let request : Request := .subscribe name category
      (if agent = handle.agent then .perform request else .elsewhere agent request, world)
  | .publish agent name category connection =>
      let (id, drawn) := world.draw
      let request : Request := .publish name id category connection
      (if agent = handle.agent then .perform request else .elsewhere agent request, drawn)

/-- Register a callback, whose first run may do something. -/
def listen
    (world : World)
    (subscription name : String)
    (reaction : Option Reaction) : Report × World :=
  match world.handles.find? subscription with
  | none => (.unknown, world)
  | some handle =>
      let (script, next) :=
        match reaction with
        | none => ([], world)
        | some reaction =>
            let (action, drawn) := world.action handle reaction
            ([[action]], drawn)
      ( .done
      , next.updateMember handle.agent fun member =>
          { member with
            agent :=
              member.agent.listen handle.subscription ⟨subscription ++ "/" ++ name, script⟩ } )

/-- Dispose a subscription. -/
def disposeSubscription (world : World) (name : String) : Report × World :=
  match world.handles.find? name with
  | none => (.unknown, world)
  | some handle =>
      (.done, world.perform handle.agent fun progress => progress.dispose handle.subscription)

/-- Give a subscription up, which disposes it. -/
def dropSubscription (world : World) (name : String) : Report × World :=
  match world.handles.find? name with
  | none => (.dropped false, world)
  | some handle =>
      if handle.dropped then (.dropped false, world)
      else
        let disposed :=
          world.perform handle.agent fun progress => progress.dispose handle.subscription
        ( .dropped true
        , { disposed with
            handles := disposed.handles.insert name { handle with dropped := true } } )

/-- Wait for the signals of a subscription; those so far count as seen. -/
def watch (world : World) (subscription name : String) : Report × World :=
  match world.subscription? subscription with
  | none => (.unknown, world)
  | some (_, _, known) =>
      ( .watching known.signal
      , { world with watchers := world.watchers.insert name ⟨subscription, known.signals⟩ } )

/-- Look for signals that have not been seen, and mark them as seen if told to. -/
def checkWatch (world : World) (name : String) (mark : Bool) : Report × World :=
  match (do
      let watcher ← world.watchers.find? name
      let (handle, _, subscription) ← world.subscription? watcher.handle
      some (watcher, handle, subscription)) with
  | none => (.unknown, world)
  | some (watcher, handle, subscription) =>
      let finding : Finding :=
        if handle.dropped then .closed
        else if subscription.signals = watcher.seen then .unchanged
        else .changed
      ( .watched finding subscription.signal
      , if mark then
          { world with
            watchers :=
              world.watchers.insert name { watcher with seen := subscription.signals } }
        else world )

/-- Start the endpoint of a station. -/
def startStation (world : World) (name : String) : Report × World :=
  match world.stations.find? name with
  | none => (.unknown, world)
  | some station =>
      match world.network.start true station.number with
      | .error cause => (.notConnected cause, world)
      | .ok network => (.done, { world with network := network })

/-- Stop the endpoint of a station. -/
def stopStation (world : World) (name : String) : Report × World :=
  match world.stations.find? name with
  | none => (.unknown, world)
  | some station => (.done, { world with network := world.network.stop station.number })

/-- Give a station up, which stops its endpoint. -/
def dropStation (world : World) (name : String) : Report × World :=
  match world.stations.find? name with
  | none => (.dropped false, world)
  | some station =>
      ( .dropped true
      , { world with
          network := world.network.stop station.number
          stations := world.stations.erase name } )

/-- Send payloads from a station. -/
def sendFrom (world : World) (name : String) (outgoing : List Outgoing) : Report × World :=
  match world.stations.find? name with
  | none => (.unknown, world)
  | some station =>
      ( .done
      , { world with
          network :=
            outgoing.foldl (fun network sent => network.send station.number sent)
              world.network } )

/-- Broadcast payloads from a station. -/
def broadcast
    (world : World)
    (name : String)
    (stream : StreamName)
    (times : Nat)
    (payload : Bytes) : Report × World :=
  match world.stream? stream with
  | none => (.unknown, world)
  | some id => world.sendFrom name (List.replicate times (.broadcast id payload))

/-- The origin that a station answers. -/
def origin? (world : World) (name : String) : Target → Option Origin
  | .origin origin => some origin
  | .received position =>
      (world.stations.find? name).bind fun station => station.received[position]?

/-- Reply from a station. -/
def reply
    (world : World)
    (name : String)
    (stream : StreamName)
    (target : Target)
    (payload : Bytes) : Report × World :=
  match world.stream? stream, world.origin? name target with
  | some id, some origin => world.sendFrom name [.reply origin id payload]
  | _, _ => (.unknown, world)

/-- Say what a timer is like. -/
def inspectTimer (timer : Timer) : Report :=
  .timer timer.deadline timer.closed

/-- Change a timer and say what it is like then. -/
def changeAlarm (world : World) (name : String) (change : Timer → Timer) : Report × World :=
  match world.alarms.find? name with
  | none => (.unknown, world)
  | some alarm =>
      let changed := change alarm.timer
      ( inspectTimer changed
      , { world with alarms := world.alarms.insert name { alarm with timer := changed } } )

/-- Carry out a command. -/
def act (world : World) : Command → Report × World
  | .createAgent name settings networked refusals =>
      world.createAgent name settings networked (refusals.map some)
  | .inspectAgent agent => (report (world.members.find? agent) world.inspectAgent, world)
  | .publish agent name category connection attributes =>
      let (id, drawn) := world.draw
      drawn.conclude
        (drawn.performWith agent fun progress =>
          progress.publish world.now id category connection attributes)
        fun next _ => next.bindResource name agent id
  | .abandonPublish _ => (.done, world)
  | .subscribe agent name category =>
      world.conclude (world.performWith agent fun progress => progress.subscribe category)
        fun next subscription => next.bindHandle name agent subscription
  | .disposeAgent agent => (.done, world.disposeAgent agent)
  | .disposeInBackground agent =>
      (.done, world.updateMember agent fun member =>
        { member with disposals := member.disposals + 1 })
  | .dropAgent agent => world.dropAgent agent
  | .inject agent stream endpoint times payload =>
      world.inject agent stream endpoint times payload
  | .inspectResource name =>
      ( report (world.resource? name) fun resource =>
          .resource (world.showLocal resource) resource.editSerial resource.expiry
      , world )
  | .beginEdit resource name => world.beginEdit resource name
  | .put editor key value => world.edit editor fun changes => changes.put key value
  | .remove editor key => world.edit editor fun changes => changes.remove key
  | .putAll editor entries => world.edit editor fun changes => changes.putAll entries
  | .commit editor => world.commit editor
  | .describe subject => world.describe subject
  | .readResources subscription => world.readResources subscription
  | .inspectSubscription name =>
      ( report (world.subscription? name) fun (_, agent, subscription) =>
          .subscription subscription.category (agent.serial subscription.id)
            subscription.disposed
      , world )
  | .listen subscription name reaction => world.listen subscription name reaction
  | .disposeSubscription name => world.disposeSubscription name
  | .dropSubscription name => world.dropSubscription name
  | .watch subscription name => world.watch subscription name
  | .checkWatch name mark => world.checkWatch name mark
  | .setLossRate rate => (.done, { world with network := world.network.setLossRate rate })
  | .setDuplicate duplicate =>
      (.done, { world with network := world.network.setDuplicate duplicate })
  | .countActive => (.count world.network.activeEndpoints, world)
  | .createEndpoint name =>
      let (number, network) := world.network.endpoint
      ( .created (some number)
      , { world with network := network, stations := world.stations.insert name ⟨number, []⟩ } )
  | .dropEndpoint name => world.dropStation name
  | .startEndpoint name => world.startStation name
  | .stopEndpoint name => world.stopStation name
  | .inspectEndpoint name =>
      ( report (world.stations.find? name) fun station =>
          .endpoint station.number (world.network.isStarted station.number)
            station.received.length
      , world )
  | .broadcast endpoint stream times payload => world.broadcast endpoint stream times payload
  | .reply endpoint stream target payload => world.reply endpoint stream target payload
  | .createTimer name period repeats =>
      (.done, { world with alarms := world.alarms.insert name ⟨.new, period, repeats⟩ })
  | .arm timer deadline => world.changeAlarm timer fun known => known.arm deadline
  | .armEarlier timer deadline => world.changeAlarm timer fun known => known.armEarlier deadline
  | .disarm timer => world.changeAlarm timer Timer.disarm
  | .closeTimer timer => world.changeAlarm timer Timer.close
  | .inspectTimer timer =>
      (report (world.alarms.find? timer) fun alarm => inspectTimer alarm.timer, world)
  | .dropTimer timer =>
      ( .dropped (world.alarms.contains timer)
      , { world with alarms := world.alarms.erase timer } )
  | .advance milliseconds =>
      let passed := world.pass milliseconds
      (.time passed.now, passed)

mutual

/-- Do a step without letting the world come to rest. -/
def step (world : World) : Step → Report × World
  | .single command =>
      let (report, next) := world.act command
      (report, next.queueUp)
  | .batch steps =>
      let (reports, next) := world.steps steps
      (.batch reports, next)

/-- Do steps one after another without letting the world come to rest. -/
def steps (world : World) : List Step → List Report × World
  | [] => ([], world)
  | first :: rest =>
      let (report, next) := world.step first
      let (reports, last) := next.steps rest
      (report :: reports, last)

end

end World

/-- A report and what happened up to the next step. -/
structure Entry where
  report : Report
  events : List Event
  deriving Repr

/-- Do a step and let the world come to rest. -/
def World.runStep (world : World) (step : Step) : Entry × World :=
  let (report, acted) := world.step step
  let rested := acted.settle
  (⟨report, Event.arrange rested.record.reverse⟩, { rested with record := [] })

/-- Run a simulation from a world. -/
def World.run (world : World) : List Step → List Entry
  | [] => []
  | step :: rest =>
      let (entry, next) := world.runStep step
      entry :: next.run rest

/-- Run a simulation from the beginning. -/
def run (steps : List Step) : List Entry :=
  World.new.run steps

end Discovery.Simulation
