import Discovery.Simulation.World

namespace Discovery.Simulation

/-!
# Steps and reports

A simulation is told what to do in steps, and reports on each.  Things are
known by the names under which steps introduced them.
-/

/-- A stream as a step names it. -/
inductive StreamName where
  | id (id : StreamId)
  | resource (name : String)
  deriving DecidableEq, Repr

/-- What the first run of a callback does besides reporting it. -/
inductive Reaction where
  | disposeOwn
  | listen (name : String)
  | subscribe (agent name category : String)
  | publish (agent name category connection : String)
  deriving DecidableEq, Repr

/-- Whom an endpoint answers. -/
inductive Target where
  /-- The origin of a message received before, by its position. -/
  | received (position : Nat)
  | origin (origin : Origin)
  deriving DecidableEq, Repr

/-- What is to be described. -/
inductive Subject where
  | subscription (name : String)
  | item (subscription : String) (position : Nat)
  | resource (name : String)
  | anyResource (name : String)
  | editor (name : String)
  deriving DecidableEq, Repr

/-- Something to do at once. -/
inductive Command where
  | createAgent
      (name : String)
      (settings : AgentSettings)
      (networked : Bool)
      (refusals : List TransportError)
  | inspectAgent (agent : String)
  | publish (agent name category connection : String) (attributes : Attributes)
  /-- Make a request to publish and give it up before it is looked at. -/
  | abandonPublish (agent : String)
  | subscribe (agent name category : String)
  | disposeAgent (agent : String)
  | disposeInBackground (agent : String)
  | dropAgent (agent : String)
  | inject
      (agent : String)
      (stream : StreamName)
      (endpoint times : Nat)
      (payload : Bytes)
  | inspectResource (name : String)
  | beginEdit (resource name : String)
  | put (editor key value : String)
  | remove (editor key : String)
  | putAll (editor : String) (entries : List (String × String))
  | commit (editor : String)
  | describe (subject : Subject)
  | readResources (subscription : String)
  | inspectSubscription (subscription : String)
  | listen (subscription name : String) (reaction : Option Reaction)
  | disposeSubscription (subscription : String)
  | dropSubscription (subscription : String)
  | watch (subscription name : String)
  | checkWatch (name : String) (mark : Bool)
  | setLossRate (rate : Rat)
  | setDuplicate (duplicate : Bool)
  | countActive
  | createEndpoint (name : String)
  | dropEndpoint (name : String)
  | startEndpoint (name : String)
  | stopEndpoint (name : String)
  | inspectEndpoint (name : String)
  | broadcast (endpoint : String) (stream : StreamName) (times : Nat) (payload : Bytes)
  | reply (endpoint : String) (stream : StreamName) (target : Target) (payload : Bytes)
  | createTimer (name : String) (period : Span) (repeats : Nat)
  | arm (timer : String) (deadline : Instant)
  | armEarlier (timer : String) (deadline : Instant)
  | disarm (timer : String)
  | closeTimer (timer : String)
  | inspectTimer (timer : String)
  | dropTimer (timer : String)
  | advance (milliseconds : Nat)
  deriving Repr

/-- A command, or several of them that follow each other without a rest. -/
inductive Step where
  | single (command : Command)
  | batch (steps : List Step)
  deriving Repr

/-- A resource as a report shows it. -/
structure Shown where
  label : String
  category : String
  connection : String
  attributes : Attributes
  deriving DecidableEq, Repr

/-- What a watcher finds. -/
inductive Finding where
  | unchanged
  | changed
  | closed
  deriving DecidableEq, Repr

/-- What a step has to say. -/
inductive Report where
  | done
  | refused (cause : AgentError)
  | notConnected (cause : TransportError)
  /-- The transport of the agent is not running. -/
  | notStarted
  /-- A name is not known. -/
  | unknown
  | created (endpoint : Option Nat)
  | agent
      (lifecycle : Lifecycle)
      (published : List String)
      (settings : AgentSettings)
      (running : Bool)
      (endpointStarted : Option Bool)
  | dropped (existed : Bool)
  | resource (shown : Shown) (editSerial : Nat) (expiry : Int32)
  | editor (baseline : Nat) (isEmpty : Bool)
  | description (text : String)
  | listing (serial : Nat) (cached : Bool) (items : List Shown)
  | subscription (category : String) (serial : Nat) (disposed : Bool)
  | watching (value : Nat)
  | watched (finding : Finding) (value : Nat)
  | count (number : Nat)
  | endpoint (number : Nat) (started : Bool) (received : Nat)
  | timer (deadline : Option Instant) (closed : Bool)
  | time (now : Instant)
  | batch (reports : List Report)
  deriving Repr

end Discovery.Simulation
