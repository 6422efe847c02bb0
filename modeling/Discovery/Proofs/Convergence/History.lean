import Discovery.Proofs.Convergence.Community
import Discovery.Simulation.Run

namespace Discovery

/-!
# Runs of a world

A run is made of moves, in any order: agents publish, subscribe, edit, read and
dispose, tasks take their turns, and time passes.  What an agent goes through in
no order it may go through in another one at any time.  Beside it a registry is
kept of what has been published and not withdrawn, by what the requests of the
agents came to alone.
-/

/-- A resource as it was published or last edited. -/
structure Posting where
  owner : String
  category : String
  connection : String
  attributes : Attributes
  deriving DecidableEq, Repr

/-- A posting as another agent sees it. -/
def Posting.remote (posting : Posting) (id : ResourceId) : RemoteResource :=
  ⟨id, posting.category, posting.connection, posting.attributes⟩

/-- What has been published by agents whose disposal has not begun. -/
abbrev Registry := Table ResourceId Posting

namespace Registry

/-- Take up the outcome of a request to publish. -/
def publish
    (registry : Registry)
    (owner : String)
    (id : ResourceId)
    (category connection : String)
    (attributes : Attributes) : Except AgentError Unit → Registry
  | .ok () => registry.insert id ⟨owner, category, connection, attributes⟩
  | .error _ => registry

/-- Take up the outcome of committing an edit. -/
def commit (registry : Registry) (editor : Editor) : Except AgentError Unit → Registry
  | .ok () =>
      registry.modify editor.resource fun posting =>
        { posting with attributes := editor.changes.apply posting.attributes }
  | .error _ => registry

/-- Take out what an agent has published. -/
def withdraw (registry : Registry) (owner : String) : Registry :=
  registry.filter fun _ posting => posting.owner != owner

/--
A list shows what others than the reader have published in a category, in the
order of the identifiers and each resource once.
-/
structure ShownTo
    (registry : Registry)
    (reader category : String)
    (resources : List RemoteResource) : Prop where
  ascending : resources.Pairwise fun first second => compare first.id second.id = .lt
  mem_iff : ∀ resource, resource ∈ resources ↔
    ∃ posting, registry.find? resource.id = some posting ∧ posting.owner ≠ reader ∧
      posting.category = category ∧ resource = posting.remote resource.id

end Registry

namespace Simulation

/-- Whether a task belongs to a disposal in the background. -/
def Task.isDisposal : Task → Bool
  | .flush _ | .dispose _ => true
  | .pump _ | .announce _ | .expire _ | .deliver _ | .alarm _ => false

/-- Two worlds have the same agents on the same network at the same time. -/
structure SameScene (next world : World) : Prop where
  now : next.now = world.now
  network : next.network = world.network
  members : ∀ name,
    (next.members.find? name).map (fun member => (member.agent, member.endpoint)) =
      (world.members.find? name).map fun member => (member.agent, member.endpoint)

/-- One move of a run, and what it does to the registry. -/
inductive Move (world : World) (registry : Registry) : World → Registry → Prop where
  /-- An agent is created on the network. -/
  | create
      {name : String}
      {settings : AgentSettings}
      {attempts : List (Option TransportError)}
      (isNew : world.members.find? name = none) :
      Move world registry (world.createAgent name settings true attempts).2 registry
  /-- A resource is published under an identifier that no agent has used. -/
  | publish
      {name : String}
      {member : Member}
      {id : ResourceId}
      {category connection : String}
      {attributes : Attributes}
      {result : Except AgentError Unit}
      {next : World}
      (found : world.members.find? name = some member)
      (lasting : 1 ≤ member.agent.settings.resourceExpiry.toNat)
      (real : id.isNil = false)
      (fresh : ∀ {other known}, world.members.find? other = some known →
        known.agent.localResource? id = none)
      (performed : world.performWith name (fun progress =>
        progress.publish world.now id category connection attributes) = some (result, next)) :
      Move world registry next (registry.publish name id category connection attributes result)
  | subscribe
      {name category : String}
      {result : Except AgentError Nat}
      {next : World}
      (performed : world.performWith name (fun progress => progress.subscribe category) =
        some (result, next)) :
      Move world registry next registry
  | disposeSubscription (name : String) (subscription : Nat) :
      Move world registry (world.perform name fun progress => progress.dispose subscription)
        registry
  | read (name : String) (subscription : Nat) :
      Move world registry
        (world.updateMember name fun known =>
          { known with agent := (known.agent.read subscription).2 })
        registry
  /-- An agent goes through its categories and its resources in another order. -/
  | shuffle (name : String) (categories : List String) (resources : List ResourceId) :
      Move world registry
        (world.updateMember name fun known =>
          { known with agent := known.agent.shuffle categories resources })
        registry
  | commit
      {name : String}
      {editor : Editor}
      {result : Except AgentError Unit}
      {next : World}
      (performed : world.performWith name (fun progress => progress.commit world.now editor) =
        some (result, next)) :
      Move world registry next (registry.commit editor result)
  /-- The disposal of an agent begins. -/
  | beginDispose
      {name : String}
      {holds : Bool}
      {next : World}
      (performed : world.performWith name (fun progress => progress.beginDispose world.now) =
        some (holds, next)) :
      Move world registry next (registry.withdraw name)
  /-- The farewells of an agent are taken to have left. -/
  | release
      {name : String}
      {member : Member}
      (found : world.members.find? name = some member)
      (disposed : member.agent.isDisposed = true) :
      Move world registry (world.perform name Progress.release) registry
  | drop
      {name : String}
      {member : Member}
      (found : world.members.find? name = some member) :
      Move world registry (world.perform name fun progress => progress.drop world.now)
        (registry.withdraw name)
  /-- A task takes a turn. -/
  | turn
      {task : Task}
      (notDisposal : task.isDisposal = false) :
      Move world registry (world.turn task) registry
  /-- Time passes. -/
  | wait
      {instant : Instant}
      (later : world.now ≤ instant) :
      Move world registry { world with now := instant } registry
  /-- The network begins or ceases to deliver everything twice. -/
  | setDuplicate (duplicate : Bool) :
      Move world registry { world with network := world.network.setDuplicate duplicate } registry
  /-- Something is noted that is no concern of the agents and the network. -/
  | aside
      {next : World}
      (same : SameScene next world) :
      Move world registry next registry

/-- The worlds to which runs lead, each with what has been published by then. -/
inductive Run : World → Registry → Prop where
  | new : Run .new ∅
  | move
      {world next : World}
      {registry laterRegistry : Registry}
      (run : Run world registry)
      (move : Move world registry next laterRegistry) :
      Run next laterRegistry

end Simulation

end Discovery
