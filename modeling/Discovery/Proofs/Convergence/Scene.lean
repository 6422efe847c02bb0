import Discovery.Proofs.Convergence.Hearing
import Discovery.Proofs.Convergence.Speech
import Discovery.Proofs.Network.Queues
import Discovery.Proofs.Subscriber.Revision
import Discovery.Simulation.World

namespace Discovery

/-!
# The view of a world

The view of a world shows what its agents offer and know and what waits in
their queues.  What an agent puts out in an operation reaches the others only
through the network, so the view after the operation is the view before it
with the agent replaced and the queues as its outputs have left them.
-/

namespace Agent

/-- What an agent offers under an identifier. -/
def posted? (agent : Agent) (id : ResourceId) : Option Scheduled :=
  agent.publisher.bind fun publisher => publisher.owned.find? id

/-- What an agent knows of a resource in a category; nothing if it does not watch it. -/
def known? (agent : Agent) (category : String) (id : ResourceId) :
    Option (Option RemoteEntry) :=
  agent.subscriber.bind fun subscriber => subscriber.known? category id

/-- The category under which an agent looks a resource up. -/
def indexed? (agent : Agent) (id : ResourceId) : Option String :=
  agent.subscriber.bind fun subscriber => subscriber.index.find? id

end Agent

namespace Output

/-- Whether an output is a request of another agent. -/
def isAsked : Output → Bool
  | .asked .. => true
  | _ => false

end Output

namespace Network

/-- What an output of the agent at an endpoint does to the network. -/
def transmit (number : Nat) (network : Network) : Output → Network
  | .started => Simulation.World.startEndpoint network number
  | .stopped => network.stop number
  | .sent outgoing => network.send number outgoing
  | .startFailed | .joined | .left | .overdrawn | .updated .. | .acted .. | .asked .. => network

/-- What the outputs of an agent do to the network. -/
def transmitAll (network : Network) (number : Nat) (outputs : List Output) : Network :=
  outputs.foldl (transmit number) network

theorem transmitAll_append
    (network : Network)
    (number : Nat)
    (first second : List Output) :
    network.transmitAll number (first ++ second) =
      (network.transmitAll number first).transmitAll number second :=
  List.foldl_append

theorem transmitAll_sent
    (network : Network)
    (number : Nat)
    (outgoing : List Outgoing) :
    network.transmitAll number (outgoing.map .sent) = network.sendAll number outgoing :=
  List.foldl_map

end Network

namespace Simulation.World

/-- What matters of the agents of a world. -/
def view (world : World) : View where
  now := world.now
  address name := (world.members.find? name).bind Member.endpoint
  posted name id := (world.members.find? name).bind fun member => member.agent.posted? id
  ever name id := (world.members.find? name).bind fun member => member.agent.localResource? id
  knows name category id :=
    (world.members.find? name).bind fun member => member.agent.known? category id
  indexed name id := (world.members.find? name).bind fun member => member.agent.indexed? id
  queue name :=
    ((world.members.find? name).bind Member.endpoint).bind fun number =>
      world.network.queue? number

section Members

variable {world : World} {name : String} {member : Member}
variable (found : world.members.find? name = some member)

include found

theorem address_view : world.view.address name = member.endpoint := by
  simp only [view, found, Option.bind_some]

theorem posted_view : world.view.posted name = member.agent.posted? := by
  simp only [view, found, Option.bind_some]

theorem ever_view : world.view.ever name = member.agent.localResource? := by
  simp only [view, found, Option.bind_some]

theorem knows_view : world.view.knows name = member.agent.known? := by
  simp only [view, found, Option.bind_some]

theorem indexed_view : world.view.indexed name = member.agent.indexed? := by
  simp only [view, found, Option.bind_some]

end Members

/-- The view with one agent replaced, and with another network. -/
def viewWith (world : World) (name : String) (agent : Agent) (network : Network) : View where
  now := world.now
  address := world.view.address
  posted owner := if owner = name then agent.posted? else world.view.posted owner
  ever owner := if owner = name then agent.localResource? else world.view.ever owner
  knows reader := if reader = name then agent.known? else world.view.knows reader
  indexed reader := if reader = name then agent.indexed? else world.view.indexed reader
  queue reader := (world.view.address reader).bind network.queue?

section Carrying

variable {world : World} {name : String} {member : Member}

/-- Recording something changes nothing that matters. -/
theorem carry_spec
    (found : world.members.find? name = some member)
    {number : Nat}
    (address : member.endpoint = some number)
    (output : Output) :
    (world.carry name output).now = world.now ∧
      (world.carry name output).members = world.members ∧
        (world.carry name output).network = world.network.transmit number output := by
  have onNetwork : ∀ (deed : World) (change : Network → Nat → Network),
      deed.now = world.now → deed.members = world.members → deed.network = world.network →
        (deed.onNetwork name change).now = world.now ∧
          (deed.onNetwork name change).members = world.members ∧
            (deed.onNetwork name change).network = change world.network number := by
    intro deed change now members network
    unfold onNetwork
    rw [members, found, Option.bind_some, address, network]
    exact ⟨now, rfl, rfl⟩
  cases output with
  | started => exact onNetwork _ _ rfl rfl rfl
  | stopped => exact onNetwork _ _ rfl rfl rfl
  | sent outgoing => cases outgoing <;> exact onNetwork _ _ rfl rfl rfl
  | startFailed | joined | left | overdrawn | updated | asked => exact ⟨rfl, rfl, rfl⟩
  | acted callback outcome => cases outcome <;> exact ⟨rfl, rfl, rfl⟩

/-- Carrying out what one agent put out changes the network only. -/
theorem foldl_carryOut_spec
    (found : world.members.find? name = some member)
    {number : Nat}
    (address : member.endpoint = some number)
    {outputs : List Output}
    (plain : ∀ output ∈ outputs, output.isAsked = false) :
    (outputs.foldl (carryOut name) world).now = world.now ∧
      (outputs.foldl (carryOut name) world).members = world.members ∧
        (outputs.foldl (carryOut name) world).network =
          world.network.transmitAll number outputs := by
  induction outputs generalizing world with
  | nil => exact ⟨rfl, rfl, rfl⟩
  | cons output rest inductionHypothesis =>
      have isCarry : world.carryOut name output = world.carry name output := by
        have notAsked := plain output List.mem_cons_self
        cases output with
        | asked => cases notAsked
        | _ => rfl
      obtain ⟨now, members, network⟩ := carry_spec found address output
      obtain ⟨laterNow, laterMembers, laterNetwork⟩ :=
        inductionHypothesis (members.symm ▸ found) fun later member =>
          plain later (List.mem_cons_of_mem _ member)
      rw [List.foldl_cons, isCarry]
      refine ⟨laterNow.trans now, laterMembers.trans members, laterNetwork.trans ?_⟩
      rw [network]
      rfl

/-- The members after an operation of one agent. -/
theorem members_absorb
    (found : world.members.find? name = some member)
    {number : Nat}
    (address : member.endpoint = some number)
    {progress : Progress}
    (plain : ∀ output ∈ progress.outputs, output.isAsked = false) :
    (world.absorb name progress).now = world.now ∧
      (∀ other, (world.absorb name progress).members.find? other =
        if other = name then some { member with agent := progress.agent }
        else world.members.find? other) ∧
      (world.absorb name progress).network =
        world.network.transmitAll number progress.outputs := by
  let entered := world.updateMember name fun known => { known with agent := progress.agent }
  have members : ∀ other, entered.members.find? other =
      if other = name then some { member with agent := progress.agent }
      else world.members.find? other := by
    intro other
    refine (Table.find?_modify ..).trans ?_
    split
    next isName => rw [isName, found, Option.map_some]
    next => rfl
  have isEntered : entered.members.find? name =
      some { member with agent := progress.agent } := by
    rw [members, if_pos rfl]
  obtain ⟨now, sameMembers, network⟩ := foldl_carryOut_spec isEntered address plain
  refine ⟨now, fun other => ?_, network⟩
  rw [absorb, sameMembers, members]

/-- The view after an operation of one agent. -/
theorem view_absorb
    (found : world.members.find? name = some member)
    {number : Nat}
    (address : member.endpoint = some number)
    {progress : Progress}
    (plain : ∀ output ∈ progress.outputs, output.isAsked = false) :
    (world.absorb name progress).view =
      world.viewWith name progress.agent
        (world.network.transmitAll number progress.outputs) := by
  obtain ⟨now, laterMembers, sameNetwork⟩ := members_absorb found address plain
  have sameAddress : ∀ other, (world.absorb name progress).view.address other =
      world.view.address other := by
    intro other
    simp only [view, laterMembers]
    split
    next isName => rw [isName, found]; rfl
    next => rfl
  ext1
  · exact now
  · exact funext sameAddress
  · funext owner id
    simp only [view, viewWith, laterMembers]
    split <;> rfl
  · funext owner id
    simp only [view, viewWith, laterMembers]
    split <;> rfl
  · funext reader category id
    simp only [view, viewWith, laterMembers]
    split <;> rfl
  · funext reader id
    simp only [view, viewWith, laterMembers]
    split <;> rfl
  · funext reader
    have same := sameAddress reader
    simp only [view] at same
    simp only [view, viewWith, same, sameNetwork]

end Carrying

end Simulation.World

end Discovery
