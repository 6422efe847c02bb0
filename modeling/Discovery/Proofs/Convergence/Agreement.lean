import Discovery.Proofs.Convergence.History

namespace Discovery

/-!
# Agreement at rest

Every move of a run keeps the world converging and the registry faithful to
what the agents offer.  When no task has anything to do, nothing waits in a
queue and no announcement is due, so every reader sees what the registry shows.
-/

namespace Simulation

namespace World

/-- The resource that an agent of a world offers under an identifier. -/
def offer? (world : World) (owner : String) (id : ResourceId) : Option LocalResource :=
  (world.view.posted owner id).map Scheduled.resource

variable {world : World} {name : String} {member : Member}

theorem offer?_of_found
    (found : world.members.find? name = some member)
    (id : ResourceId) :
    world.offer? name id = member.agent.offer? id := by
  rw [offer?, posted_view found, Agent.offer?]

/-- An operation of one agent changes what that agent offers. -/
theorem offer?_absorb
    (found : world.members.find? name = some member)
    {number : Nat}
    (endpoint : member.endpoint = some number)
    {progress : Progress}
    (plain : ∀ output ∈ progress.outputs, output.isAsked = false)
    (owner : String)
    (id : ResourceId) :
    (world.absorb name progress).offer? owner id =
      if owner = name then progress.agent.offer? id else world.offer? owner id := by
  rw [offer?, view_absorb found endpoint plain, offer?]
  change ((if owner = name then progress.agent.posted? else world.view.posted owner) id).map _ = _
  split <;> rfl

/-- An identifier that no agent has used is nobody's. -/
theorem ever_eq_none
    {id : ResourceId}
    (fresh : ∀ {other known}, world.members.find? other = some known →
      known.agent.localResource? id = none)
    (other : String) :
    world.view.ever other id = none := by
  obtain absent | ⟨known, found⟩ := Option.eq_none_or_eq_some (world.members.find? other)
  · simp only [view, absent, Option.bind_none]
  · rw [ever_view found]
    exact fresh found

theorem performWith_eq_some
    {Result : Type}
    {operation : Progress → Result × Progress}
    {result : Result}
    {next : World}
    (performed : world.performWith name operation = some (result, next)) :
    ∃ member, world.members.find? name = some member ∧
      result = (operation member.agent.begin).1 ∧
      next = world.absorb name (operation member.agent.begin).2 := by
  obtain ⟨member, found, same⟩ := Option.map_eq_some_iff.mp performed
  cases same
  exact ⟨member, found, rfl, rfl⟩

end World

end Simulation

/-- A resource as its owner has posted it. -/
def LocalResource.posting (resource : LocalResource) (owner : String) : Posting :=
  ⟨owner, resource.category, resource.connection, resource.attributes⟩

namespace Simulation

/-- The registry holds what the agents offer. -/
def Registered (registry : Registry) (world : World) : Prop :=
  ∀ id posting, registry.find? id = some posting ↔
    ∃ resource, world.offer? posting.owner id = some resource ∧
      posting = resource.posting posting.owner

/-- What holds of a world and its registry between two moves. -/
structure Faithful (world : World) (registry : Registry) : Prop extends Converging world where
  registered : Registered registry world

namespace Registered

variable {world next : World} {registry : Registry} {name : String}

/-- What nobody offers anew or ceases to offer stays in the registry. -/
theorem of_offers
    (registered : Registered registry world)
    (same : ∀ owner id, next.offer? owner id = world.offer? owner id) :
    Registered registry next := by
  intro id posting
  rw [same]
  exact registered id posting

theorem publish
    (registered : Registered registry world)
    {id : ResourceId}
    (resource : LocalResource)
    (unheard : ∀ owner, world.offer? owner id = none)
    (offers : ∀ owner sought, next.offer? owner sought =
      if owner = name ∧ sought = id then some resource else world.offer? owner sought) :
    Registered (registry.insert id (resource.posting name)) next := by
  intro sought posting
  rw [Table.find?_insert, offers]
  by_cases isId : sought = id
  · rw [if_pos isId]
    constructor
    · intro isPosting
      cases isPosting
      exact ⟨resource, if_pos ⟨rfl, isId⟩, rfl⟩
    · rintro ⟨offered, isOffered, same⟩
      split at isOffered
      next isName =>
        cases isOffered
        rw [same, isName.1]
      next =>
        rw [isId, unheard] at isOffered
        cases isOffered
  · rw [if_neg isId, if_neg fun both => isId both.2]
    exact registered sought posting

theorem commit
    (registered : Registered registry world)
    {editor : Editor}
    (offers : ∀ owner sought, next.offer? owner sought =
      if sought = editor.resource then (world.offer? owner sought).map editor.edited
      else world.offer? owner sought) :
    Registered (registry.commit editor (.ok ())) next := by
  intro sought posting
  rw [Registry.commit, Table.find?_modify, offers]
  by_cases isResource : sought = editor.resource
  · rw [if_pos isResource, if_pos isResource]
    constructor
    · intro isPosting
      obtain ⟨before, isBefore, rfl⟩ := Option.map_eq_some_iff.mp isPosting
      obtain ⟨resource, offered, same⟩ := (registered sought before).mp isBefore
      refine ⟨editor.edited resource, Option.map_eq_some_iff.mpr ⟨resource, offered, rfl⟩, ?_⟩
      rw [same]
      rfl
    · rintro ⟨later, isLater, same⟩
      obtain ⟨resource, offered, rfl⟩ := Option.map_eq_some_iff.mp isLater
      have isBefore := (registered sought (resource.posting posting.owner)).mpr
        ⟨resource, offered, rfl⟩
      refine Option.map_eq_some_iff.mpr ⟨_, isBefore, ?_⟩
      rw [same]
      rfl
  · rw [if_neg isResource, if_neg isResource]
    exact registered sought posting

theorem withdraw
    (registered : Registered registry world)
    (offers : ∀ owner sought, next.offer? owner sought =
      if owner = name then none else world.offer? owner sought) :
    Registered (registry.withdraw name) next := by
  intro sought posting
  rw [Registry.withdraw, Table.find?_filter, Option.filter_eq_some_iff, registered, offers]
  by_cases isName : posting.owner = name
  · simp [isName]
  · simp [isName]

end Registered

namespace Faithful

variable {world next : World} {registry : Registry} {name : String} {member : Member}

/-- Of the agents of a world, one at most offers a resource. -/
theorem offer?_alone
    (faithful : Faithful world registry)
    {first second : String}
    {id : ResourceId}
    (byFirst : (world.offer? first id).isSome)
    (bySecond : (world.offer? second id).isSome) :
    first = second := by
  have everOf : ∀ {owner}, (world.offer? owner id).isSome → (world.view.ever owner id).isSome := by
    intro owner offered
    rw [World.offer?, Option.isSome_map] at offered
    obtain ⟨scheduled, posted⟩ := Option.isSome_iff_exists.mp offered
    rw [faithful.coherent.offered posted]
    rfl
  exact faithful.coherent.alone (everOf byFirst) (everOf bySecond)

/-- A world takes over an agent after an operation, and the registry keeps up with its offers. -/
theorem absorb
    (faithful : Faithful world registry)
    (found : world.members.find? name = some member)
    {progress : Progress}
    (operated : ∀ {number}, Sustained world name number member.agent.begin →
      world.view.address name = some number →
        Sustained world name number progress ∧ Phase progress.agent)
    {later : Registry}
    (registered : (∀ owner id, (world.absorb name progress).offer? owner id =
      if owner = name then progress.agent.offer? id else world.offer? owner id) →
        Registered later (world.absorb name progress)) :
    Faithful (world.absorb name progress) later := by
  obtain ⟨number, endpoint⟩ := faithful.wired.connected found
  have address := Converging.address found endpoint
  obtain ⟨sustained, phase⟩ := operated (faithful.sustained found endpoint) address
  exact ⟨.absorb faithful.wired found endpoint (fun _ => faithful.fit) sustained phase,
    registered (World.offer?_absorb found endpoint sustained.plain)⟩

/-- An operation that changes no offer leaves the registry faithful. -/
theorem keep
    (faithful : Faithful world registry)
    (found : world.members.find? name = some member)
    {progress : Progress}
    (kept : ∀ {number}, Sustained world name number member.agent.begin →
      world.view.address name = some number →
        Kept world name number member.agent progress) :
    Faithful (world.absorb name progress) registry := by
  obtain ⟨number, endpoint⟩ := faithful.wired.connected found
  have operated := kept (faithful.sustained found endpoint) (Converging.address found endpoint)
  refine faithful.absorb found (fun sustained address => ?_) fun offers => ?_
  · have still := kept sustained address
    exact ⟨still.sustained, still.phase⟩
  · refine faithful.registered.of_offers fun owner id => ?_
    rw [offers]
    split
    next isName => rw [isName, World.offer?_of_found found, operated.offers]
    next => rfl

theorem perform
    (faithful : Faithful world registry)
    (name : String)
    (operation : Progress → Progress)
    (kept : ∀ {member number}, world.members.find? name = some member →
      Sustained world name number member.agent.begin → world.view.address name = some number →
        Kept world name number member.agent (operation member.agent.begin)) :
    Faithful (world.perform name operation) registry := by
  unfold World.perform
  split
  next => exact faithful
  next member found => exact faithful.keep found (kept found)

/-- A fresh resource is published. -/
theorem publish
    (faithful : Faithful world registry)
    (found : world.members.find? name = some member)
    (lasting : 1 ≤ member.agent.settings.resourceExpiry.toNat)
    {id : ResourceId}
    (real : id.isNil = false)
    (fresh : ∀ {other known}, world.members.find? other = some known →
      known.agent.localResource? id = none)
    (category connection : String)
    (attributes : Attributes) :
    Faithful
      (world.absorb name
        (member.agent.begin.publish world.now id category connection attributes).2)
      (registry.publish name id category connection attributes
        (member.agent.begin.publish world.now id category connection attributes).1) := by
  have unheard := World.ever_eq_none fresh
  refine faithful.absorb found (fun sustained address =>
    sustained.begin_publish (faithful.fit found).phase faithful.wired address lasting real
      (fresh found) (fun other _ => unheard other) category connection attributes)
    fun offers => ?_
  have published := member.agent.begin.offer?_publish world.now id category connection attributes
  generalize (member.agent.begin.publish world.now id category connection attributes).1 = result
    at published ⊢
  cases result with
  | error cause =>
      refine faithful.registered.of_offers fun owner sought => ?_
      rw [offers]
      split
      next isName =>
        rw [published, isName, World.offer?_of_found found]
        rfl
      next => rfl
  | ok =>
      refine faithful.registered.publish
        (.new id category connection member.agent.settings.wireExpiry attributes)
        (fun owner => ?_) fun owner sought => ?_
      · refine Option.map_eq_none_iff.mpr (Option.eq_none_iff_forall_ne_some.mpr ?_)
        intro scheduled posted
        have offered := faithful.coherent.offered posted
        rw [unheard] at offered
        cases offered
      · rw [offers]
        by_cases isName : owner = name
        · rw [if_pos isName, published]
          subst isName
          simp only [true_and]
          rw [World.offer?_of_found found]
          rfl
        · rw [if_neg isName, if_neg fun both => isName both.1]

/-- An edit is committed; nobody else offers the resource that is edited. -/
theorem commit
    (faithful : Faithful world registry)
    (found : world.members.find? name = some member)
    (editor : Editor) :
    Faithful (world.absorb name (member.agent.begin.commit world.now editor).2)
      (registry.commit editor (member.agent.begin.commit world.now editor).1) := by
  have fit := faithful.fit found
  refine faithful.absorb found (fun sustained address =>
    sustained.begin_commit fit.phase faithful.wired address editor) fun offers => ?_
  have committed := member.agent.begin.offer?_commit world.now editor fit.publisher
  have offered : (member.agent.begin.commit world.now editor).1 = .ok () →
      (world.offer? name editor.resource).isSome := by
    intro success
    rw [World.offer?_of_found found]
    exact Progress.offered_of_commit _ success
  generalize (member.agent.begin.commit world.now editor).1 = result at committed offered ⊢
  cases result with
  | error cause =>
      refine faithful.registered.of_offers fun owner sought => ?_
      rw [offers]
      split
      next isName =>
        rw [committed, isName, World.offer?_of_found found]
        rfl
      next => rfl
  | ok =>
      refine faithful.registered.commit fun owner sought => ?_
      rw [offers]
      by_cases isName : owner = name
      · rw [if_pos isName, committed, isName, World.offer?_of_found found]
        by_cases isResource : sought = editor.resource
        · simp only [isResource, if_true]
          rfl
        · simp only [isResource, if_false, Option.map_id']
          rfl
      · rw [if_neg isName]
        split
        next isResource =>
          have unoffered : world.offer? owner sought = none := by
            refine Option.not_isSome_iff_eq_none.mp fun byOwner => isName ?_
            exact faithful.offer?_alone byOwner (isResource ▸ offered rfl)
          rw [unoffered]
          rfl
        next => rfl

/-- Whatever an agent has published is withdrawn. -/
theorem withdraw
    (faithful : Faithful world registry)
    (found : world.members.find? name = some member)
    {progress : Progress}
    (operated : ∀ {number}, Sustained world name number member.agent.begin →
      world.view.address name = some number →
        Sustained world name number progress ∧ Phase progress.agent ∧
          ∀ id, progress.agent.offer? id = none) :
    Faithful (world.absorb name progress) (registry.withdraw name) := by
  obtain ⟨number, endpoint⟩ := faithful.wired.connected found
  obtain ⟨_, _, nothing⟩ :=
    operated (faithful.sustained found endpoint) (Converging.address found endpoint)
  refine faithful.absorb found (fun sustained address => ?_) fun offers => ?_
  · obtain ⟨still, phase, _⟩ := operated sustained address
    exact ⟨still, phase⟩
  · refine faithful.registered.withdraw fun owner sought => ?_
    rw [offers]
    split
    next => exact nothing sought
    next => rfl

end Faithful

namespace SameScene

variable {world next : World}

theorem view (same : SameScene next world) : next.view = world.view := by
  have members : ∀ {Result : Type} (name : String) (look : Agent → Option Nat → Option Result),
      ((next.members.find? name).bind fun member => look member.agent member.endpoint) =
        (world.members.find? name).bind fun member => look member.agent member.endpoint := by
    intro Result name look
    have seen := congrArg (Option.bind · fun pair => look pair.1 pair.2) (same.members name)
    rw [Option.bind_map, Option.bind_map] at seen
    exact seen
  ext1
  · exact same.now
  · exact funext fun name => members name fun _ endpoint => endpoint
  · exact funext fun name => funext fun id => members name fun agent _ => agent.posted? id
  · exact funext fun name => funext fun id => members name fun agent _ => agent.localResource? id
  · exact funext fun name => funext fun category => funext fun id =>
      members name fun agent _ => agent.known? category id
  · exact funext fun name => funext fun id => members name fun agent _ => agent.indexed? id
  · funext name
    have address := members name fun _ endpoint => endpoint
    simp only [World.view, same.network]
    exact congrArg (Option.bind · world.network.queue?) address

/-- Whoever is in one of two worlds with the same scene is in the other. -/
theorem member
    (same : SameScene next world)
    {name : String}
    {later : Member}
    (found : next.members.find? name = some later) :
    ∃ known, world.members.find? name = some known ∧ known.agent = later.agent ∧
      known.endpoint = later.endpoint := by
  have mapped := same.members name
  rw [found, Option.map_some] at mapped
  obtain ⟨known, isKnown, isSame⟩ := Option.map_eq_some_iff.mp mapped.symm
  exact ⟨known, isKnown, (Prod.mk.inj isSame).1, (Prod.mk.inj isSame).2⟩

end SameScene

/-- A member that has just been created, with an endpoint of its own. -/
def Member.newcomer
    (settings : AgentSettings)
    (attempts : List (Option TransportError))
    (number : Nat) : Member :=
  ⟨⟨settings, ⟨false, attempts⟩, 0, .created, none, none⟩, some number, 0, none, false⟩

/-- The world with a newcomer at the next endpoint. -/
def World.joinedBy
    (world : World)
    (name : String)
    (settings : AgentSettings)
    (attempts : List (Option TransportError)) : World :=
  { world with
    network := world.network.endpoint.2
    members :=
      world.members.insert name
        (.newcomer settings attempts (world.network.endpoints.size + 1)) }

namespace World

variable {world : World} {name : String}
variable {settings : AgentSettings} {attempts : List (Option TransportError)}

theorem createAgent_eq (world : World) :
    (world.createAgent name settings true attempts).2 = world.joinedBy name settings attempts :=
  rfl

theorem find?_joinedBy (other : String) :
    (world.joinedBy name settings attempts).members.find? other =
      if other = name then
        some (.newcomer settings attempts (world.network.endpoints.size + 1))
      else world.members.find? other :=
  Table.find?_insert ..

theorem member_of_joinedBy
    {other : String}
    {known : Member}
    (found : (world.joinedBy name settings attempts).members.find? other = some known) :
    known = .newcomer settings attempts (world.network.endpoints.size + 1) ∨
      world.members.find? other = some known := by
  rw [find?_joinedBy] at found
  split at found
  next => exact .inl (Option.some.inj found).symm
  next => exact .inr found

theorem address_joinedBy
    (world : World)
    (name : String)
    (settings : AgentSettings)
    (attempts : List (Option TransportError))
    (other : String) :
    (world.joinedBy name settings attempts).view.address other =
      if other = name then some (world.network.endpoints.size + 1)
      else world.view.address other := by
  simp only [view, find?_joinedBy]
  split <;> rfl

/-- What a newcomer does not have cannot be told apart from what nobody has. -/
theorem unseen_joinedBy
    (settings : AgentSettings)
    (attempts : List (Option TransportError))
    (isNew : world.members.find? name = none)
    {Result : Type}
    {look : Member → Option Result}
    (nothing : look (.newcomer settings attempts (world.network.endpoints.size + 1)) = none)
    (other : String) :
    ((world.joinedBy name settings attempts).members.find? other).bind look =
      (world.members.find? other).bind look := by
  rw [find?_joinedBy]
  split
  next isName => rw [isName, isNew, Option.bind_some, nothing, Option.bind_none]
  next => rfl

end World

namespace Wired

variable {world : World}

/-- The next endpoint has not been made. -/
theorem unplaced (wired : Wired world) :
    world.network.endpoints.find? (world.network.endpoints.size + 1) = none := by
  refine Option.not_isSome_iff_eq_none.mp fun isPlaced => ?_
  have bounded := wired.numbered isPlaced
  omega

/-- Nothing can be seen of a newcomer but its address. -/
theorem view_joinedBy
    (wired : Wired world)
    {name : String}
    (isNew : world.members.find? name = none)
    (settings : AgentSettings)
    (attempts : List (Option TransportError)) :
    (world.joinedBy name settings attempts).view =
      { world.view with address := (world.joinedBy name settings attempts).view.address } := by
  have unseen {Result : Type} {look : Member → Option Result} :=
    @World.unseen_joinedBy world name settings attempts isNew Result look
  ext1
  · rfl
  · rfl
  · exact funext fun owner => funext fun id => unseen rfl owner
  · exact funext fun owner => funext fun id => unseen rfl owner
  · exact funext fun reader => funext fun category => funext fun id =>
      unseen rfl reader
  · exact funext fun reader => funext fun id => unseen rfl reader
  · obtain ⟨_, _, queue⟩ := world.network.endpoint_spec wired.unplaced
    funext reader
    simp only [World.view, World.joinedBy, funext queue, Option.bind_assoc]
    refine unseen ?_ reader
    rw [Member.newcomer, Option.bind_some, Network.queue?, wired.unplaced, Option.bind_none]

/-- A newcomer has its endpoint to itself. -/
theorem joinedBy
    (wired : Wired world)
    (name : String)
    (settings : AgentSettings)
    (attempts : List (Option TransportError)) :
    Wired (world.joinedBy name settings attempts) := by
  obtain ⟨size, placed, _⟩ := world.network.endpoint_spec wired.unplaced
  have address := world.address_joinedBy name settings attempts
  refine ⟨wired.lossless, ?_, ?_, ?_, ?_⟩
  · intro other known found
    rcases World.member_of_joinedBy found with rfl | wasMember
    · exact ⟨_, rfl⟩
    · exact wired.connected wasMember
  · intro other taken isAddress
    rw [address] at isAddress
    rw [World.joinedBy, placed]
    split at isAddress
    next => rw [← Option.some.inj isAddress, decide_eq_true rfl, Bool.true_or]
    next => rw [wired.placed isAddress, Bool.or_true]
  · intro taken isPlaced
    rw [World.joinedBy, placed, Bool.or_eq_true, decide_eq_true_eq] at isPlaced
    rw [World.joinedBy, size]
    rcases isPlaced with isLast | wasPlaced
    · exact Nat.le_of_eq isLast
    · exact Nat.le_succ_of_le (wired.numbered wasPlaced)
  · intro first second taken isFirst isSecond
    rw [address] at isFirst isSecond
    have notNew : ∀ {other},
        world.view.address other = some (world.network.endpoints.size + 1) → False := by
      intro other isAddress
      have isPlaced := wired.placed isAddress
      rw [wired.unplaced] at isPlaced
      cases isPlaced
    split at isFirst
    next firstName =>
      cases isFirst
      split at isSecond
      next secondName => exact firstName.trans secondName.symm
      next => exact (notNew isSecond).elim
    next =>
      split at isSecond
      next =>
        cases isSecond
        exact (notNew isFirst).elim
      next => exact wired.apart isFirst isSecond

end Wired

namespace Faithful

variable {world next : World} {registry : Registry}

theorem aside
    (faithful : Faithful world registry)
    (same : SameScene next world) :
    Faithful next registry := by
  have view := same.view
  refine ⟨⟨faithful.wired.of_shape ?_ ?_ fun name => by rw [view], view ▸ faithful.coherent, ?_⟩,
    faithful.registered.of_offers fun owner id => by rw [World.offer?, view, World.offer?]⟩
  · rw [same.network]
    exact .refl world.network
  · intro name later found
    obtain ⟨known, isKnown, _, endpoint⟩ := same.member found
    exact endpoint ▸ faithful.wired.connected isKnown
  · intro name later found
    obtain ⟨known, isKnown, agent, endpoint⟩ := same.member found
    have fit := faithful.fit isKnown
    refine ⟨fun isNumber => ?_, fun isPublisher => ?_, fun isSubscriber => ?_, agent ▸ fit.phase⟩
    · rw [same.network, ← agent]
      exact fit.online (endpoint.trans isNumber)
    · rw [same.now]
      exact fit.publisher (agent ▸ isPublisher)
    · exact fit.tidy (agent ▸ isSubscriber)

/-- The network may change where no agent is. -/
theorem withNetwork
    (faithful : Faithful world registry)
    {network : Network}
    (lossless : 0 < network.faults.copies)
    (exists_iff : ∀ number, (network.endpoints.find? number).isSome =
      (world.network.endpoints.find? number).isSome)
    (size : network.endpoints.size = world.network.endpoints.size)
    (queue : ∀ {name number}, world.view.address name = some number →
      network.queue? number = world.network.queue? number) :
    Faithful { world with network := network } registry := by
  have view : World.view { world with network := network } = world.view := by
    ext1
    · rfl
    · rfl
    · rfl
    · rfl
    · rfl
    · rfl
    · funext name
      change (world.view.address name).bind network.queue? =
        (world.view.address name).bind world.network.queue?
      cases address : world.view.address name with
      | none => rfl
      | some number => exact queue address
  refine ⟨⟨⟨lossless, faithful.wired.connected, ?_, ?_, faithful.wired.apart⟩,
    view ▸ faithful.coherent, ?_⟩,
    faithful.registered.of_offers fun owner id => by rw [World.offer?, view, World.offer?]⟩
  · intro name number address
    exact (exists_iff number).trans (faithful.wired.placed address)
  · intro number isPlaced
    rw [size]
    exact faithful.wired.numbered ((exists_iff number).symm.trans isPlaced)
  · intro name member found
    have fit := faithful.fit found
    refine ⟨fun endpoint => ?_, fit.publisher, fit.tidy, fit.phase⟩
    exact (congrArg Option.isSome (queue (Converging.address found endpoint))).trans
      (fit.online endpoint)

theorem setDuplicate
    (faithful : Faithful world registry)
    (duplicate : Bool) :
    Faithful { world with network := world.network.setDuplicate duplicate } registry := by
  refine faithful.withNetwork ?_ (fun _ => rfl) rfl fun _ => rfl
  have lossless := faithful.wired.lossless
  unfold Faults.copies at lossless ⊢
  split at lossless
  next => cases lossless
  next notLossy =>
    rw [show (world.network.setDuplicate duplicate).faults =
      { world.network.faults with duplicate := duplicate } from rfl, if_neg notLossy]
    cases duplicate with
    | false => exact Nat.one_pos
    | true => exact Nat.two_pos

/-- Time passes. -/
theorem wait
    (faithful : Faithful world registry)
    {instant : Instant}
    (later : world.now ≤ instant) :
    Faithful { world with now := instant } registry := by
  refine ⟨⟨⟨faithful.wired.lossless, faithful.wired.connected, faithful.wired.placed,
    faithful.wired.numbered, faithful.wired.apart⟩, faithful.coherent.wait later, ?_⟩,
    faithful.registered⟩
  intro name member found
  have fit := faithful.fit found
  exact ⟨fit.online, fun isPublisher => (fit.publisher isPublisher).wait later, fit.tidy,
    fit.phase⟩

/-- A new agent has an endpoint of its own, and neither offers nor watches anything. -/
theorem create
    (faithful : Faithful world registry)
    {name : String}
    (isNew : world.members.find? name = none)
    (settings : AgentSettings)
    (attempts : List (Option TransportError)) :
    Faithful (world.createAgent name settings true attempts).2 registry := by
  rw [world.createAgent_eq]
  have view := faithful.wired.view_joinedBy isNew settings attempts
  have watchesNothing : ∀ category id, world.view.knows name category id = none := by
    intro category id
    simp only [World.view, isNew, Option.bind_none]
  refine ⟨⟨faithful.wired.joinedBy name settings attempts, ?_, ?_⟩, ?_⟩
  · rw [view]
    refine faithful.coherent.moved watchesNothing fun different => ?_
    exact (world.address_joinedBy name settings attempts _).trans (if_neg different)
  · obtain ⟨_, _, queue⟩ := world.network.endpoint_spec faithful.wired.unplaced
    intro other known found
    rcases World.member_of_joinedBy found with isNewcomer | wasMember
    · rw [isNewcomer]
      have idle : ∀ {Role : Type} {role : Role}, none ≠ some role := by
        intro Role role isRole
        cases isRole
      refine ⟨fun isEndpoint => ?_, fun isPublisher => absurd isPublisher idle,
        fun isSubscriber => absurd isSubscriber idle,
        .running
          ⟨fun isDisposed => (by cases isDisposed), fun isPublisher => absurd isPublisher idle⟩
          ⟨rfl, Nat.le_refl 0, rfl, rfl, fun isSubscriber => absurd isSubscriber idle⟩⟩
      rw [← Option.some.inj isEndpoint, World.joinedBy, queue, Network.queue?,
        faithful.wired.unplaced]
      rfl
    · have fit := faithful.fit wasMember
      refine ⟨fun endpoint => ?_, fun isPublisher => fit.publisher isPublisher, fit.tidy, fit.phase⟩
      rw [World.joinedBy, queue]
      exact fit.online endpoint
  · refine faithful.registered.of_offers fun owner id => ?_
    rw [World.offer?, view, World.offer?]

/-- What an agent does without putting anything out only changes the agent. -/
theorem updateAgent
    (faithful : Faithful world registry)
    (name : String)
    {change : Agent → Agent}
    (kept : ∀ {agent : Agent} {number}, Sustained world name number agent.begin → Phase agent →
      Kept world name number agent (change agent).begin) :
    Faithful
      (world.updateMember name fun known => { known with agent := change known.agent })
      registry := by
  unfold World.updateMember
  obtain absent | ⟨member, found⟩ := Option.eq_none_or_eq_some (world.members.find? name)
  · rwa [Table.modify_of_find?_eq_none absent]
  · have kept : Faithful (world.absorb name (change member.agent).begin) registry :=
      faithful.keep found fun sustained _ => kept sustained (faithful.fit found).phase
    have same : world.absorb name (change member.agent).begin =
        { world with
          members := world.members.insert name { member with agent := change member.agent } } := by
      unfold World.absorb World.updateMember
      rw [Table.modify_eq_insert found]
      rfl
    rw [Table.modify_eq_insert found]
    rwa [same] at kept

/-- The owner of an endpoint is the agent whose address it is. -/
theorem ownerOf?_cases
    (world : World)
    (endpoint : Nat) :
    (world.ownerOf? endpoint = none ∧ ∀ name, world.view.address name ≠ some endpoint) ∨
      ∃ name member, world.ownerOf? endpoint = some name ∧
        world.members.find? name = some member ∧ member.endpoint = some endpoint := by
  unfold World.ownerOf?
  cases owner : world.members.entries.find? fun entry => entry.2.endpoint == some endpoint with
  | none =>
      refine .inl ⟨rfl, fun name address => ?_⟩
      obtain ⟨member, found, isEndpoint⟩ := Option.bind_eq_some_iff.mp address
      have different := List.find?_eq_none.mp owner _ (Table.find?_eq_some_iff.mp found)
      exact different (beq_iff_eq.mpr isEndpoint)
  | some entry =>
      refine .inr ⟨entry.1, entry.2, rfl, Table.find?_eq_some_iff.mpr ?_, ?_⟩
      · exact List.mem_of_find?_eq_some owner
      · have isEndpoint := List.find?_some owner
        exact beq_iff_eq.mp isEndpoint

/-- Whatever has ever been offered has a proper identifier. -/
theorem real
    (faithful : Faithful world registry)
    {owner : String}
    {id : ResourceId}
    (isEver : (world.view.ever owner id).isSome) :
    id.isNil = false := by
  obtain ⟨resource, wasEver⟩ := Option.isSome_iff_exists.mp isEver
  obtain ⟨member, found, isLocal⟩ := Option.bind_eq_some_iff.mp wasEver
  obtain ⟨publisher, isPublisher, isResource⟩ := Option.bind_eq_some_iff.mp isLocal
  exact ((faithful.fit found).publisher isPublisher).real (by rw [isResource]; rfl)

/-- What was taken off a queue is handed over. -/
theorem hand
    (faithful : Faithful world registry)
    {endpoint : Nat}
    {first : Delivery}
    {rest : List Delivery}
    {network : Network}
    (taken : world.network.Taken endpoint first rest network) :
    Faithful (World.hand { world with network := network } endpoint first) registry := by
  have shape := taken.shape
  unfold World.hand
  rcases ownerOf?_cases { world with network := network } endpoint with
    ⟨noOwner, notAddress⟩ | ⟨name, member, isOwner, found, isEndpoint⟩
  · have emptied : Faithful { world with network := network } registry := by
      refine faithful.withNetwork ?_ shape.exists_iff shape.size fun {name number} address => ?_
      · rw [shape.faults]
        exact faithful.wired.lossless
      · rw [taken.queue, if_neg]
        rintro rfl
        exact notAddress name address
    rw [noOwner]
    dsimp only
    split
    next => exact emptied
    next => exact emptied.aside ⟨rfl, rfl, fun _ => rfl⟩
  · have address := Converging.address found isEndpoint
    have fit := faithful.fit found
    have received := (faithful.sustained found isEndpoint).receive faithful.wired address taken
      fit.phase.sound faithful.real
    have samePublisher := member.agent.begin.publisher_receive world.now first
    have offers : ∀ id, (member.agent.begin.receive world.now first).agent.offer? id =
        member.agent.offer? id := Agent.offer?_of_publisher samePublisher
    have phase : Phase (member.agent.begin.receive world.now first).agent :=
      fit.phase.run (.receive world.now first) fun _ nothing id => (offers id).trans (nothing id)
    have others : ∀ {other known}, other ≠ name → world.members.find? other = some known →
        Fit { world with network := network } known := by
      intro other known different isKnown
      have otherFit := faithful.fit isKnown
      refine ⟨fun {number} isNumber => ?_, otherFit.publisher, otherFit.tidy, otherFit.phase⟩
      have notEndpoint : number ≠ endpoint := by
        rintro rfl
        exact different (faithful.wired.apart (Converging.address isKnown isNumber) address)
      rw [taken.queue, if_neg notEndpoint]
      exact otherFit.online isNumber
    rw [isOwner]
    dsimp only
    unfold World.perform
    rw [found]
    have wired : Wired { world with network := network } :=
      faithful.wired.of_shape shape faithful.wired.connected fun _ => rfl
    refine ⟨.absorb wired found isEndpoint others received phase,
      faithful.registered.of_offers fun owner id => ?_⟩
    refine (World.offer?_absorb found isEndpoint received.plain owner id).trans ?_
    split
    next isName =>
      rw [offers, isName]
      exact (World.offer?_of_found found id).symm
    next => rfl

theorem pump
    (faithful : Faithful world registry)
    (endpoint budget : Nat) :
    Faithful (World.pump endpoint budget world) registry := by
  induction budget generalizing world with
  | zero => exact faithful
  | succ budget inductionHypothesis =>
      rw [World.pump]
      rcases world.network.take_cases endpoint with
        ⟨first, rest, network, took, taken⟩ | ⟨network, took, shape, queue⟩
      · rw [took]
        exact inductionHypothesis (faithful.hand taken)
      · rw [took]
        refine faithful.withNetwork ?_ shape.exists_iff shape.size fun _ => queue _
        rw [shape.faults]
        exact faithful.wired.lossless

theorem turn
    (faithful : Faithful world registry)
    {task : Task}
    (notDisposal : task.isDisposal = false) :
    Faithful (world.turn task) registry := by
  cases task with
  | pump endpoint => exact faithful.pump endpoint World.pumpBudget
  | announce name =>
      exact faithful.perform name (fun progress => progress.announce world.now)
        fun found sustained address =>
          .announce sustained (faithful.fit found).phase faithful.wired address
  | expire name =>
      exact faithful.perform name (fun progress => progress.expire world.now)
        fun found sustained _ => .expire sustained (faithful.fit found).phase
  | deliver name =>
      exact faithful.perform name (fun progress => progress.deliver world.now)
        fun found sustained _ => .deliver sustained (faithful.fit found).phase
  | flush => cases notDisposal
  | dispose => cases notDisposal
  | alarm name =>
      refine faithful.aside ?_
      change SameScene (world.ring name) world
      unfold World.ring
      split
      next => exact ⟨rfl, rfl, fun _ => rfl⟩
      next =>
        dsimp only
        split <;> exact ⟨rfl, rfl, fun _ => rfl⟩

/-- Every move keeps a world converging and its registry faithful. -/
theorem move
    {later : Registry}
    (faithful : Faithful world registry)
    (move : Move world registry next later) :
    Faithful next later := by
  cases move with
  | create isNew => exact faithful.create isNew _ _
  | publish found lasting real fresh performed =>
      obtain ⟨known, isKnown, rfl, rfl⟩ := World.performWith_eq_some performed
      rw [found] at isKnown
      cases isKnown
      exact faithful.publish found lasting real fresh _ _ _
  | subscribe performed =>
      obtain ⟨member, found, _, rfl⟩ := World.performWith_eq_some performed
      exact faithful.keep found fun sustained address =>
        .subscribe sustained (faithful.fit found).phase faithful.wired address _
  | disposeSubscription name subscription =>
      exact faithful.perform name _ fun found sustained address =>
        .dispose sustained (faithful.fit found).phase faithful.wired address subscription
  | read name subscription =>
      exact faithful.updateAgent name fun sustained phase => .read sustained phase subscription
  | shuffle name categories resources =>
      exact faithful.updateAgent name fun sustained phase =>
        .shuffle sustained phase categories resources
  | commit performed =>
      obtain ⟨member, found, rfl, rfl⟩ := World.performWith_eq_some performed
      exact faithful.commit found _
  | beginDispose performed =>
      obtain ⟨member, found, _, rfl⟩ := World.performWith_eq_some performed
      exact faithful.withdraw found fun sustained address =>
        sustained.begin_beginDispose (faithful.fit found).phase faithful.wired address
  | @release name member found disposed =>
      refine faithful.perform name _ fun isFound sustained address => ?_
      rw [found] at isFound
      cases isFound
      exact .release sustained (faithful.fit found).phase faithful.wired address
        (of_decide_eq_true disposed)
  | @drop name member found =>
      unfold World.perform
      rw [found]
      exact faithful.withdraw found fun sustained address =>
        sustained.begin_drop (faithful.fit found).phase faithful.wired address
  | turn notDisposal => exact faithful.turn notDisposal
  | wait later => exact faithful.wait later
  | setDuplicate duplicate => exact faithful.setDuplicate duplicate
  | aside same => exact faithful.aside same

end Faithful

end Simulation

end Discovery
