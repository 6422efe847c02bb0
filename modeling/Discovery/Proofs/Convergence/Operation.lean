import Discovery.Proofs.Agent.Usage
import Discovery.Proofs.Convergence.Scene
import Discovery.Proofs.Publisher.Utterance
import Discovery.Proofs.Subscriber.Upkeep

namespace Discovery.Simulation

/-!
# In the middle of an operation

An operation of an agent consists of a few steps: it becomes a user of the
transport or ceases to be one, it lets its publisher speak, and it lets its
subscriber ask, learn or forget.  `Sustained` is what holds of the agent and of
the view between two steps, and each step keeps it.
-/

/-- Every agent has an endpoint of its own on a network that loses nothing. -/
structure Wired (world : World) : Prop where
  lossless : 0 < world.network.faults.copies
  connected : ∀ {name member}, world.members.find? name = some member →
    ∃ number, member.endpoint = some number
  placed : ∀ {name number}, world.view.address name = some number →
    (world.network.endpoints.find? number).isSome
  numbered : ∀ {number}, (world.network.endpoints.find? number).isSome →
    number ≤ world.network.endpoints.size
  apart : ∀ {first second number}, world.view.address first = some number →
    world.view.address second = some number → first = second

/-- The network as the outputs of an agent have left it. -/
def World.networkAfter (world : World) (number : Nat) (progress : Progress) : Network :=
  world.network.transmitAll number progress.outputs

/-- The view in the middle of an operation of one agent. -/
def World.viewDuring
    (world : World)
    (name : String)
    (number : Nat)
    (progress : Progress) : View :=
  world.viewWith name progress.agent (world.networkAfter number progress)

/-- What holds between two steps of an operation. -/
structure Sustained
    (world : World)
    (name : String)
    (number : Nat)
    (progress : Progress) : Prop where
  coherent : (world.viewDuring name number progress).Coherent
  shape : (world.networkAfter number progress).SameShape world.network
  /-- The agent can be reached exactly while its transport has users. -/
  online : ((world.networkAfter number progress).queue? number).isSome =
    decide (0 < progress.agent.users)
  /-- Nobody else is started or stopped. -/
  others : ∀ {other}, other ≠ number →
    ((world.networkAfter number progress).queue? other).isSome =
      (world.network.queue? other).isSome
  plain : ∀ output ∈ progress.outputs, output.isAsked = false
  publisher : ∀ {publisher}, progress.agent.publisher = some publisher →
    publisher.Sound world.now
  tidy : ∀ {subscriber}, progress.agent.subscriber = some subscriber → subscriber.Silent

namespace Sustained

variable {world : World} {name : String} {number : Nat} {progress next : Progress}

/-- What the network does not see and no reader notices makes no difference. -/
theorem alike
    (sustained : Sustained world name number progress)
    (network : world.networkAfter number next = world.networkAfter number progress)
    (plain : ∀ output ∈ next.outputs, output.isAsked = false)
    (users : 0 < next.agent.users ↔ 0 < progress.agent.users)
    (posted : ∀ id, next.agent.posted? id = progress.agent.posted? id)
    (ever : ∀ id, next.agent.localResource? id = progress.agent.localResource? id)
    (known : ∀ category id, next.agent.known? category id = progress.agent.known? category id)
    (indexed : ∀ id, next.agent.indexed? id = progress.agent.indexed? id)
    (publisher : ∀ {publisher}, next.agent.publisher = some publisher →
      publisher.Sound world.now)
    (tidy : ∀ {subscriber}, next.agent.subscriber = some subscriber → subscriber.Silent) :
    Sustained world name number next := by
  have same : world.viewDuring name number next = world.viewDuring name number progress := by
    unfold World.viewDuring World.viewWith
    rw [network, funext posted, funext ever, funext indexed,
      funext fun category => funext (known category)]
  refine ⟨same ▸ sustained.coherent, network ▸ sustained.shape, ?_, ?_, plain, publisher, tidy⟩
  · rw [network, sustained.online]
    simp only [users]
  · rw [network]
    exact sustained.others

/-- Acquiring and releasing leave the publisher and the subscriber alone. -/
theorem ofSameRoles
    (sustained : Sustained world name number progress)
    (roles : progress.SameRoles next)
    (network : world.networkAfter number next = world.networkAfter number progress)
    (plain : ∀ output ∈ next.outputs, output.isAsked = false)
    (users : 0 < next.agent.users ↔ 0 < progress.agent.users) :
    Sustained world name number next := by
  have publisher := roles.publisher
  have subscriber := roles.subscriber
  refine sustained.alike network plain users (fun id => ?_) (fun id => ?_) (fun category id => ?_)
    (fun id => ?_) (fun known => sustained.publisher (publisher ▸ known))
    fun known => sustained.tidy (subscriber ▸ known)
  · rw [Agent.posted?, publisher, Agent.posted?]
  · rw [Agent.localResource?, publisher, Agent.localResource?]
  · rw [Agent.known?, subscriber, Agent.known?]
  · rw [Agent.indexed?, subscriber, Agent.indexed?]

theorem networkAfter_emit
    (world : World)
    (number : Nat)
    (progress : Progress)
    (output : Output) :
    world.networkAfter number (progress.emit output) =
      (world.networkAfter number progress).transmit number output := by
  rw [World.networkAfter, Progress.emit, Network.transmitAll_append]
  rfl

theorem plain_emit
    (plain : ∀ output ∈ progress.outputs, output.isAsked = false)
    {output : Output}
    (notAsked : output.isAsked = false) :
    ∀ other ∈ (progress.emit output).outputs, other.isAsked = false := by
  intro other member
  rcases List.mem_append.mp member with before | now
  · exact plain other before
  · rwa [List.mem_singleton.mp now]

/-- Only the queues differ between two steps that leave the roles of the agent alone. -/
theorem viewDuring_eq
    (publisher : next.agent.publisher = progress.agent.publisher)
    (subscriber : next.agent.subscriber = progress.agent.subscriber)
    {queue : String → Option (List Delivery)}
    (queues : ∀ reader,
      (world.view.address reader).bind (world.networkAfter number next).queue? = queue reader) :
    world.viewDuring name number next =
      { world.viewDuring name number progress with queue := queue } := by
  have posted : next.agent.posted? = progress.agent.posted? := by
    funext id
    rw [Agent.posted?, publisher, Agent.posted?]
  have ever : next.agent.localResource? = progress.agent.localResource? := by
    funext id
    rw [Agent.localResource?, publisher, Agent.localResource?]
  have known : next.agent.known? = progress.agent.known? := by
    funext category id
    rw [Agent.known?, subscriber, Agent.known?]
  have indexed : next.agent.indexed? = progress.agent.indexed? := by
    funext id
    rw [Agent.indexed?, subscriber, Agent.indexed?]
  simp only [World.viewDuring, World.viewWith, posted, ever, known, indexed, funext queues]

/-- An endpoint belongs to one agent. -/
theorem address_cases
    (wired : Wired world)
    (address : world.view.address name = some number)
    (reader : String) :
    (reader = name ∧ world.view.address reader = some number) ∨
      (reader ≠ name ∧ ∀ {other}, world.view.address reader = some other → other ≠ number) := by
  by_cases isName : reader = name
  · exact .inl ⟨isName, isName ▸ address⟩
  · refine .inr ⟨isName, ?_⟩
    rintro other isAddress rfl
    exact isName (wired.apart isAddress address)

/-- Only the queue of the agent itself is another one. -/
theorem viewDuring_setQueue
    (wired : Wired world)
    (address : world.view.address name = some number)
    (publisher : next.agent.publisher = progress.agent.publisher)
    (subscriber : next.agent.subscriber = progress.agent.subscriber)
    {waiting : Option (List Delivery)}
    (queue : ∀ other, (world.networkAfter number next).queue? other =
      if other = number then waiting else (world.networkAfter number progress).queue? other) :
    world.viewDuring name number next =
      { world.viewDuring name number progress with
        queue := fun other =>
          if other = name then waiting
          else (world.viewDuring name number progress).queue other } := by
  refine viewDuring_eq publisher subscriber fun reader => ?_
  rcases address_cases wired address reader with ⟨isName, isAddress⟩ | ⟨notName, notNumber⟩
  · rw [isAddress, Option.bind_some, queue, if_pos rfl, if_pos isName]
  · rw [if_neg notName]
    change _ = (world.view.address reader).bind (world.networkAfter number progress).queue?
    cases isAddress : world.view.address reader with
    | none => rfl
    | some other => rw [Option.bind_some, queue, if_neg (notNumber isAddress), Option.bind_some]

theorem startEndpoint_of_idle
    {network : Network}
    {number : Nat}
    (idle : network.queue? number = none) :
    World.startEndpoint network number =
      { network with endpoints := network.endpoints.insert number ⟨some [], true⟩ } := by
  have notStarted : network.isStarted number = false := by
    rw [Network.isStarted]
    rw [Network.queue?] at idle
    cases found : network.endpoints.find? number with
    | none => rfl
    | some endpoint =>
        rw [found, Option.bind_some] at idle
        rw [Option.any_some, Endpoint.isStarted, idle]
        rfl
  simp only [World.startEndpoint, Network.start, notStarted, Bool.false_eq_true, if_false, if_true]

/-- The first user starts the transport, and the agent can be reached from then on. -/
theorem start
    (sustained : Sustained world name number progress)
    (wired : Wired world)
    (address : world.view.address name = some number)
    (idle : progress.agent.users = 0)
    {agent : Agent}
    (publisher : agent.publisher = progress.agent.publisher)
    (subscriber : agent.subscriber = progress.agent.subscriber)
    (users : 0 < agent.users) :
    Sustained world name number ({ progress with agent := agent }.emit .started) := by
  have placed : ((world.networkAfter number progress).endpoints.find? number).isSome :=
    (sustained.shape.exists_iff number).trans (wired.placed address)
  have notStarted : (world.networkAfter number progress).queue? number = none := by
    have offline := sustained.online
    rwa [idle, decide_eq_false (Nat.lt_irrefl 0), Option.isSome_eq_false_iff,
      Option.isNone_iff_eq_none] at offline
  have network : world.networkAfter number ({ progress with agent := agent }.emit .started) =
      { world.networkAfter number progress with
        endpoints :=
          (world.networkAfter number progress).endpoints.insert number ⟨some [], true⟩ } :=
    (networkAfter_emit world number { progress with agent := agent } .started).trans
      (startEndpoint_of_idle notStarted)
  have queue : ∀ other,
      (world.networkAfter number ({ progress with agent := agent }.emit .started)).queue? other =
        if other = number then some [] else (world.networkAfter number progress).queue? other := by
    intro other
    rw [network]
    exact Network.queue?_insert _ number ⟨some [], true⟩ other
  refine ⟨?_, ?_, ?_, ?_, plain_emit sustained.plain rfl,
    fun known => sustained.publisher (publisher ▸ known),
    fun known => sustained.tidy (subscriber ▸ known)⟩
  · have unreached : (world.viewDuring name number progress).queue name = none := by
      change (world.view.address name).bind (world.networkAfter number progress).queue? = none
      rw [address, Option.bind_some, notStarted]
    rw [viewDuring_setQueue wired address publisher subscriber queue]
    exact sustained.coherent.opened unreached
  · rw [network]
    exact (Network.SameShape.insert placed _).trans sustained.shape
  · rw [queue, if_pos rfl]
    exact (decide_eq_true users).symm
  · intro other different
    rw [queue, if_neg different]
    exact sustained.others different

/-- The last user stops the transport of an agent that offers and watches nothing. -/
theorem stop
    (sustained : Sustained world name number progress)
    (wired : Wired world)
    (address : world.view.address name = some number)
    (offersNothing : ∀ id, progress.agent.posted? id = none)
    (watchesNothing : ∀ category id, progress.agent.known? category id = none)
    {agent : Agent}
    (publisher : agent.publisher = progress.agent.publisher)
    (subscriber : agent.subscriber = progress.agent.subscriber)
    (users : agent.users = 0) :
    Sustained world name number ({ progress with agent := agent }.emit .stopped) := by
  have network : world.networkAfter number ({ progress with agent := agent }.emit .stopped) =
      (world.networkAfter number progress).stop number :=
    networkAfter_emit world number { progress with agent := agent } .stopped
  have queue : ∀ other,
      (world.networkAfter number ({ progress with agent := agent }.emit .stopped)).queue? other =
        if other = number then none else (world.networkAfter number progress).queue? other := by
    intro other
    rw [network]
    exact Network.queue?_stop _ number other
  refine ⟨?_, ?_, ?_, ?_, plain_emit sustained.plain rfl,
    fun known => sustained.publisher (publisher ▸ known),
    fun known => sustained.tidy (subscriber ▸ known)⟩
  · rw [viewDuring_setQueue wired address publisher subscriber queue]
    refine sustained.coherent.closed (fun id => ?_) fun category id => ?_
    · exact (congrFun (if_pos rfl) id).trans (offersNothing id)
    · exact (congrFun (congrFun (if_pos rfl) category) id).trans (watchesNothing category id)
  · rw [network]
    exact (Network.SameShape.map _ _).trans sustained.shape
  · rw [queue, if_pos rfl]
    exact (decide_eq_false (Nat.not_lt_of_le (Nat.le_of_eq users))).symm
  · intro other different
    rw [queue, if_neg different]
    exact sustained.others different

theorem acquire
    (sustained : Sustained world name number progress)
    (wired : Wired world)
    (address : world.view.address name = some number) :
    Sustained world name number progress.acquire.2 := by
  have ends := progress.acquires_acquire
  generalize progress.acquire = result at ends ⊢
  cases ends with
  | refused =>
      refine sustained.ofSameRoles ⟨rfl, rfl, rfl, rfl⟩ (networkAfter_emit ..)
        (plain_emit sustained.plain rfl) (Iff.of_eq ?_)
      rfl
  | started _ idle => exact sustained.start wired address idle rfl rfl Nat.one_pos
  | joined busy =>
      refine sustained.ofSameRoles ⟨rfl, rfl, rfl, rfl⟩ (networkAfter_emit ..)
        (plain_emit sustained.plain rfl) ⟨fun _ => Nat.pos_of_ne_zero busy, fun _ => ?_⟩
      exact Nat.succ_pos _

/-- Whoever is the last user must leave nothing behind. -/
theorem release
    (sustained : Sustained world name number progress)
    (wired : Wired world)
    (address : world.view.address name = some number)
    (nothing : progress.agent.users = 1 →
      (∀ id, progress.agent.posted? id = none) ∧
        ∀ category id, progress.agent.known? category id = none) :
    Sustained world name number progress.release := by
  have ends := progress.releases_release
  generalize progress.release = next at ends ⊢
  cases ends with
  | overdrawn =>
      exact sustained.ofSameRoles ⟨rfl, rfl, rfl, rfl⟩ (networkAfter_emit ..)
        (plain_emit sustained.plain rfl) .rfl
  | stopped last =>
      obtain ⟨offersNothing, watchesNothing⟩ := nothing last
      exact sustained.stop wired address offersNothing watchesNothing rfl rfl rfl
  | @left others more =>
      refine sustained.ofSameRoles ⟨rfl, rfl, rfl, rfl⟩ (networkAfter_emit ..)
        (plain_emit sustained.plain rfl) ⟨fun _ => ?_, fun _ => Nat.succ_pos others⟩
      rw [more]
      exact Nat.succ_pos _

theorem releaseMany
    (sustained : Sustained world name number progress)
    (wired : Wired world)
    (address : world.view.address name = some number)
    (offersNothing : ∀ id, progress.agent.posted? id = none)
    (watchesNothing : ∀ category id, progress.agent.known? category id = none)
    (count : Nat) :
    Sustained world name number (progress.releaseMany count) := by
  induction count generalizing progress with
  | zero => exact sustained
  | succ count inductionHypothesis =>
      have roles := Progress.sameRoles_release progress
      refine inductionHypothesis
        (sustained.release wired address fun _ => ⟨offersNothing, watchesNothing⟩)
        (fun id => ?_) fun category id => ?_
      · rw [Agent.posted?, roles.publisher]
        exact offersNothing id
      · rw [Agent.known?, roles.subscriber]
        exact watchesNothing category id

/-- What the payloads that leave an endpoint bring a reader. -/
def words (world : World) (number : Nat) (outgoing : List Outgoing) (reader : String) :
    List Delivery :=
  (world.view.address reader).elim [] fun receiver =>
    world.network.arrivals number receiver outgoing

/-- What a reader is brought has left the endpoint. -/
theorem exists_of_mem_words
    {world : World}
    {number : Nat}
    {outgoing : List Outgoing}
    {reader : String}
    {delivery : Delivery}
    (inWords : delivery ∈ words world number outgoing reader) :
    ∃ sent ∈ outgoing, delivery = sent.arrival number := by
  unfold words at inWords
  cases isAddress : world.view.address reader with
  | none =>
      rw [isAddress] at inWords
      cases inWords
  | some receiver =>
      rw [isAddress, Option.elim_some] at inWords
      exact world.network.mem_arrivals inWords

/-- A broadcast is brought to every other reader that can be reached. -/
theorem arrival_mem_words
    {world : World}
    {name reader : String}
    {number : Nat}
    (wired : Wired world)
    (address : world.view.address name = some number)
    {outgoing : List Outgoing}
    {stream : StreamId}
    {payload : Bytes}
    (isSent : .broadcast stream payload ∈ outgoing)
    (different : reader ≠ name)
    {queue? : Nat → Option (List Delivery)}
    (isReached : ((world.view.address reader).bind queue?).isSome) :
    (Outgoing.broadcast stream payload).arrival number ∈ words world number outgoing reader := by
  rcases address_cases wired address reader with ⟨isName, _⟩ | ⟨_, notNumber⟩
  · exact absurd isName different
  cases isAddress : world.view.address reader with
  | none =>
      rw [isAddress] at isReached
      cases isReached
  | some receiver =>
      rw [words, isAddress, Option.elim_some]
      exact world.network.arrival_mem_arrivals wired.lossless isSent
        (decide_eq_true (notNumber isAddress))

theorem networkAfter_send
    (world : World)
    (number : Nat)
    (progress : Progress)
    (outgoing : List Outgoing) :
    world.networkAfter number (progress.send outgoing) =
      (world.networkAfter number progress).sendAll number outgoing := by
  rw [World.networkAfter, Progress.send, Network.transmitAll_append, Network.transmitAll_sent]
  rfl

theorem plain_send
    (plain : ∀ output ∈ progress.outputs, output.isAsked = false)
    (outgoing : List Outgoing) :
    ∀ output ∈ (progress.send outgoing).outputs, output.isAsked = false := by
  intro output member
  rcases List.mem_append.mp member with before | now
  · exact plain output before
  · obtain ⟨sent, _, rfl⟩ := List.mem_map.mp now
    rfl

/-- Sending appends words to the queues of the others. -/
theorem queue_send
    (sustained : Sustained world name number progress)
    (wired : Wired world)
    (address : world.view.address name = some number)
    (outgoing : List Outgoing)
    (reader : String) :
    (world.view.address reader).bind
        (world.networkAfter number (progress.send outgoing)).queue? =
      if reader = name then (world.viewDuring name number progress).queue reader
      else
        ((world.viewDuring name number progress).queue reader).map
          (· ++ words world number outgoing reader) := by
  obtain ⟨_, queue⟩ := (world.networkAfter number progress).sendAll_spec number outgoing
  rw [networkAfter_send]
  change _ = if reader = name then
      (world.view.address reader).bind (world.networkAfter number progress).queue?
    else ((world.view.address reader).bind (world.networkAfter number progress).queue?).map
      (· ++ words world number outgoing reader)
  rcases address_cases wired address reader with ⟨isName, isAddress⟩ | ⟨notName, _⟩
  · rw [isAddress, Option.bind_some, queue, if_pos isName, Network.arrivals_self]
    simp
  · rw [if_neg notName]
    cases isAddress : world.view.address reader with
    | none => rfl
    | some receiver =>
        rw [Option.bind_some, queue, words, isAddress, Option.bind_some, Option.elim_some]
        simp only [Network.arrivals, sustained.shape.faults]

/-- What is sent starts and stops nobody. -/
theorem send
    (sustained : Sustained world name number progress)
    (agent : Agent)
    (users : agent.users = progress.agent.users)
    {outgoing : List Outgoing}
    (coherent :
      (world.viewDuring name number ({ progress with agent := agent }.send outgoing)).Coherent)
    (publisher : ∀ {publisher}, agent.publisher = some publisher → publisher.Sound world.now)
    (tidy : ∀ {subscriber}, agent.subscriber = some subscriber → subscriber.Silent) :
    Sustained world name number ({ progress with agent := agent }.send outgoing) := by
  obtain ⟨shape, queue⟩ := (world.networkAfter number progress).sendAll_spec number outgoing
  have network := networkAfter_send world number { progress with agent := agent } outgoing
  have sameSome : ∀ other,
      ((world.networkAfter number ({ progress with agent := agent }.send outgoing)).queue?
          other).isSome = ((world.networkAfter number progress).queue? other).isSome := by
    intro other
    rw [network]
    exact (congrArg Option.isSome (queue other)).trans Option.isSome_map
  refine ⟨coherent, ?_, ?_, ?_, plain_send sustained.plain outgoing, publisher, tidy⟩
  · rw [network]
    exact shape.trans sustained.shape
  · rw [sameSome, sustained.online]
    exact congrArg (fun count => decide (0 < count)) users.symm
  · intro other different
    rw [sameSome]
    exact sustained.others different

theorem posted_viewDuring
    (world : World)
    (name : String)
    (number : Nat)
    (progress : Progress) :
    (world.viewDuring name number progress).posted name = progress.agent.posted? :=
  if_pos rfl

theorem ever_viewDuring
    (world : World)
    (name : String)
    (number : Nat)
    (progress : Progress) :
    (world.viewDuring name number progress).ever name = progress.agent.localResource? :=
  if_pos rfl

theorem knows_viewDuring
    (world : World)
    (name : String)
    (number : Nat)
    (progress : Progress) :
    (world.viewDuring name number progress).knows name = progress.agent.known? :=
  if_pos rfl

theorem indexed_viewDuring
    (world : World)
    (name : String)
    (number : Nat)
    (progress : Progress) :
    (world.viewDuring name number progress).indexed name = progress.agent.indexed? :=
  if_pos rfl

/-- The publisher's words are a speech. -/
theorem speech
    (sustained : Sustained world name number progress)
    (wired : Wired world)
    (address : world.view.address name = some number)
    {publisher next : Publisher}
    {fresh : ResourceId → Prop}
    {outgoing : List Outgoing}
    (known : progress.agent.publisher = some publisher)
    (utterance : publisher.Utterance world.now fresh next outgoing)
    (unheard : ∀ {id}, fresh id → ∀ other, other ≠ name → world.view.ever other id = none)
    (busy : ∀ {id}, (next.owned.find? id).isSome → 0 < progress.agent.users) :
    View.Speech (world.viewDuring name number progress) name next.owned.find? next.resource?
      (words world number outgoing) := by
  have posted : ∀ id, (world.viewDuring name number progress).posted name id =
      publisher.owned.find? id := by
    intro id
    rw [posted_viewDuring, Agent.posted?, known, Option.bind_some]
  have ever : ∀ id, (world.viewDuring name number progress).ever name id =
      publisher.resource? id := by
    intro id
    rw [ever_viewDuring, Agent.localResource?, known, Option.bind_some]
  constructor
  · exact fun isPosted => Publisher.resource?_of_owned isPosted
  · intro id scheduled isPosted
    exact ⟨utterance.sound.timely isPosted, announceInterval_le (utterance.sound.lasting isPosted)⟩
  · intro id isPosted
    change ((world.view.address name).bind (world.networkAfter number progress).queue?).isSome
    rw [address, Option.bind_some, sustained.online]
    exact decide_eq_true (busy isPosted)
  · intro id resource wasEver
    rw [ever] at wasEver
    exact utterance.lasting wasEver
  · intro id unknown isEver
    rw [ever] at unknown
    obtain ⟨isFresh, isDue⟩ := utterance.first unknown isEver
    refine ⟨fun other => ?_, fun scheduled isPosted => isDue isPosted⟩
    by_cases isName : other = name
    · rw [isName, ever, unknown]
    · exact (congrFun (if_neg isName) id).trans (unheard isFresh other isName)
  · intro id wasEver notPosted
    rw [ever] at wasEver
    rw [posted] at notPosted
    exact utterance.gone wasEver notPosted
  · intro reader delivery id said different inWords word
    obtain ⟨sent, isSent, rfl⟩ := exists_of_mem_words inWords
    obtain ⟨about, isKnown, tells⟩ := utterance.truthful isSent
    rw [tells number] at word
    cases word
    exact ⟨isKnown, rfl⟩
  · intro reader id different isReached wasEver changed
    rw [ever] at wasEver
    rw [posted] at changed
    obtain ⟨sent, isSent, isBroadcast, said, tells⟩ := utterance.outspoken wasEver changed
    refine ⟨sent.arrival number, ?_, said, tells number⟩
    cases sent with
    | broadcast => exact arrival_mem_words wired address isSent different isReached
    | reply => cases isBroadcast

/-- The publisher speaks. -/
theorem speak
    (sustained : Sustained world name number progress)
    (wired : Wired world)
    (address : world.view.address name = some number)
    {publisher next : Publisher}
    {fresh : ResourceId → Prop}
    {outgoing : List Outgoing}
    (known : progress.agent.publisher = some publisher)
    (utterance : publisher.Utterance world.now fresh next outgoing)
    (unheard : ∀ {id}, fresh id → ∀ other, other ≠ name → world.view.ever other id = none)
    (busy : ∀ {id}, (next.owned.find? id).isSome → 0 < progress.agent.users) :
    Sustained world name number ((progress.enterPublisher next).send outgoing) := by
  have speech := sustained.speech wired address known utterance unheard busy
  refine sustained.send { progress.agent with publisher := some next } rfl ?_
    (fun isNext => Option.some.inj isNext ▸ utterance.sound) sustained.tidy
  have same : world.viewDuring name number ((progress.enterPublisher next).send outgoing) =
      (world.viewDuring name number progress).spoken name next.owned.find? next.resource?
        (words world number outgoing) := by
    ext1
    · rfl
    · rfl
    · funext owner
      simp only [World.viewDuring, World.viewWith, View.spoken]
      split <;> rfl
    · funext owner
      simp only [World.viewDuring, World.viewWith, View.spoken]
      split <;> rfl
    · rfl
    · rfl
    · exact funext (sustained.queue_send wired address outgoing)
  exact same ▸ sustained.coherent.speak speech

/-- What the subscriber knows fades. -/
theorem fade
    (sustained : Sustained world name number progress)
    {subscriber next : Subscriber}
    (known : progress.agent.subscriber = some subscriber)
    (faded : Subscriber.Faded world.now next subscriber)
    (tidy : next.Silent) :
    Sustained world name number (progress.enterSubscriber next) := by
  have knows : ∀ category id, (world.viewDuring name number progress).knows name category id =
      subscriber.known? category id := by
    intro category id
    rw [knows_viewDuring, Agent.known?, known, Option.bind_some]
  have indexed : ∀ id, (world.viewDuring name number progress).indexed name id =
      subscriber.index.find? id := by
    intro id
    rw [indexed_viewDuring, Agent.indexed?, known, Option.bind_some]
  have fading : View.Fading (world.viewDuring name number progress) name next.known?
      next.index.find? := by
    constructor
    · intro category id watched
      rw [knows]
      exact faded.watched watched
    · intro category id entry isKnown
      rw [knows]
      exact faded.kept isKnown
    · intro category id entry unknown wasKnown
      rw [knows] at wasKnown
      exact faded.lapsed unknown wasKnown
    · intro id category isIndexed
      rw [indexed]
      exact faded.index isIndexed
    · exact fun isKnown => tidy.filed isKnown
  have same : world.viewDuring name number (progress.enterSubscriber next) =
      (world.viewDuring name number progress).informed name next.known? next.index.find? := by
    ext1
    · rfl
    · rfl
    · rfl
    · rfl
    · funext reader
      simp only [World.viewDuring, World.viewWith, View.informed]
      split <;> rfl
    · funext reader
      simp only [World.viewDuring, World.viewWith, View.informed]
      split <;> rfl
    · rfl
  exact ⟨same ▸ sustained.coherent.fade fading, sustained.shape, sustained.online,
    sustained.others, sustained.plain, sustained.publisher,
    fun isNext => Option.some.inj isNext ▸ tidy⟩

/-- The subscriber asks everyone for a category that it begins to watch. -/
theorem ask
    (sustained : Sustained world name number progress)
    (wired : Wired world)
    (address : world.view.address name = some number)
    {subscriber next : Subscriber}
    {category : String}
    (known : ∀ sought id, progress.agent.known? sought id = subscriber.known? sought id)
    (indexed : ∀ id, progress.agent.indexed? id = subscriber.index.find? id)
    (watching : subscriber.Watching (fun callbacks => callbacks = []) next category true)
    (busy : 0 < progress.agent.users) :
    Sustained world name number
      ((progress.enterSubscriber next).send
        [.broadcast .nil (Wire.Message.query category).encode]) := by
  have decoded : Wire.Message.decode (Wire.Message.query category).encode = .ok _ :=
    Wire.Message.decode_encode watching.valid
  have arrived : ∀ {reader delivery},
      delivery ∈ words world number [.broadcast .nil (Wire.Message.query category).encode] reader →
        delivery = ⟨.nil, (Wire.Message.query category).encode, .endpoint number⟩ := by
    intro reader delivery inWords
    obtain ⟨sent, isSent, rfl⟩ := exists_of_mem_words inWords
    rw [List.mem_singleton.mp isSent]
    rfl
  have question : View.Question (world.viewDuring name number progress) name category number
      (words world number [.broadcast .nil (Wire.Message.query category).encode]) := by
    constructor
    · exact address
    · change ((world.view.address name).bind (world.networkAfter number progress).queue?).isSome
      rw [address, Option.bind_some, sustained.online]
      exact decide_eq_true busy
    · intro id
      rw [knows_viewDuring, known]
      exact watching.unwatched rfl id
    · intro other delivery inWords
      rw [arrived inWords, Delivery.word?]
      simp only [decoded]
    · intro other different isReached
      refine ⟨⟨.nil, (Wire.Message.query category).encode, .endpoint number⟩, ?_, ?_⟩
      · exact arrival_mem_words wired address (List.mem_singleton_self _) different isReached
      · simp only [Delivery.question?, decoded]
  refine sustained.send { progress.agent with subscriber := some next } rfl ?_
    sustained.publisher fun isNext => Option.some.inj isNext ▸ watching.tidy
  have same : world.viewDuring name number
      ((progress.enterSubscriber next).send
        [.broadcast .nil (Wire.Message.query category).encode]) =
      (world.viewDuring name number progress).asked name category
        (words world number [.broadcast .nil (Wire.Message.query category).encode]) := by
    ext1
    · rfl
    · rfl
    · rfl
    · rfl
    · funext reader watched id
      simp only [World.viewDuring, World.viewWith, View.asked]
      by_cases isName : reader = name
      · simp only [isName, true_and, if_true, known]
        exact watching.first rfl watched id
      · simp only [isName, false_and, if_false]
    · funext reader
      simp only [World.viewDuring, World.viewWith, View.asked]
      split
      next =>
        funext id
        rw [indexed, ← watching.index]
        rfl
      next => rfl
    · exact funext (sustained.queue_send wired address _)
  exact same ▸ sustained.coherent.ask question

end Sustained

end Discovery.Simulation
