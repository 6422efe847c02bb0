import Discovery.Proofs.Agent.Tenancy
import Discovery.Proofs.Convergence.Receipt

namespace Discovery

/-!
# The agents of a world

`Converging` is what holds of a world between two operations: every agent is
fit, and the participants will come to agree.  An operation that is sustained
keeps it, and so does the handing over of payloads.
-/

open Progress (Running Closing Balanced)

/-- How far the disposal of an agent has come. -/
inductive Phase (agent : Agent) : Prop where
  | running
      (running : Running agent.begin)
      (balanced : Balanced agent.users 0 0 agent.begin)
  | closed
      {holds : Bool}
      {paid : Nat}
      (closing : Closing holds [] agent.begin)
      (balanced : Balanced agent.users paid 0 agent.begin)
      (offersNothing : ∀ id, agent.offer? id = none)

/-- An account can be begun anew after every operation. -/
theorem Progress.Balanced.begin
    {start paid spare : Nat}
    {progress : Progress}
    (balanced : Balanced start paid spare progress) :
    Balanced progress.agent.users paid spare progress.agent.begin :=
  ⟨balanced.users, balanced.paid, balanced.running, rfl, balanced.sound⟩

namespace Phase

variable {agent : Agent}

theorem ofRunning
    {progress : Progress}
    {start : Nat}
    (running : Running progress)
    (balanced : Balanced start 0 0 progress) :
    Phase progress.agent :=
  .running ⟨running.lifecycle, running.inService⟩ balanced.begin

theorem ofClosing
    {progress : Progress}
    {holds : Bool}
    {start paid : Nat}
    (closing : Closing holds [] progress)
    (balanced : Balanced start paid 0 progress)
    (offersNothing : ∀ id, progress.agent.offer? id = none) :
    Phase progress.agent :=
  .closed ⟨closing.lifecycle, closing.publisher, closing.stopped, closing.covers⟩ balanced.begin
    offersNothing

theorem sound
    (phase : Phase agent)
    {subscriber : Subscriber}
    (known : agent.subscriber = some subscriber) :
    subscriber.Sound := by
  cases phase with
  | running _ balanced => exact balanced.sound known
  | closed _ balanced => exact balanced.sound known

/-- Errands leave an agent running or closed, as it was. -/
theorem run
    (phase : Phase agent)
    (errand : Errand)
    (silent : agent.lifecycle = .disposed → (∀ id, agent.offer? id = none) →
      ∀ id, (agent.begin.run errand).agent.offer? id = none) :
    Phase (agent.begin.run errand).agent := by
  cases phase with
  | running running balanced =>
      exact .ofRunning (Running.keptByCallbacks.run errand running)
        ((Balanced.keptByCallbacks agent.users 0 0).run errand balanced)
  | @closed holds paid closing balanced offersNothing =>
      exact .ofClosing ((Closing.keptByCallbacks holds []).run errand closing)
        ((Balanced.keptByCallbacks agent.users paid 0).run errand balanced)
        (silent closing.lifecycle offersNothing)

/-- A closed agent may release the use of its publisher, and nothing happens the second time. -/
theorem ofRelease
    {progress : Progress}
    {holds : Bool}
    {start paid : Nat}
    (closing : Closing holds [] progress)
    (balanced : Balanced start paid 0 progress)
    (offersNothing : ∀ id, progress.agent.offer? id = none) :
    Phase progress.release.agent := by
  have roles := Progress.sameRoles_release progress
  have users := balanced.users
  rw [closing.openSubscriptions] at users
  by_cases isUsed : progress.agent.users = 0
  · have unchanged : progress.release.agent = progress.agent := by
      unfold Progress.release
      simp only [isUsed, Progress.emit]
    rw [unchanged]
    exact .ofClosing closing balanced offersNothing
  · have paidBack : Balanced start (paid + 1) 0 progress.release :=
      balanced.release (by omega) (by omega)
    refine .ofClosing (closing.sameRoles roles) paidBack fun id => ?_
    rw [Agent.offer?_of_publisher roles.publisher]
    exact offersNothing id

theorem release
    (phase : Phase agent)
    (disposed : agent.lifecycle = .disposed) :
    Phase agent.begin.release.agent := by
  cases phase with
  | running running => exact absurd disposed running.lifecycle
  | closed closing balanced offersNothing => exact .ofRelease closing balanced offersNothing

/-- What is left of an agent when its disposal begins. -/
theorem closed_beginDispose
    (phase : Phase agent)
    (now : Instant)
    (sound : ∀ {publisher}, agent.publisher = some publisher → publisher.Sound now)
    (tidy : ∀ {subscriber}, agent.subscriber = some subscriber → subscriber.Silent) :
    ∃ holds paid, Closing holds [] (agent.begin.beginDispose now).2 ∧
      Balanced agent.users paid 0 (agent.begin.beginDispose now).2 ∧
      ∀ id, (agent.begin.beginDispose now).2.agent.offer? id = none := by
  have offers := agent.begin.offer?_beginDispose now sound tidy
  cases phase with
  | running running balanced =>
      obtain ⟨closing, closed⟩ := running.beginDispose balanced now
      refine ⟨_, 0, closing, closed, fun id => ?_⟩
      rw [offers, if_neg running.lifecycle]
  | @closed holds paid closing balanced offersNothing =>
      have unchanged : agent.begin.beginDispose now = (false, agent.begin) := by
        rw [Progress.beginDispose, if_pos closing.lifecycle]
      rw [unchanged]
      exact ⟨holds, paid, closing, balanced, offersNothing⟩

end Phase

namespace Simulation

namespace Sustained

variable {world : World} {name : String} {number : Nat} {progress : Progress}

/-- A closed agent has nothing left that would keep its transport in use. -/
theorem releaseClosed
    (sustained : Sustained world name number progress)
    (wired : Wired world)
    (address : world.view.address name = some number)
    {holds : Bool}
    {start paid : Nat}
    (closing : Closing holds [] progress)
    (balanced : Balanced start paid 0 progress)
    (offersNothing : ∀ id, progress.agent.offer? id = none) :
    Sustained world name number progress.release :=
  sustained.release wired address fun _ =>
    ⟨fun id => Agent.offer?_eq_none_iff.mp (offersNothing id),
      balanced.unwatched closing.openSubscriptions⟩

end Sustained

/-- What holds of a member of a world between two operations. -/
structure Fit (world : World) (member : Member) : Prop where
  /-- The agent can be reached exactly while its transport has users. -/
  online : ∀ {number}, member.endpoint = some number →
    (world.network.queue? number).isSome = decide (0 < member.agent.users)
  publisher : ∀ {publisher}, member.agent.publisher = some publisher →
    publisher.Sound world.now
  tidy : ∀ {subscriber}, member.agent.subscriber = some subscriber → subscriber.Silent
  phase : Phase member.agent

/-- What holds of a world between two operations. -/
structure Converging (world : World) : Prop where
  wired : Wired world
  coherent : world.view.Coherent
  fit : ∀ {name member}, world.members.find? name = some member → Fit world member

/-- The same agents at the same endpoints go on being wired while no endpoint is added. -/
theorem Wired.of_shape
    {world next : World}
    (wired : Wired world)
    (shape : next.network.SameShape world.network)
    (connected : ∀ {name member}, next.members.find? name = some member →
      ∃ number, member.endpoint = some number)
    (address : ∀ name, next.view.address name = world.view.address name) :
    Wired next := by
  refine ⟨?_, connected, ?_, ?_, ?_⟩
  · rw [shape.faults]
    exact wired.lossless
  · intro name number isAddress
    rw [shape.exists_iff]
    exact wired.placed (address name ▸ isAddress)
  · intro number isPlaced
    rw [shape.size]
    exact wired.numbered (shape.exists_iff number ▸ isPlaced)
  · intro first second number isFirst isSecond
    exact wired.apart (address first ▸ isFirst) (address second ▸ isSecond)

namespace Converging

variable {world : World} {name : String} {member : Member} {number : Nat}

/-- What an agent at the beginning of an operation shows is what its world shows. -/
theorem viewDuring_begin
    (found : world.members.find? name = some member) :
    world.viewDuring name number member.agent.begin = world.view := by
  ext1
  · rfl
  · rfl
  · funext owner
    change (if owner = name then member.agent.posted? else world.view.posted owner) = _
    split
    next isName => rw [isName, World.posted_view found]
    next => rfl
  · funext owner
    change (if owner = name then member.agent.localResource? else world.view.ever owner) = _
    split
    next isName => rw [isName, World.ever_view found]
    next => rfl
  · funext reader
    change (if reader = name then member.agent.known? else world.view.knows reader) = _
    split
    next isName => rw [isName, World.knows_view found]
    next => rfl
  · funext reader
    change (if reader = name then member.agent.indexed? else world.view.indexed reader) = _
    split
    next isName => rw [isName, World.indexed_view found]
    next => rfl
  · rfl

/-- An operation begins sustained. -/
theorem sustained
    (converging : Converging world)
    (found : world.members.find? name = some member)
    (endpoint : member.endpoint = some number) :
    Sustained world name number member.agent.begin := by
  have fit := converging.fit found
  exact ⟨viewDuring_begin found ▸ converging.coherent, .refl world.network, fit.online endpoint,
    fun _ => rfl, nofun, fit.publisher, fit.tidy⟩

theorem address
    (found : world.members.find? name = some member)
    (endpoint : member.endpoint = some number) :
    world.view.address name = some number :=
  (World.address_view found).trans endpoint

/-- A world takes over an agent after an operation that was sustained. -/
theorem absorb
    (wired : Wired world)
    (found : world.members.find? name = some member)
    (endpoint : member.endpoint = some number)
    (others : ∀ {other known}, other ≠ name → world.members.find? other = some known →
      Fit world known)
    {progress : Progress}
    (sustained : Sustained world name number progress)
    (phase : Phase progress.agent) :
    Converging (world.absorb name progress) := by
  obtain ⟨now, members, network⟩ := World.members_absorb found endpoint sustained.plain
  have view := World.view_absorb found endpoint sustained.plain
  refine ⟨wired.of_shape ?_ ?_ ?_, view ▸ sustained.coherent, ?_⟩
  · rw [network]
    exact sustained.shape
  · intro other known isKnown
    rw [members] at isKnown
    split at isKnown
    next =>
      cases isKnown
      exact ⟨number, endpoint⟩
    next => exact wired.connected isKnown
  · intro other
    rw [view]
    rfl
  · intro other known isKnown
    rw [members] at isKnown
    split at isKnown
    next =>
      cases isKnown
      refine ⟨fun isNumber => ?_, fun isPublisher => ?_, sustained.tidy, phase⟩
      · rw [endpoint] at isNumber
        cases isNumber
        rw [network]
        exact sustained.online
      · rw [now]
        exact sustained.publisher isPublisher
    next different =>
      have fit := others different isKnown
      refine ⟨fun {other'} isOther => ?_, fun isPublisher => ?_, fit.tidy, fit.phase⟩
      · have notNumber : other' ≠ number := by
          rintro rfl
          exact different (wired.apart (address isKnown isOther) (address found endpoint))
        rw [network, ← fit.online isOther]
        exact sustained.others notNumber
      · rw [now]
        exact fit.publisher isPublisher

end Converging

/-- An operation is sustained, leaves the agent running or closed, and changes no offer. -/
structure Kept
    (world : World)
    (name : String)
    (number : Nat)
    (agent : Agent)
    (progress : Progress) : Prop where
  sustained : Sustained world name number progress
  phase : Phase progress.agent
  offers : ∀ id, progress.agent.offer? id = agent.offer? id

namespace Kept

variable {world : World} {name : String} {number : Nat} {agent : Agent}

theorem ofRun
    (phase : Phase agent)
    (errand : Errand)
    (sustained : Sustained world name number (agent.begin.run errand))
    (offers : ∀ id, (agent.begin.run errand).agent.offer? id = agent.offer? id) :
    Kept world name number agent (agent.begin.run errand) :=
  ⟨sustained, phase.run errand fun _ nothing id => (offers id).trans (nothing id), offers⟩

section Errands

variable (sustained : Sustained world name number agent.begin) (phase : Phase agent)

include sustained phase

theorem expire : Kept world name number agent (agent.begin.expire world.now) :=
  ofRun phase (.expire world.now) sustained.expire
    (Agent.offer?_of_publisher (agent.begin.publisher_expire world.now))

theorem deliver : Kept world name number agent (agent.begin.deliver world.now) := by
  have unseen := Progress.Unseen.deliver sustained.tidy world.now
  exact ofRun phase (.deliver world.now) (sustained.unseen unseen)
    (Agent.offer?_of_publisher unseen.publisher)

theorem read (subscription : Nat) :
    Kept world name number agent (agent.read subscription).2.begin := by
  have unseen := Progress.Unseen.read sustained.tidy phase.sound subscription
  exact ofRun phase (.read subscription) (sustained.unseen unseen)
    (Agent.offer?_of_publisher unseen.publisher)

theorem shuffle (categories : List String) (resources : List ResourceId) :
    Kept world name number agent (agent.shuffle categories resources).begin :=
  ofRun phase (.shuffle categories resources) (sustained.shuffle categories resources)
    (agent.offer?_shuffle categories resources)

variable (wired : Wired world) (address : world.view.address name = some number)

include wired address

theorem announce : Kept world name number agent (agent.begin.announce world.now) :=
  ofRun phase (.announce world.now) (sustained.announce wired address)
    (agent.begin.offer?_announce world.now)

theorem subscribe (category : String) :
    Kept world name number agent (agent.begin.subscribe category).2 := by
  refine ofRun phase (.subscribe category) ?_
    (Agent.offer?_of_publisher (agent.begin.publisher_subscribe category))
  cases phase with
  | running _ balanced => exact sustained.subscribe wired address balanced category
  | closed closing =>
      rw [Progress.run, closing.subscribe category]
      exact sustained

theorem dispose (subscription : Nat) :
    Kept world name number agent (agent.begin.dispose subscription) := by
  refine ofRun phase (.disposeSubscription subscription) ?_
    (Agent.offer?_of_publisher (agent.begin.publisher_dispose subscription))
  cases phase with
  | running _ balanced => exact sustained.dispose wired address balanced subscription
  | closed closing =>
      rw [Progress.run, closing.dispose_eq subscription]
      exact sustained

theorem release (disposed : agent.lifecycle = .disposed) :
    Kept world name number agent agent.begin.release := by
  refine ⟨?_, phase.release disposed,
    Agent.offer?_of_publisher (Progress.sameRoles_release agent.begin).publisher⟩
  cases phase with
  | running running => exact absurd disposed running.lifecycle
  | closed closing balanced offersNothing =>
      exact sustained.releaseClosed wired address closing balanced offersNothing

end Errands

end Kept

section Offering

variable {world : World} {name : String} {number : Nat} {agent : Agent}
variable (sustained : Sustained world name number agent.begin) (phase : Phase agent)
variable (wired : Wired world) (address : world.view.address name = some number)

include sustained phase wired address

/-- A fresh resource is published, or the request is refused. -/
theorem Sustained.begin_publish
    (lasting : 1 ≤ agent.settings.resourceExpiry.toNat)
    {id : ResourceId}
    (real : id.isNil = false)
    (fresh : agent.localResource? id = none)
    (unheard : ∀ other, other ≠ name → world.view.ever other id = none)
    (category connection : String)
    (attributes : Attributes) :
    Sustained world name number
        (agent.begin.publish world.now id category connection attributes).2 ∧
      Phase (agent.begin.publish world.now id category connection attributes).2.agent := by
  constructor
  · cases phase with
    | running _ balanced =>
        exact sustained.publish wired address balanced lasting real fresh unheard category
          connection attributes
    | closed closing =>
        rw [Progress.publish_of_disposed closing.lifecycle]
        exact sustained
  · refine phase.run (.publish world.now id category connection attributes) ?_
    intro disposed nothing
    rw [Progress.run, Progress.publish_of_disposed disposed]
    exact nothing

/-- An edit is committed and announced, or refused. -/
theorem Sustained.begin_commit (editor : Editor) :
    Sustained world name number (agent.begin.commit world.now editor).2 ∧
      Phase (agent.begin.commit world.now editor).2.agent := by
  refine ⟨sustained.commit wired address editor, phase.run (.commit world.now editor) ?_⟩
  intro _ nothing id
  have offers := agent.begin.offer?_commit world.now editor sustained.publisher id
  rw [show agent.begin.agent.offer? id = none from nothing id] at offers
  refine offers.trans ?_
  split <;> rfl

/-- A disposal begins, after which nothing is offered. -/
theorem Sustained.begin_beginDispose :
    Sustained world name number (agent.begin.beginDispose world.now).2 ∧
      Phase (agent.begin.beginDispose world.now).2.agent ∧
      ∀ id, (agent.begin.beginDispose world.now).2.agent.offer? id = none := by
  obtain ⟨holds, paid, closing, balanced, nothing⟩ :=
    phase.closed_beginDispose world.now sustained.publisher sustained.tidy
  exact ⟨sustained.beginDispose wired address phase.sound, .ofClosing closing balanced nothing,
    nothing⟩

/-- An agent that is dropped offers nothing either. -/
theorem Sustained.begin_drop :
    Sustained world name number (agent.begin.drop world.now) ∧
      Phase (agent.begin.drop world.now).agent ∧
      ∀ id, (agent.begin.drop world.now).agent.offer? id = none := by
  have begun := sustained.beginDispose wired address phase.sound
  obtain ⟨holds, paid, closing, balanced, nothing⟩ :=
    phase.closed_beginDispose world.now sustained.publisher sustained.tidy
  unfold Progress.drop
  dsimp only
  split
  next =>
    refine ⟨begun.releaseClosed wired address closing balanced nothing,
      .ofRelease closing balanced nothing, fun id => ?_⟩
    rw [Agent.offer?_of_publisher (Progress.sameRoles_release _).publisher]
    exact nothing id
  next => exact ⟨begun, .ofClosing closing balanced nothing, nothing⟩

end Offering

end Simulation

end Discovery
