import Discovery.Proofs.Agent.Moments
import Discovery.Proofs.Publisher.Step
import Discovery.Proofs.Subscriber.Step

namespace Discovery

/-!
# What happens at a moment

Whatever happens at a moment is one step of the subscriber and one of the
publisher, and what is put out follows from that.  `Progress.Effect` says so,
and every occurrence has such an effect (`Moment.effect_after`), so what is to
hold of an agent at every moment need only be kept by the steps of its parts.
-/

namespace Output

/-- Whether an output is about a request that a callback makes. -/
def isReport : Output → Bool
  | .acted .. | .asked .. => true
  | _ => false

/-- Whether an output is about an attempt to become a user of the transport. -/
def attempts : Output → Bool
  | .started | .startFailed | .joined => true
  | _ => false

/-- Whether an output is something that others notice: a payload, or use of the transport. -/
def isOutward : Output → Bool
  | .sent _ => true
  | output => output.attempts

/-- Users of the transport come only while the agent is not disposed. -/
structure Passes (lifecycle : Lifecycle) (output : Output) : Prop where
  concerns : output.concernsUsers = true
  running : output.attempts = true → lifecycle ≠ .disposed

/--
Why something may be put out: users of the transport come to a running agent,
callbacks run when they are started, and what is sent has been said or is the
query of a running agent.
-/
inductive Follows
    (starting : Nat → Prop)
    (lifecycle : Lifecycle)
    (said : List Outgoing)
    (asks : String → Prop) : Output → Prop where
  | users {output : Output} (passes : output.Passes lifecycle) :
      Follows starting lifecycle said asks output
  | report {output : Output} (reports : output.isReport = true) :
      Follows starting lifecycle said asks output
  | updated {subscription : Nat} (due : starting subscription) (callback : String) (serial : Nat) :
      Follows starting lifecycle said asks (.updated subscription callback serial)
  | said {outgoing : Outgoing} (isSaid : outgoing ∈ said) :
      Follows starting lifecycle said asks (.sent outgoing)
  | query {category : String} (asked : asks category) (running : lifecycle ≠ .disposed) :
      Follows starting lifecycle said asks
        (.sent (.broadcast .nil (Wire.Message.query category).encode))

end Output

namespace Errand

/-- What the clock shows when an errand is run, if that matters. -/
def now? : Errand → Option Instant
  | .publish now .. | .commit now _ | .receive now _ | .announce now | .expire now
  | .deliver now => some now
  | .subscribe _ | .listen .. | .read _ | .disposeSubscription _ | .shuffle .. => none

end Errand

namespace Occasion

/-- An occasion for an errand; a disposed agent neither subscribes nor publishes. -/
structure Admits (occasion : Occasion) (agent : Agent) (errand : Errand) : Prop where
  timely : ∀ {now}, errand.now? = some now → occasion.timely now
  collecting : ∀ {now}, errand = .deliver now → occasion.collecting
  heard : ∀ {now delivery}, errand = .receive now delivery → occasion.heard delivery.stream
  wanted : ∀ {category}, errand = .subscribe category → agent.lifecycle ≠ .disposed →
    occasion.wanted category
  offered : ∀ {now id category connection attributes},
    errand = .publish now id category connection attributes → agent.lifecycle ≠ .disposed →
      occasion.offered (.new id category connection agent.settings.wireExpiry attributes)

end Occasion

/-- The first subscription to a category has been made, so everyone is asked for its resources. -/
def Subscriber.Asks (before after : Subscriber) (category : String) : Prop :=
  ∃ id, before.subscribe category = (.ok (id, true), after)

namespace Agent

/-- The publisher, or the one that would be made. -/
def publisherOrNew (agent : Agent) : Publisher :=
  agent.publisher.getD .new

/-- The subscriber, or the one that would be made. -/
def subscriberOrNew (agent : Agent) : Subscriber :=
  agent.subscriber.getD .new

theorem localResources_eq (agent : Agent) :
    agent.localResources = agent.publisherOrNew.resources := by
  unfold localResources publisherOrNew
  cases agent.publisher <;> rfl

theorem localResource?_eq
    (agent : Agent)
    (id : ResourceId) :
    agent.localResource? id = agent.publisherOrNew.resource? id := by
  unfold localResource? publisherOrNew
  cases agent.publisher <;> rfl

/-- What an agent knows of its own resources does not depend on which of them come first. -/
theorem resource?_shuffle
    (agent : Agent)
    (categories : List String)
    (resources : List ResourceId)
    (id : ResourceId) :
    (agent.shuffle categories resources).publisherOrNew.resource? id =
      agent.publisherOrNew.resource? id := by
  unfold shuffle publisherOrNew
  cases agent.publisher <;> rfl

theorem subscription?_eq (agent : Agent) (id : Nat) :
    agent.subscription? id = agent.subscriberOrNew.subscriptions.find? id := by
  unfold subscription? subscriberOrNew
  cases agent.subscriber <;> rfl

theorem serial_eq
    {agent : Agent}
    {id : Nat}
    {known : Subscription}
    (found : agent.subscription? id = some known) :
    agent.serial id = agent.subscriberOrNew.serial known.epoch := by
  unfold serial subscriberOrNew
  cases isSubscriber : agent.subscriber with
  | none =>
      rw [subscription?, isSubscriber] at found
      cases found
  | some subscriber => simp only [found, Option.getD_some]

theorem subscriberOrNew_updateSubscription
    (progress : Progress)
    (id : Nat)
    (change : Subscription → Subscription) :
    (progress.updateSubscription id change).agent.subscriberOrNew =
      progress.agent.subscriberOrNew.update id change := by
  unfold subscriberOrNew Progress.updateSubscription updateSubscriber
  cases progress.agent.subscriber <;> rfl

theorem subscription?_updateSubscription
    (progress : Progress)
    (id : Nat)
    (change : Subscription → Subscription) :
    (progress.updateSubscription id change).agent.subscription? id =
      (progress.agent.subscription? id).map change := by
  rw [subscription?_eq, subscriberOrNew_updateSubscription, Subscriber.update,
    Table.find?_modify, if_pos rfl, subscription?_eq]

end Agent

namespace Progress

/-- Outputs are only added, and every one that is added is of a kind. -/
def Adds (kind : Output → Prop) (before after : Progress) : Prop :=
  ∃ more, after.outputs = before.outputs ++ more ∧ ∀ output ∈ more, kind output

namespace Adds

variable {kind other : Output → Prop} {first second third : Progress}

theorem nothing (same : second.outputs = first.outputs) : Adds kind first second :=
  ⟨[], by rw [same, List.append_nil], nofun⟩

theorem one
    {output : Output}
    (outputs : second.outputs = first.outputs ++ [output])
    (isKind : kind output) :
    Adds kind first second :=
  ⟨[output], outputs, fun _ member => List.mem_singleton.mp member ▸ isKind⟩

theorem send
    (outgoing : List Outgoing)
    (isKind : ∀ sent ∈ outgoing, kind (.sent sent)) :
    Adds kind first (first.send outgoing) := by
  refine ⟨outgoing.map .sent, rfl, fun output member => ?_⟩
  obtain ⟨sent, isSent, rfl⟩ := List.mem_map.mp member
  exact isKind sent isSent

theorem trans
    (later : Adds kind second third)
    (earlier : Adds kind first second) :
    Adds kind first third := by
  obtain ⟨more, outputs, isKind⟩ := earlier
  obtain ⟨further, furtherOutputs, isFurther⟩ := later
  refine ⟨more ++ further, by rw [furtherOutputs, outputs, List.append_assoc], ?_⟩
  intro output member
  exact (List.mem_append.mp member).elim (isKind output) (isFurther output)

theorem mono
    (adds : Adds kind first second)
    (implies : ∀ output, kind output → other output) :
    Adds other first second := by
  obtain ⟨more, outputs, isKind⟩ := adds
  exact ⟨more, outputs, fun output member => implies output (isKind output member)⟩

end Adds

/-- Everything that is said is sent. -/
def Speaks (said : List Outgoing) (before after : Progress) : Prop :=
  ∀ outgoing ∈ said, .sent outgoing ∈ after.outputs.drop before.outputs.length

namespace Speaks

variable {kind : Output → Prop} {said : List Outgoing} {first second third : Progress}

theorem silent (first second : Progress) : Speaks [] first second :=
  fun _ isSaid => absurd isSaid List.not_mem_nil

theorem send (progress : Progress) (said : List Outgoing) :
    Speaks said progress (progress.send said) := by
  intro outgoing isSaid
  rw [Progress.send, List.drop_left]
  exact List.mem_map_of_mem isSaid

theorem after
    (speaks : Speaks said second third)
    (adds : Adds kind first second) :
    Speaks said first third := by
  obtain ⟨more, outputs, _⟩ := adds
  have longer : first.outputs.length ≤ second.outputs.length := by
    rw [outputs, List.length_append]
    exact Nat.le_add_right ..
  exact fun outgoing isSaid => List.drop_subset_drop_left _ longer (speaks outgoing isSaid)

theorem before
    (speaks : Speaks said first second)
    (adds : Adds kind second third) :
    Speaks said first third := by
  obtain ⟨more, outputs, _⟩ := adds
  intro outgoing isSaid
  rw [outputs, List.drop_append]
  exact List.mem_append_left _ (speaks outgoing isSaid)

end Speaks

/-- What happens concerns the subscriber only. -/
structure WithinSubscriber (before after : Progress) : Prop where
  users : after.agent.users = before.agent.users
  link : after.agent.link = before.agent.link
  publisher : after.agent.publisher = before.agent.publisher

/-- At most users of the transport come and go. -/
structure Idle (before after : Progress) : Prop where
  lifecycle : after.agent.lifecycle = .disposed ↔ before.agent.lifecycle = .disposed
  publisher : after.agent.publisherOrNew = before.agent.publisherOrNew
  subscriber : after.agent.subscriberOrNew = before.agent.subscriberOrNew
  outputs : Adds (fun output => output.concernsUsers = true) before after

/-- At most users of the transport come and go, and they come only while the agent runs. -/
structure Lull (before after : Progress) : Prop where
  settings : after.agent.settings = before.agent.settings
  lifecycle : after.agent.lifecycle = .disposed ↔ before.agent.lifecycle = .disposed
  publisher : after.agent.publisherOrNew = before.agent.publisherOrNew
  subscriber : after.agent.subscriberOrNew = before.agent.subscriberOrNew
  outputs : Adds (Output.Passes before.agent.lifecycle) before after

namespace Lull

variable {first second third : Progress}

theorem idle (lull : Lull first second) : Idle first second :=
  ⟨lull.lifecycle, lull.publisher, lull.subscriber,
    lull.outputs.mono fun _ => Output.Passes.concerns⟩

theorem refl (progress : Progress) : Lull progress progress :=
  ⟨rfl, .rfl, rfl, rfl, .nothing rfl⟩

/-- Whoever passes after a lull could have passed before. -/
theorem passes
    (lull : Lull first second)
    {output : Output}
    (passes : output.Passes second.agent.lifecycle) :
    output.Passes first.agent.lifecycle :=
  ⟨passes.concerns, fun attempts disposed =>
    passes.running attempts (lull.lifecycle.mpr disposed)⟩

theorem trans (later : Lull second third) (earlier : Lull first second) : Lull first third :=
  ⟨later.settings.trans earlier.settings, later.lifecycle.trans earlier.lifecycle,
    later.publisher.trans earlier.publisher, later.subscriber.trans earlier.subscriber,
    (later.outputs.mono fun _ => earlier.passes).trans earlier.outputs⟩

theorem ofSameRoles
    (roles : SameRoles first second)
    (outputs : Adds (Output.Passes first.agent.lifecycle) first second) :
    Lull first second :=
  ⟨roles.settings, by rw [roles.lifecycle],
    by rw [Agent.publisherOrNew, roles.publisher, Agent.publisherOrNew],
    by rw [Agent.subscriberOrNew, roles.subscriber, Agent.subscriberOrNew], outputs⟩

theorem acquire
    {progress : Progress}
    (running : progress.agent.lifecycle ≠ .disposed) :
    Lull progress progress.acquire.2 := by
  refine .ofSameRoles progress.sameRoles_acquire ?_
  have ends := progress.acquires_acquire
  generalize progress.acquire = result at ends ⊢
  cases ends <;> exact .one rfl ⟨rfl, fun _ => running⟩

theorem release (progress : Progress) : Lull progress progress.release := by
  refine .ofSameRoles progress.sameRoles_release ?_
  have ends := progress.releases_release
  generalize progress.release = next at ends ⊢
  cases ends <;> exact .one rfl ⟨rfl, nofun⟩

theorem releaseMany (progress : Progress) (count : Nat) :
    Lull progress (progress.releaseMany count) := by
  induction count generalizing progress with
  | zero => exact .refl progress
  | succ count inductionHypothesis =>
      exact (inductionHypothesis progress.release).trans (.release progress)

theorem activate
    {progress : Progress}
    (running : progress.agent.lifecycle ≠ .disposed) :
    Lull progress progress.activate :=
  ⟨rfl, ⟨nofun, fun disposed => absurd disposed running⟩, rfl, rfl, .nothing rfl⟩

/-- A user of the transport has joined, so the agent is active. -/
theorem join
    {progress joined : Progress}
    (running : progress.agent.lifecycle ≠ .disposed)
    (acquired : progress.acquire = (.ok (), joined)) :
    Lull progress joined.activate := by
  have lull := Lull.acquire running
  rw [acquired] at lull
  exact (activate fun disposed => running (lull.lifecycle.mp disposed)).trans lull

end Lull

/-- What may happen to an agent at once, while the publisher says and accepts what is given. -/
structure Effect
    (occasion : Occasion)
    (said : List Outgoing)
    (accepted : List ResourceId)
    (before after : Progress) : Prop where
  settings : after.agent.settings = before.agent.settings
  lifecycle :
    after.agent.lifecycle = .disposed ↔ before.agent.lifecycle = .disposed ∨ occasion.stopping
  running : accepted ≠ [] → before.agent.lifecycle ≠ .disposed
  publisher :
    before.agent.publisherOrNew.Step occasion said accepted after.agent.publisherOrNew
  subscriber : before.agent.subscriberOrNew.Step occasion after.agent.subscriberOrNew
  outputs :
    Adds (Output.Follows occasion.starting before.agent.lifecycle said fun category =>
      occasion.wanted category ∧
        before.agent.subscriberOrNew.Asks after.agent.subscriberOrNew category) before after
  spoken : Speaks said before after

namespace Effect

section Frame

variable {occasion : Occasion} {said : List Outgoing} {accepted : List ResourceId}
variable {first second third : Progress}

/-- Users of the transport come and go before something happens. -/
theorem afterLull
    (effect : Effect occasion said accepted second third)
    (lull : Lull first second) :
    Effect occasion said accepted first third := by
  refine ⟨effect.settings.trans lull.settings, by rw [effect.lifecycle, lull.lifecycle],
    fun some => fun disposed => effect.running some (lull.lifecycle.mpr disposed),
    lull.publisher ▸ effect.publisher, lull.subscriber ▸ effect.subscriber,
    Adds.trans (effect.outputs.mono fun output follows => ?_)
      (lull.outputs.mono fun _ => .users), effect.spoken.after lull.outputs⟩
  rw [← lull.subscriber]
  cases follows with
  | users passes => exact .users (lull.passes passes)
  | report reports => exact .report reports
  | updated due => exact .updated due _ _
  | said isSaid => exact .said isSaid
  | query asked running =>
      exact .query asked fun disposed => running (lull.lifecycle.mpr disposed)

/-- Users of the transport come and go after something has happened. -/
theorem beforeLull
    (effect : Effect occasion said accepted first second)
    (lull : Lull second third) :
    Effect occasion said accepted first third := by
  refine ⟨lull.settings.trans effect.settings, by rw [lull.lifecycle, effect.lifecycle],
    effect.running, lull.publisher ▸ effect.publisher, lull.subscriber ▸ effect.subscriber, ?_,
    effect.spoken.before lull.outputs⟩
  rw [lull.subscriber]
  exact (lull.outputs.mono fun _ passes => .users ⟨passes.concerns, fun attempts disposed =>
    passes.running attempts (effect.lifecycle.mpr (.inl disposed))⟩).trans effect.outputs

end Frame

section Errands

variable {occasion : Occasion} (calm : ¬ occasion.stopping)

include calm

theorem lifecycle_of_eq
    {before after : Progress}
    (same : after.agent.lifecycle = before.agent.lifecycle) :
    after.agent.lifecycle = .disposed ↔ before.agent.lifecycle = .disposed ∨ occasion.stopping := by
  rw [same, or_iff_left calm]

theorem lull
    {before after : Progress}
    (lull : Lull before after) :
    Effect occasion [] [] before after := by
  have nothing : Effect occasion [] [] before before :=
    ⟨rfl, lifecycle_of_eq calm rfl, fun some => absurd rfl some, .rest, .rest, .nothing rfl,
      .silent before before⟩
  exact nothing.beforeLull lull

/-- Something is reported about a callback. -/
theorem emit
    (progress : Progress)
    {output : Output}
    (reports : output.isReport = true) :
    Effect occasion [] [] progress (progress.emit output) :=
  ⟨rfl, lifecycle_of_eq calm rfl, fun some => absurd rfl some, .rest, .rest,
    .one rfl (.report reports), .silent _ _⟩

/-- Only the subscriber takes a step. -/
theorem enterSubscriber
    (progress : Progress)
    {next : Subscriber}
    (step : progress.agent.subscriberOrNew.Step occasion next) :
    Effect occasion [] [] progress (progress.enterSubscriber next) :=
  ⟨rfl, lifecycle_of_eq calm rfl, fun some => absurd rfl some, .rest, step, .nothing rfl,
    .silent _ _⟩

theorem updateSubscription
    (progress : Progress)
    {id : Nat}
    {change : Subscription → Subscription}
    (step : progress.agent.subscriberOrNew.Step occasion
      (progress.agent.subscriberOrNew.update id change)) :
    Effect occasion [] [] progress (progress.updateSubscription id change) :=
  ⟨rfl, lifecycle_of_eq calm rfl, fun some => absurd rfl some, .rest,
    (Agent.subscriberOrNew_updateSubscription progress id change).symm ▸ step, .nothing rfl,
    .silent _ _⟩

/-- Only the publisher takes a step, and what it says is sent. -/
theorem enterPublisher
    (progress : Progress)
    {said : List Outgoing}
    {next : Publisher}
    (step : progress.agent.publisherOrNew.Step occasion said [] next) :
    Effect occasion said [] progress ((progress.enterPublisher next).send said) :=
  ⟨rfl, lifecycle_of_eq calm rfl, fun some => absurd rfl some, step, .rest,
    Adds.trans (.send said fun _ => .said) (.nothing rfl),
    .send (progress.enterPublisher next) said⟩

theorem subscribe
    (progress : Progress)
    {category : String}
    (wanted : progress.agent.lifecycle ≠ .disposed → occasion.wanted category) :
    Effect occasion [] [] progress (progress.subscribe category).2 := by
  by_cases disposed : progress.agent.lifecycle = .disposed
  · rw [Progress.subscribe, if_pos disposed]
    exact lull calm (.refl progress)
  have ends := progress.subscribes_subscribe category
  generalize (progress.subscribe category).2 = next at ends ⊢
  cases ends with
  | disposed => exact lull calm (.refl progress)
  | notStarted refused =>
      have failed := Lull.acquire disposed
      rw [refused] at failed
      exact lull calm failed
  | refused success =>
      exact ((enterSubscriber calm _ .rest).afterLull (.join disposed success)).beforeLull
        (.release _)
  | @joined acquired id isFirst next success joined =>
      have entered : Effect occasion [] [] acquired.activate
          (acquired.activate.enterSubscriber next) := by
        have step : (acquired.agent.subscriber.getD .new).Step occasion
            ((acquired.agent.subscriber.getD .new).subscribe category).2 :=
          .subscribe (wanted disposed)
        rw [joined] at step
        exact enterSubscriber calm _ step
      cases isFirst with
      | false => exact entered.afterLull (.join disposed success)
      | true =>
          have running : acquired.activate.agent.lifecycle ≠ .disposed := by
            intro stopped
            cases stopped
          have asks : Effect occasion [] [] acquired.activate
              ((acquired.activate.enterSubscriber next).send
                [.broadcast .nil (Wire.Message.query category).encode]) :=
            ⟨rfl, entered.lifecycle, entered.running, entered.publisher, entered.subscriber,
              .one rfl (.query ⟨wanted disposed, id, joined⟩ running), .silent _ _⟩
          exact asks.afterLull (.join disposed success)

theorem dispose
    (progress : Progress)
    (subscription : Nat) :
    Effect occasion [] [] progress (progress.dispose subscription) := by
  have ends := progress.disposes_dispose subscription
  generalize progress.dispose subscription = next at ends ⊢
  cases ends with
  | unchanged => exact lull calm (.refl progress)
  | @left subscriber after _ known disposed =>
      have step : progress.agent.subscriberOrNew.Step occasion after := by
        have step : subscriber.Step occasion
            (subscriber.dispose subscription).2 := .dispose subscription
        rw [disposed] at step
        rwa [Agent.subscriberOrNew, known]
      exact (enterSubscriber calm progress step).beforeLull (.release _)

theorem read
    (progress : Progress)
    (subscription : Nat) :
    Effect occasion [] [] progress
      { progress with agent := (progress.agent.read subscription).2 } := by
  unfold Agent.read
  split
  next => exact lull calm (.refl progress)
  next subscriber known =>
    refine enterSubscriber calm progress ?_
    rw [Agent.subscriberOrNew, known]
    exact .read subscription

theorem receive
    (progress : Progress)
    {now : Instant}
    (timely : occasion.timely now)
    {delivery : Delivery}
    (isHeard : occasion.heard delivery.stream) :
    ∃ said, Effect occasion said [] progress (progress.receive now delivery) := by
  have nothing : Effect occasion [] [] progress progress := lull calm (.refl progress)
  have heard : ∀ announcement subscriber, progress.agent.subscriber = some subscriber →
      Effect occasion [] [] progress
        (progress.enterSubscriber (subscriber.hear now delivery.stream announcement)) := by
    intro announcement subscriber known
    refine enterSubscriber calm progress ?_
    rw [Agent.subscriberOrNew, known]
    exact .hear timely isHeard announcement
  unfold Progress.receive
  split
  next => exact ⟨[], nothing⟩
  next category _ =>
    split
    next => exact ⟨[], nothing⟩
    next publisher known =>
      have step : progress.agent.publisherOrNew.Step occasion
          (publisher.answer delivery.origin category) [] publisher := by
        rw [Agent.publisherOrNew, known]
        exact .answer delivery.origin category
      have same : progress.enterPublisher publisher = progress := by
        rw [Progress.enterPublisher, ← known]
      have answered : Effect occasion (publisher.answer delivery.origin category) []
          progress ((progress.enterPublisher publisher).send _) :=
        enterPublisher calm progress step
      rw [same] at answered
      exact ⟨_, answered⟩
  next =>
    split
    next => exact ⟨[], nothing⟩
    next subscriber known => exact ⟨[], heard _ subscriber known⟩
  next =>
    split
    next => exact ⟨[], nothing⟩
    next subscriber known => exact ⟨[], heard _ subscriber known⟩
  next =>
    split
    next => exact ⟨[], nothing⟩
    next subscriber known =>
      refine ⟨[], enterSubscriber calm progress ?_⟩
      rw [Agent.subscriberOrNew, known]
      exact .forget isHeard

theorem announce
    (progress : Progress)
    {now : Instant}
    (timely : occasion.timely now) :
    ∃ said, Effect occasion said [] progress (progress.announce now) := by
  unfold Progress.announce
  split
  next => exact ⟨[], lull calm (.refl progress)⟩
  next publisher known =>
    refine ⟨_, enterPublisher calm progress ?_⟩
    rw [Agent.publisherOrNew, known]
    exact .turn timely

theorem expire
    (progress : Progress)
    {now : Instant}
    (timely : occasion.timely now) :
    Effect occasion [] [] progress (progress.expire now) := by
  unfold Progress.expire
  split
  next => exact lull calm (.refl progress)
  next subscriber known =>
    refine enterSubscriber calm progress ?_
    rw [Agent.subscriberOrNew, known]
    exact .turn timely

theorem commit
    (progress : Progress)
    {now : Instant}
    (timely : occasion.timely now)
    (editor : Editor) :
    ∃ said, Effect occasion said [] progress (progress.commit now editor).2 := by
  unfold Progress.commit
  split
  next => exact ⟨[], lull calm (.refl progress)⟩
  next publisher known =>
    split
    next => exact ⟨[], lull calm (.refl progress)⟩
    next outgoing next committed =>
      refine ⟨outgoing, enterPublisher calm progress ?_⟩
      rw [Agent.publisherOrNew, known]
      exact .commit timely committed

theorem shuffle
    (progress : Progress)
    (categories : List String)
    (resources : List ResourceId) :
    Effect occasion [] [] progress
      { progress with agent := progress.agent.shuffle categories resources } := by
  refine ⟨rfl, lifecycle_of_eq calm rfl, fun some => absurd rfl some, ?_, ?_, .nothing rfl,
    .silent _ _⟩
  · unfold Agent.publisherOrNew Agent.shuffle
    cases progress.agent.publisher with
    | none => exact .rest
    | some publisher => exact .shuffle resources
  · unfold Agent.subscriberOrNew Agent.shuffle
    cases progress.agent.subscriber with
    | none => exact .rest
    | some subscriber => exact .shuffle categories

/-- The publisher accepts a resource if publishing it succeeds. -/
theorem publish
    (progress : Progress)
    {now : Instant}
    (timely : occasion.timely now)
    {id : ResourceId}
    {category connection : String}
    {attributes : Attributes}
    (offered : progress.agent.lifecycle ≠ .disposed → occasion.offered
      (.new id category connection progress.agent.settings.wireExpiry attributes)) :
    Effect occasion []
      (match (progress.publish now id category connection attributes).1 with
        | .ok () => [id]
        | .error _ => [])
      progress (progress.publish now id category connection attributes).2 := by
  unfold Progress.publish
  by_cases disposed : progress.agent.lifecycle = .disposed
  · rw [obtainPublisher, if_pos disposed]
    exact lull calm (.refl progress)
  have ends := progress.obtains_obtainPublisher
  have known := @publisher_obtainPublisher progress
  generalize progress.obtainPublisher = obtained at ends known ⊢
  have made : Lull progress obtained.2 := by
    cases ends with
    | disposed => exact .refl progress
    | notStarted refused =>
        have failed := Lull.acquire disposed
        rw [refused] at failed
        exact failed
    | found => exact .refl progress
    | @made acquired absent success =>
        have joined := Lull.join disposed success
        have roles := progress.sameRoles_acquire
        rw [success] at roles
        have same : (acquired.activate.enterPublisher .new).agent.publisherOrNew =
            acquired.activate.agent.publisherOrNew := by
          change Publisher.new = acquired.agent.publisher.getD .new
          rw [roles.publisher, absent]
          rfl
        exact ⟨joined.settings, joined.lifecycle, same.trans joined.publisher, joined.subscriber,
          joined.outputs⟩
  obtain ⟨_ | publisher, next⟩ := obtained
  · exact lull calm made
  have isPublisher := known rfl
  dsimp only
  cases published : publisher.publish now
      (.new id category connection next.agent.settings.wireExpiry attributes) with
  | error cause => exact lull calm made
  | ok later =>
      have step : next.agent.publisherOrNew.Step occasion [] [id] later := by
        rw [Agent.publisherOrNew, isPublisher]
        exact .publish timely (made.settings ▸ offered disposed) published
      have entered : Effect occasion [] [id] next (next.enterPublisher later) :=
        ⟨rfl, lifecycle_of_eq calm rfl, fun _ isDisposed => disposed (made.lifecycle.mp isDisposed),
          step, .rest, .nothing rfl, .silent _ _⟩
      exact entered.afterLull made

/-- Whatever else is run, nothing is accepted. -/
theorem run
    (progress : Progress)
    {errand : Errand}
    (admits : occasion.Admits progress.agent errand)
    (noPublishing : ∀ now id category connection attributes,
      errand ≠ .publish now id category connection attributes)
    (noDelivery : ∀ now, errand ≠ .deliver now) :
    ∃ said, Effect occasion said [] progress (progress.run errand) := by
  cases errand with
  | subscribe => exact ⟨[], subscribe calm progress (admits.wanted rfl)⟩
  | publish now id category connection attributes =>
      exact absurd rfl (noPublishing now id category connection attributes)
  | commit _ editor => exact commit calm progress (admits.timely rfl) editor
  | listen subscription callback =>
      refine ⟨[], updateSubscription calm progress
        (.register subscription (· ++ [callback]) fun {known} _ => ?_)⟩
      exact (List.prefix_append known.callbacks [callback]).map Callback.name
  | read subscription => exact ⟨[], read calm progress subscription⟩
  | disposeSubscription subscription => exact ⟨[], dispose calm progress subscription⟩
  | receive => exact receive calm progress (admits.timely rfl) (admits.heard rfl)
  | announce => exact announce calm progress (admits.timely rfl)
  | expire => exact ⟨[], expire calm progress (admits.timely rfl)⟩
  | deliver now => exact absurd rfl (noDelivery now)
  | shuffle categories resources => exact ⟨[], shuffle calm progress categories resources⟩

/-- A callback is started. -/
theorem startCallback
    {subscription : Nat}
    (due : occasion.starting subscription)
    (progress : Progress)
    (position : Nat) :
    Effect occasion [] [] progress (progress.startCallback subscription position) := by
  unfold Progress.startCallback
  dsimp only
  split
  next => exact lull calm (.refl progress)
  next callback isNext =>
    obtain ⟨listener, listens, isCallback⟩ := Option.bind_eq_some_iff.mp isNext
    rw [Agent.subscription?_eq] at listens
    have shortened : Effect occasion [] [] progress
        (progress.updateSubscription subscription fun known =>
          { known with
            callbacks :=
              known.callbacks.set position { callback with script := callback.script.tail } }) := by
      refine updateSubscription calm progress (.register subscription
        (fun callbacks => callbacks.set position { callback with script := callback.script.tail })
        fun {known} found => ?_)
      rw [listens] at found
      cases found
      obtain ⟨inRange, rfl⟩ := List.getElem?_eq_some_iff.mp isCallback
      have inNames : position < (listener.callbacks.map Callback.name).length := by
        rwa [List.length_map]
      have same : (listener.callbacks.set position
          { listener.callbacks[position] with
            script := listener.callbacks[position].script.tail }).map Callback.name =
          listener.callbacks.map Callback.name := by
        rw [List.map_set, ← List.getElem_map Callback.name (h := inNames), List.set_getElem_self]
      exact ⟨[], (List.append_nil _).trans same.symm⟩
    exact ⟨shortened.settings, shortened.lifecycle, shortened.running, shortened.publisher,
      shortened.subscriber, .one rfl (.updated due _ _), .silent _ _⟩

end Errands

/-- Stopping the publisher is said to everyone. -/
theorem outputs_withdraw (progress : Progress) :
    progress.withdraw.outputs =
      progress.outputs ++ progress.agent.publisherOrNew.stop.1.map .sent := by
  unfold withdraw stopPublisher Agent.publisherOrNew
  cases progress.agent.publisher with
  | none => exact (List.append_nil _).symm
  | some publisher => rfl

theorem subscriber_withdraw (progress : Progress) :
    progress.withdraw.agent.subscriber = progress.agent.subscriber := by
  unfold withdraw stopPublisher
  dsimp only
  split <;> rfl

theorem settings_withdraw (progress : Progress) :
    progress.withdraw.agent.settings = progress.agent.settings := by
  unfold withdraw stopPublisher
  dsimp only
  split <;> rfl

theorem lifecycle_withdraw (progress : Progress) :
    progress.withdraw.agent.lifecycle = .disposed := by
  unfold withdraw stopPublisher
  dsimp only
  split <;> rfl

/-- When the agent stops, everything is withdrawn and the subscriber may be shut. -/
theorem withdraw
    {occasion : Occasion}
    (due : occasion.stopping)
    (progress : Progress)
    {next : Progress}
    (settings : next.agent.settings = progress.agent.settings)
    (same : next.agent.lifecycle = progress.withdraw.agent.lifecycle ∧
      next.agent.publisher = progress.withdraw.agent.publisher ∧
      next.outputs = progress.withdraw.outputs)
    (step : progress.agent.subscriberOrNew.Step occasion
      next.agent.subscriberOrNew) :
    Effect occasion progress.agent.publisherOrNew.stop.1 [] progress next := by
  obtain ⟨lifecycle, publisher, outputs⟩ := same
  refine ⟨settings, ?_, fun some => absurd rfl some, ?_, step, ?_, ?_⟩
  · rw [lifecycle, lifecycle_withdraw, or_iff_right_of_imp fun _ => due]
    exact iff_of_true rfl due
  · rw [Agent.publisherOrNew, Agent.publisherOrNew, publisher]
    unfold Progress.withdraw stopPublisher
    dsimp only
    cases progress.agent.publisher with
    | none => exact .rest
    | some publisher => exact .stop due
  · refine ⟨_, outputs.trans (outputs_withdraw progress), fun output member => ?_⟩
    obtain ⟨sent, isSaid, rfl⟩ := List.mem_map.mp member
    exact .said isSaid
  · intro sent isSaid
    rw [outputs, outputs_withdraw, List.drop_left]
    exact List.mem_map_of_mem isSaid

end Effect

end Progress

namespace Moment

open Progress (Effect)

section Kinds

variable {occasion : Occasion}

theorem effect_run
    (calm : ¬ occasion.stopping)
    (moment : Moment)
    {errand : Errand}
    (admits : occasion.Admits moment.agent errand) :
    ∃ said accepted,
      Effect occasion said accepted moment.progress (moment.run errand).progress ∧
        (moment.run errand).published = moment.published ++ accepted := by
  have other : moment.run errand = { moment with progress := moment.progress.run errand } →
      (∀ now id category connection attributes,
        errand ≠ .publish now id category connection attributes) →
      (∀ now, errand ≠ .deliver now) →
      ∃ said accepted,
        Effect occasion said accepted moment.progress (moment.run errand).progress ∧
          (moment.run errand).published = moment.published ++ accepted := by
    intro isRun noPublishing noDelivery
    obtain ⟨said, effect⟩ := Effect.run calm moment.progress admits noPublishing noDelivery
    rw [isRun]
    exact ⟨said, [], effect, (List.append_nil _).symm⟩
  cases errand with
  | publish now id category connection attributes =>
      refine ⟨[], _, Effect.publish calm moment.progress (admits.timely rfl) (admits.offered rfl),
        ?_⟩
      unfold run
      dsimp only
      cases (moment.progress.publish now id category connection attributes).1 with
      | ok => rfl
      | error => exact (List.append_nil _).symm
  | deliver now =>
      unfold run deliver agent
      dsimp only
      split
      next => exact ⟨[], [], .lull calm (.refl _), (List.append_nil _).symm⟩
      next subscriber known =>
        refine ⟨[], [], .enterSubscriber calm _ ?_, (List.append_nil _).symm⟩
        rw [Agent.subscriberOrNew, known]
        exact .collect (admits.collecting rfl)
  | subscribe | commit | listen | read | disposeSubscription | receive | announce | expire
  | shuffle => exact other rfl nofun nofun

theorem effect_tell
    (calm : ¬ occasion.stopping)
    (moment : Moment)
    {subscription : Nat}
    (due : occasion.telling subscription) :
    Effect occasion [] [] moment.progress (moment.tell subscription).progress ∧
      (moment.tell subscription).published = moment.published := by
  unfold tell agent
  split
  next => exact ⟨.lull calm (.refl _), rfl⟩
  next known found =>
    split
    next => exact ⟨.lull calm (.refl _), rfl⟩
    next isOpen =>
      refine ⟨.updateSubscription calm moment.progress ?_, rfl⟩
      rw [Agent.serial_eq found]
      rw [Agent.subscription?_eq] at found
      exact .notice due found (Bool.eq_false_iff.mpr isOpen)

theorem effect_conclude
    (calm : ¬ occasion.stopping)
    (due : occasion.concluding)
    (moment : Moment)
    (subscription : Nat) :
    Effect occasion [] [] moment.progress (moment.conclude subscription).progress ∧
      (moment.conclude subscription).published = moment.published := by
  unfold conclude agent
  split
  next => exact ⟨.lull calm (.refl _), rfl⟩
  next subscriber known =>
    refine ⟨.enterSubscriber calm moment.progress ?_, rfl⟩
    rw [Agent.subscriberOrNew, known]
    exact .conclude subscription due

theorem effect_dispose
    (due : occasion.stopping)
    (moment : Moment) :
    ∃ said, Effect occasion said [] moment.progress moment.dispose.progress ∧
      moment.dispose.published = moment.published := by
  unfold dispose agent
  split
  next disposed =>
    exact ⟨[], ⟨rfl, iff_of_true disposed (.inr due), fun some => absurd rfl some, .rest, .rest,
      .nothing rfl, .silent _ _⟩, rfl⟩
  next =>
    have known := Effect.subscriber_withdraw moment.progress
    split
    next absent =>
      refine ⟨_, .withdraw due moment.progress (Effect.settings_withdraw _) ⟨rfl, rfl, rfl⟩ ?_,
        rfl⟩
      rw [Agent.subscriberOrNew, Agent.subscriberOrNew, known]
      exact .rest
    next subscriber isSubscriber =>
      refine ⟨_, .withdraw due moment.progress (Effect.settings_withdraw _) ⟨rfl, rfl, rfl⟩ ?_,
        rfl⟩
      rw [known] at isSubscriber
      rw [Agent.subscriberOrNew, isSubscriber]
      exact .shut due

end Kinds

/-- What a moment is the occasion for when something happens. -/
def occasion (moment : Moment) (occurrence : Occurrence) : Occasion where
  stopping := occurrence = .dispose
  telling id := occurrence = .proceed ∧ ∃ rest, moment.duties = .tell id :: rest
  concluding := ∃ id, .conclude id ∈ moment.duties
  starting subscription := occurrence = .proceed ∧ ∃ position rest,
    moment.duties = .run subscription position :: rest
  collecting := ∃ now, occurrence = .errand (.deliver now)
  timely now := ∃ errand, occurrence = .errand errand ∧ errand.now? = some now
  heard stream := ∃ now delivery, occurrence = .errand (.receive now delivery) ∧
    delivery.stream = stream
  wanted category :=
    moment.agent.lifecycle ≠ .disposed ∧ occurrence = .errand (.subscribe category)
  offered resource := moment.agent.lifecycle ≠ .disposed ∧ ∃ now id category connection attributes,
    occurrence = .errand (.publish now id category connection attributes) ∧
      resource = .new id category connection moment.agent.settings.wireExpiry attributes

theorem admits_occasion (moment : Moment) (errand : Errand) :
    (moment.occasion (.errand errand)).Admits moment.agent errand where
  timely isNow := ⟨errand, rfl, isNow⟩
  collecting isDelivery := ⟨_, congrArg _ isDelivery⟩
  heard isReceipt := ⟨_, _, congrArg _ isReceipt, rfl⟩
  wanted isSubscription running := ⟨running, congrArg _ isSubscription⟩
  offered isPublishing running := ⟨running, _, _, _, _, _, congrArg _ isPublishing, rfl⟩

/-- Every occurrence has an effect. -/
theorem effect_after
    (moment : Moment)
    (occurrence : Occurrence) :
    ∃ said accepted,
      Effect (moment.occasion occurrence) said accepted moment.progress
          (moment.after occurrence).progress ∧
        (moment.after occurrence).published = moment.published ++ accepted := by
  have nothing : moment.published = moment.published ++ [] := (List.append_nil _).symm
  have calm : occurrence ≠ .dispose → ¬ (moment.occasion occurrence).stopping := id
  cases occurrence with
  | errand errand => exact effect_run (calm nofun) moment (moment.admits_occasion errand)
  | dispose =>
      have due : (moment.occasion .dispose).stopping := rfl
      obtain ⟨said, effect, published⟩ := effect_dispose due moment
      exact ⟨said, [], effect, published.trans nothing⟩
  | release => exact ⟨[], [], .lull (calm nofun) (.release _), nothing⟩
  | report => exact ⟨[], [], .emit (calm nofun) _ rfl, nothing⟩
  | ask => exact ⟨[], [], .emit (calm nofun) _ rfl, nothing⟩
  | proceed =>
      replace calm := calm nofun
      obtain ⟨progress, duties, published⟩ := moment
      cases duties with
      | nil => exact ⟨[], [], .lull calm (.refl _), nothing⟩
      | cons duty rest =>
          cases duty with
          | tell subscription =>
              have due : (occasion ⟨progress, .tell subscription :: rest, published⟩
                  .proceed).telling subscription := ⟨rfl, rest, rfl⟩
              obtain ⟨effect, same⟩ := effect_tell calm ⟨progress, rest, published⟩ due
              exact ⟨[], [], effect, same.trans nothing⟩
          | run subscription position =>
              have due : (occasion ⟨progress, .run subscription position :: rest, published⟩
                  .proceed).starting subscription := ⟨rfl, position, rest, rfl⟩
              exact ⟨[], [], .startCallback calm due progress position, nothing⟩
          | conclude subscription =>
              have due : (occasion ⟨progress, .conclude subscription :: rest, published⟩
                  .proceed).concluding := ⟨subscription, List.mem_cons_self⟩
              obtain ⟨effect, same⟩ :=
                effect_conclude calm due ⟨progress, rest, published⟩ subscription
              exact ⟨[], [], effect, same.trans nothing⟩
          | repay count => exact ⟨[], [], .lull calm (.releaseMany _ _), nothing⟩

/-- A delivery that begins concerns the subscriber only. -/
theorem withinSubscriber_deliver (moment : Moment) :
    moment.progress.WithinSubscriber moment.deliver.progress := by
  unfold deliver
  split <;> exact ⟨rfl, rfl, rfl⟩

/-- What is to be done concerns the subscriber only, or it is some users that leave. -/
theorem withinSubscriber_proceed (moment : Moment) :
    moment.progress.WithinSubscriber moment.proceed.progress ∨
      ∃ count, moment.proceed.progress = moment.progress.releaseMany count := by
  obtain ⟨progress, duties, published⟩ := moment
  cases duties with
  | nil => exact .inl ⟨rfl, rfl, rfl⟩
  | cons duty rest =>
      cases duty with
      | tell subscription =>
          left
          change progress.WithinSubscriber
            (Moment.tell ⟨progress, rest, published⟩ subscription).progress
          unfold tell
          split
          next => exact ⟨rfl, rfl, rfl⟩
          next => split <;> exact ⟨rfl, rfl, rfl⟩
      | run subscription position =>
          left
          change progress.WithinSubscriber (progress.startCallback subscription position)
          unfold Progress.startCallback
          dsimp only
          split <;> exact ⟨rfl, rfl, rfl⟩
      | conclude subscription =>
          left
          change progress.WithinSubscriber
            (Moment.conclude ⟨progress, rest, published⟩ subscription).progress
          unfold conclude
          split <;> exact ⟨rfl, rfl, rfl⟩
      | repay count => exact .inr ⟨count, rfl⟩

end Moment

end Discovery
