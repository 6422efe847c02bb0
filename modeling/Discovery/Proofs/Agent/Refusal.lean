import Discovery.Proofs.Agent.Editing

namespace Discovery

/-!
# What a refused request leaves behind

A request to subscribe or to publish may be refused after it has become a user of
the transport.  What the agent publishes, watches and has kept is untouched then,
and nothing is sent (`Moment.refused_request`).  But a request that is refused for
what it asks for has taken the agent into service before that is looked at, and
the first publishing has made the publisher, which stays a user of the transport
until the agent is disposed (`Moment.active_of_refused`).
-/

namespace AgentError

/-- Whether a request was refused because others could not read what it would send. -/
def isUnencodable : AgentError → Bool
  | .unencodable _ => true
  | _ => false

end AgentError

/-- While it is not shut, a subscriber refuses only what cannot be sent. -/
theorem Subscriber.isUnencodable_of_subscribe
    {subscriber next : Subscriber}
    {name : String}
    {cause : AgentError}
    (running : subscriber.stopped = false)
    (refused : subscriber.subscribe name = (.error cause, next)) :
    cause.isUnencodable = true := by
  have ends := subscriber.subscribes_subscribe name
  rw [refused] at ends
  cases ends with
  | unencodable => rfl
  | disposed _ stopped =>
      rw [running] at stopped
      cases stopped

/-- While it is not stopped, a publisher refuses only what cannot be sent. -/
theorem Publisher.isUnencodable_of_publish
    {publisher : Publisher}
    {now : Instant}
    {resource : LocalResource}
    {cause : AgentError}
    (running : publisher.stopped = false)
    (refused : publisher.publish now resource = .error cause) :
    cause.isUnencodable = true := by
  unfold publish at refused
  split at refused
  next =>
    cases refused
    rfl
  next =>
    rw [running, if_neg Bool.false_ne_true] at refused
    cases refused

namespace Progress

/-- The transport is started exactly while it has users. -/
def Powered (progress : Progress) : Prop :=
  progress.agent.link.running = decide (0 < progress.agent.users)

namespace Powered

variable {progress next : Progress}

theorem of_same
    (powered : progress.Powered)
    (users : next.agent.users = progress.agent.users)
    (link : next.agent.link = progress.agent.link) :
    next.Powered := by
  rw [Powered, users, link]
  exact powered

/-- A further user keeps the transport started, or starts it. -/
theorem of_acquire
    (powered : progress.Powered)
    (acquired : progress.acquire = (.ok (), next)) :
    next.Powered ∧ next.agent.users = progress.agent.users + 1 := by
  have ends := progress.acquires_acquire
  rw [acquired] at ends
  cases ends with
  | started _ idle => exact ⟨rfl, by rw [idle]; rfl⟩
  | joined busy =>
      refine ⟨?_, rfl⟩
      change progress.agent.link.running = decide (0 < progress.agent.users + 1)
      rw [powered]
      simp [Nat.pos_of_ne_zero busy]

/-- A transport that does not start stays stopped and gets no user. -/
theorem of_acquire_error
    (powered : progress.Powered)
    {cause : TransportError}
    (refused : progress.acquire = (.error cause, next)) :
    next.Powered ∧ next.agent.users = progress.agent.users := by
  have ends := progress.acquires_acquire
  rw [refused] at ends
  cases ends with
  | refused => exact ⟨powered, rfl⟩

theorem acquire (powered : progress.Powered) : progress.acquire.2.Powered := by
  rcases acquired : progress.acquire with ⟨_ | _, next⟩
  · exact (powered.of_acquire_error acquired).1
  · exact (powered.of_acquire acquired).1

/-- The last user to leave stops the transport. -/
theorem release
    (powered : progress.Powered) :
    progress.release.Powered ∧ progress.release.agent.users = progress.agent.users - 1 := by
  have ends := progress.releases_release
  generalize progress.release = next at ends ⊢
  cases ends with
  | overdrawn none => exact ⟨powered, by change progress.agent.users = _; rw [none]⟩
  | stopped last => exact ⟨rfl, by rw [last]; rfl⟩
  | @left others more =>
      refine ⟨?_, by rw [more]; rfl⟩
      change progress.agent.link.running = decide (0 < others + 1)
      rw [powered, more]
      simp

theorem releaseMany
    (powered : progress.Powered)
    (count : Nat) :
    (progress.releaseMany count).Powered := by
  induction count generalizing progress with
  | zero => exact powered
  | succ count inductionHypothesis => exact inductionHypothesis powered.release.1

/-- Whatever an errand does, the transport is started exactly while it has users. -/
theorem keptByCallbacks : KeptByCallbacks Powered where
  quiet quiet powered := powered.of_same quiet.users quiet.link
  disposes {progress} id powered := by
    have ends := progress.disposes_dispose id
    generalize progress.dispose id = next at ends
    cases ends with
    | unchanged => exact powered
    | left => exact (powered.of_same rfl rfl : Powered (progress.enterSubscriber _)).release.1
  subscribes {progress} category powered := by
    have ends := progress.subscribes_subscribe category
    generalize (progress.subscribe category).2 = next at ends
    cases ends with
    | disposed => exact powered
    | notStarted refused => exact (powered.of_acquire_error refused).1
    | refused success =>
        have acquired := (powered.of_acquire success).1
        exact (acquired.of_same rfl rfl :
          Powered ((activate _).enterSubscriber _)).release.1
    | @joined acquired id isFirst next success =>
        have acquired := (powered.of_acquire success).1
        cases isFirst <;> exact acquired.of_same rfl rfl
  publishes {progress} now id category connection attributes powered := by
    have quiet := progress.quiet_publish now id category connection attributes
    have obtained : progress.obtainPublisher.2.Powered := by
      have ends := progress.obtains_obtainPublisher
      generalize progress.obtainPublisher = obtained at ends
      cases ends with
      | disposed => exact powered
      | notStarted refused => exact (powered.of_acquire_error refused).1
      | found => exact powered
      | made _ success => exact (powered.of_acquire success).1.of_same rfl rfl
    exact obtained.of_same quiet.users quiet.link

end Powered

/--
What a refused request leaves behind: what is published and watched is as it
was, and nothing is sent.  The request may have made the agent active, and may
have made the publisher, which is a further user of the transport.
-/
structure Refused (activates joins : Bool) (before after : Progress) : Prop where
  idle : Idle before after
  lifecycle : after.agent.lifecycle = if activates then .active else before.agent.lifecycle
  users : after.agent.users = before.agent.users + joins.toNat
  started : after.agent.link.running = (before.agent.link.running || joins)
  publisher : after.agent.publisher.isSome = (before.agent.publisher.isSome || joins)

namespace Refused

variable {progress failed : Progress} {cause : AgentError}

theorem nothing (progress : Progress) : Refused false false progress progress :=
  ⟨(Lull.refl progress).idle, rfl, rfl, (Bool.or_false _).symm, (Bool.or_false _).symm⟩

/-- The transport does not start, and everything is as it was. -/
theorem of_notStarted
    {reason : TransportError}
    (powered : progress.Powered)
    (running : progress.agent.lifecycle ≠ .disposed)
    (refused : progress.acquire = (.error reason, failed)) :
    Refused false false progress failed := by
  have lull := Lull.acquire running
  have roles := progress.sameRoles_acquire
  rw [refused] at lull roles
  obtain ⟨still, users⟩ := powered.of_acquire_error refused
  refine ⟨lull.idle, roles.lifecycle, users, ?_, ?_⟩
  · rw [still, users, Bool.or_false, powered]
  · rw [roles.publisher, Bool.or_false]

/-- Who has joined for a subscription that is refused leaves again. -/
theorem of_joined
    (powered : progress.Powered)
    (running : progress.agent.lifecycle ≠ .disposed)
    {acquired : Progress}
    (success : progress.acquire = (.ok (), acquired)) :
    Refused true false progress
      (acquired.activate.enterSubscriber progress.agent.subscriberOrNew).release := by
  have lull := Lull.join running success
  have enters : Lull acquired.activate
      (acquired.activate.enterSubscriber progress.agent.subscriberOrNew) :=
    ⟨rfl, .rfl, rfl, lull.subscriber.symm, .nothing rfl⟩
  obtain ⟨joined, users⟩ := powered.of_acquire success
  have entered : (acquired.activate.enterSubscriber progress.agent.subscriberOrNew).Powered :=
    joined.of_same rfl rfl
  obtain ⟨released, fewer⟩ := entered.release
  change _ = acquired.agent.users - 1 at fewer
  rw [users, Nat.add_sub_cancel] at fewer
  have entering := progress.sameRoles_acquire
  rw [success] at entering
  have leaving := sameRoles_release
    (acquired.activate.enterSubscriber progress.agent.subscriberOrNew)
  refine ⟨((Lull.release _).trans (enters.trans lull)).idle, leaving.lifecycle, fewer, ?_, ?_⟩
  · rw [released, fewer, Bool.or_false, powered]
  · rw [leaving.publisher, Bool.or_false]
    exact congrArg Option.isSome entering.publisher

/-- A subscription that is refused leaves the transport as it was. -/
theorem of_subscribe
    (powered : progress.Powered)
    (inService : progress.agent.lifecycle ≠ .disposed →
      progress.agent.subscriberOrNew.stopped = false)
    {category : String}
    (refused : (progress.subscribe category).1 = .error cause) :
    Refused cause.isUnencodable false progress (progress.subscribe category).2 := by
  unfold subscribe at refused ⊢
  split at refused
  next disposed =>
    rw [if_pos disposed]
    cases refused
    exact .nothing progress
  next running =>
    rw [if_neg running]
    split at refused
    next notStarted =>
      cases refused
      exact .of_notStarted powered running notStarted
    next acquired success =>
      have known : acquired.activate.agent.subscriber.getD .new = progress.agent.subscriberOrNew :=
        (Lull.join running success).subscriber
      dsimp only at refused ⊢
      rw [known] at refused ⊢
      rcases subscribed : progress.agent.subscriberOrNew.subscribe category with
        ⟨reason | ⟨entered, isFirst⟩, next⟩
      · rw [subscribed] at refused
        cases refused
        rw [Subscriber.subscribe_error subscribed,
          Subscriber.isUnencodable_of_subscribe (inService running) subscribed]
        exact .of_joined powered running success
      · rw [subscribed] at refused
        cases isFirst <;> cases refused

/-- The publisher that is made for a publishing that is refused stays a user of the transport. -/
theorem of_made
    (powered : progress.Powered)
    (running : progress.agent.lifecycle ≠ .disposed)
    (absent : progress.agent.publisher = none)
    {acquired : Progress}
    (success : progress.acquire = (.ok (), acquired)) :
    Refused true true progress (acquired.activate.enterPublisher .new) := by
  have lull := Lull.join running success
  have isNew : progress.agent.publisherOrNew = .new := by
    rw [Agent.publisherOrNew, absent, Option.getD_none]
  have enters : Lull acquired.activate (acquired.activate.enterPublisher .new) :=
    ⟨rfl, .rfl, (lull.publisher.trans isNew).symm, rfl, .nothing rfl⟩
  obtain ⟨joined, users⟩ := powered.of_acquire success
  refine ⟨(enters.trans lull).idle, rfl, users, ?_, (Bool.or_true _).symm⟩
  change acquired.agent.link.running = _
  rw [joined, users, Bool.or_true]
  exact decide_eq_true (Nat.succ_pos _)

/-- A publishing that is refused leaves the transport as it was, but for a new publisher. -/
theorem of_publish
    (powered : progress.Powered)
    {now : Instant}
    {id : ResourceId}
    {category connection : String}
    {attributes : Attributes}
    (refused : (progress.publish now id category connection attributes).1 = .error cause) :
    Refused (cause.isUnencodable && progress.agent.publisher.isNone)
      (cause.isUnencodable && progress.agent.publisher.isNone) progress
      (progress.publish now id category connection attributes).2 := by
  by_cases disposed : progress.agent.lifecycle = .disposed
  · rw [publish, obtainPublisher, if_pos disposed] at refused ⊢
    cases refused
    exact .nothing progress
  have ends := progress.obtains_obtainPublisher
  unfold publish at refused ⊢
  generalize progress.obtainPublisher = obtained at refused ends ⊢
  cases ends with
  | disposed lifecycle => exact absurd lifecycle disposed
  | notStarted notStarted =>
      cases refused
      exact .of_notStarted powered disposed notStarted
  | found known =>
      dsimp only at refused ⊢
      split at refused
      next =>
        cases refused
        rw [known, Option.isNone_some, Bool.and_false]
        exact .nothing progress
      next => cases refused
  | made absent success =>
      dsimp only at refused ⊢
      split at refused
      next rejected =>
        cases refused
        rw [Publisher.isUnencodable_of_publish rfl rejected, absent, Option.isNone_none,
          Bool.and_true]
        exact .of_made powered disposed absent success
      next => cases refused

end Refused

end Progress

namespace Moment

open Progress (Powered Refused)

/-- The transport is started exactly while it has users, and the subscriber serves till the end. -/
structure Sustained (moment : Moment) : Prop where
  powered : moment.progress.Powered
  inService : moment.agent.lifecycle ≠ .disposed → moment.agent.subscriberOrNew.stopped = false

namespace Sustained

variable {moment : Moment}

theorem new (settings : AgentSettings) (attempts : List (Option TransportError)) :
    Sustained (.new settings attempts) :=
  ⟨rfl, fun _ => rfl⟩

/-- To withdraw everything concerns no user of the transport. -/
theorem powered_dispose (powered : moment.progress.Powered) : moment.dispose.progress.Powered := by
  have quiet := Progress.quiet_stopPublisher
    { moment.progress with agent := { moment.progress.agent with lifecycle := .disposed } }
  have withdrawn : moment.progress.withdraw.Powered := powered.of_same quiet.users quiet.link
  unfold dispose
  split
  next => exact powered
  next =>
    split
    next => exact withdrawn
    next => exact withdrawn.of_same rfl rfl

/-- Whatever happens, the transport is started exactly while it has users. -/
theorem powered_after
    (powered : moment.progress.Powered)
    (occurrence : Occurrence) :
    (moment.after occurrence).progress.Powered := by
  have kept := Powered.keptByCallbacks
  cases occurrence with
  | errand errand =>
      change (moment.run errand).progress.Powered
      rcases moment.run_cases errand with ⟨now, rfl⟩ | ⟨published, isRun⟩
      · have within := moment.withinSubscriber_deliver
        exact powered.of_same within.users within.link
      · rw [isRun]
        exact kept.run errand powered
  | dispose => exact powered_dispose powered
  | release => exact powered.release.1
  | report | ask => exact powered.of_same rfl rfl
  | proceed =>
      change moment.proceed.progress.Powered
      rcases moment.withinSubscriber_proceed with within | ⟨count, repaid⟩
      · exact powered.of_same within.users within.link
      · rw [repaid]
        exact powered.releaseMany count

/-- Whatever happens, the subscriber serves till the agent is disposed. -/
theorem after
    (sustained : moment.Sustained)
    (occurrence : Occurrence) :
    (moment.after occurrence).Sustained := by
  refine ⟨powered_after sustained.powered occurrence, fun running => ?_⟩
  obtain ⟨_, _, effect, _⟩ := moment.effect_after occurrence
  have calm := mt effect.lifecycle.mpr running
  rw [not_or] at calm
  rcases effect.subscriber.stopped_cases with same | ⟨stopping, _⟩
  · exact same.trans (sustained.inService calm.1)
  · exact absurd stopping calm.2

theorem leads
    {first last : Moment}
    (sustained : first.Sustained)
    (leads : Leads first last) :
    last.Sustained := by
  obtain ⟨occurrences, rfl⟩ := leads
  exact List.foldlRecOn occurrences _ sustained fun _ sustained occurrence _ =>
    sustained.after occurrence

end Sustained

/-- A category of one letter over and over. -/
def monotonous (count : Nat) : String :=
  String.ofList (List.replicate count 'c')

theorem utf8ByteSize_monotonous (count : Nat) : (monotonous count).utf8ByteSize = count := by
  induction count with
  | zero => rfl
  | succ count inductionHypothesis =>
      rw [monotonous, List.replicate_succ', String.ofList_append, String.utf8ByteSize_append]
      exact congrArg (· + 1) inductionHypothesis

theorem checkText_monotonous :
    Wire.checkText (monotonous 65537) = .error (.textTooLong 65537) := by
  rw [Wire.checkText, utf8ByteSize_monotonous]
  rfl

section FirstRequest

variable (settings : AgentSettings) {category : String} {reason : Wire.WireError}

theorem progress_new :
    (new settings []).progress = ⟨⟨settings, ⟨false, []⟩, 0, .created, none, none⟩, []⟩ :=
  rfl

/-- A new agent whose first subscription is refused has become active, and has a subscriber. -/
theorem subscribe_new_of_error (long : Wire.checkText category = .error reason) :
    (new settings []).progress.subscribe category =
      (.error (.unencodable reason),
        ⟨⟨settings, ⟨false, []⟩, 0, .active, none, some .new⟩, [.started, .stopped]⟩) := by
  have refused : Subscriber.new.subscribe category = (.error (.unencodable reason), .new) := by
    rw [Subscriber.subscribe, long]
  simp [progress_new, Progress.subscribe, Progress.acquire, Link.start, Progress.activate,
    Progress.emit, refused, Progress.enterSubscriber, Progress.release]

/-- A new agent whose first publishing is refused has become active, and has a publisher. -/
theorem publish_new_of_error
    (now : Instant)
    (id : ResourceId)
    (connection : String)
    (attributes : Attributes)
    (long : Wire.checkText category = .error reason) :
    (new settings []).progress.publish now id category connection attributes =
      (.error (.unencodable reason),
        ⟨⟨settings, ⟨true, []⟩, 1, .active, some .new, none⟩, [.started]⟩) := by
  have refused : Publisher.new.publish now
      (.new id category connection settings.wireExpiry attributes) =
        .error (.unencodable reason) := by
    rw [Publisher.publish, Publisher.checkResource, LocalResource.new, long]
    rfl
  simp [progress_new, Progress.publish, Progress.obtainPublisher, Progress.acquire, Link.start,
    Progress.activate, Progress.emit, Progress.enterPublisher, refused]

end FirstRequest

/--
A request that is refused leaves everything that is published, watched and kept
as it was, and nothing is sent.  If the agent was disposed or the transport did
not start, the lifecycle and the transport are as they were as well.  If what
was asked for cannot be sent, the agent is active afterwards, and the transport
is as it was, unless there was no publisher to publish: the one that was made is
a user of the transport from then on.
-/
theorem refused_request
    (settings : AgentSettings)
    (attempts : List (Option TransportError))
    {moment : Moment}
    (reached : Leads (.new settings attempts) moment) :
    (∀ {category : String} {cause : AgentError},
      (moment.progress.subscribe category).1 = .error cause →
        Refused cause.isUnencodable false moment.progress
          (moment.progress.subscribe category).2) ∧
    ∀ {now : Instant} {id : ResourceId} {category connection : String} {attributes : Attributes}
      {cause : AgentError},
      (moment.progress.publish now id category connection attributes).1 = .error cause →
        Refused (cause.isUnencodable && moment.agent.publisher.isNone)
          (cause.isUnencodable && moment.agent.publisher.isNone) moment.progress
          (moment.progress.publish now id category connection attributes).2 := by
  have sustained := (Sustained.new settings attempts).leads reached
  exact ⟨fun refused => .of_subscribe sustained.powered sustained.inService refused,
    fun refused => .of_publish sustained.powered refused⟩

/--
A new agent is asked to watch, and to publish, in a category whose name is too
long; and an agent whose only subscription has ended finds that the transport
does not start again.
-/
theorem refused_request_monotonous :
    let progress := (new ⟨30, 50⟩ []).progress
    let id : ResourceId := ⟨List.replicate 16 1, List.length_replicate⟩
    let subscribed := progress.subscribe (monotonous 65537)
    let published := progress.publish 0 id (monotonous 65537) "here" ∅
    let first := new ⟨30, 50⟩ [none, some .noRuntime]
    let left := (first.after (.errand (.subscribe "Lamp"))).after (.errand (.disposeSubscription 1))
    Leads (new ⟨30, 50⟩ []) (new ⟨30, 50⟩ []) ∧
      subscribed.1 = .error (.unencodable (.textTooLong 65537)) ∧
      Refused true false progress subscribed.2 ∧
      published.1 = .error (.unencodable (.textTooLong 65537)) ∧
      Refused true true progress published.2 ∧
      Leads first left ∧ left.agent.subscriber.isSome = true ∧
      (left.progress.subscribe "Lamp").1 = .error (.transport .noRuntime) ∧
      Refused false false left.progress (left.progress.subscribe "Lamp").2 := by
  intro progress id subscribed published first left
  have reached : Leads (new ⟨30, 50⟩ []) (new ⟨30, 50⟩ []) := .refl _
  have subscribes : subscribed.1 = .error (.unencodable (.textTooLong 65537)) := by
    rw [show subscribed = _ from subscribe_new_of_error ⟨30, 50⟩ checkText_monotonous]
  have publishes : published.1 = .error (.unencodable (.textTooLong 65537)) := by
    rw [show published = _ from
      publish_new_of_error ⟨30, 50⟩ 0 id "here" ∅ checkText_monotonous]
  obtain ⟨watching, publishing⟩ := refused_request ⟨30, 50⟩ [] reached
  have leaves : Leads first left := (Leads.step first _).trans (.step _ _)
  have notStarted : (left.progress.subscribe "Lamp").1 = .error (.transport .noRuntime) := rfl
  exact ⟨reached, subscribes, watching subscribes, publishes, publishing publishes, leaves, rfl,
    notStarted, (refused_request ⟨30, 50⟩ _ leaves).1 notStarted⟩

/-- A category that is too long is refused, and takes a new agent into service all the same. -/
theorem active_of_refused :
    let progress := (new ⟨30, 50⟩ []).progress
    let id : ResourceId := ⟨List.replicate 16 1, List.length_replicate⟩
    let subscribed := progress.subscribe (monotonous 65537)
    let published := progress.publish 0 id (monotonous 65537) "here" ∅
    subscribed.1 = .error (.unencodable (.textTooLong 65537)) ∧
      published.1 = .error (.unencodable (.textTooLong 65537)) ∧
      progress.agent.lifecycle = .created ∧
      subscribed.2.agent.lifecycle = .active ∧ published.2.agent.lifecycle = .active ∧
      progress.agent.users = 0 ∧ published.2.agent.users = 1 ∧
      progress.agent.link.running = false ∧ published.2.agent.link.running = true := by
  intro progress id subscribed published
  have subscribes : subscribed = _ := subscribe_new_of_error ⟨30, 50⟩ checkText_monotonous
  have publishes : published = _ :=
    publish_new_of_error ⟨30, 50⟩ 0 id "here" ∅ checkText_monotonous
  rw [subscribes, publishes]
  exact ⟨rfl, rfl, rfl, rfl, rfl, rfl, rfl, rfl, rfl⟩

end Moment

end Discovery
