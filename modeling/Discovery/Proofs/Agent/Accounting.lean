import Discovery.Proofs.Agent.Callbacks

namespace Discovery.Progress

/-!
# What an agent's operations keep

Every operation keeps the account of the transport's users, whatever the
callbacks do that it runs.  An agent is either running, its subscriber being in
service, or closing: then the subscriptions still open are among those that the
disposal has yet to conclude, and a completed disposal leaves none.
-/

/-- The agent is not disposed, and its subscriber is in service. -/
structure Running (progress : Progress) : Prop where
  lifecycle : progress.agent.lifecycle ≠ .disposed
  inService : ∀ {subscriber}, progress.agent.subscriber = some subscriber →
    subscriber.stopped = false

/--
The agent is disposed, and only some subscriptions may still be open.  Whether
there is a publisher is settled for good.
-/
structure Closing (holds : Bool) (remaining : List Nat) (progress : Progress) : Prop where
  lifecycle : progress.agent.lifecycle = .disposed
  publisher : progress.agent.publisher.isSome = holds
  stopped : ∀ {subscriber}, progress.agent.subscriber = some subscriber →
    subscriber.stopped = true
  covers : ∀ {subscriber}, progress.agent.subscriber = some subscriber →
    ∀ {id}, subscriber.isOpen id = true → id ∈ remaining

section Silent

variable (progress : Progress) (now : Instant)

theorem quiet_announce : Quiet (progress.announce now) progress := by
  unfold announce
  split
  next => exact .refl progress
  next publisher known =>
    exact (Quiet.send _ _).trans (.enterPublisher known _)

theorem quiet_expire : Quiet (progress.expire now) progress := by
  unfold expire
  split
  next => exact .refl progress
  next subscriber known => exact .enterSubscriber known (subscriber.sameMembership_turn now)

theorem quiet_receive (delivery : Delivery) : Quiet (progress.receive now delivery) progress := by
  have heard : ∀ announcement subscriber, progress.agent.subscriber = some subscriber →
      Quiet (progress.enterSubscriber (subscriber.hear now delivery.stream announcement))
        progress :=
    fun announcement subscriber known =>
      .enterSubscriber known (subscriber.sameMembership_hear now delivery.stream announcement)
  unfold receive
  split
  next => exact .refl progress
  next =>
    split
    next => exact .refl progress
    next => exact .send progress _
  next =>
    split
    next => exact .refl progress
    next subscriber known => exact heard _ subscriber known
  next =>
    split
    next => exact .refl progress
    next subscriber known => exact heard _ subscriber known
  next =>
    split
    next => exact .refl progress
    next subscriber known =>
      exact .enterSubscriber known (subscriber.sameMembership_forget delivery.stream)

theorem quiet_commit (editor : Editor) : Quiet (progress.commit now editor).2 progress := by
  unfold commit
  split
  next => exact .refl progress
  next publisher known =>
    split
    next => exact .refl progress
    next => exact (Quiet.send _ _).trans (.enterPublisher known _)

theorem quiet_stopPublisher : Quiet progress.stopPublisher progress := by
  unfold stopPublisher
  split
  next => exact .refl progress
  next publisher known => exact (Quiet.send _ _).trans (.enterPublisher known _)

theorem quiet_read (subscription : Nat) :
    Quiet { progress with agent := (progress.agent.read subscription).2 } progress := by
  unfold Agent.read
  split
  next => exact .refl progress
  next subscriber known =>
    exact .enterSubscriber known (subscriber.sameMembership_read subscription)

end Silent

/-- What becomes of an agent that subscribes to a category. -/
inductive Subscribes (progress : Progress) (category : String) : Progress → Prop where
  | disposed (lifecycle : progress.agent.lifecycle = .disposed) :
      Subscribes progress category progress
  | notStarted
      {cause : TransportError}
      {failed : Progress}
      (refused : progress.acquire = (.error cause, failed)) :
      Subscribes progress category failed
  | refused
      {acquired : Progress}
      (acquired_eq : progress.acquire = (.ok (), acquired)) :
      Subscribes progress category
        (acquired.activate.enterSubscriber (acquired.agent.subscriber.getD .new)).release
  | joined
      {acquired : Progress}
      {id : Nat}
      {isFirst : Bool}
      {next : Subscriber}
      (acquired_eq : progress.acquire = (.ok (), acquired))
      (joined :
        (acquired.agent.subscriber.getD .new).subscribe category = (.ok (id, isFirst), next)) :
      Subscribes progress category
        (if isFirst then
          (acquired.activate.enterSubscriber next).send
            [.broadcast .nil (Wire.Message.query category).encode]
        else acquired.activate.enterSubscriber next)

theorem subscribes_subscribe
    (progress : Progress)
    (category : String) :
    Subscribes progress category (progress.subscribe category).2 := by
  unfold subscribe
  split
  next lifecycle => exact .disposed lifecycle
  next =>
    split
    next cause failed refused => exact .notStarted refused
    next acquired success =>
      dsimp only
      split
      next cause kept refused =>
        rw [Subscriber.subscribe_error refused]
        exact .refused success
      next id isFirst next joined =>
        have ends := Subscribes.joined success joined
        cases isFirst <;> exact ends

/-- What becomes of an agent that disposes a subscription. -/
inductive Disposes (progress : Progress) (id : Nat) : Progress → Prop where
  | unchanged : Disposes progress id progress
  | left
      {subscriber after : Subscriber}
      {standing : Standing}
      (known : progress.agent.subscriber = some subscriber)
      (disposed : subscriber.dispose id = (true, after))
      (struck : subscriber.Struck after id standing) :
      Disposes progress id (progress.enterSubscriber after).release

theorem disposes_dispose
    (progress : Progress)
    (id : Nat) :
    Disposes progress id (progress.dispose id) := by
  unfold dispose
  split
  next => exact .unchanged
  next subscriber known =>
    rcases subscriber.dispose_cases id with ⟨_, kept⟩ | ⟨standing, after, disposed, struck, _⟩
    · simp only [kept, Bool.false_eq_true, if_false]
      exact .unchanged
    · simp only [disposed, if_true]
      exact .left known disposed struck

/-- What becomes of an agent that needs its publisher. -/
inductive Obtains (progress : Progress) : Except AgentError Publisher × Progress → Prop where
  | disposed (lifecycle : progress.agent.lifecycle = .disposed) :
      Obtains progress (.error .disposed, progress)
  | notStarted
      {cause : TransportError}
      {failed : Progress}
      (refused : progress.acquire = (.error cause, failed)) :
      Obtains progress (.error (.transport cause), failed)
  | found
      {publisher : Publisher}
      (known : progress.agent.publisher = some publisher) :
      Obtains progress (.ok publisher, progress)
  | made
      {acquired : Progress}
      (absent : progress.agent.publisher = none)
      (acquired_eq : progress.acquire = (.ok (), acquired)) :
      Obtains progress (.ok .new, acquired.activate.enterPublisher .new)

theorem obtains_obtainPublisher (progress : Progress) :
    Obtains progress progress.obtainPublisher := by
  unfold obtainPublisher
  split
  next lifecycle => exact .disposed lifecycle
  next =>
    split
    next known => exact .found known
    next absent =>
      split
      next refused => exact .notStarted refused
      next success => exact .made absent success

namespace Balanced

variable {start paid spare : Nat} {progress next : Progress}

theorem activate (balanced : Balanced start paid spare progress) :
    Balanced start paid spare progress.activate :=
  ⟨balanced.users, balanced.paid, balanced.running, balanced.counted, balanced.sound⟩

/-- A spare user is the publisher's once there is one. -/
theorem enterPublisher
    (balanced : Balanced start paid (spare + 1) progress)
    (absent : progress.agent.publisher = none)
    (publisher : Publisher) :
    Balanced start paid spare (progress.enterPublisher publisher) := by
  have none : progress.agent.publishers = 0 := by
    rw [Agent.publishers, absent]
    rfl
  have users := balanced.users
  have payable := balanced.paid
  refine ⟨?_, ?_, balanced.running, balanced.counted, balanced.sound⟩
  · change progress.agent.users + paid = progress.agent.openSubscriptions + 1 + spare
    omega
  · change paid ≤ 1
    omega

/-- Whether the subscriber is new or not, it accounts for the open subscriptions. -/
theorem subscriber_sound
    (balanced : Balanced start paid spare progress) :
    (progress.agent.subscriber.getD .new).Sound ∧
      (progress.agent.subscriber.getD .new).openCount = progress.agent.openSubscriptions := by
  rw [Agent.openSubscriptions]
  cases known : progress.agent.subscriber with
  | none => exact ⟨Subscriber.sound_new, rfl⟩
  | some subscriber => exact ⟨balanced.sound known, rfl⟩

theorem enterNew (balanced : Balanced start paid spare progress) :
    Balanced start paid spare
      (progress.activate.enterSubscriber (progress.agent.subscriber.getD .new)) := by
  obtain ⟨sound, isOpen⟩ := balanced.subscriber_sound
  exact balanced.activate.enterSubscriber sound (by rw [isOpen]; rfl)

/-- A spare user is the subscription's that was made. -/
theorem enterJoined
    (balanced : Balanced start paid (spare + 1) progress)
    {category : String}
    {id : Nat}
    {isFirst : Bool}
    {joined : Subscriber}
    (isJoined : (progress.agent.subscriber.getD .new).subscribe category =
      (.ok (id, isFirst), joined)) :
    Balanced start paid spare (progress.activate.enterSubscriber joined) := by
  obtain ⟨sound, isOpen⟩ := balanced.subscriber_sound
  obtain ⟨epoch, isJoined⟩ := Subscriber.subscribe_ok isJoined
  refine balanced.activate.enterSubscriber (isJoined.sound sound) ?_
  rw [isJoined.openCount sound, isOpen]
  change progress.agent.openSubscriptions + (spare + 1) = _
  omega

theorem subscribe
    (balanced : Balanced start paid spare progress)
    (category : String) :
    Balanced start paid spare (progress.subscribe category).2 := by
  have ends := progress.subscribes_subscribe category
  generalize (progress.subscribe category).2 = next at ends ⊢
  cases ends with
  | disposed => exact balanced
  | notStarted refused => exact balanced.acquire_error refused
  | refused success =>
      have entered := (balanced.acquire success).enterNew
      exact entered.release (by omega) entered.paid
  | joined success isJoined =>
      have entered := (balanced.acquire success).enterJoined isJoined
      split
      next => exact entered.quiet (.send _ _)
      next => exact entered

/-- The user of a subscription that was disposed is spare until it is released. -/
theorem enterDisposed
    (balanced : Balanced start paid spare progress)
    {id : Nat}
    {subscriber after : Subscriber}
    {standing : Standing}
    (known : progress.agent.subscriber = some subscriber)
    (disposed : subscriber.dispose id = (true, after))
    (struck : subscriber.Struck after id standing) :
    Balanced start paid (spare + 1) (progress.enterSubscriber after) := by
  have sound := Subscriber.sound_dispose (balanced.sound known) id
  rw [disposed] at sound
  refine balanced.enterSubscriber sound ?_
  rw [Agent.openSubscriptions, known, Option.elim_some, ← struck.openCount]
  omega

theorem dispose
    (balanced : Balanced start paid spare progress)
    (id : Nat) :
    Balanced start paid spare (progress.dispose id) := by
  have ends := progress.disposes_dispose id
  generalize progress.dispose id = next at ends ⊢
  cases ends with
  | unchanged => exact balanced
  | left known disposed struck =>
      have entered := balanced.enterDisposed known disposed struck
      exact entered.release (by omega) entered.paid

theorem obtainPublisher (balanced : Balanced start paid spare progress) :
    Balanced start paid spare progress.obtainPublisher.2 := by
  have roles := sameRoles_acquire progress
  have ends := progress.obtains_obtainPublisher
  generalize progress.obtainPublisher = obtained at ends ⊢
  cases ends with
  | disposed => exact balanced
  | notStarted refused => exact balanced.acquire_error refused
  | found => exact balanced
  | made absent success =>
      rw [success] at roles
      exact (balanced.acquire success).activate.enterPublisher (roles.publisher.trans absent) .new

end Balanced

/-- Whoever has obtained the publisher has it. -/
theorem publisher_obtainPublisher
    {progress next : Progress}
    {publisher : Publisher}
    (obtained : progress.obtainPublisher = (.ok publisher, next)) :
    next.agent.publisher = some publisher := by
  have ends := progress.obtains_obtainPublisher
  rw [obtained] at ends
  cases ends with
  | found known => exact known
  | made => rfl

/-- Obtaining the publisher changes no publisher. -/
theorem obtainPublisher_keeps (progress : Progress) :
    progress.obtainPublisher.2.agent.settings = progress.agent.settings ∧
      progress.obtainPublisher.2.agent.publisher.getD .new =
        progress.agent.publisher.getD .new := by
  have roles := progress.sameRoles_acquire
  have ends := progress.obtains_obtainPublisher
  generalize progress.obtainPublisher = obtained at ends ⊢
  cases ends with
  | disposed => exact ⟨rfl, rfl⟩
  | notStarted refused =>
      rw [refused] at roles
      exact ⟨roles.settings, by rw [roles.publisher]⟩
  | found => exact ⟨rfl, rfl⟩
  | made absent success =>
      rw [success] at roles
      exact ⟨roles.settings, by rw [absent]; rfl⟩

section Publishers

variable (progress : Progress)

theorem publisher_subscribe (category : String) :
    (progress.subscribe category).2.agent.publisher = progress.agent.publisher := by
  have roles := progress.sameRoles_acquire
  have ends := progress.subscribes_subscribe category
  generalize (progress.subscribe category).2 = next at ends
  cases ends with
  | disposed => rfl
  | notStarted refused =>
      rw [refused] at roles
      exact roles.publisher
  | refused success =>
      rw [success] at roles
      exact (sameRoles_release _).publisher.trans roles.publisher
  | @joined acquired id isFirst next success joined =>
      rw [success] at roles
      cases isFirst <;> exact roles.publisher

theorem publisher_dispose (id : Nat) :
    (progress.dispose id).agent.publisher = progress.agent.publisher := by
  have ends := progress.disposes_dispose id
  generalize progress.dispose id = next at ends
  cases ends with
  | unchanged => rfl
  | left => exact (sameRoles_release _).publisher

theorem publisher_receive
    (now : Instant)
    (delivery : Delivery) :
    (progress.receive now delivery).agent.publisher = progress.agent.publisher := by
  unfold receive
  split
  next => rfl
  next => split <;> rfl
  next => split <;> rfl
  next => split <;> rfl
  next => split <;> rfl

theorem publisher_expire (now : Instant) :
    (progress.expire now).agent.publisher = progress.agent.publisher := by
  unfold expire
  split <;> rfl

end Publishers

/-- Publishing is obtaining the publisher and then something quiet. -/
theorem quiet_publish
    (progress : Progress)
    (now : Instant)
    (id : ResourceId)
    (category connection : String)
    (attributes : Attributes) :
    Quiet (progress.publish now id category connection attributes).2
      progress.obtainPublisher.2 := by
  unfold publish
  split
  next refused =>
    rw [refused]
    exact .refl _
  next publisher obtained success =>
    have known := publisher_obtainPublisher success
    rw [success]
    dsimp only
    split
    next => exact .refl _
    next => exact .enterPublisher known _

/-- A disposed agent publishes nothing. -/
theorem publish_of_disposed
    {progress : Progress}
    (disposed : progress.agent.lifecycle = .disposed)
    (now : Instant)
    (id : ResourceId)
    (category connection : String)
    (attributes : Attributes) :
    (progress.publish now id category connection attributes).2 = progress := by
  rw [publish, obtainPublisher, if_pos disposed]

theorem Balanced.publish
    {start paid spare : Nat}
    {progress : Progress}
    (balanced : Balanced start paid spare progress)
    (now : Instant)
    (id : ResourceId)
    (category connection : String)
    (attributes : Attributes) :
    Balanced start paid spare (progress.publish now id category connection attributes).2 :=
  balanced.obtainPublisher.quiet (progress.quiet_publish now id category connection attributes)

/-- Callbacks keep the account. -/
theorem Balanced.keptByCallbacks (start paid spare : Nat) :
    KeptByCallbacks (Balanced start paid spare) where
  quiet quiet balanced := balanced.quiet quiet
  disposes id balanced := balanced.dispose id
  subscribes category balanced := balanced.subscribe category
  publishes now id category connection attributes balanced :=
    balanced.publish now id category connection attributes

namespace Running

variable {progress next : Progress}

theorem quiet (running : Running progress) (quiet : Quiet next progress) : Running next := by
  refine ⟨quiet.lifecycle ▸ running.lifecycle, fun known => ?_⟩
  obtain ⟨before, wasKnown, same⟩ := quiet.before known
  exact same.stopped.trans (running.inService wasKnown)

theorem sameRoles (running : Running progress) (same : SameRoles progress next) : Running next :=
  ⟨same.lifecycle ▸ running.lifecycle, fun known => running.inService (same.subscriber ▸ known)⟩

theorem activate (running : Running progress) : Running progress.activate :=
  ⟨nofun, running.inService⟩

theorem enterSubscriber
    (running : Running progress)
    {subscriber : Subscriber}
    (inService : subscriber.stopped = false) :
    Running (progress.enterSubscriber subscriber) :=
  ⟨running.lifecycle, fun known => Option.some.inj known ▸ inService⟩

theorem subscribe
    (running : Running progress)
    (category : String) :
    Running (progress.subscribe category).2 := by
  have roles := sameRoles_acquire progress
  have ends := progress.subscribes_subscribe category
  generalize (progress.subscribe category).2 = next at ends ⊢
  have subscriber : ∀ {acquired : Progress}, Running acquired →
      (acquired.agent.subscriber.getD .new).stopped = false := by
    intro acquired active
    cases known : acquired.agent.subscriber with
    | none => rfl
    | some subscriber => exact active.inService known
  cases ends with
  | disposed => exact running
  | notStarted refused =>
      rw [refused] at roles
      exact running.sameRoles roles
  | refused success =>
      rw [success] at roles
      have active := running.sameRoles roles
      exact (active.activate.enterSubscriber (subscriber active)).sameRoles
        (sameRoles_release _)
  | joined success isJoined =>
      rw [success] at roles
      have active := running.sameRoles roles
      obtain ⟨epoch, isJoined⟩ := Subscriber.subscribe_ok isJoined
      have entered := active.activate.enterSubscriber isJoined.stopped
      split
      next => exact entered.quiet (.send _ _)
      next => exact entered

theorem dispose
    (running : Running progress)
    (id : Nat) :
    Running (progress.dispose id) := by
  have ends := progress.disposes_dispose id
  generalize progress.dispose id = next at ends ⊢
  cases ends with
  | unchanged => exact running
  | left known disposed struck =>
      have inService := struck.stopped.trans (running.inService known)
      exact (running.enterSubscriber inService).sameRoles (sameRoles_release _)

theorem obtainPublisher (running : Running progress) : Running progress.obtainPublisher.2 := by
  have roles := sameRoles_acquire progress
  have ends := progress.obtains_obtainPublisher
  generalize progress.obtainPublisher = obtained at ends ⊢
  cases ends with
  | disposed => exact running
  | notStarted refused =>
      rw [refused] at roles
      exact running.sameRoles roles
  | found => exact running
  | made absent success =>
      rw [success] at roles
      have active := (running.sameRoles roles).activate
      exact ⟨active.lifecycle, active.inService⟩

theorem keptByCallbacks : KeptByCallbacks Running where
  quiet quiet running := running.quiet quiet
  disposes id running := running.dispose id
  subscribes category running := running.subscribe category
  publishes {progress} now id category connection attributes running :=
    running.obtainPublisher.quiet
      (progress.quiet_publish now id category connection attributes)

end Running

namespace Closing

variable {holds : Bool} {remaining : List Nat} {progress next : Progress}

theorem quiet
    (closing : Closing holds remaining progress)
    (quiet : Quiet next progress) :
    Closing holds remaining next := by
  refine
    ⟨quiet.lifecycle.trans closing.lifecycle, quiet.publisher.trans closing.publisher,
      fun known => ?_, fun known id isOpen => ?_⟩
  · obtain ⟨before, wasKnown, same⟩ := quiet.before known
    exact same.stopped.trans (closing.stopped wasKnown)
  · obtain ⟨before, wasKnown, same⟩ := quiet.before known
    exact closing.covers wasKnown (same.isOpen id ▸ isOpen)

theorem sameRoles
    (closing : Closing holds remaining progress)
    (same : SameRoles progress next) :
    Closing holds remaining next :=
  ⟨same.lifecycle.trans closing.lifecycle, same.publisher ▸ closing.publisher,
    fun known => closing.stopped (same.subscriber ▸ known),
    fun known => closing.covers (same.subscriber ▸ known)⟩

theorem subscribe
    (closing : Closing holds remaining progress)
    (category : String) :
    (progress.subscribe category).2 = progress := by
  rw [Progress.subscribe, if_pos closing.lifecycle]

theorem dispose
    (closing : Closing holds remaining progress)
    (id : Nat) :
    Closing holds remaining (progress.dispose id) := by
  have ends := progress.disposes_dispose id
  generalize progress.dispose id = next at ends ⊢
  cases ends with
  | unchanged => exact closing
  | @left subscriber after standing known disposed struck =>
      have entered : Closing holds remaining (progress.enterSubscriber after) := by
        refine ⟨closing.lifecycle, closing.publisher, fun isAfter => ?_,
          fun isAfter other isOpen => ?_⟩
        · cases isAfter
          exact struck.stopped.trans (closing.stopped known)
        · cases isAfter
          exact closing.covers known ((struck.isOpen_iff other).mp isOpen).2
      exact entered.sameRoles (sameRoles_release _)

/-- When nothing remains to be concluded, there is nothing left to dispose. -/
theorem dispose_eq
    (closing : Closing holds [] progress)
    (id : Nat) :
    progress.dispose id = progress := by
  have ends := progress.disposes_dispose id
  generalize progress.dispose id = next at ends ⊢
  cases ends with
  | unchanged => rfl
  | left known disposed struck => cases closing.covers known struck.isOpen

theorem keptByCallbacks
    (holds : Bool)
    (remaining : List Nat) :
    KeptByCallbacks (Closing holds remaining) where
  quiet quiet closing := closing.quiet quiet
  disposes id closing := closing.dispose id
  subscribes category closing := by rwa [closing.subscribe category]
  publishes now id category connection attributes closing := by
    rwa [publish_of_disposed closing.lifecycle now id category connection attributes]

/-- When nothing remains to be concluded, no subscription is open. -/
theorem openSubscriptions (closing : Closing holds [] progress) :
    progress.agent.openSubscriptions = 0 := by
  rw [Agent.openSubscriptions]
  cases known : progress.agent.subscriber with
  | none => rfl
  | some subscriber =>
      refine Subscriber.openCount_eq_zero_iff.mpr fun id => Bool.eq_false_iff.mpr fun isOpen => ?_
      cases closing.covers known isOpen

/--
Concluding a subscription disposes it if it is still open, and then counts it:
a callback may have disposed it in the meantime and released its use.
-/
theorem conclude
    {id : Nat}
    {rest : List Nat}
    {start paid count : Nat}
    (closing : Closing holds (id :: rest) progress)
    (now : Instant)
    (balanced : Balanced start paid count progress) :
    Closing holds rest (conclude now (count, progress) id).2 ∧
      Balanced start paid (Progress.conclude now (count, progress) id).1
        (Progress.conclude now (count, progress) id).2 := by
  have told := (keptByCallbacks holds (id :: rest)).notify now id closing
  have toldBalanced := (Balanced.keptByCallbacks start paid count).notify now id balanced
  unfold Progress.conclude
  dsimp only
  split
  next absent =>
    refine ⟨⟨told.lifecycle, told.publisher, told.stopped, fun known => ?_⟩, toldBalanced⟩
    rw [absent] at known
    cases known
  next subscriber known =>
    have counted : (notify now progress id).agent.openSubscriptions = subscriber.openCount := by
      rw [Agent.openSubscriptions, known]
      rfl
    have stopped := told.stopped known
    have sound := toldBalanced.sound known
    have soundAfter := Subscriber.sound_markDisposed sound stopped id
    rcases subscriber.markDisposed_cases id with
      ⟨closed, kept⟩ | ⟨standing, next, marked, struck, _⟩
    · simp only [kept, Bool.false_eq_true, if_false]
      refine ⟨⟨told.lifecycle, told.publisher, ?_, ?_⟩,
        toldBalanced.enterSubscriber sound (by rw [counted])⟩
      · intro other isSame
        cases isSame
        exact stopped
      · intro other isSame sought isOpen
        cases isSame
        refine (List.mem_cons.mp (told.covers known isOpen)).resolve_left fun isId => ?_
        rw [isId, closed] at isOpen
        cases isOpen
    · rw [marked] at soundAfter
      simp only [marked, if_true]
      refine ⟨⟨told.lifecycle, told.publisher, ?_, ?_⟩, toldBalanced.enterSubscriber soundAfter ?_⟩
      · intro other isNext
        cases isNext
        exact struck.stopped.trans stopped
      · intro other isNext sought isOpen
        cases isNext
        obtain ⟨different, wasOpen⟩ := (struck.isOpen_iff sought).mp isOpen
        exact (List.mem_cons.mp (told.covers known wasOpen)).resolve_left different
      · rw [counted, ← struck.openCount]
        omega

/-- Concluding all that remain leaves no subscription open. -/
theorem foldl_conclude
    {targets : List Nat}
    {start paid count : Nat}
    (closing : Closing holds targets progress)
    (now : Instant)
    (balanced : Balanced start paid count progress) :
    Closing holds [] (targets.foldl (Progress.conclude now) (count, progress)).2 ∧
      Balanced start paid (targets.foldl (Progress.conclude now) (count, progress)).1
        (targets.foldl (Progress.conclude now) (count, progress)).2 := by
  induction targets generalizing count progress with
  | nil => exact ⟨closing, balanced⟩
  | cons id rest inductionHypothesis =>
      obtain ⟨stillClosing, stillBalanced⟩ := closing.conclude now balanced
      exact inductionHypothesis stillClosing stillBalanced

end Closing

/-- Beginning to dispose a running agent closes it; afterwards no subscription is open. -/
theorem Running.beginDispose
    {progress : Progress}
    {start paid : Nat}
    (running : Running progress)
    (balanced : Balanced start paid 0 progress)
    (now : Instant) :
    Closing (progress.beginDispose now).1 [] (progress.beginDispose now).2 ∧
      Balanced start paid 0 (progress.beginDispose now).2 := by
  have quiet := quiet_stopPublisher
    { progress with agent := { progress.agent with lifecycle := .disposed } }
  have stopping : Balanced start paid 0
      { progress with agent := { progress.agent with lifecycle := .disposed } } :=
    ⟨balanced.users, balanced.paid, balanced.running, balanced.counted, balanced.sound⟩
  have silenced := stopping.quiet quiet
  unfold Progress.beginDispose
  rw [if_neg running.lifecycle]
  dsimp only
  unfold stopSubscriber
  split
  next absent =>
    refine ⟨⟨quiet.lifecycle, quiet.publisher, fun known => ?_, fun known => ?_⟩, silenced⟩
    · rw [absent] at known
      cases known
    · rw [absent] at known
      cases known
  next subscriber known =>
    obtain ⟨before, wasKnown, same⟩ := quiet.before known
    have inService : subscriber.stopped = false :=
      same.stopped.trans (running.inService wasKnown)
    have sound := silenced.sound known
    have soundAfter := Subscriber.sound_shut sound
    have named : ∀ {id}, subscriber.isOpen id = true → id ∈ subscriber.shut.1 :=
      Subscriber.mem_shut sound inService
    rcases subscriber.shut_cases with
      ⟨stopped, _⟩ | ⟨targets, next, _, shut, roll, _, stopped, _, _⟩
    · rw [inService] at stopped
      cases stopped
    rw [shut] at soundAfter named
    simp only [shut]
    have counted : next.openCount = subscriber.openCount := by
      rw [Subscriber.openCount, roll, Subscriber.openCount]
    have entered := silenced.enterSubscriber soundAfter
      (by rw [counted, Agent.openSubscriptions, known, Option.elim_some])
    have closing : Closing progress.agent.publisher.isSome targets
        ((stopPublisher
          { progress with
            agent := { progress.agent with lifecycle := .disposed } }).enterSubscriber next) := by
      refine ⟨quiet.lifecycle, quiet.publisher, fun isNext => ?_, fun isNext id isOpen => ?_⟩
      · cases isNext
        exact stopped
      · cases isNext
        rw [Subscriber.isOpen, roll] at isOpen
        exact named isOpen
    obtain ⟨closed, concluded⟩ := closing.foldl_conclude now entered
    exact ⟨closed.sameRoles (sameRoles_releaseMany _ _),
      concluded.releaseMany (Nat.zero_add _).symm⟩

end Discovery.Progress
