import Discovery.Proofs.Agent.Tenancy

namespace Discovery

/-!
# The moments of an operation

While subscriptions are told of a change, and while an agent is being disposed,
callbacks run, and they may call back into the agent in any way.  A `Moment` is
an agent at any point of this, with what is still to be done.  At every moment
anything may be asked of the agent; what that leads to comes before what was
to be done already.  The calls of a `Tenancy`, whose callbacks follow their
scripts, pass through such moments (`Moment.Leads.calls`), so what holds at
every moment holds during and after every call.
-/

/-- Something that is still to be done in the middle of an operation. -/
inductive Duty where
  /-- Tell a subscription that its category has changed. -/
  | tell (subscription : Nat)
  /-- Run the callback at a position of a subscription's list. -/
  | run (subscription position : Nat)
  /-- Dispose a subscription that has been told for the last time. -/
  | conclude (subscription : Nat)
  /-- Release the uses of the transport by subscriptions that were disposed. -/
  | repay (count : Nat)
  deriving DecidableEq, Repr

/-- One more use of the transport is to be released with the next ones. -/
def Duty.owe : List Duty → List Duty
  | [] => []
  | .repay count :: rest => .repay (count + 1) :: rest
  | duty :: rest => duty :: owe rest

/-- Whether a call disposes the agent. -/
def Call.disposes : Call → Bool
  | .dispose _ _ | .drop _ _ => true
  | .errand _ | .flushed _ => false

/-- An agent at a moment, what is still to be done, and what has been published so far. -/
structure Moment where
  progress : Progress
  duties : List Duty
  published : List ResourceId
  deriving Repr

/-- Something that may happen at a moment. -/
inductive Occurrence where
  /-- An errand is run; telling subscriptions of changes is only begun. -/
  | errand (errand : Errand)
  /-- The agent is disposed or dropped; subscriptions are still to be told. -/
  | dispose
  /-- The publisher's use of the transport is released. -/
  | release
  /-- A callback reports on a request of its own agent. -/
  | report (callback : String) (outcome : Outcome)
  /-- A callback makes a request of another agent. -/
  | ask (callback agent : String) (request : Request)
  /-- What comes next is done. -/
  | proceed
  deriving Repr

/-- Report that a callback runs, and take what it does in this run off its script. -/
def Progress.startCallback
    (progress : Progress)
    (subscription position : Nat) : Progress :=
  let known? := progress.agent.subscription? subscription
  match known?.bind fun known => known.callbacks[position]? with
  | none => progress
  | some callback =>
      let next := progress.updateSubscription subscription fun known =>
        { known with
          callbacks :=
            known.callbacks.set position { callback with script := callback.script.tail } }
      next.emit (.updated subscription callback.name (next.agent.serial subscription))

/-- Withdraw everything for good. -/
def Progress.withdraw (progress : Progress) : Progress :=
  { progress with agent := { progress.agent with lifecycle := .disposed } }.stopPublisher

namespace Moment

/-- The agent at a moment. -/
def agent (moment : Moment) : Agent :=
  moment.progress.agent

/-- What the agent has put out by a moment. -/
def outputs (moment : Moment) : List Output :=
  moment.progress.outputs

/-- A new agent. -/
def new (settings : AgentSettings) (attempts : List (Option TransportError)) : Moment :=
  ⟨(Tenancy.new settings attempts).progress, [], []⟩

/-- Tell a subscription of a change unless it is disposed; its callbacks are to be run. -/
def tell (moment : Moment) (subscription : Nat) : Moment :=
  match moment.agent.subscription? subscription with
  | none => moment
  | some known =>
      if known.disposed then moment
      else
        { moment with
          progress :=
            moment.progress.updateSubscription subscription fun current =>
              current.notice (moment.agent.serial subscription)
          duties :=
            (List.range known.callbacks.length).map (.run subscription) ++ moment.duties }

/-- Dispose a subscription; if it was open, its use of the transport is to be released. -/
def conclude (moment : Moment) (subscription : Nat) : Moment :=
  match moment.agent.subscriber with
  | none => moment
  | some subscriber =>
      let (wasOpen, next) := subscriber.markDisposed subscription
      { moment with
        progress := moment.progress.enterSubscriber next
        duties := if wasOpen then Duty.owe moment.duties else moment.duties }

/-- Begin to tell every subscription whose category has changed. -/
def deliver (moment : Moment) : Moment :=
  match moment.agent.subscriber with
  | none => moment
  | some subscriber =>
      let (targets, next) := subscriber.collect
      { moment with
        progress := moment.progress.enterSubscriber next
        duties := targets.map .tell ++ moment.duties }

/-- Run an errand. -/
def run (moment : Moment) : Errand → Moment
  | .deliver _ => moment.deliver
  | .publish now id category connection attributes =>
      let (result, next) := moment.progress.publish now id category connection attributes
      { moment with
        progress := next
        published :=
          match result with
          | .ok () => moment.published ++ [id]
          | .error _ => moment.published }
  | errand => { moment with progress := moment.progress.run errand }

/-- What is to be done for subscriptions that are told for the last time. -/
def lastDuties (subscriptions : List Nat) : List Duty :=
  subscriptions.flatMap fun subscription => [.tell subscription, .conclude subscription]

/-- Withdraw everything and forget every category; the subscriptions are to be told and disposed. -/
def dispose (moment : Moment) : Moment :=
  if moment.agent.lifecycle = .disposed then moment
  else
    match moment.progress.withdraw.agent.subscriber with
    | none => { moment with progress := moment.progress.withdraw }
    | some subscriber =>
        let (targets, next) := subscriber.shut
        { moment with
          progress := moment.progress.withdraw.enterSubscriber next
          duties := lastDuties targets ++ .repay 0 :: moment.duties }

/-- Do what comes next. -/
def proceed (moment : Moment) : Moment :=
  match moment.duties with
  | [] => moment
  | .tell subscription :: rest => { moment with duties := rest }.tell subscription
  | .run subscription position :: rest =>
      { moment with
        progress := moment.progress.startCallback subscription position
        duties := rest }
  | .conclude subscription :: rest => { moment with duties := rest }.conclude subscription
  | .repay count :: rest =>
      { moment with progress := moment.progress.releaseMany count, duties := rest }

/-- The moment after something has happened. -/
def after (moment : Moment) : Occurrence → Moment
  | .errand errand => moment.run errand
  | .dispose => moment.dispose
  | .release => { moment with progress := moment.progress.release }
  | .report callback outcome =>
      { moment with progress := moment.progress.emit (.acted callback outcome) }
  | .ask callback agent request =>
      { moment with progress := moment.progress.emit (.asked callback agent request) }
  | .proceed => moment.proceed

/-- An errand is run at once and leaves nothing more to be done, unless it is a delivery. -/
theorem run_cases
    (moment : Moment)
    (errand : Errand) :
    (∃ now, errand = .deliver now) ∨
      ∃ published, moment.run errand =
        ⟨moment.progress.run errand, moment.duties, published⟩ := by
  cases errand with
  | deliver now => exact .inl ⟨now, rfl⟩
  | subscribe | publish | commit | listen | read | disposeSubscription | receive | announce
  | expire | shuffle => exact .inr ⟨_, rfl⟩

/-- What happens at one moment may lead to another. -/
def Leads (first last : Moment) : Prop :=
  ∃ occurrences : List Occurrence, occurrences.foldl after first = last

namespace Leads

theorem refl (moment : Moment) : Leads moment moment :=
  ⟨[], rfl⟩

theorem trans
    {first second third : Moment}
    (earlier : Leads first second)
    (later : Leads second third) :
    Leads first third := by
  obtain ⟨before, rfl⟩ := earlier
  obtain ⟨next, rfl⟩ := later
  exact ⟨before ++ next, List.foldl_append⟩

theorem step (moment : Moment) (occurrence : Occurrence) :
    Leads moment (moment.after occurrence) :=
  ⟨[occurrence], rfl⟩

/-- What an agent does by itself, apart from what is still to be done. -/
def Passes (first last : Progress) : Prop :=
  ∀ duties published, ∃ later, Leads ⟨first, duties, published⟩ ⟨last, duties, later⟩

namespace Passes

theorem refl (progress : Progress) : Passes progress progress :=
  fun _ published => ⟨published, .refl _⟩

theorem trans
    {first second third : Progress}
    (earlier : Passes first second)
    (later : Passes second third) :
    Passes first third := by
  intro duties published
  obtain ⟨between, reached⟩ := earlier duties published
  obtain ⟨last, next⟩ := later duties between
  exact ⟨last, reached.trans next⟩

/-- Something happens that leaves nothing more to be done. -/
theorem occur
    {progress next : Progress}
    (occurrence : Occurrence)
    (same : ∀ duties published, ∃ later,
      Moment.after ⟨progress, duties, published⟩ occurrence = ⟨next, duties, later⟩) :
    Passes progress next := by
  intro duties published
  obtain ⟨later, reached⟩ := same duties published
  exact ⟨later, reached ▸ .step _ occurrence⟩

theorem errand
    (progress : Progress)
    (errand : Errand)
    (noDelivery : ∀ now, errand ≠ .deliver now) :
    Passes progress (progress.run errand) := by
  refine occur (.errand errand) fun duties published => ?_
  exact (run_cases ⟨progress, duties, published⟩ errand).resolve_left fun ⟨now, isDelivery⟩ =>
    noDelivery now isDelivery

/-- Whatever a callback does passes. -/
theorem act
    (now : Instant)
    (callback : String)
    (progress : Progress)
    (action : Action) :
    Passes progress (progress.act now callback action) := by
  cases action with
  | dispose subscription => exact errand progress (.disposeSubscription subscription) nofun
  | listen subscription name script =>
      exact errand progress (.listen subscription ⟨name, script⟩) nofun
  | perform request =>
      have performed : Passes progress (progress.perform now request).2 := by
        rcases progress.perform_cases now request with
          ⟨category, isSubscribe⟩ | ⟨id, category, connection, isPublish⟩
        · rw [isSubscribe]
          exact errand progress (.subscribe category) nofun
        · rw [isPublish]
          exact errand progress (.publish now id category connection ∅) nofun
      exact performed.trans (occur (.report callback _) fun _ published => ⟨published, rfl⟩)
  | elsewhere agent request =>
      exact occur (.ask callback agent request) fun _ published => ⟨published, rfl⟩

theorem foldl
    {Item : Type}
    {step : Progress → Item → Progress}
    (passes : ∀ progress item, Passes progress (step progress item))
    (items : List Item)
    (progress : Progress) :
    Passes progress (items.foldl step progress) := by
  induction items generalizing progress with
  | nil => exact .refl progress
  | cons item rest inductionHypothesis =>
      exact (passes progress item).trans (inductionHypothesis _)

end Passes

section Duties

variable {progress next : Progress} {rest : List Duty} {published : List ResourceId}

/-- Once the next duty is done, the agent passes on. -/
theorem proceed
    {duty : Duty}
    {duties : List Duty}
    (done : Moment.proceed ⟨progress, duty :: rest, published⟩ = ⟨next, duties, published⟩)
    {last : Progress}
    (passes : Passes next last) :
    ∃ later, Leads ⟨progress, duty :: rest, published⟩ ⟨last, duties, later⟩ := by
  obtain ⟨later, reached⟩ := passes duties published
  exact ⟨later, trans (done ▸ step _ .proceed) reached⟩

/-- A callback does what its script says after it has been started. -/
theorem runCallback_eq
    (now : Instant)
    (subscription : Nat)
    (progress : Progress)
    (position : Nat) :
    ∃ (name : String) (actions : List Action), progress.runCallback now subscription position =
      actions.foldl (Progress.act now name) (progress.startCallback subscription position) := by
  unfold Progress.runCallback Progress.startCallback
  dsimp only
  cases (progress.agent.subscription? subscription).bind
      fun known => known.callbacks[position]? with
  | none => exact ⟨"", [], rfl⟩
  | some callback => exact ⟨callback.name, _, rfl⟩

theorem runCallback
    (now : Instant)
    (subscription position : Nat)
    (progress : Progress)
    (rest : List Duty)
    (published : List ResourceId) :
    ∃ later, Leads ⟨progress, .run subscription position :: rest, published⟩
      ⟨progress.runCallback now subscription position, rest, later⟩ := by
  obtain ⟨name, actions, same⟩ := runCallback_eq now subscription progress position
  rw [same]
  exact proceed rfl (.foldl (fun current action => .act now name current action) actions _)

/-- The duties of one kind are done one after another. -/
theorem duties
    {Item : Type}
    (duty : Item → Duty)
    {perform : Progress → Item → Progress}
    (done : ∀ item progress rest published, ∃ later,
      Leads ⟨progress, duty item :: rest, published⟩ ⟨perform progress item, rest, later⟩)
    (items : List Item)
    (progress : Progress)
    (rest : List Duty)
    (published : List ResourceId) :
    ∃ later, Leads ⟨progress, items.map duty ++ rest, published⟩
      ⟨items.foldl perform progress, rest, later⟩ := by
  induction items generalizing progress published with
  | nil => exact ⟨published, .refl _⟩
  | cons item others inductionHypothesis =>
      obtain ⟨between, first⟩ := done item progress (others.map duty ++ rest) published
      obtain ⟨later, next⟩ := inductionHypothesis (perform progress item) between
      exact ⟨later, first.trans next⟩

/-- Telling a subscription passes through the runs of its callbacks. -/
theorem notify
    (now : Instant)
    (subscription : Nat)
    (progress : Progress)
    (rest : List Duty)
    (published : List ResourceId) :
    ∃ later, Leads ⟨progress, .tell subscription :: rest, published⟩
      ⟨progress.notify now subscription, rest, later⟩ := by
  have told := step ⟨progress, .tell subscription :: rest, published⟩ .proceed
  have isTold : Moment.after ⟨progress, .tell subscription :: rest, published⟩ .proceed =
      Moment.tell ⟨progress, rest, published⟩ subscription := rfl
  rw [isTold] at told
  unfold Progress.notify
  unfold Moment.tell Moment.agent at told
  dsimp only at told
  cases found : progress.agent.subscription? subscription with
  | none =>
      rw [found] at told
      exact ⟨published, told⟩
  | some known =>
      rw [found] at told
      dsimp only at told ⊢
      by_cases isDisposed : known.disposed = true
      · rw [if_pos isDisposed] at told ⊢
        exact ⟨published, told⟩
      · rw [if_neg isDisposed] at told ⊢
        obtain ⟨later, ran⟩ := duties (.run subscription) (runCallback now subscription)
          (List.range known.callbacks.length) _ rest published
        exact ⟨later, told.trans ran⟩

end Duties

/-- A turn of the delivery task passes through telling each of the subscriptions. -/
theorem deliver
    (now : Instant)
    (progress : Progress)
    (rest : List Duty)
    (published : List ResourceId) :
    ∃ later, Leads ⟨progress, rest, published⟩ ⟨progress.deliver now, rest, later⟩ := by
  have begun := step ⟨progress, rest, published⟩ (.errand (.deliver now))
  have isBegun : Moment.after ⟨progress, rest, published⟩ (.errand (.deliver now)) =
      Moment.deliver ⟨progress, rest, published⟩ := rfl
  rw [isBegun] at begun
  unfold Progress.deliver
  unfold Moment.deliver Moment.agent at begun
  dsimp only at begun
  cases known : progress.agent.subscriber with
  | none =>
      rw [known] at begun
      exact ⟨published, begun⟩
  | some subscriber =>
      rw [known] at begun
      obtain ⟨later, told⟩ := duties .tell (notify now) subscriber.collect.1
        (progress.enterSubscriber subscriber.collect.2) rest published
      exact ⟨later, begun.trans told⟩

/-- Subscriptions that are told for the last time are counted in the uses to be released. -/
theorem owe_lastDuties
    (subscriptions : List Nat)
    (count : Nat)
    (rest : List Duty) :
    Duty.owe (lastDuties subscriptions ++ .repay count :: rest) =
      lastDuties subscriptions ++ .repay (count + 1) :: rest := by
  induction subscriptions with
  | nil => rfl
  | cons subscription others inductionHypothesis =>
      exact congrArg (fun duties => .tell subscription :: .conclude subscription :: duties)
        inductionHypothesis

/-- Telling subscriptions for the last time passes through telling and disposing each. -/
theorem conclude
    (now : Instant)
    (subscriptions : List Nat)
    (state : Nat × Progress)
    (rest : List Duty)
    (published : List ResourceId) :
    ∃ later,
      Leads ⟨state.2, lastDuties subscriptions ++ .repay state.1 :: rest, published⟩
        ⟨(subscriptions.foldl (Progress.conclude now) state).2,
          .repay (subscriptions.foldl (Progress.conclude now) state).1 :: rest, later⟩ := by
  induction subscriptions generalizing state published with
  | nil => exact ⟨published, .refl _⟩
  | cons subscription others inductionHypothesis =>
      obtain ⟨between, told⟩ := notify now subscription state.2
        (.conclude subscription :: (lastDuties others ++ .repay state.1 :: rest)) published
      have concluded : Leads
          ⟨state.2.notify now subscription,
            .conclude subscription :: (lastDuties others ++ .repay state.1 :: rest), between⟩
          ⟨(Progress.conclude now state subscription).2,
            lastDuties others ++ .repay (Progress.conclude now state subscription).1 :: rest,
            between⟩ := by
        refine ⟨[.proceed], ?_⟩
        change Moment.conclude
          ⟨state.2.notify now subscription, lastDuties others ++ .repay state.1 :: rest, between⟩
          subscription = _
        unfold Moment.conclude Progress.conclude Moment.agent
        dsimp only
        cases (state.2.notify now subscription).agent.subscriber with
        | none => rfl
        | some subscriber =>
            rw [owe_lastDuties]
            dsimp only
            cases (subscriber.markDisposed subscription).1 <;> rfl
      obtain ⟨later, last⟩ := inductionHypothesis (Progress.conclude now state subscription) between
      exact ⟨later, told.trans (concluded.trans last)⟩

/-- The beginning of a disposal goes on to tell every open subscription. -/
theorem beginDispose
    (now : Instant)
    (progress : Progress)
    (rest : List Duty)
    (published : List ResourceId) :
    ∃ later,
      Leads (dispose ⟨progress, rest, published⟩)
        ⟨(progress.beginDispose now).2, rest, later⟩ := by
  unfold Progress.beginDispose Moment.dispose Moment.agent
  dsimp only
  by_cases isDisposed : progress.agent.lifecycle = .disposed
  · rw [if_pos isDisposed, if_pos isDisposed]
    exact ⟨published, .refl _⟩
  · rw [if_neg isDisposed, if_neg isDisposed]
    change ∃ later, Leads _ ⟨progress.withdraw.stopSubscriber now, rest, later⟩
    unfold Progress.stopSubscriber
    cases progress.withdraw.agent.subscriber with
    | none => exact ⟨published, .refl _⟩
    | some subscriber =>
        obtain ⟨later, concluded⟩ := conclude now subscriber.shut.1
          (0, progress.withdraw.enterSubscriber subscriber.shut.2) rest published
        exact ⟨later, concluded.trans (step _ .proceed)⟩

/-- A call that disposes the agent begins with its disposal. -/
theorem disposal
    (tenancy : Tenancy)
    {made : Call}
    (disposes : made.disposes = true)
    (published : List ResourceId) :
    ∃ later,
      Leads (dispose ⟨tenancy.progress, [], published⟩)
        ⟨(tenancy.call made).progress, [], later⟩ := by
  cases made with
  | errand | flushed => cases disposes
  | dispose caller now => exact beginDispose now tenancy.progress [] published
  | drop caller now =>
      obtain ⟨later, begun⟩ := beginDispose now tenancy.progress [] published
      change ∃ later, Leads _ ⟨tenancy.progress.drop now, [], later⟩
      unfold Progress.drop
      revert begun
      rcases tenancy.progress.beginDispose now with ⟨_ | _, next⟩ <;> intro begun
      · exact ⟨later, begun⟩
      · exact ⟨later, begun.trans (step _ .release)⟩

/-- A call passes through moments. -/
theorem call
    (tenancy : Tenancy)
    (made : Call)
    (published : List ResourceId) :
    ∃ later,
      Leads ⟨tenancy.progress, [], published⟩ ⟨(tenancy.call made).progress, [], later⟩ := by
  have disposing : made.disposes = true → ∃ later,
      Leads ⟨tenancy.progress, [], published⟩ ⟨(tenancy.call made).progress, [], later⟩ := by
    intro disposes
    obtain ⟨later, disposed⟩ := disposal tenancy disposes published
    exact ⟨later, (step ⟨tenancy.progress, [], published⟩ .dispose).trans disposed⟩
  cases made with
  | errand errand =>
      by_cases delivery : ∃ now, errand = .deliver now
      · obtain ⟨now, rfl⟩ := delivery
        exact deliver now tenancy.progress [] published
      · exact Passes.errand tenancy.progress errand
          (fun now isDelivery => delivery ⟨now, isDelivery⟩) [] published
  | dispose | drop => exact disposing rfl
  | flushed caller =>
      unfold Tenancy.call
      dsimp only
      split
      next => exact ⟨published, step _ .release⟩
      next => exact ⟨published, .refl _⟩

/-- So does any number of calls. -/
theorem calls
    (made : List Call)
    (tenancy : Tenancy)
    (published : List ResourceId) :
    ∃ later,
      Leads ⟨tenancy.progress, [], published⟩
        ⟨(made.foldl Tenancy.call tenancy).progress, [], later⟩ := by
  induction made generalizing tenancy published with
  | nil => exact ⟨published, .refl _⟩
  | cons first rest inductionHypothesis =>
      obtain ⟨between, called⟩ := call tenancy first published
      obtain ⟨later, next⟩ := inductionHypothesis (tenancy.call first) between
      exact ⟨later, called.trans next⟩

end Leads

end Moment

end Discovery
