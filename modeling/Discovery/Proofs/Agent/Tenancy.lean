import Discovery.Proofs.Agent.Accounting

namespace Discovery

/-!
# An agent from its creation on

A run of an agent is a sequence of calls.  Its owners subscribe, publish, edit,
read and dispose; its timers, its delivery task and its transport take their
turns; what is in no order comes to be gone through in another one; and any
number of callers dispose the agent or drop it.  A disposal comes in two calls,
because other calls come in between while it waits for its farewells to leave.

After every call the users of the transport are accounted for
(`Tenancy.accounted_of_calls`).
-/

/-- A call that does not dispose the agent. -/
inductive Errand where
  | subscribe (category : String)
  | publish
      (now : Instant)
      (id : ResourceId)
      (category connection : String)
      (attributes : Attributes)
  | commit (now : Instant) (editor : Editor)
  | listen (subscription : Nat) (callback : Callback)
  | read (subscription : Nat)
  | disposeSubscription (subscription : Nat)
  | receive (now : Instant) (delivery : Delivery)
  | announce (now : Instant)
  | expire (now : Instant)
  | deliver (now : Instant)
  /-- Other categories and other resources come first when all of them are gone through. -/
  | shuffle (categories : List String) (resources : List ResourceId)
  deriving Repr

/-- A call; whoever disposes or drops the agent is known by a number. -/
inductive Call where
  | errand (errand : Errand)
  /-- Begin a disposal. -/
  | dispose (caller : Nat) (now : Instant)
  /-- Have waited for the farewells to leave. -/
  | flushed (caller : Nat)
  /-- Give the agent up without waiting. -/
  | drop (caller : Nat) (now : Instant)
  deriving Repr

/-- Run an errand. -/
def Progress.run (progress : Progress) : Errand → Progress
  | .subscribe category => (progress.subscribe category).2
  | .publish now id category connection attributes =>
      (progress.publish now id category connection attributes).2
  | .commit now editor => (progress.commit now editor).2
  | .listen subscription callback =>
      { progress with agent := progress.agent.listen subscription callback }
  | .read subscription => { progress with agent := (progress.agent.read subscription).2 }
  | .disposeSubscription subscription => progress.dispose subscription
  | .receive now delivery => progress.receive now delivery
  | .announce now => progress.announce now
  | .expire now => progress.expire now
  | .deliver now => progress.deliver now
  | .shuffle categories resources =>
      { progress with agent := progress.agent.shuffle categories resources }

/-- An agent between two calls, all that it has put out, and who has disposed it. -/
structure Tenancy where
  progress : Progress
  /-- Those whose disposal, or drop, was the one that took effect. -/
  winners : List Nat
  /-- Those who wait for the farewells to leave. -/
  waiting : List Nat
  /-- Those who have released the publisher's use of the transport. -/
  released : List Nat
  deriving Repr

namespace Tenancy

/-- An agent that has just been created. -/
def new (settings : AgentSettings) (attempts : List (Option TransportError)) : Tenancy :=
  ⟨Agent.begin ⟨settings, ⟨false, attempts⟩, 0, .created, none, none⟩, [], [], []⟩

/-- Make a call. -/
def call (tenancy : Tenancy) : Call → Tenancy
  | .errand errand => { tenancy with progress := tenancy.progress.run errand }
  | .dispose caller now =>
      let (holds, next) := tenancy.progress.beginDispose now
      { tenancy with
        progress := next
        winners :=
          if tenancy.progress.agent.isDisposed then tenancy.winners
          else tenancy.winners ++ [caller]
        waiting := if holds then tenancy.waiting ++ [caller] else tenancy.waiting }
  | .flushed caller =>
      if caller ∈ tenancy.waiting then
        { tenancy with
          progress := tenancy.progress.release
          waiting := tenancy.waiting.erase caller
          released := tenancy.released ++ [caller] }
      else tenancy
  | .drop caller now =>
      let holds := (tenancy.progress.beginDispose now).1
      { tenancy with
        progress := tenancy.progress.drop now
        winners :=
          if tenancy.progress.agent.isDisposed then tenancy.winners
          else tenancy.winners ++ [caller]
        released := if holds then tenancy.released ++ [caller] else tenancy.released }

/-- The users of the transport are accounted for. -/
structure Accounted (tenancy : Tenancy) : Prop where
  /-- Every open subscription is a user, and the publisher until its use is released. -/
  users : tenancy.progress.agent.users =
    tenancy.progress.agent.openSubscriptions +
      if tenancy.progress.agent.publisher.isSome ∧ tenancy.released = [] then 1 else 0
  /-- The transport is started exactly while it has users. -/
  started : tenancy.progress.agent.link.running = true ↔ 0 < tenancy.progress.agent.users
  /-- Every start, stop and release came at a number of users at which it may come. -/
  counted : Output.tally 0 tenancy.progress.outputs = some tenancy.progress.agent.users
  /-- One disposal takes effect, and it leaves no subscription open. -/
  disposed : tenancy.progress.agent.isDisposed = true →
    tenancy.winners.length = 1 ∧ tenancy.progress.agent.openSubscriptions = 0
  notDisposed : tenancy.progress.agent.isDisposed = false → tenancy.winners = []
  /-- The winner, and nobody else, releases the use of the publisher, and does so once. -/
  released : tenancy.waiting ++ tenancy.released =
    if tenancy.progress.agent.publisher.isSome then tenancy.winners else []

end Tenancy

namespace Progress.KeptByCallbacks

/-- What callbacks keep, errands keep. -/
theorem run
    {motive : Progress → Prop}
    {progress : Progress}
    (kept : KeptByCallbacks motive)
    (errand : Errand)
    (holds : motive progress) :
    motive (progress.run errand) := by
  cases errand with
  | subscribe category => exact kept.subscribes category holds
  | publish now id category connection attributes =>
      exact kept.publishes now id category connection attributes holds
  | commit now editor => exact kept.quiet (quiet_commit progress now editor) holds
  | listen subscription callback =>
      exact kept.quiet (.updateSubscription progress subscription fun _ => rfl) holds
  | read subscription => exact kept.quiet (quiet_read progress subscription) holds
  | disposeSubscription subscription => exact kept.disposes subscription holds
  | receive now delivery => exact kept.quiet (quiet_receive progress now delivery) holds
  | announce now => exact kept.quiet (quiet_announce progress now) holds
  | expire now => exact kept.quiet (quiet_expire progress now) holds
  | deliver now => exact kept.deliver now holds
  | shuffle categories resources =>
      exact kept.quiet (.shuffle progress categories resources) holds

end Progress.KeptByCallbacks

namespace Tenancy

open Progress (Balanced Running Closing)

/-- How far the disposal of an agent has come. -/
inductive Stage (tenancy : Tenancy) : Prop where
  | running
      (running : Running tenancy.progress)
      (balanced : Balanced 0 0 0 tenancy.progress)
      (winners : tenancy.winners = [])
      (waiting : tenancy.waiting = [])
      (released : tenancy.released = [])
  | closed
      (holds : Bool)
      (winner : Nat)
      (closing : Closing holds [] tenancy.progress)
      (balanced : Balanced 0 tenancy.released.length 0 tenancy.progress)
      (winners : tenancy.winners = [winner])
      (claims : tenancy.waiting ++ tenancy.released = if holds then [winner] else [])

namespace Stage

variable {tenancy : Tenancy}

theorem new
    (settings : AgentSettings)
    (attempts : List (Option TransportError)) :
    Stage (Tenancy.new settings attempts) := by
  refine .running ⟨nofun, nofun⟩ ⟨rfl, Nat.le_refl 0, rfl, rfl, nofun⟩ rfl rfl rfl

theorem errand
    (stage : Stage tenancy)
    (errand : Errand) :
    Stage (tenancy.call (.errand errand)) := by
  cases stage with
  | running running balanced winners waiting released =>
      exact .running (Running.keptByCallbacks.run errand running)
        ((Balanced.keptByCallbacks 0 0 0).run errand balanced) winners waiting released
  | closed holds winner closing balanced winners claims =>
      exact .closed holds winner ((Closing.keptByCallbacks holds []).run errand closing)
        ((Balanced.keptByCallbacks 0 _ 0).run errand balanced) winners claims

theorem dispose
    (stage : Stage tenancy)
    (caller : Nat)
    (now : Instant) :
    Stage (tenancy.call (.dispose caller now)) := by
  cases stage with
  | running running balanced winners waiting released =>
      obtain ⟨closing, closed⟩ := running.beginDispose balanced now
      have notDisposed : tenancy.progress.agent.isDisposed = false := by
        simpa [Agent.isDisposed] using running.lifecycle
      refine .closed _ caller closing ?_ ?_ ?_
      · change Balanced 0 tenancy.released.length 0 _
        rwa [released]
      · simp only [call, notDisposed, winners, Bool.false_eq_true, if_false, List.nil_append]
      · simp only [call, waiting, released, List.append_nil, List.nil_append]
  | closed holds winner closing balanced winners claims =>
      have none : tenancy.progress.beginDispose now = (false, tenancy.progress) := by
        rw [Progress.beginDispose, if_pos closing.lifecycle]
      have isDisposed : tenancy.progress.agent.isDisposed = true := by
        simp [Agent.isDisposed, closing.lifecycle]
      have unchanged : tenancy.call (.dispose caller now) = tenancy := by
        simp [call, none, isDisposed]
      rw [unchanged]
      exact .closed holds winner closing balanced winners claims

theorem flushed
    (stage : Stage tenancy)
    (caller : Nat) :
    Stage (tenancy.call (.flushed caller)) := by
  by_cases waits : caller ∈ tenancy.waiting
  · cases stage with
    | running running balanced winners waiting released =>
        rw [waiting] at waits
        cases waits
    | closed holds winner closing balanced winners claims =>
        cases holds with
        | false =>
            have nobody := (List.append_eq_nil_iff.mp claims).1
            rw [nobody] at waits
            cases waits
        | true =>
            rw [if_pos rfl] at claims
            obtain ⟨isWinner, notReleased⟩ :
                tenancy.waiting = [winner] ∧ tenancy.released = [] := by
              rcases List.append_eq_singleton_iff.mp claims with
                ⟨nobody, _⟩ | ⟨waiting, released⟩
              · rw [nobody] at waits
                cases waits
              · exact ⟨waiting, released⟩
            rw [isWinner, List.mem_singleton] at waits
            have holding : tenancy.progress.agent.publishers = 1 := by
              rw [Agent.publishers, closing.publisher, if_pos rfl]
            rw [notReleased] at balanced
            have paid : Balanced 0 1 0 tenancy.progress.release :=
              balanced.release rfl (Nat.le_of_eq holding.symm)
            have left := closing.sameRoles (Progress.sameRoles_release tenancy.progress)
            have next : tenancy.call (.flushed caller) =
                ⟨tenancy.progress.release, tenancy.winners, [], [caller]⟩ := by
              simp [call, isWinner, notReleased, waits]
            rw [next]
            exact .closed true winner left paid winners (by rw [waits]; rfl)
  · have unchanged : tenancy.call (.flushed caller) = tenancy := by
      simp [call, waits]
    rwa [unchanged]

theorem drop
    (stage : Stage tenancy)
    (caller : Nat)
    (now : Instant) :
    Stage (tenancy.call (.drop caller now)) := by
  cases stage with
  | running running balanced winners waiting released =>
      obtain ⟨closing, closed⟩ := running.beginDispose balanced now
      have notDisposed : tenancy.progress.agent.isDisposed = false := by
        simpa [Agent.isDisposed] using running.lifecycle
      cases begun : tenancy.progress.beginDispose now with
      | mk holds next =>
          rw [begun] at closing closed
          cases holds with
          | false =>
              have dropped : tenancy.call (.drop caller now) = ⟨next, [caller], [], []⟩ := by
                simp [call, Progress.drop, begun, notDisposed, winners, waiting, released]
              rw [dropped]
              exact .closed false caller closing closed rfl rfl
          | true =>
              have dropped : tenancy.call (.drop caller now) =
                  ⟨next.release, [caller], [], [caller]⟩ := by
                simp [call, Progress.drop, begun, notDisposed, winners, waiting, released]
              have holding : next.agent.publishers = 1 := by
                rw [Agent.publishers, closing.publisher, if_pos rfl]
              have paid : Balanced 0 1 0 next.release :=
                closed.release rfl (Nat.le_of_eq holding.symm)
              rw [dropped]
              exact .closed true caller (closing.sameRoles (Progress.sameRoles_release next)) paid
                rfl rfl
  | closed holds winner closing balanced winners claims =>
      have none : tenancy.progress.beginDispose now = (false, tenancy.progress) := by
        rw [Progress.beginDispose, if_pos closing.lifecycle]
      have isDisposed : tenancy.progress.agent.isDisposed = true := by
        simp [Agent.isDisposed, closing.lifecycle]
      have unchanged : tenancy.call (.drop caller now) = tenancy := by
        simp [call, Progress.drop, none, isDisposed]
      rw [unchanged]
      exact .closed holds winner closing balanced winners claims

theorem call
    (stage : Stage tenancy)
    (made : Call) :
    Stage (tenancy.call made) := by
  cases made with
  | errand errand => exact stage.errand errand
  | dispose caller now => exact stage.dispose caller now
  | flushed caller => exact stage.flushed caller
  | drop caller now => exact stage.drop caller now

theorem accounted (stage : Stage tenancy) : Accounted tenancy := by
  cases stage with
  | running running balanced winners waiting released =>
      have notDisposed : tenancy.progress.agent.isDisposed = false := by
        simpa [Agent.isDisposed] using running.lifecycle
      constructor
      · simpa [Agent.publishers, released] using balanced.users
      · simp [balanced.running]
      · exact balanced.counted
      · intro disposed
        rw [notDisposed] at disposed
        cases disposed
      · exact fun _ => winners
      · simp [winners, waiting, released]
  | closed holds winner closing balanced winners claims =>
      have isDisposed : tenancy.progress.agent.isDisposed = true := by
        simp [Agent.isDisposed, closing.lifecycle]
      constructor
      · have users := balanced.users
        rw [Agent.publishers, closing.publisher] at users
        rw [closing.publisher]
        cases holds with
        | false =>
            have nobody := (List.append_eq_nil_iff.mp claims).2
            simpa [nobody] using users
        | true =>
            rcases List.append_eq_singleton_iff.mp claims with
              ⟨_, isReleased⟩ | ⟨_, notReleased⟩
            · simpa [isReleased] using users
            · simpa [notReleased] using users
      · simp [balanced.running]
      · exact balanced.counted
      · exact fun _ => ⟨by rw [winners]; rfl, closing.openSubscriptions⟩
      · intro notDisposed
        rw [isDisposed] at notDisposed
        cases notDisposed
      · rw [claims, closing.publisher, winners]

end Stage

/-- After any calls to a new agent, the users of its transport are accounted for. -/
theorem accounted_of_calls
    (settings : AgentSettings)
    (attempts : List (Option TransportError))
    (calls : List Call) :
    Accounted (calls.foldl call (new settings attempts)) := by
  have stage : Stage (calls.foldl call (new settings attempts)) :=
    List.foldlRecOn calls call (Stage.new settings attempts) fun _ stage made _ =>
      stage.call made
  exact stage.accounted

/-- A transport that was stopped does not start again at first, and then it does. -/
example :
    let made : List Call :=
      [ .errand (.subscribe "Lamp"), .errand (.disposeSubscription 1)
      , .errand (.subscribe "Lamp"), .errand (.subscribe "Lamp") ]
    let progress := (made.foldl call (new ⟨30, 50⟩ [none, some .noRuntime])).progress
    progress.outputs.filter Output.concernsUsers =
        [.started, .stopped, .startFailed, .started] ∧
      progress.agent.users = 1 ∧ progress.agent.link.running = true := by
  decide +kernel

end Tenancy

end Discovery
