import Discovery.Proofs.Subscriber.Enrolment

namespace Discovery

/-!
# The users of the transport

Every open subscription is a user of the transport, and so is the publisher
until its use has been released.  `Progress.Balanced` says so of an agent in
the middle of an operation, when some users may still have to leave, and of
what the agent has put out so far: its outputs count the users, and each of
them was possible at the number that had been reached.
-/

namespace Output

/-- Whether an output is about the users of the transport. -/
def concernsUsers : Output → Bool
  | .started | .startFailed | .joined | .left | .stopped | .overdrawn => true
  | .sent _ | .updated .. | .acted .. | .asked .. => false

/--
How many users there are after an output.  The transport is started for a first
user only and stops after a last one only, and nobody leaves who is not there.
-/
def usersAfter? : Nat → Output → Option Nat
  | 0, .started => some 1
  | 0, .startFailed => some 0
  | users + 1, .joined => some (users + 2)
  | users + 2, .left => some (users + 1)
  | 1, .stopped => some 0
  | users, output => if output.concernsUsers then none else some users

/-- How many users there are after some outputs, if there were so many before. -/
def tally (start : Nat) (outputs : List Output) : Option Nat :=
  outputs.foldlM usersAfter? start

theorem tally_concat
    {outputs : List Output}
    {start users : Nat}
    (counted : tally start outputs = some users)
    (output : Output) :
    tally start (outputs ++ [output]) = usersAfter? users output := by
  rw [tally, List.foldlM_append]
  rw [tally] at counted
  simp [counted]

theorem usersAfter?_of_not_concernsUsers
    {output : Output}
    (quiet : output.concernsUsers = false)
    (users : Nat) :
    usersAfter? users output = some users := by
  cases output with
  | started | startFailed | joined | left | stopped | overdrawn => cases quiet
  | sent | updated | acted | asked => rcases users with _ | _ | users <;> rfl

/-- Outputs that are about something else leave the tally as it is. -/
theorem tally_append
    {outputs more : List Output}
    {start users : Nat}
    (counted : tally start outputs = some users)
    (quiet : ∀ output ∈ more, output.concernsUsers = false) :
    tally start (outputs ++ more) = some users := by
  induction more generalizing outputs with
  | nil => rwa [List.append_nil]
  | cons output rest inductionHypothesis =>
      have next : tally start (outputs ++ [output]) = some users := by
        rw [tally_concat counted]
        exact usersAfter?_of_not_concernsUsers (quiet output List.mem_cons_self) users
      rw [← List.singleton_append, ← List.append_assoc]
      exact inductionHypothesis next fun later member =>
        quiet later (List.mem_cons_of_mem output member)

end Output

namespace Agent

/-- How many subscriptions are open. -/
def openSubscriptions (agent : Agent) : Nat :=
  agent.subscriber.elim 0 Subscriber.openCount

/-- How many publishers there are: one or none. -/
def publishers (agent : Agent) : Nat :=
  if agent.publisher.isSome then 1 else 0

end Agent

namespace Progress

/-- Change a subscription of the agent. -/
def updateSubscription
    (progress : Progress)
    (id : Nat)
    (change : Subscription → Subscription) : Progress :=
  { progress with
    agent := progress.agent.updateSubscriber fun subscriber => subscriber.update id change }

/-- What becomes of an agent that asks to be a user of the transport. -/
inductive Acquires (progress : Progress) : Except TransportError Unit × Progress → Prop where
  | refused
      {cause : TransportError}
      (attempts : List (Option TransportError))
      (idle : progress.agent.users = 0) :
      Acquires progress
        ( .error cause
        , emit { progress with
            agent := { progress.agent with
              link := { progress.agent.link with attempts := attempts } } } .startFailed )
  | started
      (attempts : List (Option TransportError))
      (idle : progress.agent.users = 0) :
      Acquires progress
        ( .ok ()
        , emit { progress with
            agent := { progress.agent with link := ⟨true, attempts⟩, users := 1 } } .started )
  | joined (busy : progress.agent.users ≠ 0) :
      Acquires progress
        ( .ok ()
        , emit { progress with
            agent := { progress.agent with users := progress.agent.users + 1 } } .joined )

/-- What becomes of an agent that ceases to be a user of the transport. -/
inductive Releases (progress : Progress) : Progress → Prop where
  | overdrawn (none : progress.agent.users = 0) : Releases progress (progress.emit .overdrawn)
  | stopped (last : progress.agent.users = 1) :
      Releases progress
        (emit { progress with
          agent := { progress.agent with
            link := { progress.agent.link with running := false }
            users := 0 } } .stopped)
  | left {others : Nat} (more : progress.agent.users = others + 2) :
      Releases progress
        (emit { progress with agent := { progress.agent with users := others + 1 } } .left)

section Frame

variable (progress : Progress)

theorem acquires_acquire : progress.Acquires progress.acquire := by
  unfold acquire Link.start
  dsimp only
  split
  next idle =>
    cases progress.agent.link.attempts.head?.join with
    | some cause => exact .refused _ idle
    | none => exact .started _ idle
  next busy => exact .joined busy

theorem releases_release : progress.Releases progress.release := by
  unfold release
  dsimp only
  split
  next none => exact .overdrawn none
  next last => exact .stopped last
  next more => exact .left more

/-- What acquiring and releasing leave alone. -/
structure SameRoles (next : Progress) : Prop where
  settings : next.agent.settings = progress.agent.settings
  lifecycle : next.agent.lifecycle = progress.agent.lifecycle
  publisher : next.agent.publisher = progress.agent.publisher
  subscriber : next.agent.subscriber = progress.agent.subscriber

theorem sameRoles_acquire : SameRoles progress progress.acquire.2 := by
  have ends := progress.acquires_acquire
  generalize progress.acquire = result at ends ⊢
  cases ends <;> exact ⟨rfl, rfl, rfl, rfl⟩

theorem sameRoles_release : SameRoles progress progress.release := by
  have ends := progress.releases_release
  generalize progress.release = next at ends ⊢
  cases ends <;> exact ⟨rfl, rfl, rfl, rfl⟩

theorem sameRoles_releaseMany (count : Nat) : SameRoles progress (progress.releaseMany count) := by
  induction count generalizing progress with
  | zero => exact ⟨rfl, rfl, rfl, rfl⟩
  | succ count inductionHypothesis =>
      have first := sameRoles_release progress
      have rest := inductionHypothesis progress.release
      exact ⟨rest.settings.trans first.settings, rest.lifecycle.trans first.lifecycle,
        rest.publisher.trans first.publisher, rest.subscriber.trans first.subscriber⟩

end Frame

/--
The users of the transport are the open subscriptions, the publisher and those
that are spare, less what the publisher has paid back.
-/
structure Balanced (start paid spare : Nat) (progress : Progress) : Prop where
  users : progress.agent.users + paid =
    progress.agent.openSubscriptions + progress.agent.publishers + spare
  paid : paid ≤ progress.agent.publishers
  running : progress.agent.link.running = decide (0 < progress.agent.users)
  counted : Output.tally start progress.outputs = some progress.agent.users
  sound : ∀ {subscriber}, progress.agent.subscriber = some subscriber → subscriber.Sound

/-- What happened in between concerned no user and no membership. -/
structure Quiet (next progress : Progress) : Prop where
  users : next.agent.users = progress.agent.users
  link : next.agent.link = progress.agent.link
  lifecycle : next.agent.lifecycle = progress.agent.lifecycle
  publisher : next.agent.publisher.isSome = progress.agent.publisher.isSome
  subscriber :
    Option.Rel Subscriber.SameMembership next.agent.subscriber progress.agent.subscriber
  outputs : ∃ more, next.outputs = progress.outputs ++ more ∧
    ∀ output ∈ more, output.concernsUsers = false

namespace Quiet

variable {next progress : Progress}

/-- A quiet step that leaves the agent's account and its subscriber as they are. -/
theorem of_outputs
    {more : List Output}
    (agent : next.agent = progress.agent)
    (outputs : next.outputs = progress.outputs ++ more)
    (quiet : ∀ output ∈ more, output.concernsUsers = false) :
    Quiet next progress := by
  refine ⟨by rw [agent], by rw [agent], by rw [agent], by rw [agent], ?_, more, outputs, quiet⟩
  rw [agent]
  cases progress.agent.subscriber with
  | none => exact .none
  | some subscriber => exact .some (.refl subscriber)

theorem refl (progress : Progress) : Quiet progress progress :=
  of_outputs rfl (List.append_nil _).symm (fun _ member => by cases member)

theorem emit
    (progress : Progress)
    {output : Output}
    (quiet : output.concernsUsers = false) :
    Quiet (progress.emit output) progress :=
  of_outputs rfl rfl fun other member => by rwa [List.mem_singleton.mp member]

theorem send
    (progress : Progress)
    (outgoing : List Outgoing) :
    Quiet (progress.send outgoing) progress := by
  refine of_outputs rfl rfl fun output member => ?_
  obtain ⟨_, _, rfl⟩ := List.mem_map.mp member
  rfl

theorem enterSubscriber
    {progress : Progress}
    {subscriber next : Subscriber}
    (known : progress.agent.subscriber = some subscriber)
    (same : Subscriber.SameMembership next subscriber) :
    Quiet (progress.enterSubscriber next) progress := by
  refine ⟨rfl, rfl, rfl, rfl, ?_, [], (List.append_nil _).symm, fun _ member => by cases member⟩
  rw [known]
  exact .some same

theorem enterPublisher
    {progress : Progress}
    {publisher : Publisher}
    (known : progress.agent.publisher = some publisher)
    (next : Publisher) :
    Quiet (progress.enterPublisher next) progress := by
  have here : (some next).isSome = progress.agent.publisher.isSome := by rw [known]; rfl
  refine ⟨rfl, rfl, rfl, here, ?_, [], (List.append_nil _).symm, fun _ member => by cases member⟩
  change Option.Rel _ progress.agent.subscriber _
  cases progress.agent.subscriber with
  | none => exact .none
  | some subscriber => exact .some (.refl subscriber)

theorem updateSubscription
    (progress : Progress)
    (id : Nat)
    {change : Subscription → Subscription}
    (alike : ∀ known, (change known).standing = known.standing) :
    Quiet (progress.updateSubscription id change) progress := by
  refine ⟨rfl, rfl, rfl, rfl, ?_, [], (List.append_nil _).symm, fun _ member => by cases member⟩
  simp only [Progress.updateSubscription, Agent.updateSubscriber]
  cases progress.agent.subscriber with
  | none => exact .none
  | some subscriber => exact .some (subscriber.sameMembership_update id alike)

theorem shuffle
    (progress : Progress)
    (categories : List String)
    (resources : List ResourceId) :
    Quiet { progress with agent := progress.agent.shuffle categories resources } progress := by
  refine ⟨rfl, rfl, rfl, Option.isSome_map, ?_, [], (List.append_nil _).symm,
    fun _ member => by cases member⟩
  simp only [Agent.shuffle]
  cases progress.agent.subscriber with
  | none => exact .none
  | some subscriber => exact .some (subscriber.sameMembership_shuffle categories)

/-- Either there is no subscriber at all, or the two have the same memberships. -/
theorem subscribers (quiet : Quiet next progress) :
    (next.agent.subscriber = none ∧ progress.agent.subscriber = none) ∨
      ∃ after before, next.agent.subscriber = some after ∧
        progress.agent.subscriber = some before ∧ Subscriber.SameMembership after before := by
  have related := quiet.subscriber
  generalize next.agent.subscriber = after at related ⊢
  generalize progress.agent.subscriber = before at related ⊢
  cases related with
  | none => exact .inl ⟨rfl, rfl⟩
  | some same => exact .inr ⟨_, _, rfl, rfl, same⟩

/-- Whoever is the subscriber now was the subscriber before, with the same memberships. -/
theorem before
    (quiet : Quiet next progress)
    {subscriber : Subscriber}
    (known : next.agent.subscriber = some subscriber) :
    ∃ before, progress.agent.subscriber = some before ∧
      Subscriber.SameMembership subscriber before := by
  rcases quiet.subscribers with ⟨absent, _⟩ | ⟨after, before, isAfter, wasKnown, same⟩
  · rw [absent] at known
    cases known
  · rw [isAfter] at known
    cases known
    exact ⟨before, wasKnown, same⟩

theorem trans
    {first second third : Progress}
    (later : Quiet third second)
    (earlier : Quiet second first) :
    Quiet third first := by
  obtain ⟨laterMore, laterOutputs, laterQuiet⟩ := later.outputs
  obtain ⟨earlierMore, earlierOutputs, earlierQuiet⟩ := earlier.outputs
  refine
    ⟨later.users.trans earlier.users, later.link.trans earlier.link,
      later.lifecycle.trans earlier.lifecycle, later.publisher.trans earlier.publisher, ?_,
      earlierMore ++ laterMore, ?_, ?_⟩
  · have earlierRelated := earlier.subscriber
    rcases later.subscribers with ⟨absent, wasAbsent⟩ | ⟨after, between, known, wasKnown, same⟩
    · rw [absent]
      rwa [wasAbsent] at earlierRelated
    · obtain ⟨before, isBefore, same'⟩ := earlier.before wasKnown
      rw [known, isBefore]
      exact .some (same.trans same')
  · rw [laterOutputs, earlierOutputs, List.append_assoc]
  · intro output member
    rcases List.mem_append.mp member with inEarlier | inLater
    · exact earlierQuiet output inEarlier
    · exact laterQuiet output inLater

theorem openSubscriptions (quiet : Quiet next progress) :
    next.agent.openSubscriptions = progress.agent.openSubscriptions := by
  rw [Agent.openSubscriptions, Agent.openSubscriptions]
  rcases quiet.subscribers with ⟨absent, wasAbsent⟩ | ⟨after, before, known, wasKnown, same⟩
  · rw [absent, wasAbsent]
  · rw [known, wasKnown]
    exact same.openCount

theorem publishers (quiet : Quiet next progress) :
    next.agent.publishers = progress.agent.publishers := by
  rw [Agent.publishers, quiet.publisher, Agent.publishers]

end Quiet

namespace Balanced

variable {start paid spare : Nat} {progress next : Progress}

theorem quiet
    (balanced : Balanced start paid spare progress)
    (quiet : Quiet next progress) :
    Balanced start paid spare next := by
  constructor
  · rw [quiet.users, quiet.openSubscriptions, quiet.publishers]
    exact balanced.users
  · rw [quiet.publishers]
    exact balanced.paid
  · rw [quiet.users, quiet.link]
    exact balanced.running
  · obtain ⟨more, outputs, quiet'⟩ := quiet.outputs
    rw [outputs, quiet.users]
    exact Output.tally_append balanced.counted quiet'
  · intro subscriber known
    obtain ⟨before, wasKnown, same⟩ := quiet.before known
    exact same.sound (balanced.sound wasKnown)

/-- A new user of the transport is spare until it is known whose it is. -/
theorem acquire
    (balanced : Balanced start paid spare progress)
    (acquired : progress.acquire = (.ok (), next)) :
    Balanced start paid (spare + 1) next := by
  have users := balanced.users
  have running := balanced.running
  have ends := progress.acquires_acquire
  rw [acquired] at ends
  cases ends with
  | started _ idle =>
      rw [idle] at users
      refine ⟨?_, balanced.paid, rfl, ?_, balanced.sound⟩
      · change 1 + paid = progress.agent.openSubscriptions + progress.agent.publishers + (spare + 1)
        omega
      · change Output.tally start (progress.outputs ++ [.started]) = some 1
        rw [Output.tally_concat balanced.counted, idle]
        rfl
  | joined busy =>
      refine ⟨?_, balanced.paid, ?_, ?_, balanced.sound⟩
      · change progress.agent.users + 1 + paid =
          progress.agent.openSubscriptions + progress.agent.publishers + (spare + 1)
        omega
      · change progress.agent.link.running = decide (0 < progress.agent.users + 1)
        rw [running]
        simp [Nat.pos_of_ne_zero busy]
      · change Output.tally start (progress.outputs ++ [.joined]) = some (progress.agent.users + 1)
        rw [Output.tally_concat balanced.counted]
        obtain ⟨others, isSucc⟩ := Nat.exists_eq_succ_of_ne_zero busy
        rw [isSucc]
        rfl

theorem acquire_error
    (balanced : Balanced start paid spare progress)
    {cause : TransportError}
    (refused : progress.acquire = (.error cause, next)) :
    Balanced start paid spare next := by
  have ends := progress.acquires_acquire
  rw [refused] at ends
  cases ends with
  | refused _ idle =>
      refine ⟨balanced.users, balanced.paid, ?_, ?_, balanced.sound⟩
      · change progress.agent.link.running = decide (0 < progress.agent.users)
        exact balanced.running
      · change Output.tally start (progress.outputs ++ [.startFailed]) = some progress.agent.users
        rw [Output.tally_concat balanced.counted, idle]
        rfl

/-- Someone can leave if there is a user: one spare less, or one paid back more. -/
theorem release
    (balanced : Balanced start paid spare progress)
    {paid' spare' : Nat}
    (covered : spare + paid' = spare' + paid + 1)
    (payable : paid' ≤ progress.agent.publishers) :
    Balanced start paid' spare' progress.release := by
  have users := balanced.users
  have counted := balanced.counted
  have running := balanced.running
  have ends := progress.releases_release
  generalize progress.release = next at ends ⊢
  cases ends with
  | overdrawn none => omega
  | stopped last =>
      rw [last] at counted users
      refine ⟨?_, payable, rfl, ?_, balanced.sound⟩
      · change 0 + paid' = progress.agent.openSubscriptions + progress.agent.publishers + spare'
        omega
      · exact Output.tally_concat counted .stopped
  | @left others more =>
      rw [more] at counted users running
      refine ⟨?_, payable, ?_, ?_, balanced.sound⟩
      · change others + 1 + paid' =
          progress.agent.openSubscriptions + progress.agent.publishers + spare'
        omega
      · change progress.agent.link.running = decide (0 < others + 1)
        simp [running]
      · exact Output.tally_concat counted .left

theorem releaseMany
    {count total : Nat}
    (balanced : Balanced start paid total progress)
    (covered : total = spare + count) :
    Balanced start paid spare (progress.releaseMany count) := by
  induction count generalizing progress total with
  | zero =>
      subst covered
      exact balanced
  | succ count inductionHypothesis =>
      have fewer : Balanced start paid (spare + count) progress.release :=
        balanced.release (by omega) balanced.paid
      exact inductionHypothesis fewer rfl

/-- A subscriber that enters may take over spare users for its open subscriptions or leave some. -/
theorem enterSubscriber
    (balanced : Balanced start paid spare progress)
    {spare' : Nat}
    {subscriber : Subscriber}
    (sound : subscriber.Sound)
    (covered : progress.agent.openSubscriptions + spare = subscriber.openCount + spare') :
    Balanced start paid spare' (progress.enterSubscriber subscriber) := by
  have users := balanced.users
  refine ⟨?_, balanced.paid, balanced.running, balanced.counted, ?_⟩
  · change progress.agent.users + paid = subscriber.openCount + progress.agent.publishers + spare'
    omega
  · intro known isKnown
    exact Option.some.inj isKnown ▸ sound

end Balanced

end Progress

end Discovery
