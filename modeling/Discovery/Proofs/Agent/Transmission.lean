import Discovery.Proofs.Agent.Refusal

namespace Discovery

/-!
# The transport in what is put out

An agent puts out that it has started the transport and that it has stopped it,
so what has been put out tells whether the transport is started
(`Output.running`).  At every moment this is what the agent takes it to be, and
that is while the transport has users (`Moment.wired_leads`).
-/

namespace Output

/-- Whether the transport is started after an output. -/
def runningAfter (running : Bool) : Output → Bool
  | .started => true
  | .stopped => false
  | .startFailed | .joined | .left | .overdrawn | .sent _ | .updated .. | .acted .. | .asked .. =>
      running

/-- Whether the transport is started after some outputs. -/
def running (outputs : List Output) : Bool :=
  outputs.foldl runningAfter false

@[simp]
theorem running_concat
    (outputs : List Output)
    (output : Output) :
    running (outputs ++ [output]) = runningAfter (running outputs) output := by
  simp [running]

/-- What does not concern the users of the transport neither starts nor stops it. -/
theorem running_append
    (outputs : List Output)
    {more : List Output}
    (quiet : ∀ output ∈ more, output.concernsUsers = false) :
    running (outputs ++ more) = running outputs := by
  induction more using List.reverseRecOn with
  | nil => rw [List.append_nil]
  | append_singleton earlier output inductionHypothesis =>
      have last : output.concernsUsers = false := quiet output (by simp)
      rw [← List.append_assoc, running_concat,
        inductionHypothesis fun other member => quiet other (List.mem_append_left _ member)]
      cases output <;> first | rfl | cases last

end Output

namespace Progress

/-- What happened in between concerned no user of the transport. -/
structure Aside (next progress : Progress) : Prop where
  users : next.agent.users = progress.agent.users
  link : next.agent.link = progress.agent.link
  outputs : ∃ more, next.outputs = progress.outputs ++ more ∧
    ∀ output ∈ more, output.concernsUsers = false

theorem Quiet.aside
    {next progress : Progress}
    (quiet : Quiet next progress) :
    Aside next progress :=
  ⟨quiet.users, quiet.link, quiet.outputs⟩

theorem Aside.silent
    {next progress : Progress}
    (users : next.agent.users = progress.agent.users)
    (link : next.agent.link = progress.agent.link)
    (outputs : next.outputs = progress.outputs) :
    Aside next progress :=
  ⟨users, link, [], by rw [outputs, List.append_nil], by simp⟩

/-- What has been put out tells whether the transport is started, which it is while it has users. -/
structure Wired (progress : Progress) : Prop where
  powered : progress.Powered
  shown : Output.running progress.outputs = progress.agent.link.running

namespace Wired

variable {progress next : Progress}

theorem aside
    (wired : progress.Wired)
    (aside : Aside next progress) :
    next.Wired := by
  obtain ⟨more, outputs, quiet⟩ := aside.outputs
  refine ⟨wired.powered.of_same aside.users aside.link, ?_⟩
  rw [outputs, Output.running_append _ quiet, wired.shown, aside.link]

theorem acquire (wired : progress.Wired) : progress.acquire.2.Wired := by
  refine ⟨wired.powered.acquire, ?_⟩
  have ends := progress.acquires_acquire
  generalize progress.acquire = result at ends ⊢
  cases ends with
  | refused | joined => exact (Output.running_concat ..).trans wired.shown
  | started => exact Output.running_concat ..

theorem release (wired : progress.Wired) : progress.release.Wired := by
  refine ⟨wired.powered.release.1, ?_⟩
  have ends := progress.releases_release
  generalize progress.release = next at ends ⊢
  cases ends with
  | overdrawn | left => exact (Output.running_concat ..).trans wired.shown
  | stopped => exact Output.running_concat ..

theorem releaseMany
    (wired : progress.Wired)
    (count : Nat) :
    (progress.releaseMany count).Wired := by
  induction count generalizing progress with
  | zero => exact wired
  | succ count inductionHypothesis => exact inductionHypothesis wired.release

/-- Who has joined finds the transport started. -/
theorem running_of_acquire
    (wired : progress.Wired)
    (acquired : progress.acquire = (.ok (), next)) :
    next.Wired ∧ Output.running next.outputs = true := by
  have after := wired.acquire
  rw [acquired] at after
  obtain ⟨powered, users⟩ := wired.powered.of_acquire acquired
  refine ⟨after, ?_⟩
  rw [after.shown, powered, users]
  exact decide_eq_true (Nat.succ_pos _)

/-- Whatever an errand does, what is put out tells whether the transport is started. -/
theorem keptByCallbacks : KeptByCallbacks Wired where
  quiet quiet wired := wired.aside quiet.aside
  disposes {progress} id wired := by
    have ends := progress.disposes_dispose id
    generalize progress.dispose id = next at ends
    cases ends with
    | unchanged => exact wired
    | left => exact (wired.aside (.silent rfl rfl rfl) : Wired (progress.enterSubscriber _)).release
  subscribes {progress} category wired := by
    have ends := progress.subscribes_subscribe category
    generalize (progress.subscribe category).2 = next at ends
    cases ends with
    | disposed => exact wired
    | notStarted refused =>
        have failed := wired.acquire
        rwa [refused] at failed
    | refused success =>
        have acquired := (wired.running_of_acquire success).1
        exact (acquired.aside (.silent rfl rfl rfl) :
          Wired ((activate _).enterSubscriber _)).release
    | @joined acquired id isFirst next success =>
        have entered : Wired (acquired.activate.enterSubscriber next) :=
          (wired.running_of_acquire success).1.aside (.silent rfl rfl rfl)
        cases isFirst with
        | false => exact entered
        | true => exact entered.aside (Quiet.send _ _).aside
  publishes {progress} now id category connection attributes wired := by
    have quiet := progress.quiet_publish now id category connection attributes
    have obtained : progress.obtainPublisher.2.Wired := by
      have ends := progress.obtains_obtainPublisher
      generalize progress.obtainPublisher = obtained at ends
      cases ends with
      | disposed => exact wired
      | notStarted refused =>
          have failed := wired.acquire
          rwa [refused] at failed
      | found => exact wired
      | made _ success =>
          exact (wired.running_of_acquire success).1.aside (.silent rfl rfl rfl)
    exact obtained.aside quiet.aside

end Wired

end Progress

namespace Moment

open Progress (Aside Wired)

section Aside

variable (moment : Moment)

theorem aside_deliver : Aside moment.deliver.progress moment.progress := by
  unfold deliver
  split <;> exact .silent rfl rfl rfl

theorem aside_dispose : Aside moment.dispose.progress moment.progress := by
  have quiet := Progress.quiet_stopPublisher
    { moment.progress with agent := { moment.progress.agent with lifecycle := .disposed } }
  have withdrawn : Aside moment.progress.withdraw moment.progress :=
    ⟨quiet.users, quiet.link, quiet.outputs⟩
  unfold dispose
  split
  next => exact .silent rfl rfl rfl
  next =>
    split
    next => exact withdrawn
    next => exact ⟨withdrawn.users, withdrawn.link, withdrawn.outputs⟩

/-- What is to be done concerns no user of the transport, or it is some users that leave. -/
theorem aside_proceed :
    Aside moment.proceed.progress moment.progress ∨
      ∃ count, moment.proceed.progress = moment.progress.releaseMany count := by
  obtain ⟨progress, duties, published⟩ := moment
  cases duties with
  | nil => exact Or.inl (.silent rfl rfl rfl)
  | cons duty rest =>
      cases duty with
      | tell subscription =>
          left
          change Aside (Moment.tell ⟨progress, rest, published⟩ subscription).progress progress
          unfold tell
          split
          next => exact .silent rfl rfl rfl
          next => split <;> exact .silent rfl rfl rfl
      | run subscription position =>
          left
          change Aside (progress.startCallback subscription position) progress
          unfold Progress.startCallback
          dsimp only
          split
          next => exact .silent rfl rfl rfl
          next => exact ⟨rfl, rfl, _, rfl, by simp [Output.concernsUsers]⟩
      | conclude subscription =>
          left
          change Aside (Moment.conclude ⟨progress, rest, published⟩ subscription).progress progress
          unfold conclude
          split <;> exact .silent rfl rfl rfl
      | repay count => exact Or.inr ⟨count, rfl⟩

end Aside

/-- Whatever happens, what is put out tells whether the transport is started. -/
theorem wired_after
    {moment : Moment}
    (wired : moment.progress.Wired)
    (occurrence : Occurrence) :
    (moment.after occurrence).progress.Wired := by
  have kept := Wired.keptByCallbacks
  cases occurrence with
  | errand errand =>
      change (moment.run errand).progress.Wired
      rcases moment.run_cases errand with ⟨now, rfl⟩ | ⟨published, isRun⟩
      · exact wired.aside moment.aside_deliver
      · rw [isRun]
        exact kept.run errand wired
  | dispose => exact wired.aside moment.aside_dispose
  | release => exact wired.release
  | report callback outcome => exact wired.aside (Progress.Quiet.emit _ rfl).aside
  | ask callback agent request => exact wired.aside (Progress.Quiet.emit _ rfl).aside
  | proceed =>
      change moment.proceed.progress.Wired
      rcases moment.aside_proceed with aside | ⟨count, repaid⟩
      · exact wired.aside aside
      · rw [repaid]
        exact wired.releaseMany count

theorem wired_leads
    {settings : AgentSettings}
    {attempts : List (Option TransportError)}
    {moment : Moment}
    (reached : Leads (.new settings attempts) moment) :
    moment.progress.Wired := by
  obtain ⟨occurrences, rfl⟩ := reached
  exact List.foldlRecOn (motive := fun moment : Moment => moment.progress.Wired) occurrences _
    ⟨rfl, rfl⟩ fun _ wired occurrence _ => wired_after wired occurrence

end Moment

end Discovery
