import Discovery.Proofs.Agent.Effects

namespace Discovery

/-!
# When an agent says bye-bye

Until an agent is disposed it sends no bye-bye, and its publisher holds what was
published (`Moment.InService`).  The disposal that takes effect sends one for
each of these resources, and afterwards nothing is left to speak of
(`Moment.Spent`), so nothing is ever sent again (`Moment.sent_of_dispose`).
-/

namespace Output.Follows

variable {starting : Nat → Prop} {asks : String → Prop}
variable {lifecycle : Lifecycle} {said : List Outgoing}
variable {outgoing : Outgoing}

/-- What is sent has been said, or is the query of a running agent. -/
theorem sent (follows : Follows starting lifecycle said asks (.sent outgoing)) :
    outgoing ∈ said ∨ lifecycle ≠ .disposed ∧
      ∃ category, asks category ∧
        outgoing = .broadcast .nil (Wire.Message.query category).encode := by
  cases follows with
  | users passes => cases passes.concerns
  | report reports => cases reports
  | said isSaid => exact .inl isSaid
  | @query category asked running => exact .inr ⟨running, category, asked, rfl⟩

end Output.Follows

namespace Moment

/-- An agent that is not disposed has sent no bye-bye, and holds what was published. -/
structure InService (moment : Moment) : Prop where
  running : moment.agent.lifecycle ≠ .disposed
  holds : moment.agent.publisherOrNew.Holds moment.published
  noFarewell : ∀ {outgoing}, .sent outgoing ∈ moment.outputs → ¬ outgoing.IsFarewell

namespace InService

theorem new (settings : AgentSettings) (attempts : List (Option TransportError)) :
    InService (.new settings attempts) :=
  ⟨nofun, ⟨rfl, nofun, fun {_} => ⟨nofun, nofun⟩⟩, nofun⟩

/-- Whatever happens to an agent leaves it in service unless it is disposed by it. -/
theorem after
    {moment : Moment}
    (inService : moment.InService)
    {occurrence : Occurrence}
    (noDisposal : occurrence ≠ .dispose) :
    (moment.after occurrence).InService := by
  obtain ⟨said, accepted, effect, published⟩ := moment.effect_after occurrence
  obtain ⟨more, outputs, follows⟩ := effect.outputs
  refine ⟨fun disposed => ?_, ?_, fun {outgoing} sent => ?_⟩
  · rcases effect.lifecycle.mp disposed with wasDisposed | stopping
    · exact inService.running wasDisposed
    · exact noDisposal stopping
  · rw [published]
    exact effect.publisher.holds noDisposal inService.holds
  · rw [show (moment.after occurrence).outputs = _ from outputs] at sent
    rcases List.mem_append.mp sent with before | isMore
    · exact inService.noFarewell before
    rcases (follows _ isMore).sent with isSaid | ⟨_, category, _, rfl⟩
    · exact effect.publisher.not_isFarewell noDisposal isSaid
    · intro farewell
      cases Outgoing.isFarewell_of_encode
        (show Outgoing.payload _ = (Wire.Message.query category).encode from rfl) farewell

/-- An agent that is disposed stays so. -/
theorem disposed_leads
    {first last : Moment}
    (disposed : first.agent.lifecycle = .disposed)
    (leads : Leads first last) :
    last.agent.lifecycle = .disposed := by
  obtain ⟨occurrences, rfl⟩ := leads
  refine List.foldlRecOn (motive := fun moment : Moment => moment.agent.lifecycle = .disposed)
    occurrences _ disposed fun moment disposed occurrence _ => ?_
  obtain ⟨_, _, effect, _⟩ := moment.effect_after occurrence
  exact effect.lifecycle.mpr (.inl disposed)

/-- An agent that has not been disposed is in service. -/
theorem leads
    {first last : Moment}
    (inService : first.InService)
    (leads : Leads first last)
    (running : last.agent.lifecycle ≠ .disposed) :
    last.InService := by
  obtain ⟨occurrences, rfl⟩ := leads
  induction occurrences generalizing first with
  | nil => exact inService
  | cons occurrence rest inductionHypothesis =>
      refine inductionHypothesis (inService.after ?_) running
      rintro rfl
      obtain ⟨_, _, effect, _⟩ := first.effect_after .dispose
      exact running (disposed_leads (effect.lifecycle.mpr (.inr rfl)) ⟨rest, rfl⟩)

/-- Disposing an agent in service withdraws what it has published. -/
theorem dispose_eq
    {moment : Moment}
    (inService : moment.InService) :
    moment.dispose.agent.lifecycle = .disposed ∧
      moment.dispose.agent.publisher = moment.progress.withdraw.agent.publisher ∧
        moment.dispose.outputs = moment.progress.withdraw.outputs := by
  have lifecycle := Progress.Effect.lifecycle_withdraw moment.progress
  unfold dispose
  rw [if_neg inService.running]
  split <;> exact ⟨lifecycle, rfl, rfl⟩

/-- One bye-bye is sent for each of the resources. -/
theorem outputs_dispose
    {moment : Moment}
    (inService : moment.InService) :
    moment.dispose.outputs =
      moment.outputs ++
        (moment.agent.publisherOrNew.owned.shuffledKeys moment.agent.publisherOrNew.front).map
          fun id => .sent (.broadcast id Wire.Message.byeBye.encode) := by
  have said := (Publisher.stop_of_holds inService.holds).1
  obtain ⟨_, _, outputs⟩ := inService.dispose_eq
  rw [outputs, Progress.Effect.outputs_withdraw]
  refine congrArg (moment.outputs ++ ·) ?_
  rw [show moment.progress.agent.publisherOrNew.stop.1 = _ from said, List.map_map]
  rfl

end InService

/-- An agent is disposed, and has nothing left to speak of. -/
structure Spent (moment : Moment) : Prop where
  disposed : moment.agent.lifecycle = .disposed
  nothing : moment.agent.publisherOrNew.owned = ∅

namespace Spent

/-- A disposal leaves nothing. -/
theorem dispose
    {moment : Moment}
    (inService : moment.InService) :
    moment.dispose.Spent := by
  obtain ⟨disposed, publisher, _⟩ := inService.dispose_eq
  refine ⟨disposed, ?_⟩
  have stopped := (Publisher.stop_of_holds inService.holds).2
  rw [Agent.publisherOrNew, publisher]
  unfold Progress.withdraw Progress.stopPublisher
  dsimp only
  cases known : moment.progress.agent.publisher with
  | none => rfl
  | some publisher =>
      rw [Agent.publisherOrNew, show moment.agent.publisher = _ from known] at stopped
      exact stopped

/-- Whatever happens to a spent agent, others notice nothing. -/
theorem after
    {moment : Moment}
    (spent : moment.Spent)
    (occurrence : Occurrence) :
    (moment.after occurrence).Spent ∧
      ∃ more, (moment.after occurrence).outputs = moment.outputs ++ more ∧
        ∀ output ∈ more, output.isOutward = false := by
  obtain ⟨said, accepted, effect, _⟩ := moment.effect_after occurrence
  obtain ⟨more, outputs, follows⟩ := effect.outputs
  have none : accepted = [] :=
    Decidable.byContradiction fun some => effect.running some spent.disposed
  subst none
  obtain ⟨rfl, nothing⟩ := effect.publisher.silent spent.nothing
  refine ⟨⟨effect.lifecycle.mpr (.inl spent.disposed), nothing⟩, more, outputs, ?_⟩
  intro output isMore
  cases follows output isMore with
  | users passes =>
      obtain ⟨concerns, running⟩ := passes
      cases output with
      | started | startFailed | joined => exact absurd spent.disposed (running rfl)
      | left | stopped | overdrawn => rfl
      | sent | updated | acted | asked => cases concerns
  | report reports =>
      cases output with
      | acted | asked => rfl
      | started | startFailed | joined | left | stopped | overdrawn | sent | updated =>
          cases reports
  | updated => rfl
  | said isSaid => cases isSaid
  | query _ running => exact absurd spent.disposed running

theorem leads
    {first last : Moment}
    (spent : first.Spent)
    (leads : Leads first last) :
    last.Spent ∧
      ∃ more, last.outputs = first.outputs ++ more ∧
        ∀ output ∈ more, output.isOutward = false := by
  obtain ⟨occurrences, rfl⟩ := leads
  induction occurrences generalizing first with
  | nil => exact ⟨spent, [], (List.append_nil _).symm, nofun⟩
  | cons occurrence rest inductionHypothesis =>
      obtain ⟨next, more, outputs, silent⟩ := spent.after occurrence
      obtain ⟨last, further, furtherOutputs, furtherSilent⟩ := inductionHypothesis next
      refine ⟨last, more ++ further, ?_, fun output isMore => ?_⟩
      · rw [List.foldl_cons, furtherOutputs, outputs, List.append_assoc]
      · exact (List.mem_append.mp isMore).elim (silent output) (furtherSilent output)

end Spent

/-- What is sent until a disposal, by it and after it. -/
structure Farewells (published : List ResourceId) (before all : List Output) : Prop where
  noneBefore : ∀ outgoing, .sent outgoing ∈ before → ¬ outgoing.IsFarewell
  /-- One bye-bye is sent for each resource that was published, and nothing afterwards. -/
  oneEach : ∃ (ids : List ResourceId) (more : List Output),
    ids.Nodup ∧ (∀ id, id ∈ ids ↔ id ∈ published) ∧
      all = (before ++ ids.map fun id => .sent (.broadcast id Wire.Message.byeBye.encode)) ++
        more ∧
      ∀ outgoing, .sent outgoing ∉ more

/-- The disposal that takes effect bids farewell, and it is the last that is heard of the agent. -/
theorem InService.farewells
    {moment last : Moment}
    (inService : moment.InService)
    (leads : Leads moment.dispose last) :
    Farewells moment.published moment.outputs last.outputs := by
  obtain ⟨_, more, outputs, silent⟩ := (Spent.dispose inService).leads leads
  refine ⟨fun outgoing => inService.noFarewell,
    moment.agent.publisherOrNew.owned.shuffledKeys moment.agent.publisherOrNew.front, more,
    Table.nodup_shuffledKeys _ _, fun id => ?_, ?_,
    fun outgoing isMore => Bool.noConfusion (silent _ isMore)⟩
  · rw [← inService.holds.owned, Table.mem_shuffledKeys, Table.mem_keys_iff,
      Option.isSome_iff_exists]
  · rw [outputs, inService.outputs_dispose]

/--
An agent sends no bye-bye until it is disposed.  The disposal sends one for each
resource that was published and none for any other, and afterwards nothing is
sent any more, whatever happens.  This holds at every moment, and so for the
call that disposes an agent and whatever calls come before and after it.
-/
theorem sent_of_dispose (settings : AgentSettings) (attempts : List (Option TransportError)) :
    (∀ {moment last : Moment}, Leads (.new settings attempts) moment →
      moment.agent.lifecycle ≠ .disposed → Leads (moment.after .dispose) last →
        Farewells moment.published moment.outputs last.outputs) ∧
      ∀ {before further : List Call} {disposal : Call}, disposal.disposes = true →
        ∀ {tenancy : Tenancy}, tenancy = before.foldl Tenancy.call (.new settings attempts) →
          tenancy.progress.agent.lifecycle ≠ .disposed →
            ∃ published, Leads (.new settings attempts) ⟨tenancy.progress, [], published⟩ ∧
              Farewells published tenancy.progress.outputs
                (further.foldl Tenancy.call (tenancy.call disposal)).progress.outputs := by
  constructor
  · intro moment last reached running leads
    exact ((InService.new settings attempts).leads reached running).farewells leads
  · rintro before further disposal disposes tenancy rfl running
    obtain ⟨published, reached⟩ := Leads.calls before (.new settings attempts) []
    obtain ⟨between, disposed⟩ := Leads.disposal _ disposes published
    obtain ⟨later, ended⟩ := Leads.calls further _ between
    have inService := (InService.new settings attempts).leads reached running
    exact ⟨published, reached, inService.farewells (disposed.trans ended)⟩

/-- A resource is announced and withdrawn; a query that comes later gets no answer. -/
theorem sent_of_dispose_published :
    let id : ResourceId := ⟨List.replicate 16 1, List.length_replicate⟩
    let query : Wire.Message := .query "Room"
    let tenancy := [Call.errand (.publish 0 id "Room" "here" ∅), .errand (.announce 0)].foldl
      Tenancy.call (.new ⟨30, 50⟩ [])
    let further : List Call :=
      [ .errand (.receive 1 ⟨.nil, query.encode, .endpoint 1⟩), .drop 2 1
      , .errand (.announce second) ]
    tenancy.progress.agent.lifecycle ≠ .disposed ∧
      .sent (.broadcast id Wire.Message.byeBye.encode) ∈
        (tenancy.call (.dispose 1 0)).progress.outputs ∧
      (∃ published, Leads (.new ⟨30, 50⟩ []) ⟨tenancy.progress, [], published⟩ ∧
        Farewells published tenancy.progress.outputs
          (further.foldl Tenancy.call (tenancy.call (.dispose 1 0))).progress.outputs) ∧
      Farewells [] [] ((Moment.new ⟨30, 50⟩ []).after .dispose).outputs := by
  intro id query tenancy further
  have running : tenancy.progress.agent.lifecycle ≠ .disposed := by decide +kernel
  have idle : (Moment.new ⟨30, 50⟩ []).agent.lifecycle ≠ .disposed := by decide +kernel
  have bids := sent_of_dispose ⟨30, 50⟩ []
  exact ⟨running, by decide +kernel, bids.2 rfl rfl running, bids.1 (.refl _) idle (.refl _)⟩

end Moment

end Discovery
