import Discovery.Proofs.Agent.Closing
import Discovery.Proofs.Subscriber.Consistency

namespace Discovery.Moment

/-!
# Consistent tables of an agent

Callbacks run in the middle of a delivery round and of a disposal, and they may
subscribe and dispose.  What happens to the subscriber of an agent is still one
step after another, so its tables are consistent at every moment, and they are
empty from its disposal on (`consistent_of_operations`).
-/

open Subscriber (Consistent Cleared Concordant)

/-- The subscriber of an agent is concordant at every moment. -/
theorem concordant_leads
    {settings : AgentSettings}
    {attempts : List (Option TransportError)}
    {moment : Moment}
    (reached : Leads (.new settings attempts) moment) :
    moment.agent.subscriberOrNew.Concordant := by
  obtain ⟨occurrences, rfl⟩ := reached
  refine (List.foldlRecOn
    (motive := fun moment : Moment => moment.Readable ∧ moment.agent.subscriberOrNew.Concordant)
    occurrences _ ⟨.new settings attempts, .new⟩ fun moment kept occurrence _ => ?_).2
  obtain ⟨_, _, effect, _⟩ := moment.effect_after occurrence
  exact ⟨kept.1.after occurrence,
    kept.2.step effect.subscriber fun ⟨_, due⟩ => kept.1.ended due⟩

/-- An agent that is disposed has been closed by its disposal. -/
theorem closed_of_disposed
    {settings : AgentSettings}
    {attempts : List (Option TransportError)}
    {moment : Moment}
    (reached : Leads (.new settings attempts) moment)
    (disposed : moment.agent.lifecycle = .disposed) :
    moment.Closed := by
  obtain ⟨occurrences, rfl⟩ := reached
  refine (List.foldlRecOn
    (motive := fun moment : Moment => Leads (.new settings attempts) moment ∧
      (moment.agent.lifecycle = .disposed → moment.Closed))
    occurrences _ ⟨.refl _, nofun⟩ fun moment kept occurrence _ => ?_).2 disposed
  obtain ⟨reached, closed⟩ := kept
  refine ⟨reached.trans (.step moment occurrence), fun disposed => ?_⟩
  obtain ⟨_, _, effect, _⟩ := moment.effect_after occurrence
  by_cases wasDisposed : moment.agent.lifecycle = .disposed
  · exact (closed wasDisposed).after occurrence
  · have isDisposal := (effect.lifecycle.mp disposed).resolve_left wasDisposed
    rw [show occurrence = .dispose from isDisposal]
    exact .dispose reached wasDisposed

/-- A closed agent that had a subscription has shut its subscriber; otherwise there was nothing. -/
theorem Closed.cleared
    {moment : Moment}
    (closed : moment.Closed)
    (consistent : moment.agent.subscriberOrNew.Consistent) :
    moment.agent.subscriberOrNew.Cleared := by
  cases stopped : moment.agent.subscriberOrNew.stopped with
  | true => exact consistent.cleared stopped
  | false =>
      have none : ∀ name, moment.agent.subscriberOrNew.categories.find? name = none := by
        intro name
        refine Option.eq_none_iff_forall_ne_some.mpr fun category found => ?_
        obtain ⟨id, registered⟩ := consistent.present.mp (Option.isSome_of_eq_some found)
        obtain ⟨_, known, isKnown, _⟩ := consistent.registered.mp registered
        exact absurd (closed.stopped isKnown) (Bool.eq_false_iff.mp stopped)
      refine ⟨Table.ext_find? none, Table.ext_find? fun id => ?_⟩
      refine Option.eq_none_iff_forall_ne_some.mpr fun name indexed => ?_
      obtain ⟨_, category, found, _⟩ := consistent.indexed.mp indexed
      rw [none] at found
      cases found

theorem cleared_of_disposed
    {settings : AgentSettings}
    {attempts : List (Option TransportError)}
    {moment : Moment}
    (reached : Leads (.new settings attempts) moment)
    (disposed : moment.agent.lifecycle = .disposed) :
    moment.agent.subscriberOrNew.Cleared :=
  (closed_of_disposed reached disposed).cleared (concordant_leads reached).consistent

/-- A call that disposes leaves the agent disposed, whatever comes after it. -/
theorem disposed_of_call
    {made : List Call}
    {call : Call}
    (isMade : call ∈ made)
    (disposes : call.disposes = true)
    (tenancy : Tenancy) :
    (made.foldl Tenancy.call tenancy).progress.agent.lifecycle = .disposed := by
  obtain ⟨before, further, rfl⟩ := List.append_of_mem isMade
  rw [List.foldl_append, List.foldl_cons]
  generalize before.foldl Tenancy.call tenancy = between
  obtain ⟨later, returned⟩ := Leads.disposal between disposes []
  obtain ⟨_, ended⟩ := Leads.calls further (between.call call) later
  obtain ⟨_, _, effect, _⟩ := (Moment.mk between.progress [] []).effect_after .dispose
  exact InService.disposed_leads (effect.lifecycle.mpr (.inr rfl)) (returned.trans ended)

/--
The tables of a subscriber are consistent after every sequence of operations,
and empty once it was stopped.  So are those of an agent at every moment, also
while callbacks run, and after every sequence of calls: they are consistent, and
empty once it was disposed.
-/
theorem consistent_of_operations
    (settings : AgentSettings)
    (attempts : List (Option TransportError)) :
    (∀ {operations : List Subscriber.Operation} {subscriber : Subscriber},
      subscriber = operations.foldl Subscriber.carryOut .new →
        subscriber.Consistent ∧
          (∀ {name id}, subscriber.Registered name id ↔ subscriber.OpenIn name id) ∧
          (.stop ∈ operations → subscriber.Cleared)) ∧
    (∀ {moment : Moment}, Leads (.new settings attempts) moment →
      moment.agent.subscriberOrNew.Consistent ∧
        (moment.agent.lifecycle = .disposed → moment.agent.subscriberOrNew.Cleared)) ∧
    ∀ {made : List Call} {tenancy : Tenancy},
      tenancy = made.foldl Tenancy.call (.new settings attempts) →
        tenancy.progress.agent.subscriberOrNew.Consistent ∧
          ∀ {call}, call ∈ made → call.disposes = true →
            tenancy.progress.agent.subscriberOrNew.Cleared := by
  refine ⟨?_, fun reached => ?_, ?_⟩
  · rintro operations subscriber rfl
    exact Subscriber.consistent_foldl_carryOut operations
  · exact ⟨(concordant_leads reached).consistent, cleared_of_disposed reached⟩
  · rintro made tenancy rfl
    obtain ⟨_, reached⟩ := Leads.calls made (.new settings attempts) []
    exact ⟨(concordant_leads reached).consistent, fun isMade disposes =>
      cleared_of_disposed reached (disposed_of_call isMade disposes _)⟩

/--
A resource that is held in one category is announced in another; the first
category ends with its last subscription, and then the resource can be held in
the other.
-/
theorem consistent_of_operations_moved :
    let id : ResourceId := ⟨List.replicate 16 1, List.length_replicate⟩
    let inRoom : Wire.Message := .hello ⟨"Room", "here", 30, ∅⟩
    let inDesk : Wire.Message := .hello ⟨"Desk", "here", 30, ∅⟩
    let operations : List Subscriber.Operation :=
      [ .subscribe "Room", .subscribe "Room", .subscribe "Desk", .handle 0 id inRoom
      , .handle 1 id inDesk, .deliver, .dispose 1, .dispose 2, .handle 2 id inDesk ]
    let subscriber := operations.foldl Subscriber.carryOut .new
    let stopped :=
      (operations ++ [Subscriber.Operation.stop, .subscribe "Room"]).foldl Subscriber.carryOut .new
    let made : List Call :=
      [ .errand (.subscribe "Room")
      , .errand (.listen 1 ⟨"mover", [[.dispose 1, .perform (.subscribe "other" "Desk")]]⟩)
      , .errand (.receive 0 ⟨id, inRoom.encode, .endpoint 1⟩), .errand (.deliver 0)
      , .errand (.receive 1 ⟨id, inDesk.encode, .endpoint 1⟩) ]
    let tenancy := made.foldl Tenancy.call (.new ⟨30, 50⟩ [])
    subscriber.index.entries = [(id, "Desk")] ∧ subscriber.registrations = [3] ∧
      subscriber.Consistent ∧ stopped.Cleared ∧
      tenancy.progress.agent.subscriberOrNew.index.entries = [(id, "Desk")] ∧
      tenancy.progress.agent.subscriberOrNew.Consistent ∧
      (.new ⟨30, 50⟩ [] : Moment).agent.subscriberOrNew.Consistent ∧
      ((made ++ [Call.dispose 2 1]).foldl Tenancy.call
        (.new ⟨30, 50⟩ [])).progress.agent.subscriberOrNew.Cleared := by
  intro id inRoom inDesk operations subscriber stopped made tenancy
  obtain ⟨operated, moments, called⟩ := consistent_of_operations ⟨30, 50⟩ []
  have stops : Subscriber.Operation.stop ∈
      operations ++ [.stop, .subscribe "Room"] := by simp
  have isMade : Call.dispose 2 1 ∈ made ++ [.dispose 2 1] := by simp
  exact ⟨by decide +kernel, by decide +kernel, (operated rfl).1, (operated rfl).2.2 stops,
    by decide +kernel, (called rfl).1, (moments (.refl _)).1, (called rfl).2 isMade rfl⟩

end Discovery.Moment
