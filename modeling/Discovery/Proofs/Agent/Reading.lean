import Discovery.Proofs.Agent.Effects

namespace Discovery

/-!
# What a reader gets

A list that a subscription keeps is told apart from the present one by a serial
number only.  At every moment of an agent its subscriber is readable, so an open
subscription returns the present resources of its category, whether it has kept
them or makes them anew (`Moment.read_eq_snapshot`); while it is told for the
last time it returns none.
-/

namespace Duty

/-- To owe one more use leaves the other duties as they are. -/
theorem filter_owe
    {keep : Duty → Bool}
    (ignores : ∀ count, keep (.repay count) = false)
    (duties : List Duty) :
    (owe duties).filter keep = duties.filter keep := by
  induction duties with
  | nil => rfl
  | cons duty rest inductionHypothesis =>
      cases duty with
      | repay count => simp only [owe, List.filter_cons, ignores, Bool.false_eq_true, if_false]
      | tell | run | conclude => simp only [owe, List.filter_cons, inductionHypothesis]

theorem mem_of_mem_owe
    {subscription : Nat}
    {duties : List Duty}
    (due : .conclude subscription ∈ owe duties) :
    .conclude subscription ∈ duties := by
  have kept : .conclude subscription ∈ (owe duties).filter (· == .conclude subscription) :=
    List.mem_filter.mpr ⟨due, beq_self_eq_true (Duty.conclude subscription)⟩
  rw [filter_owe (fun _ => rfl)] at kept
  exact (List.mem_filter.mp kept).1

end Duty

namespace Moment

/-- Subscriptions are concluded only after the subscriber has been shut. -/
structure Readable (moment : Moment) : Prop where
  subscriber : moment.agent.subscriberOrNew.Readable
  ended : ∀ {id}, .conclude id ∈ moment.duties → moment.agent.subscriberOrNew.stopped = true

/-- A duty to conclude a subscription is an old one, or the subscriber has just been shut. -/
theorem conclude_mem_after
    {moment : Moment}
    {occurrence : Occurrence}
    {id : Nat}
    (due : .conclude id ∈ (moment.after occurrence).duties) :
    .conclude id ∈ moment.duties ∨
      (moment.after occurrence).agent.subscriberOrNew.stopped = true := by
  cases occurrence with
  | errand errand =>
      refine .inl ?_
      change .conclude id ∈ (moment.run errand).duties at due
      rcases moment.run_cases errand with ⟨now, rfl⟩ | ⟨published, isRun⟩
      · change .conclude id ∈ moment.deliver.duties at due
        unfold deliver at due
        split at due
        next => exact due
        next =>
          refine (List.mem_append.mp due).resolve_left fun told => ?_
          obtain ⟨_, _, isTell⟩ := List.mem_map.mp told
          cases isTell
      · rwa [isRun] at due
  | dispose =>
      change .conclude id ∈ moment.dispose.duties at due
      change _ ∨ moment.dispose.agent.subscriberOrNew.stopped = true
      unfold dispose at due ⊢
      split at due
      next => exact .inl due
      next notDisposed =>
        rw [if_neg notDisposed]
        split at due
        next => exact .inl due
        next subscriber known =>
          exact .inr (Subscriber.Step.stopped_shut subscriber)
  | release | report | ask => exact .inl due
  | proceed =>
      refine .inl ?_
      obtain ⟨progress, duties, published⟩ := moment
      cases duties with
      | nil => exact due
      | cons duty rest =>
          refine List.mem_cons_of_mem duty ?_
          cases duty with
          | tell subscription =>
              change .conclude id ∈ (Moment.tell ⟨progress, rest, published⟩ subscription).duties
                at due
              unfold tell at due
              split at due
              next => exact due
              next =>
                split at due
                next => exact due
                next =>
                  refine (List.mem_append.mp due).resolve_left fun ran => ?_
                  obtain ⟨_, _, isRun⟩ := List.mem_map.mp ran
                  cases isRun
          | run | repay => exact due
          | conclude subscription =>
              change .conclude id ∈
                (Moment.conclude ⟨progress, rest, published⟩ subscription).duties at due
              unfold conclude at due
              split at due
              next => exact due
              next =>
                dsimp only at due
                split at due
                next => exact Duty.mem_of_mem_owe due
                next => exact due

namespace Readable

theorem new (settings : AgentSettings) (attempts : List (Option TransportError)) :
    Readable (.new settings attempts) :=
  ⟨.new, nofun⟩

/-- Whatever happens keeps the lists right. -/
theorem after
    {moment : Moment}
    (readable : moment.Readable)
    (occurrence : Occurrence) :
    (moment.after occurrence).Readable := by
  obtain ⟨_, _, effect, _⟩ := moment.effect_after occurrence
  refine ⟨readable.subscriber.step effect.subscriber fun ⟨_, due⟩ => readable.ended due, ?_⟩
  intro id due
  rcases conclude_mem_after due with wasDue | stopped
  · exact effect.subscriber.stopped (readable.ended wasDue)
  · exact stopped

theorem leads
    {first last : Moment}
    (readable : first.Readable)
    (leads : Leads first last) :
    last.Readable := by
  obtain ⟨occurrences, rfl⟩ := leads
  exact List.foldlRecOn occurrences _ readable
    fun _ readable occurrence _ => readable.after occurrence

end Readable

/-- Reading an agent is reading its subscriber. -/
theorem resources_read (agent : Agent) (id : Nat) :
    (agent.read id).1.resources = (agent.subscriberOrNew.read id).1.resources := by
  unfold Agent.read Agent.subscriberOrNew
  cases agent.subscriber with
  | none => rfl
  | some subscriber => rfl

/--
Reading a subscription gives the resources of its category as they are now: each
one that is known, once, in the order of the identifiers.
-/
structure ReadsPresent (agent : Agent) (id : Nat) (category : String) : Prop where
  fresh : (agent.read id).1.resources = agent.subscriberOrNew.snapshot category
  ascending : (agent.read id).1.resources.Pairwise
    fun first second => compare first.id second.id = .lt
  known : ∀ resource, resource ∈ (agent.read id).1.resources ↔
    ∃ entry, agent.subscriberOrNew.known? category resource.id = some (some entry) ∧
      entry.resource = resource

theorem Readable.readsPresent
    {moment : Moment}
    (readable : moment.Readable)
    {id : Nat}
    {subscription : Subscription}
    (found : moment.agent.subscription? id = some subscription)
    (isOpen : subscription.disposed = false) :
    ReadsPresent moment.agent id subscription.category := by
  rw [Agent.subscription?_eq] at found
  have same : (moment.agent.read id).1.resources =
      moment.agent.subscriberOrNew.snapshot subscription.category :=
    (resources_read moment.agent id).trans (readable.subscriber.resources_read found isOpen)
  refine ⟨same, ?_, fun resource => ?_⟩
  · rw [same]
    exact readable.subscriber.ascending_snapshot _
  · rw [same]
    exact readable.subscriber.mem_snapshot

/--
Whatever has happened before, an open subscription returns the resources of its
category as they are now, and none while it is told for the last time.  This
holds at every moment, and so between any calls.
-/
theorem read_eq_snapshot (settings : AgentSettings) (attempts : List (Option TransportError)) :
    (∀ {moment : Moment} {id : Nat} {subscription : Subscription},
      Leads (.new settings attempts) moment →
        moment.agent.subscription? id = some subscription → subscription.disposed = false →
          ReadsPresent moment.agent id subscription.category ∧
            (.conclude id ∈ moment.duties → (moment.agent.read id).1.resources = [])) ∧
      ∀ {made : List Call} {tenancy : Tenancy} {id : Nat} {subscription : Subscription},
        tenancy = made.foldl Tenancy.call (.new settings attempts) →
          tenancy.progress.agent.subscription? id = some subscription →
            subscription.disposed = false →
              ReadsPresent tenancy.progress.agent id subscription.category := by
  have readable : ∀ {moment : Moment}, Leads (.new settings attempts) moment → moment.Readable :=
    fun reached => (Readable.new settings attempts).leads reached
  constructor
  · intro moment id subscription reached found isOpen
    have present := (readable reached).readsPresent found isOpen
    refine ⟨present, fun due => ?_⟩
    rw [present.fresh]
    exact (readable reached).subscriber.snapshot_of_stopped ((readable reached).ended due) _
  · rintro made tenancy id subscription rfl found isOpen
    obtain ⟨published, reached⟩ := Leads.calls made (.new settings attempts) []
    exact (readable reached).readsPresent found isOpen

/-- A resource is heard of, read, and read again from the list that is kept. -/
theorem read_eq_snapshot_kept :
    let id : ResourceId := ⟨List.replicate 16 1, List.length_replicate⟩
    let hello : Wire.Message := .hello ⟨"Room", "here", 30, ∅⟩
    let tenancy := [Call.errand (.subscribe "Room"),
      .errand (.receive 0 ⟨id, hello.encode, .endpoint 1⟩), .errand (.read 1)].foldl
        Tenancy.call (.new ⟨30, 50⟩ [])
    ∃ subscription, tenancy.progress.agent.subscription? 1 = some subscription ∧
      subscription.disposed = false ∧ (tenancy.progress.agent.read 1).1.reused = true ∧
        (tenancy.progress.agent.read 1).1.resources = [⟨id, "Room", "here", ∅⟩] ∧
          ReadsPresent tenancy.progress.agent 1 subscription.category := by
  intro id hello tenancy
  have subscribes : ((tenancy.progress.agent.subscription? 1).any
      fun subscription => !subscription.disposed) = true := by decide +kernel
  obtain ⟨subscription, found, notDisposed⟩ := (Option.any_eq_true ..).mp subscribes
  have isOpen : subscription.disposed = false := by simpa using notDisposed
  exact ⟨subscription, found, isOpen, by decide +kernel, by decide +kernel,
    (read_eq_snapshot ⟨30, 50⟩ []).2 rfl found isOpen⟩

end Moment

end Discovery
