import Discovery.Proofs.Agent.Reading

namespace Discovery

/-!
# What is still to be done

What is to be done at a moment is done from the front: whatever happens in
between only puts more before it (`Moment.agenda_after`).  Only the number of
uses of the transport that are to be released may change in its place, so these
are left out of the agenda.
-/

namespace Duty

/-- Whether a duty stays as it is until its turn comes. -/
def stays : Duty → Bool
  | .repay _ => false
  | .tell _ | .run .. | .conclude _ => true

end Duty

namespace Moment

/-- What is to be done, apart from the uses of the transport to be released. -/
def agenda (moment : Moment) : List Duty :=
  moment.duties.filter Duty.stays

theorem mem_agenda
    {moment : Moment}
    {duty : Duty}
    (stays : duty.stays = true) :
    duty ∈ moment.agenda ↔ duty ∈ moment.duties := by
  rw [agenda, List.mem_filter, and_iff_left stays]

section Telling

variable {progress : Progress} {rest : List Duty} {published : List ResourceId}
variable {id : Nat} {known : Subscription}

/-- An open subscription is told when its turn comes, and its callbacks are to be run. -/
theorem after_tell
    (found : progress.agent.subscription? id = some known)
    (isOpen : known.disposed = false) :
    Moment.after ⟨progress, .tell id :: rest, published⟩ .proceed =
      { progress := progress.updateSubscription id fun current =>
          current.notice (progress.agent.serial id)
        duties := (List.range known.callbacks.length).map (.run id) ++ rest
        published := published } := by
  change Moment.tell ⟨progress, rest, published⟩ id = _
  unfold tell agent
  dsimp only
  rw [found]
  exact if_neg (Bool.eq_false_iff.mp isOpen)

/-- A disposed subscription is told nothing. -/
theorem after_tell_of_disposed
    (found : progress.agent.subscription? id = some known)
    (disposed : known.disposed = true) :
    Moment.after ⟨progress, .tell id :: rest, published⟩ .proceed =
      ⟨progress, rest, published⟩ := by
  change Moment.tell ⟨progress, rest, published⟩ id = _
  unfold tell agent
  dsimp only
  rw [found]
  exact if_pos disposed

end Telling

/-- The runs of callbacks stay to be done. -/
theorem filter_stays_runs (subscription : Nat) (positions : List Nat) :
    (positions.map (.run subscription)).filter Duty.stays = positions.map (.run subscription) := by
  refine List.filter_eq_self.mpr fun duty isRun => ?_
  obtain ⟨_, _, rfl⟩ := List.mem_map.mp isRun
  rfl

/-- To tell a subscription puts the runs of its callbacks before everything else. -/
theorem agenda_tell (moment : Moment) (subscription : Nat) :
    ∃ positions : List Nat, (moment.tell subscription).agenda =
      positions.map (.run subscription) ++ moment.agenda := by
  unfold tell
  split
  next => exact ⟨[], rfl⟩
  next known _ =>
    split
    next => exact ⟨[], rfl⟩
    next =>
      refine ⟨List.range known.callbacks.length, ?_⟩
      dsimp only [agenda]
      rw [List.filter_append, filter_stays_runs]

theorem agenda_conclude (moment : Moment) (subscription : Nat) :
    (moment.conclude subscription).agenda = moment.agenda := by
  unfold conclude
  split
  next => rfl
  next =>
    dsimp only [agenda]
    split
    next => exact Duty.filter_owe (fun _ => rfl) moment.duties
    next => rfl

/-- What is to be done stays to be done, unless it is the next thing and its turn comes. -/
theorem agenda_after (moment : Moment) (occurrence : Occurrence) :
    moment.agenda <:+ (moment.after occurrence).agenda ∨
      occurrence = .proceed ∧ ∃ duty rest, moment.duties = duty :: rest ∧
        rest.filter Duty.stays <:+ (moment.after occurrence).agenda := by
  cases occurrence with
  | errand errand =>
      left
      change moment.agenda <:+ (moment.run errand).agenda
      rcases moment.run_cases errand with ⟨now, rfl⟩ | ⟨published, isRun⟩
      · change moment.agenda <:+ moment.deliver.agenda
        unfold deliver
        split
        next => exact List.suffix_rfl
        next => exact (List.suffix_append ..).filter Duty.stays
      · rw [isRun]
        exact List.suffix_rfl
  | dispose =>
      left
      change moment.agenda <:+ moment.dispose.agenda
      unfold dispose
      split
      next => exact List.suffix_rfl
      next =>
        split
        next => exact List.suffix_rfl
        next =>
          exact ((List.suffix_cons ..).trans (List.suffix_append ..)).filter Duty.stays
  | release | report | ask => exact .inl List.suffix_rfl
  | proceed =>
      obtain ⟨progress, duties, published⟩ := moment
      cases duties with
      | nil => exact .inl List.suffix_rfl
      | cons duty rest =>
          refine .inr ⟨rfl, duty, rest, rfl, ?_⟩
          cases duty with
          | tell subscription =>
              obtain ⟨positions, told⟩ := agenda_tell ⟨progress, rest, published⟩ subscription
              exact ⟨positions.map (.run subscription), told.symm⟩
          | run | repay => exact List.suffix_rfl
          | conclude subscription =>
              exact (agenda_conclude ⟨progress, rest, published⟩ subscription).symm ▸
                List.suffix_rfl

/-- When an agent is disposed, every open subscription is to be told and disposed. -/
theorem dispose_cases (moment : Moment) :
    moment.dispose.agent.subscriberOrNew = moment.agent.subscriberOrNew ∧
        (moment.agent.lifecycle = .disposed ∨ moment.agent.subscriberOrNew = .new) ∨
      moment.dispose.agent.subscriberOrNew = moment.agent.subscriberOrNew.shut.2 ∧
        moment.dispose.duties =
          lastDuties moment.agent.subscriberOrNew.shut.1 ++ .repay 0 :: moment.duties := by
  have same := Progress.Effect.subscriber_withdraw moment.progress
  unfold dispose
  split
  next disposed => exact .inl ⟨rfl, .inl disposed⟩
  next =>
    split
    next absent =>
      have none : moment.agent.subscriber = none := same.symm.trans absent
      exact .inl ⟨congrArg (·.getD Subscriber.new) same,
        .inr (congrArg (·.getD Subscriber.new) none)⟩
    next subscriber isSubscriber =>
      have known : moment.agent.subscriberOrNew = subscriber :=
        congrArg (·.getD Subscriber.new) (same.symm.trans isSubscriber)
      rw [known]
      exact .inr ⟨rfl, rfl⟩

end Moment

end Discovery
