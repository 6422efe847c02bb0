import Discovery.Proofs.Publisher.Step

namespace Discovery

/-!
# Edits that take effect

A commit looks at three things, one after another: whether the resource is still
owned, whether the edit started from its present serial number, and whether the
result can be announced.  Only then it changes the resource, all at once
(`Publisher.commit_of_owned`).  No other operation changes what is known of a
resource, until it is published again.
-/

/-- What becomes of a resource in an edit that takes effect. -/
def LocalResource.edited (resource : LocalResource) (changes : Changes) : LocalResource :=
  { resource with
    attributes := changes.apply resource.attributes
    editSerial := resource.editSerial + 1 }

/-- What an edit that starts from the given serial number comes to. -/
def LocalResource.verdict
    (resource : LocalResource)
    (baseline : Nat)
    (changes : Changes) : Except AgentError Unit :=
  if baseline ≠ resource.editSerial then .error (.staleEdit baseline resource.editSerial)
  else (Wire.checkAttributes (changes.apply resource.attributes)).mapError .unencodable

/-- An edit takes effect if it is found good. -/
theorem LocalResource.edit_eq
    (resource : LocalResource)
    (baseline : Nat)
    (changes : Changes) :
    resource.edit baseline changes =
      (resource.verdict baseline changes).map fun _ => resource.edited changes := by
  unfold edit verdict
  by_cases stale : baseline ≠ resource.editSerial
  · rw [if_pos stale, if_pos (Ne.symm stale)]
    rfl
  · rw [if_neg stale, if_neg (mt Ne.symm stale)]
    dsimp only
    cases Wire.checkAttributes (changes.apply resource.attributes) <;> rfl

/-- An edit is found good just if nobody was faster and the result can be announced. -/
theorem LocalResource.verdict_eq_ok_iff
    {resource : LocalResource}
    {baseline : Nat}
    {changes : Changes} :
    resource.verdict baseline changes = .ok () ↔
      baseline = resource.editSerial ∧
        Wire.checkAttributes (changes.apply resource.attributes) = .ok () := by
  unfold verdict
  by_cases stale : baseline ≠ resource.editSerial
  · rw [if_pos stale]
    exact ⟨nofun, fun good => absurd good.1 stale⟩
  · rw [if_neg stale]
    cases Wire.checkAttributes (changes.apply resource.attributes) with
    | error => exact ⟨nofun, fun good => nomatch good.2⟩
    | ok => exact ⟨fun _ => ⟨Decidable.of_not_not stale, rfl⟩, fun _ => rfl⟩

namespace Publisher

variable {publisher next : Publisher}

/-- What is known of the resources is the same in two publishers. -/
def SameResources (after before : Publisher) : Prop :=
  ∀ id, after.resource? id = before.resource? id

theorem SameResources.of_owned
    (owned : ∀ id, (next.owned.find? id).map Scheduled.resource =
      (publisher.owned.find? id).map Scheduled.resource)
    (withdrawn : next.withdrawn = publisher.withdrawn) :
    SameResources next publisher := by
  intro id
  rw [resource?_eq, owned, withdrawn, ← resource?_eq]

/-- A turn of the timer withdraws nothing. -/
theorem sameResources_turn
    (publisher : Publisher)
    (now : Instant) :
    SameResources (publisher.turn now).2 publisher :=
  .of_owned (publisher.resource_owned_turn now) (publisher.turn_keeps now).1

/-- What is withdrawn stays as it is. -/
theorem sameResources_stop
    (nothing : publisher.stopped = false → publisher.withdrawn = ∅) :
    SameResources publisher.stop.2 publisher := by
  intro id
  unfold stop
  split
  next => rfl
  next running =>
    rw [resource?_eq, resource?_eq, nothing (Bool.eq_false_iff.mpr running)]
    dsimp only
    rw [Table.find?_map, Table.find?_empty, Table.find?_empty]
    cases publisher.owned.find? id <;> rfl

/-- Whoever publishes withdraws nothing. -/
theorem withdrawn_publish
    {now : Instant}
    {resource : LocalResource}
    (published : publisher.publish now resource = .ok next) :
    next.withdrawn = publisher.withdrawn := by
  obtain ⟨_, _, rfl⟩ := publish_cases published
  rfl

/-- A resource that is published is known as it was given. -/
theorem resource?_publish
    {now : Instant}
    {resource : LocalResource}
    (published : publisher.publish now resource = .ok next)
    (id : ResourceId) :
    next.resource? id = if id = resource.id then some resource else publisher.resource? id := by
  rw [resource?_eq, find?_owned_publish published, withdrawn_publish published]
  split
  next => rfl
  next => exact (resource?_eq publisher id).symm

section Commit

variable {editor : Editor}

/-- A resource that is not owned cannot be edited. -/
theorem commit_of_not_owned
    (notOwned : publisher.owned.find? editor.resource = none)
    (now : Instant) :
    publisher.commit now editor = .error .disposed := by
  rw [commit, notOwned]

/-- A commit changes the resource and says so, or it is refused. -/
theorem commit_of_owned
    {scheduled : Scheduled}
    (owned : publisher.owned.find? editor.resource = some scheduled)
    (now : Instant) :
    ∃ next : Publisher,
      publisher.commit now editor =
          (scheduled.resource.verdict editor.baseline editor.changes).map
            (fun _ => ([hello (scheduled.resource.edited editor.changes)], next)) ∧
        ∀ id, next.resource? id =
          if id = editor.resource then some (scheduled.resource.edited editor.changes)
          else publisher.resource? id := by
  let changed : Publisher :=
    { publisher with
      owned := publisher.owned.insert editor.resource
        { scheduled with resource := scheduled.resource.edited editor.changes } }
  let rescheduled := changed.reschedule editor.resource now
  refine ⟨{ rescheduled with timer := rescheduled.timer.armEarlier? rescheduled.nextDeadline? },
    ?_, fun id => ?_⟩
  · rw [commit, owned]
    dsimp only
    rw [LocalResource.edit_eq]
    cases scheduled.resource.verdict editor.baseline editor.changes <;> rfl
  · rw [resource?_eq]
    dsimp only [rescheduled]
    rw [find?_owned_reschedule, (changed.reschedule_keeps editor.resource now).1,
      Table.find?_insert, if_pos rfl]
    split
    next => rfl
    next notEdited => rw [Table.find?_insert, if_neg notEdited, resource?_eq]

end Commit

/-- Until it stops, a publisher withdraws nothing. -/
theorem Step.withdrawn
    {occasion : Occasion}
    {said : List Outgoing}
    {accepted : List ResourceId}
    (step : publisher.Step occasion said accepted next)
    (calm : ¬ occasion.stopping) :
    next.withdrawn = publisher.withdrawn := by
  cases step with
  | rest | answer | shuffle => rfl
  | publish _ _ published => exact withdrawn_publish published
  | @turn now _ => exact (publisher.turn_keeps now).1
  | commit _ committed =>
      obtain ⟨_, _, _, isEdited⟩ := edited_commit committed
      exact isEdited.withdrawn
  | stop due => exact absurd due calm

end Publisher

end Discovery
