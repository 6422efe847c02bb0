import Discovery.Proofs.Convergence.View
import Discovery.Proofs.Network.Queues
import Discovery.Proofs.Wire.Agreement

namespace Discovery

/-!
# What publishers say

Whatever a publisher says of a resource is true when it is said, and of a
resource that it has spoken of before it says every change to everyone.
`Publisher.Utterance` puts this down for one operation, and each operation of a
publisher has it.
-/

namespace Outgoing

/-- What a payload says of a resource, whichever endpoint it leaves. -/
def Tells (outgoing : Outgoing) (id : ResourceId) (said : Option Wire.Announcement) : Prop :=
  ∀ sender, (outgoing.arrival sender).word? = some (id, said)

end Outgoing

namespace Publisher

/-- What others are told of a resource that is owned, or that it is not. -/
def offers (publisher : Publisher) (id : ResourceId) : Option Wire.Announcement :=
  (publisher.owned.find? id).map fun scheduled => scheduled.resource.announcement

/--
What a publisher says while it changes.  Resources that it has not spoken of
before come in only if they are fresh, and are due at once.
-/
structure Utterance
    (now : Instant)
    (fresh : ResourceId → Prop)
    (before after : Publisher)
    (outgoing : List Outgoing) : Prop where
  sound : after.Sound now
  lasting : ∀ {id resource}, before.resource? id = some resource →
    ∃ later, after.resource? id = some later ∧ later.category = resource.category ∧
      later.expiry = resource.expiry
  first : ∀ {id}, before.resource? id = none → (after.resource? id).isSome →
    fresh id ∧
      ∀ {scheduled}, after.owned.find? id = some scheduled → scheduled.nextAnnounce ≤ now
  gone : ∀ {id}, (before.resource? id).isSome → before.owned.find? id = none →
    after.owned.find? id = none
  truthful : ∀ {sent}, sent ∈ outgoing →
    ∃ id, (after.resource? id).isSome ∧ sent.Tells id (after.offers id)
  outspoken : ∀ {id}, (before.resource? id).isSome →
    after.owned.find? id ≠ before.owned.find? id →
      ∃ sent ∈ outgoing, sent.isBroadcast = true ∧ ∃ said, sent.Tells id said

theorem checkResource_eq_ok_iff
    {resource : LocalResource} :
    checkResource resource = .ok () ↔
      Wire.checkText resource.category = .ok () ∧ Wire.checkText resource.connection = .ok () ∧
        Wire.checkAttributes resource.attributes = .ok () := by
  unfold checkResource
  cases Wire.checkText resource.category with
  | error cause => simp [bind, Except.bind]
  | ok _ =>
      cases Wire.checkText resource.connection with
      | error cause => simp [bind, Except.bind]
      | ok _ => simp [bind, Except.bind]

/-- An edit that takes effect changes the attributes and the serial number. -/
theorem edit_ok
    {resource edited : LocalResource}
    {baseline : Nat}
    {changes : Changes}
    (success : resource.edit baseline changes = .ok edited) :
    edited =
        { resource with
          attributes := changes.apply resource.attributes
          editSerial := resource.editSerial + 1 } ∧
      Wire.checkAttributes edited.attributes = .ok () := by
  unfold LocalResource.edit at success
  split at success
  next => cases success
  next =>
    dsimp only at success
    split at success
    next => cases success
    next valid =>
      cases success
      exact ⟨rfl, valid⟩

/-- What a publisher owns after it has accepted a resource. -/
theorem find?_owned_publish
    {publisher next : Publisher}
    {now : Instant}
    {resource : LocalResource}
    (published : publisher.publish now resource = .ok next)
    (sought : ResourceId) :
    next.owned.find? sought =
      if sought = resource.id then some ⟨resource, now⟩ else publisher.owned.find? sought := by
  obtain ⟨_, _, rfl⟩ := publish_cases published
  exact Table.find?_insert ..

section Words

variable {resource : LocalResource}

/-- A resource that passes the check has an announcement that others accept. -/
theorem validate_announcement
    (valid : checkResource resource = .ok ())
    (positive : 0 ≤ resource.expiry.toInt) :
    resource.announcement.validate = .ok () := by
  have notNegative : ¬ resource.expiry < 0 := by
    rwa [Int32.lt_iff_toInt_lt, Int32.toInt_zero, Int.not_lt]
  unfold checkResource at valid
  unfold Wire.Announcement.validate LocalResource.announcement
  simpa [notNegative] using valid

theorem tells_hello
    (valid : checkResource resource = .ok ())
    (lasting : 1 ≤ resource.expiry.toInt) :
    (hello resource).Tells resource.id (some resource.announcement) := by
  intro sender
  have decoded : Wire.Message.decode (Wire.Message.hello resource.announcement).encode = .ok _ :=
    Wire.Message.decode_encode (validate_announcement valid (by omega))
  simp only [hello, Outgoing.arrival, Delivery.word?, decoded]

theorem tells_answerTo
    (valid : checkResource resource = .ok ())
    (lasting : 1 ≤ resource.expiry.toInt)
    (origin : Origin) :
    (answerTo origin resource).Tells resource.id (some resource.announcement) := by
  intro sender
  have decoded : Wire.Message.decode (Wire.Message.reply resource.announcement).encode = .ok _ :=
    Wire.Message.decode_encode (validate_announcement valid (by omega))
  simp only [answerTo, Outgoing.arrival, Delivery.word?, decoded]

theorem tells_byeBye (resource : LocalResource) : (byeBye resource).Tells resource.id none := by
  intro sender
  have decoded : Wire.Message.decode Wire.Message.byeBye.encode = .ok _ :=
    Wire.Message.decode_encode rfl
  simp only [byeBye, Outgoing.arrival, Delivery.word?, decoded]

end Words

/-- The announcements that a publisher has spoken of are those of its resources. -/
theorem offers_of_owned
    {publisher : Publisher}
    {id : ResourceId}
    {scheduled : Scheduled}
    (owned : publisher.owned.find? id = some scheduled) :
    publisher.offers id = some scheduled.resource.announcement := by
  rw [offers, owned, Option.map_some]

/-- An edit took effect and was announced; no other resource changed. -/
structure Committed
    (now : Instant)
    (editor : Editor)
    (publisher next : Publisher)
    (scheduled later : Scheduled)
    (outgoing : List Outgoing) : Prop where
  before : publisher.owned.find? editor.resource = some scheduled
  success : scheduled.resource.edit editor.baseline editor.changes = .ok later.resource
  outgoing : outgoing = [hello later.resource]
  after : next.owned.find? editor.resource = some later
  others : ∀ {id}, id ≠ editor.resource → next.owned.find? id = publisher.owned.find? id
  withdrawn : next.withdrawn = publisher.withdrawn
  sound : next.Sound now

theorem commit_ok
    {now : Instant}
    {publisher next : Publisher}
    (sound : publisher.Sound now)
    {editor : Editor}
    {outgoing : List Outgoing}
    (committed : publisher.commit now editor = .ok (outgoing, next)) :
    ∃ scheduled later, Committed now editor publisher next scheduled later outgoing := by
  obtain ⟨scheduled, edited, rescheduled, owned, success, rfl, isRescheduled, rfl⟩ :=
    commit_cases committed
  obtain ⟨isEdited, validAttributes⟩ := edit_ok success
  have sameId : edited.id = scheduled.resource.id := by rw [isEdited]
  have sameExpiry : edited.expiry = scheduled.resource.expiry := by rw [isEdited]
  have valid : checkResource edited = .ok () := by
    obtain ⟨validCategory, validConnection, _⟩ :=
      checkResource_eq_ok_iff.mp (sound.valid owned)
    refine checkResource_eq_ok_iff.mpr ⟨?_, ?_, validAttributes⟩
    · rw [isEdited]
      exact validCategory
    · rw [isEdited]
      exact validConnection
  have stocked : Stocked now rescheduled :=
    isRescheduled ▸ (sound.toStocked.edit owned sameId sameExpiry valid).reschedule editor.resource
  obtain ⟨withdrawn, stopped, timer⟩ :=
    reschedule_keeps (publisher.amend editor.resource { scheduled with resource := edited })
      editor.resource now
  rw [← isRescheduled] at withdrawn stopped timer
  have isLater := Scheduled.resource_announcedAt { scheduled with resource := edited } now
  refine ⟨scheduled, _, owned, isLater ▸ success,
    congrArg (fun known => [hello known]) isLater.symm, ?_, fun {id} different => ?_, withdrawn, ?_⟩
  · change rescheduled.owned.find? editor.resource = _
    rw [isRescheduled, find?_owned_reschedule, if_pos rfl, find?_owned_amend, if_pos rfl,
      Option.map_some]
  · change rescheduled.owned.find? id = _
    rw [isRescheduled, find?_owned_reschedule, if_neg different, find?_owned_amend,
      if_neg different]
  · exact stocked.sound_armEarlier (by rw [timer]; exact sound.timer)
      (by rw [stopped, timer]; exact sound.running)

namespace Utterance

variable {now : Instant} {publisher : Publisher}

/-- A hello says what a publisher offers. -/
theorem truthful_hello
    (stocked : Stocked now publisher)
    {id : ResourceId}
    {scheduled : Scheduled}
    (owned : publisher.owned.find? id = some scheduled) :
    (publisher.resource? id).isSome ∧
      (hello scheduled.resource).Tells id (publisher.offers id) := by
  refine ⟨by rw [resource?_of_owned owned]; rfl, ?_⟩
  have tells := tells_hello (stocked.valid owned) (stocked.lasting owned)
  rwa [stocked.named owned, ← offers_of_owned owned] at tells

/-- While no resource changes, whatever is said need only be true. -/
theorem unchanged
    {next : Publisher}
    (sound : next.Sound now)
    (owned : next.owned = publisher.owned)
    (withdrawn : next.withdrawn = publisher.withdrawn)
    {outgoing : List Outgoing}
    (truthful : ∀ {sent}, sent ∈ outgoing →
      ∃ id, (next.resource? id).isSome ∧ sent.Tells id (next.offers id)) :
    Utterance now (fun _ => False) publisher next outgoing := by
  have same : ∀ id, next.resource? id = publisher.resource? id := by
    intro id
    rw [resource?_eq, owned, withdrawn, resource?_eq]
  refine ⟨sound, fun known => ⟨_, (same _).trans known, rfl, rfl⟩, ?_, ?_, truthful, ?_⟩
  · intro id unknown known
    rw [same, unknown] at known
    cases known
  · intro id _ notOwned
    rwa [owned]
  · intro id _ different
    rw [owned] at different
    exact absurd rfl different

theorem answer
    (sound : publisher.Sound now)
    (origin : Origin)
    (category : String) :
    Utterance now (fun _ => False) publisher publisher (publisher.answer origin category) := by
  refine .unchanged sound rfl rfl fun sent => ?_
  obtain ⟨resource, among, rfl⟩ := List.mem_map.mp sent
  obtain ⟨id, scheduled, owned, rfl⟩ := mem_resources.mp (List.mem_filter.mp among).1
  refine ⟨id, by rw [resource?_of_owned owned]; rfl, ?_⟩
  have tells := tells_answerTo (sound.valid owned) (sound.lasting owned) origin
  rwa [sound.named owned, ← offers_of_owned owned] at tells

/-- A fresh resource comes in and is due at once; nothing is said of it yet. -/
theorem publish
    (sound : publisher.Sound now)
    {resource : LocalResource}
    (real : resource.id.isNil = false)
    (lasting : 1 ≤ resource.expiry.toInt)
    (fresh : publisher.resource? resource.id = none)
    {next : Publisher}
    (published : publisher.publish now resource = .ok next) :
    Utterance now (· = resource.id) publisher next [] := by
  obtain ⟨valid, notStopped, rfl⟩ := publish_cases published
  have entered := sound.toStocked.enter notStopped real valid lasting
  have others : ∀ {id}, id ≠ resource.id →
      (publisher.enter resource now).owned.find? id = publisher.owned.find? id :=
    fun different => (Table.find?_insert ..).trans (if_neg different)
  have isNew : (publisher.enter resource now).owned.find? resource.id = some ⟨resource, now⟩ :=
    (Table.find?_insert ..).trans (if_pos rfl)
  have known : ∀ {id}, id ≠ resource.id →
      (publisher.enter resource now).resource? id = publisher.resource? id := by
    intro id different
    rw [resource?_eq, others different, resource?_eq]
    rfl
  have notNew : ∀ {id}, (publisher.resource? id).isSome → id ≠ resource.id := by
    rintro id isKnown rfl
    rw [fresh] at isKnown
    cases isKnown
  have isOpen := (Timer.closed_armEarlier publisher.timer now).trans (sound.running notStopped)
  refine ⟨⟨entered.withTimer _, sound.timer.armEarlier now, fun _ => isOpen,
    Armed.enter sound.armed resource now⟩, ?_, ?_, ?_, nofun, ?_⟩
  · intro id before isBefore
    have different := notNew (by rw [isBefore]; rfl)
    exact ⟨before, (known different).trans isBefore, rfl, rfl⟩
  · intro id unknown isKnown
    by_cases isId : id = resource.id
    · refine ⟨isId, fun {scheduled} owned => ?_⟩
      rw [isId, show (publisher.enter resource now).owned.find? resource.id = _ from isNew] at owned
      cases owned
      exact Nat.le_refl now
    · have same := (known isId).trans unknown
      have contrary : ((publisher.enter resource now).resource? id).isSome := isKnown
      rw [same] at contrary
      cases contrary
  · intro id isKnown notOwned
    exact (others (notNew isKnown)).trans notOwned
  · intro id isKnown different
    exact absurd (others (notNew isKnown)) different

/-- What is owned was owned before or is fresh. -/
theorem owned_before
    {fresh : ResourceId → Prop}
    {next : Publisher}
    {outgoing : List Outgoing}
    (utterance : Utterance now fresh publisher next outgoing)
    {id : ResourceId}
    (owned : (next.owned.find? id).isSome) :
    fresh id ∨ (publisher.owned.find? id).isSome := by
  obtain notOwned | ⟨scheduled, isOwned⟩ := Option.eq_none_or_eq_some (publisher.owned.find? id)
  · obtain unknown | ⟨resource, known⟩ := Option.eq_none_or_eq_some (publisher.resource? id)
    · obtain ⟨scheduled, isOwned⟩ := Option.isSome_iff_exists.mp owned
      exact .inl (utterance.first unknown (by rw [resource?_of_owned isOwned]; rfl)).1
    · have gone := utterance.gone (by rw [known]; rfl) notOwned
      rw [gone] at owned
      cases owned
  · exact .inr (by rw [isOwned]; rfl)

/-- What was rescheduled is announced, and nothing else changes. -/
theorem reschedule
    {next : Publisher}
    (sound : next.Sound now)
    {ids : List ResourceId}
    (owned : ∀ id, next.owned.find? id =
      if id ∈ ids then
        (publisher.owned.find? id).map fun known => known.announcedAt now
      else publisher.owned.find? id)
    (withdrawn : next.withdrawn = publisher.withdrawn)
    {outgoing : List Outgoing}
    (sent : ∀ {sent}, sent ∈ outgoing ↔
      ∃ id ∈ ids, ∃ scheduled, next.owned.find? id = some scheduled ∧
        sent = hello scheduled.resource) :
    Utterance now (fun _ => False) publisher next outgoing := by
  have same : ∀ id, next.resource? id = publisher.resource? id := by
    intro id
    rw [resource?_eq, owned, withdrawn, resource?_eq]
    split
    next =>
      simp only [Option.map_map, Function.comp_def, Scheduled.resource_announcedAt]
    next => rfl
  refine ⟨sound, fun known => ⟨_, (same _).trans known, rfl, rfl⟩, ?_, ?_, ?_, ?_⟩
  · intro id unknown known
    rw [same, unknown] at known
    cases known
  · intro id _ notOwned
    rw [owned, notOwned]
    split <;> rfl
  · intro hello among
    obtain ⟨id, _, scheduled, isOwned, rfl⟩ := sent.mp among
    exact ⟨id, truthful_hello sound.toStocked isOwned⟩
  · intro id isKnown different
    by_cases isDue : id ∈ ids
    · obtain notOwned | ⟨scheduled, isOwned⟩ :=
        Option.eq_none_or_eq_some (next.owned.find? id)
      · rw [owned, if_pos isDue, Option.map_eq_none_iff] at notOwned
        rw [owned, if_pos isDue, notOwned] at different
        exact absurd rfl different
      · have among := sent.mpr ⟨id, isDue, scheduled, isOwned, rfl⟩
        exact ⟨_, among, rfl, _, (truthful_hello sound.toStocked isOwned).2⟩
    · rw [owned, if_neg isDue] at different
      exact absurd rfl different

/-- What is due is announced, and its next announcement is put off. -/
theorem takeDue
    (stocked : Stocked now publisher)
    (timer : publisher.timer.Sound)
    (running : publisher.stopped = false → publisher.timer.closed = false) :
    Utterance now (fun _ => False) publisher
      { (publisher.takeDue now).2 with
        timer := publisher.timer.armEarlier? (publisher.takeDue now).2.nextDeadline? }
      ((publisher.takeDue now).1.map hello) := by
  obtain ⟨withdrawn, stopped, sameTimer⟩ := publisher.takeDue_keeps now
  have stillStocked : Stocked now (publisher.takeDue now).2 :=
    List.foldlRecOn (motive := Stocked now) _ _ stocked fun _ before id _ => before.reschedule id
  have sound := stillStocked.sound_armEarlier (sameTimer ▸ timer)
    (by rw [sameTimer, stopped]; exact running)
  rw [sameTimer] at sound
  refine reschedule sound (publisher.find?_owned_takeDue now) withdrawn fun {sent} => ?_
  constructor
  · intro among
    obtain ⟨resource, isAmong, rfl⟩ := List.mem_map.mp among
    obtain ⟨id, isDue, found⟩ := List.mem_filterMap.mp isAmong
    obtain ⟨scheduled, isOwned, rfl⟩ := Option.map_eq_some_iff.mp found
    exact ⟨id, isDue, scheduled, isOwned, rfl⟩
  · rintro ⟨id, isDue, scheduled, isOwned, rfl⟩
    refine List.mem_map_of_mem (List.mem_filterMap.mpr ⟨id, isDue, ?_⟩)
    exact Option.map_eq_some_iff.mpr ⟨scheduled, isOwned, rfl⟩

/-- The timer of a publisher that speaks does not matter. -/
theorem ofTimer
    {fresh : ResourceId → Prop}
    {next : Publisher}
    {outgoing : List Outgoing}
    {timer : Timer}
    (utterance : Utterance now fresh { publisher with timer := timer } next outgoing) :
    Utterance now fresh publisher next outgoing :=
  ⟨utterance.sound, utterance.lasting, utterance.first, utterance.gone, utterance.truthful,
    utterance.outspoken⟩

/-- A turn of the timer announces what is due, if the timer fires. -/
theorem turn (sound : publisher.Sound now) :
    Utterance now (fun _ => False) publisher (publisher.turn now).2 (publisher.turn now).1 := by
  have timer := Timer.Sound.turn publisher.timer now
  have running : publisher.stopped = false → (publisher.timer.turn now).2.closed = false := by
    rw [Timer.closed_turn]
    exact sound.running
  have stocked : Stocked now (publisher.ticked now) := sound.toStocked.withTimer _
  rcases publisher.turn_cases now with ⟨idle, same⟩ | ⟨_, same⟩ <;> rw [same]
  · have armed : (publisher.ticked now).Armed := Armed.ticked sound.armed sound.ended idle
    exact (unchanged ⟨stocked, timer, running, armed⟩ rfl rfl fun among =>
      absurd among List.not_mem_nil).ofTimer
  · exact (takeDue stocked timer running).ofTimer

/-- A committed edit is announced to everyone. -/
theorem commit
    (sound : publisher.Sound now)
    {editor : Editor}
    {outgoing : List Outgoing}
    {next : Publisher}
    (committed : publisher.commit now editor = .ok (outgoing, next)) :
    Utterance now (fun _ => False) publisher next outgoing := by
  obtain ⟨scheduled, later, edit⟩ := commit_ok sound committed
  have known : ∀ {id}, id ≠ editor.resource → next.resource? id = publisher.resource? id := by
    intro id different
    rw [resource?_eq, edit.others different, edit.withdrawn, resource?_eq]
  have isOffered : (publisher.resource? editor.resource).isSome := by
    rw [resource?_of_owned edit.before]
    rfl
  have isEdited := (edit_ok edit.success).1
  refine ⟨edit.sound, ?_, ?_, ?_, ?_, ?_⟩
  · intro id resource isKnown
    by_cases isId : id = editor.resource
    · rw [isId, resource?_of_owned edit.before] at isKnown
      cases isKnown
      refine ⟨later.resource, isId ▸ resource?_of_owned edit.after, ?_, ?_⟩ <;> rw [isEdited]
    · exact ⟨resource, (known isId).trans isKnown, rfl, rfl⟩
  · intro id unknown isKnown
    have different : id ≠ editor.resource := by
      rintro rfl
      rw [unknown] at isOffered
      cases isOffered
    rw [known different, unknown] at isKnown
    cases isKnown
  · intro id _ notOwned
    have different : id ≠ editor.resource := by
      rintro rfl
      rw [edit.before] at notOwned
      cases notOwned
    exact (edit.others different).trans notOwned
  · intro sent among
    rw [edit.outgoing, List.mem_singleton] at among
    rw [among]
    exact ⟨editor.resource, truthful_hello edit.sound.toStocked edit.after⟩
  · intro id _ different
    by_cases isId : id = editor.resource
    · subst isId
      refine ⟨hello later.resource, ?_, rfl, _,
        (truthful_hello edit.sound.toStocked edit.after).2⟩
      rw [edit.outgoing]
      exact List.mem_singleton_self _
    · exact absurd (edit.others isId) different

/-- A publisher that stops withdraws all that it offers. -/
theorem stop (sound : publisher.Sound now) :
    Utterance now (fun _ => False) publisher publisher.stop.2 publisher.stop.1 := by
  unfold Publisher.stop
  split
  next => exact unchanged sound rfl rfl fun among => absurd among List.not_mem_nil
  next notStopped =>
  have nothing : publisher.withdrawn = ∅ := sound.inService (Bool.eq_false_iff.mpr notStopped)
  have same : ∀ id,
      (publisher.owned.map fun _ scheduled => scheduled.resource).find? id =
        publisher.resource? id := by
    intro id
    rw [Table.find?_map, resource?_eq, nothing, Table.find?_empty, Option.or_none]
  refine
    ⟨⟨⟨nofun, fun {id} known => ?_, nofun, nofun, nofun, nofun, nofun, fun _ => rfl⟩,
        .close publisher.timer, nofun, nofun⟩, fun {id resource} known => ?_, ?_, fun _ _ => rfl,
      ?_, ?_⟩
  · exact sound.real ((congrArg Option.isSome (same id)).symm.trans known)
  · exact ⟨resource, (same id).trans known, rfl, rfl⟩
  · intro id unknown known
    have isKnown : (publisher.resource? id).isSome :=
      (congrArg Option.isSome (same id)).symm.trans known
    rw [unknown] at isKnown
    cases isKnown
  · intro sent among
    obtain ⟨resource, isAmong, rfl⟩ := List.mem_map.mp among
    obtain ⟨id, scheduled, owned, rfl⟩ := mem_resources.mp isAmong
    refine ⟨id, ?_, sound.named owned ▸ tells_byeBye scheduled.resource⟩
    refine (congrArg Option.isSome (same id)).trans ?_
    rw [resource?_of_owned owned]
    rfl
  · intro id known different
    obtain notOwned | ⟨scheduled, owned⟩ := Option.eq_none_or_eq_some (publisher.owned.find? id)
    · rw [notOwned] at different
      exact absurd rfl different
    · refine ⟨byeBye scheduled.resource, List.mem_map_of_mem ?_, rfl, none,
        sound.named owned ▸ tells_byeBye scheduled.resource⟩
      exact mem_resources.mpr ⟨id, scheduled, owned, rfl⟩

end Utterance

end Publisher

end Discovery
