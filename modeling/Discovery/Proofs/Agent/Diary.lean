import Discovery.Proofs.Agent.Truth
import Discovery.Proofs.Publisher.Regularity
import Mathlib.Logic.Relation

namespace Discovery

/-!
# Diaries

A `Diary` is an agent in the course of time, with what it has published and sent
so far and when.  However time passes, the next announcement of a resource is due
an interval after the last one, or at once if there was none, and a turn of the
timer announces what is due (`Diary.Keeps`).
-/

/-- What is sent, if an output is about that. -/
def Output.sent? : Output → Option Outgoing
  | .sent outgoing => some outgoing
  | _ => none

theorem Output.filterMap_sent? (said : List Outgoing) :
    (said.map Output.sent).filterMap Output.sent? = said :=
  List.filterMap_map.trans List.filterMap_some

namespace Progress

variable (progress : Progress) (now : Instant)

/-- A turn of the timer of announcements puts out what the publisher announces. -/
theorem outputs_announce :
    (progress.announce now).outputs =
      progress.outputs ++ (progress.agent.publisherOrNew.turn now).1.map .sent := by
  unfold announce Agent.publisherOrNew
  cases progress.agent.publisher with
  | none => exact (List.append_nil _).symm
  | some publisher => rfl

/-- What an agent receives leaves its publisher as it is, and is answered to the sender only. -/
theorem receive_spec (delivery : Delivery) :
    (progress.receive now delivery).agent.publisher = progress.agent.publisher ∧
      ∃ answers : List Outgoing,
        (progress.receive now delivery).outputs = progress.outputs ++ answers.map .sent ∧
          ∀ answer ∈ answers, ∀ id, answer.isHello id = false := by
  have silent : ∃ answers : List Outgoing, progress.outputs =
      progress.outputs ++ answers.map .sent ∧ ∀ answer ∈ answers, ∀ id, answer.isHello id = false :=
    ⟨[], (List.append_nil _).symm, nofun⟩
  unfold receive
  split
  next => exact ⟨rfl, silent⟩
  next category _ =>
    split
    next => exact ⟨rfl, silent⟩
    next publisher _ =>
      refine ⟨rfl, publisher.answer delivery.origin category, rfl, fun answer isAnswer id => ?_⟩
      obtain ⟨resource, _, rfl⟩ := List.mem_map.mp isAnswer
      rfl
  all_goals
    split
    next => exact ⟨rfl, silent⟩
    next => exact ⟨rfl, silent⟩

end Progress

/-- An agent in the course of time, with what it has published and sent, and when. -/
structure Diary where
  now : Instant
  moment : Moment
  published : List (Instant × ResourceId)
  sent : List (Instant × Outgoing)
  deriving Repr

namespace Diary

/-- The publisher of an agent, or the one that would be made. -/
def publisher (diary : Diary) : Publisher :=
  diary.moment.agent.publisherOrNew

/-- A new agent has published and sent nothing. -/
def new
    (start : Instant)
    (settings : AgentSettings)
    (attempts : List (Option TransportError)) : Diary :=
  ⟨start, .new settings attempts, [], []⟩

/-- The diary after something has happened. -/
def after (diary : Diary) (occurrence : Occurrence) : Diary :=
  let next := diary.moment.after occurrence
  let published := next.published.drop diary.moment.published.length
  let sent := (next.outputs.drop diary.moment.outputs.length).filterMap Output.sent?
  { now := diary.now
    moment := next
    published := diary.published ++ published.map fun id => (diary.now, id)
    sent := diary.sent ++ sent.map fun outgoing => (diary.now, outgoing) }

/-- When a resource was published. -/
def publishedAt? (diary : Diary) (id : ResourceId) : Option Instant :=
  (diary.published.find? fun entry => decide (entry.2 = id)).map Prod.fst

/-- When a resource was announced to everyone, each time. -/
def hellos (diary : Diary) (id : ResourceId) : List Instant :=
  (diary.sent.filter fun entry => entry.2.isHello id).map Prod.fst

/--
When a resource is to be announced: an interval after the last announcement, or
when it was published if there was none.
-/
def dueAt? (diary : Diary) (id : ResourceId) (interval : Span) : Option Instant :=
  ((diary.hellos id).getLast?.map fun last => last + interval).or (diary.publishedAt? id)

/-- Whether the time of a resource has come. -/
def isDue (diary : Diary) (id : ResourceId) : Bool :=
  (diary.publisher.owned.find? id).any fun scheduled =>
    decide (scheduled.nextAnnounce ≤ diary.now)

/--
What may come next.  Whatever happens to the agent happens now, and what it
publishes has a new name.  How time may pass is the business of the clock.
-/
inductive Step (clock : Diary → Instant → Prop) (diary : Diary) : Diary → Prop where
  | act
      {occurrence : Occurrence}
      (timely : ∀ {instant}, (diary.moment.occasion occurrence).timely instant →
        instant = diary.now)
      (fresh : ∀ {id}, occurrence.names? = some id → id ∉ diary.moment.published) :
      Step clock diary (diary.after occurrence)
  | wait
      {later : Instant}
      (after : diary.now ≤ later)
      (passes : clock diary later) :
      Step clock diary { diary with now := later }

/-- One diary may become another in the course of time. -/
def Leads (clock : Diary → Instant → Prop) : Diary → Diary → Prop :=
  Relation.ReflTransGen (Step clock)

/-- However time passes, announcements follow the schedule. -/
structure Keeps (diary : Diary) : Prop where
  /-- The next announcement is due an interval after the last one, or at once. -/
  next : ∀ {id scheduled}, diary.publisher.owned.find? id = some scheduled →
    ∃ published, diary.publishedAt? id = some published ∧
      scheduled.nextAnnounce =
        ((diary.hellos id).getLast?.map fun last => last + scheduled.interval).getD published
  /-- When the timer of announcements has nothing to do, nothing is due. -/
  ahead : diary.moment.agent.announceReady diary.now = false →
    ∀ {id scheduled}, diary.publisher.owned.find? id = some scheduled →
      diary.now < scheduled.nextAnnounce
  /-- A turn of the timer sends the announcements of what is due, and nothing else. -/
  turn : ∃ resources : List LocalResource,
    (diary.after (.errand (.announce diary.now))).sent =
        diary.sent ++ resources.map (fun resource => (diary.now, Publisher.hello resource)) ∧
      (resources.map LocalResource.id).Nodup ∧
      (∀ id, id ∈ resources.map LocalResource.id ↔ diary.isDue id = true) ∧
      ∀ resource ∈ resources, (diary.publisher.owned.find? resource.id).map Scheduled.resource =
        some resource
  /-- So whatever is due is announced once more, and nothing else is. -/
  once : ∀ id, (diary.after (.errand (.announce diary.now))).hellos id =
    if diary.isDue id = true then diary.hellos id ++ [diary.now] else diary.hellos id
  /-- Nothing that is received, queries included, changes the schedule. -/
  received : ∀ delivery,
    (diary.after (.errand (.receive diary.now delivery))).publisher = diary.publisher ∧
      ∀ id, (diary.after (.errand (.receive diary.now delivery))).hellos id = diary.hellos id

section Entries

variable {diary : Diary} {occurrence : Occurrence}

/-- What an agent sends is entered. -/
theorem sent_after
    {more : List Output}
    (outputs : (diary.moment.after occurrence).outputs = diary.moment.outputs ++ more) :
    (diary.after occurrence).sent =
      diary.sent ++ (more.filterMap Output.sent?).map fun outgoing => (diary.now, outgoing) := by
  rw [after, outputs, List.drop_left]

/-- Whenever a resource is announced, it is announced now. -/
theorem hellos_after
    {more : List Output}
    (outputs : (diary.moment.after occurrence).outputs = diary.moment.outputs ++ more)
    (id : ResourceId) :
    (diary.after occurrence).hellos id =
      diary.hellos id ++
        .replicate ((more.filterMap Output.sent?).countP (Outgoing.isHello id)) diary.now := by
  rw [hellos, sent_after outputs, List.filter_append, List.map_append, ← hellos,
    List.filter_map, List.map_map, List.countP_eq_length_filter]
  exact congrArg (diary.hellos id ++ ·) (List.map_const' ..)

/-- What happened to the publisher and what was published and said is entered. -/
structure Turnover
    (diary : Diary)
    (occurrence : Occurrence)
    (said : List Outgoing)
    (accepted : List ResourceId) : Prop where
  effect : Progress.Effect (diary.moment.occasion occurrence) said accepted diary.moment.progress
    (diary.after occurrence).moment.progress
  published : (diary.after occurrence).moment.published = diary.moment.published ++ accepted
  entries : (diary.after occurrence).published =
    diary.published ++ accepted.map fun id => (diary.now, id)
  hellos : ∀ id, ∃ count,
    (diary.after occurrence).hellos id = diary.hellos id ++ List.replicate count diary.now ∧
      (count ≠ 0 ↔ ∃ outgoing ∈ said, outgoing.isHello id = true)

/-- Whatever happens is entered. -/
theorem exists_turnover (diary : Diary) (occurrence : Occurrence) :
    ∃ said accepted, Turnover diary occurrence said accepted := by
  obtain ⟨said, accepted, effect, published⟩ := diary.moment.effect_after occurrence
  obtain ⟨more, outputs, follows⟩ := effect.outputs
  refine ⟨said, accepted, effect, published, ?_, fun id => ⟨_, hellos_after outputs id, ?_⟩⟩
  · rw [after, published, List.drop_left]
  rw [Nat.ne_zero_iff_zero_lt, List.countP_pos_iff]
  constructor
  · rintro ⟨outgoing, isSent, isHello⟩
    obtain ⟨output, isOutput, isOutgoing⟩ := List.mem_filterMap.mp isSent
    cases output with
    | sent sent =>
        cases isOutgoing
        rcases (follows _ isOutput).sent with isSaid | ⟨_, category, _, rfl⟩
        · exact ⟨outgoing, isSaid, isHello⟩
        · obtain ⟨_, ⟨⟩⟩ := Outgoing.exists_hello_of_isHello
            (show Outgoing.payload _ = (Wire.Message.query category).encode from rfl) isHello
    | started | startFailed | joined | left | stopped | overdrawn | updated | acted | asked =>
        cases isOutgoing
  · rintro ⟨outgoing, isSaid, isHello⟩
    have isOutput := effect.spoken outgoing isSaid
    rw [outputs, List.drop_left] at isOutput
    exact ⟨outgoing, List.mem_filterMap.mpr ⟨_, isOutput, rfl⟩, isHello⟩

end Entries

/-- What a diary says of its agent, however time passes. -/
structure Kept (diary : Diary) : Prop where
  regular : diary.publisher.Regular
  phase : diary.moment.InService ∨ diary.moment.Spent
  entries : diary.published.map Prod.snd = diary.moment.published
  published : ∀ {id}, diary.hellos id ≠ [] → id ∈ diary.moment.published
  due : ∀ {id scheduled}, diary.publisher.owned.find? id = some scheduled →
    diary.dueAt? id scheduled.interval = some scheduled.nextAnnounce

/-- A resource is announced now, or was published now, or nothing new is said of it. -/
inductive Course (diary next : Diary) (id : ResourceId) (later : Scheduled) : Prop where
  | announced
      {earlier : Scheduled}
      (owned : diary.publisher.owned.find? id = some earlier)
      (last : (next.hellos id).getLast? = some diary.now)
      (due : later.nextAnnounce = diary.now + later.interval)
  | published
      (fresh : id ∉ diary.moment.published)
      (entered : next.publishedAt? id = some diary.now)
      (hellos : next.hellos id = [])
      (due : later.nextAnnounce = diary.now)
  | kept
      {earlier : Scheduled}
      (owned : diary.publisher.owned.find? id = some earlier)
      (hellos : next.hellos id = diary.hellos id)
      (due : later.nextAnnounce = earlier.nextAnnounce)
      (interval : later.interval = earlier.interval)

/-- What is owned has been published, whether the agent is disposed or not. -/
theorem mem_published_of_phase
    {diary : Diary}
    (phase : diary.moment.InService ∨ diary.moment.Spent)
    {id : ResourceId}
    (owned : (diary.publisher.owned.find? id).isSome) :
    id ∈ diary.moment.published := by
  rcases phase with inService | spent
  · exact inService.holds.owned.mp owned
  · rw [show diary.publisher.owned = ∅ from spent.nothing] at owned
    cases owned

namespace Kept

variable {diary : Diary}

theorem new (start : Instant) (settings : AgentSettings) (attempts : List (Option TransportError)) :
    Kept (.new start settings attempts) :=
  ⟨.new, .inl (.new settings attempts), rfl, nofun, nofun⟩

/-- What is owned has been published. -/
theorem mem_published
    (kept : diary.Kept)
    {id : ResourceId}
    {scheduled : Scheduled}
    (owned : diary.publisher.owned.find? id = some scheduled) :
    id ∈ diary.moment.published :=
  mem_published_of_phase kept.phase (Option.isSome_of_eq_some owned)

/-- A new name is neither owned nor announced yet. -/
theorem unused
    (kept : diary.Kept)
    {id : ResourceId}
    (fresh : id ∉ diary.moment.published) :
    diary.publisher.owned.find? id = none ∧ diary.hellos id = [] ∧
      diary.publishedAt? id = none := by
  refine ⟨?_, Decidable.byContradiction fun announced => fresh (kept.published announced), ?_⟩
  · exact Option.eq_none_iff_forall_ne_some.mpr fun _ owned => fresh (kept.mem_published owned)
  · rw [publishedAt?, Option.map_eq_none_iff, List.find?_eq_none]
    intro entry member isId
    refine fresh (kept.entries ▸ ?_)
    exact of_decide_eq_true isId ▸ List.mem_map_of_mem member

/-- What has been published has been entered. -/
theorem exists_publishedAt?
    (kept : diary.Kept)
    {id : ResourceId}
    (published : id ∈ diary.moment.published) :
    ∃ instant, diary.publishedAt? id = some instant := by
  rw [← kept.entries] at published
  obtain ⟨entry, member, rfl⟩ := List.mem_map.mp published
  refine Option.isSome_iff_exists.mp ?_
  rw [publishedAt?, Option.isSome_map, List.find?_isSome]
  exact ⟨entry, member, decide_eq_true rfl⟩

/-- What may be published is new, and its expiry is not negative. -/
theorem welcomes
    (kept : diary.Kept)
    {occurrence : Occurrence}
    (fresh : ∀ {id}, occurrence.names? = some id → id ∉ diary.moment.published)
    {resource : LocalResource}
    (offered : (diary.moment.occasion occurrence).offered resource) :
    0 ≤ resource.expiry.toInt ∧ resource.id ∉ diary.moment.published ∧
      diary.publisher.owned.find? resource.id = none := by
  obtain ⟨_, _, id, _, _, _, rfl, rfl⟩ := offered
  have isNew : id ∉ diary.moment.published := fresh rfl
  refine ⟨?_, isNew, (kept.unused isNew).1⟩
  change 0 ≤ (AgentSettings.wireExpiry _).toInt
  rw [AgentSettings.toInt_wireExpiry]
  omega

section After

variable {occurrence : Occurrence} {said : List Outgoing} {accepted : List ResourceId}
variable (turnover : Turnover diary occurrence said accepted)

include turnover

/-- What was published before stays entered as it is. -/
theorem publishedAt?_after
    (kept : diary.Kept)
    {id : ResourceId}
    (published : id ∈ diary.moment.published) :
    (diary.after occurrence).publishedAt? id = diary.publishedAt? id := by
  obtain ⟨instant, entered⟩ := kept.exists_publishedAt? published
  obtain ⟨entry, found, _⟩ := Option.map_eq_some_iff.mp entered
  rw [publishedAt?, publishedAt?, turnover.entries, List.find?_append, found]
  rfl

/-- The first announcement stays the first, and if there was none it can only be made now. -/
theorem head?_hellos_after (id : ResourceId) :
    ((diary.after occurrence).hellos id).head?.getD diary.now =
      (diary.hellos id).head?.getD diary.now := by
  obtain ⟨count, hellos, _⟩ := turnover.hellos id
  rw [hellos, List.head?_append, List.head?_replicate]
  cases (diary.hellos id).head? with
  | some => rfl
  | none => split <;> rfl

/-- What becomes of a resource is entered. -/
theorem course
    (kept : diary.Kept)
    (timely : ∀ {instant}, (diary.moment.occasion occurrence).timely instant →
      instant = diary.now)
    (fresh : ∀ {id}, occurrence.names? = some id → id ∉ diary.moment.published)
    {id : ResourceId}
    {later : Scheduled}
    (owned : (diary.after occurrence).publisher.owned.find? id = some later) :
    Course diary (diary.after occurrence) id later := by
  obtain ⟨count, hellos, counts⟩ := turnover.hellos id
  have silence : (∀ outgoing ∈ said, outgoing.isHello id = false) →
      (diary.after occurrence).hellos id = diary.hellos id := by
    intro silent
    have none : count = 0 := Decidable.byContradiction fun some =>
      (counts.mp some).elim fun outgoing ⟨isSaid, isHello⟩ =>
        Bool.false_ne_true ((silent outgoing isSaid).symm.trans isHello)
    rw [hellos, none, List.replicate_zero, List.append_nil]
  cases turnover.effect.publisher.fate kept.regular timely owned with
  | announced wasOwned _ isSaid isHello next =>
      refine .announced wasOwned ?_ next
      rw [hellos, List.getLast?_append, List.getLast?_replicate,
        if_neg (counts.mpr ⟨_, isSaid, isHello⟩)]
      rfl
  | accepted isNew silent next =>
      have isFresh : id ∉ diary.moment.published := by
        rcases turnover.effect.publisher.accepts with none | ⟨resource, isAccepted, offered⟩
        · rw [none] at isNew
          cases isNew
        · rw [isNew] at isAccepted
          cases isAccepted
          exact (kept.welcomes fresh offered).2.1
      obtain ⟨_, unheard, unentered⟩ := kept.unused isFresh
      refine .published isFresh ?_ ((silence silent).trans unheard) next
      rw [publishedAt?, Option.map_eq_none_iff] at unentered
      rw [publishedAt?, turnover.entries, List.find?_append, unentered, isNew, List.map_singleton,
        List.find?_singleton, if_pos (decide_eq_true rfl)]
      rfl
  | kept wasOwned _ silent next interval =>
      exact .kept wasOwned (silence silent) next interval

/-- Whatever happens, the diary keeps what becomes of the agent. -/
theorem act
    (kept : diary.Kept)
    (timely : ∀ {instant}, (diary.moment.occasion occurrence).timely instant →
      instant = diary.now)
    (fresh : ∀ {id}, occurrence.names? = some id → id ∉ diary.moment.published) :
    (diary.after occurrence).Kept := by
  have regular : (diary.after occurrence).publisher.Regular :=
    turnover.effect.publisher.regular kept.regular fun offered =>
      have welcomed := kept.welcomes fresh offered
      ⟨welcomed.1, welcomed.2.2⟩
  have phase : (diary.after occurrence).moment.InService ∨
      (diary.after occurrence).moment.Spent := by
    rcases kept.phase with inService | spent
    · by_cases disposal : occurrence = .dispose
      · exact .inr (disposal ▸ .dispose inService)
      · exact .inl (inService.after disposal)
    · exact .inr (spent.after occurrence).1
  refine ⟨regular, phase, ?_, fun {id} announced => ?_, fun {id later} owned => ?_⟩
  · rw [turnover.entries, turnover.published, List.map_append, kept.entries, List.map_map]
    exact congrArg (diary.moment.published ++ ·) (List.map_id _)
  · rw [turnover.published]
    by_cases before : diary.hellos id = []
    · obtain ⟨count, hellos, counts⟩ := turnover.hellos id
      have heard : count ≠ 0 := by
        rintro rfl
        exact announced (by rw [hellos, before]; rfl)
      obtain ⟨outgoing, isSaid, isHello⟩ := counts.mp heard
      rw [← turnover.published]
      exact mem_published_of_phase phase
        (turnover.effect.publisher.isSome_of_isHello regular isSaid isHello)
    · exact List.mem_append_left _ (kept.published before)
  · cases course turnover kept timely fresh owned with
    | announced _ last due => rw [dueAt?, last, due]; rfl
    | published _ entered hellos due => rw [dueAt?, hellos, entered, due]; rfl
    | kept wasOwned hellos due interval =>
        have published := kept.mem_published wasOwned
        rw [dueAt?, hellos, publishedAt?_after turnover kept published, interval, due]
        exact kept.due wasOwned

end After

/-- However time passes and whatever happens, the diary keeps what becomes of the agent. -/
theorem leads
    {clock : Diary → Instant → Prop}
    {first : Diary}
    (kept : first.Kept)
    (leads : Leads clock first diary) :
    diary.Kept := by
  induction leads with
  | refl => exact kept
  | tail _ step keeps =>
      cases step with
      | act timely fresh =>
          obtain ⟨_, _, turnover⟩ := exists_turnover _ _
          exact keeps.act turnover timely fresh
      | wait =>
          exact ⟨keeps.regular, keeps.phase, keeps.entries, keeps.published, keeps.due⟩

/-- What is owned is owned by the publisher that there is. -/
theorem exists_publisher
    {id : ResourceId}
    {scheduled : Scheduled}
    (owned : diary.publisher.owned.find? id = some scheduled) :
    diary.moment.agent.publisher = some diary.publisher := by
  unfold Diary.publisher Agent.publisherOrNew at owned ⊢
  cases known : diary.moment.agent.publisher with
  | some => rfl
  | none =>
      rw [known] at owned
      cases owned

/-- While the timer of announcements has nothing to do, none is due. -/
theorem lt_nextAnnounce
    (kept : diary.Kept)
    (atRest : diary.moment.agent.announceReady diary.now = false)
    {id : ResourceId}
    {scheduled : Scheduled}
    (owned : diary.publisher.owned.find? id = some scheduled) :
    ∃ deadline, diary.publisher.timer.waitsFor? = some deadline ∧ diary.now < deadline ∧
      deadline ≤ scheduled.nextAnnounce := by
  rw [Agent.announceReady, exists_publisher owned, Option.any_some] at atRest
  exact kept.regular.lt_nextAnnounce atRest owned

/-- What is due in a diary is what is due for the publisher. -/
theorem mem_due_iff
    (kept : diary.Kept)
    {id : ResourceId} :
    id ∈ diary.publisher.due diary.now ↔ diary.isDue id = true := by
  rw [kept.regular.arranged.mem_due, isDue, Option.any_eq_true]
  simp only [decide_eq_true_iff]

/-- A turn of the timer of announcements puts out the announcements of what is due. -/
theorem outputs_announce (kept : diary.Kept) :
    (diary.moment.after (.errand (.announce diary.now))).outputs =
      diary.moment.outputs ++
        ((diary.publisher.dues diary.now).map Publisher.hello).map .sent := by
  rw [← (kept.regular.turn_spec diary.now).1]
  exact diary.moment.progress.outputs_announce diary.now

/-- What is received is answered to the sender only. -/
theorem outputs_receive (diary : Diary) (delivery : Delivery) :
    ∃ answers : List Outgoing,
      (diary.moment.after (.errand (.receive diary.now delivery))).outputs =
          diary.moment.outputs ++ answers.map .sent ∧
        ∀ id, answers.countP (Outgoing.isHello id) = 0 := by
  obtain ⟨_, answers, outputs, silent⟩ := diary.moment.progress.receive_spec diary.now delivery
  refine ⟨answers, outputs, fun id => List.countP_eq_zero.mpr fun answer isAnswer => ?_⟩
  exact Bool.eq_false_iff.mp (silent answer isAnswer id)

theorem keeps (kept : diary.Kept) : diary.Keeps where
  next {id scheduled} owned := by
    have due := kept.due owned
    have isPublished := kept.mem_published owned
    obtain ⟨published, entered⟩ := kept.exists_publishedAt? isPublished
    refine ⟨published, entered, ?_⟩
    rw [dueAt?, entered, Option.or_some] at due
    exact (Option.some.inj due).symm
  ahead atRest id scheduled owned := by
    obtain ⟨_, _, ahead, early⟩ := kept.lt_nextAnnounce atRest owned
    exact Nat.lt_of_lt_of_le ahead early
  turn := by
    refine ⟨diary.publisher.dues diary.now, ?_, ?_, fun id => ?_, fun resource listed => ?_⟩
    · rw [sent_after kept.outputs_announce, Output.filterMap_sent?, List.map_map]
      rfl
    · rw [kept.regular.arranged.map_id_dues]
      exact kept.regular.arranged.nodup_due diary.now
    · rw [kept.regular.arranged.map_id_dues]
      exact kept.mem_due_iff
    · obtain ⟨scheduled, owned, isResource, _⟩ := kept.regular.arranged.mem_dues.mp listed
      rw [owned, Option.map_some, isResource]
  once id := by
    rw [hellos_after kept.outputs_announce, Output.filterMap_sent?,
      kept.regular.countP_isHello_dues]
    simp only [kept.mem_due_iff]
    split
    next => rfl
    next => exact List.append_nil _
  received delivery := by
    obtain ⟨answers, outputs, silent⟩ := outputs_receive diary delivery
    have same := (diary.moment.progress.receive_spec diary.now delivery).1
    refine ⟨congrArg (fun publisher : Option Publisher => publisher.getD .new) same, fun id => ?_⟩
    rw [hellos_after outputs, Output.filterMap_sent?, silent, List.replicate_zero, List.append_nil]

end Kept

end Diary

end Discovery
