import Discovery.Proofs.Subscriber.Holding

namespace Discovery

/-!
# A subscriber and its past

A `Chronicle` is a subscriber in service together with a record of what has
happened to it: when categories came to life, which announcements counted and
which resources were withdrawn.  What the subscriber lists whenever its timer
has nothing to do can be read off the record (`Chronicle.mem_snapshot_iff`):
each resource whose latest announcement in the category that counted is still
good, as that announcement describes it.
-/

/-- Something that has happened to a subscriber. -/
inductive Happening where
  /-- A category came to life. -/
  | created (category : String)
  /-- An announcement counted. -/
  | accepted (time : Instant) (id : ResourceId) (announcement : Wire.Announcement)
  /-- A bye-bye was handled. -/
  | withdrawn (id : ResourceId)
  deriving DecidableEq, Repr

namespace Happening

/-- Whether something has to do with what is known of a resource in a category. -/
def concerns (category : String) (id : ResourceId) : Happening → Bool
  | created other => other == category
  | accepted _ other announcement => other == id && announcement.category == category
  | withdrawn other => other == id

/--
The latest announcement of a resource in a category that counted, since the
category came to life and the resource was last withdrawn.
-/
def Latest
    (record : List Happening)
    (category : String)
    (id : ResourceId)
    (time : Instant)
    (announcement : Wire.Announcement) : Prop :=
  ∃ earlier later, record = earlier ++ .accepted time id announcement :: later ∧
    announcement.category = category ∧ ∀ happening ∈ later, happening.concerns category id = false

section Latest

variable {record : List Happening} {category : String} {id : ResourceId}
variable {time : Instant} {announcement : Wire.Announcement}

/-- What does not concern a resource leaves its latest announcement. -/
theorem latest_concat_of_not_concerns
    {happening : Happening}
    (other : happening.concerns category id = false) :
    Latest (record ++ [happening]) category id time announcement ↔
      Latest record category id time announcement := by
  constructor
  · rintro ⟨earlier, later, split, isCategory, apart⟩
    rcases List.eq_nil_or_concat later with rfl | ⟨before, last, rfl⟩
    · obtain ⟨rfl, isLast⟩ := List.append_inj' split rfl
      cases isLast
      simp [concerns, isCategory] at other
    · rw [List.concat_eq_append, ← List.cons_append, ← List.append_assoc] at split
      obtain ⟨rfl, _⟩ := List.append_inj' split rfl
      refine ⟨earlier, before, rfl, isCategory, fun happening isBefore => apart happening ?_⟩
      rw [List.concat_eq_append]
      exact List.mem_append_left _ isBefore
  · rintro ⟨earlier, later, rfl, isCategory, apart⟩
    refine ⟨earlier, later ++ [happening], by simp, isCategory, fun sought isLater => ?_⟩
    rcases List.mem_append.mp isLater with before | isLast
    · exact apart sought before
    · rwa [List.mem_singleton.mp isLast]

/-- Whatever concerns a resource is its latest announcement from then on, or leaves it none. -/
theorem latest_concat_of_concerns
    {happening : Happening}
    (concerned : happening.concerns category id = true) :
    Latest (record ++ [happening]) category id time announcement ↔
      happening = .accepted time id announcement := by
  constructor
  · rintro ⟨earlier, later, split, _, apart⟩
    rcases List.eq_nil_or_concat later with rfl | ⟨before, last, rfl⟩
    · exact List.singleton_inj.mp (List.append_inj' split rfl).2
    · rw [List.concat_eq_append, ← List.cons_append, ← List.append_assoc] at split
      obtain ⟨_, isLast⟩ := List.append_inj' split rfl
      have notConcerned := apart last (by simp)
      rw [← List.singleton_inj.mp isLast, concerned] at notConcerned
      cases notConcerned
  · rintro rfl
    refine ⟨record, [], rfl, ?_, nofun⟩
    simpa [concerns] using concerned

/-- There is one latest announcement at most. -/
theorem latest_unique
    {otherTime : Instant}
    {other : Wire.Announcement}
    (latest : Latest record category id time announcement)
    (alsoLatest : Latest record category id otherTime other) :
    otherTime = time ∧ other = announcement := by
  induction record using List.reverseRecOn with
  | nil =>
      obtain ⟨earlier, later, split, _⟩ := latest
      cases earlier <;> cases split
  | append_singleton record happening inductionHypothesis =>
      cases concerned : happening.concerns category id with
      | false =>
          rw [latest_concat_of_not_concerns concerned] at latest alsoLatest
          exact inductionHypothesis latest alsoLatest
      | true =>
          rw [latest_concat_of_concerns concerned] at latest alsoLatest
          cases latest.symm.trans alsoLatest
          exact ⟨rfl, rfl⟩

end Latest

end Happening

/-- A subscriber in service, the time, and what has happened to it. -/
structure Chronicle where
  subscriber : Subscriber
  now : Instant
  record : List Happening

namespace Chronicle

/-- What can be done to a subscriber in service. -/
inductive Event where
  | subscribe (category : String)
  | dispose (id : Nat)
  /-- A message arrives on a stream. -/
  | handle (id : StreamId) (message : Wire.Message)
  /-- Time passes. -/
  | wait (span : Span)
  /-- The task of the timer takes a turn. -/
  | turn
  /-- The delivery task collects whom to tell. -/
  | collect
  /-- A subscription reads its list. -/
  | read (id : Nat)
  /-- Other categories come first when all of them are gone through. -/
  | shuffle (front : List String)
  deriving DecidableEq, Repr

/-- A subscriber without subscriptions, at the start of the clock. -/
def new : Chronicle :=
  ⟨.new, 0, []⟩

/-- What a message does to a subscriber, as far as the record goes. -/
def recorded (chronicle : Chronicle) (id : StreamId) : Wire.Message → List Happening
  | .query _ => []
  | .hello announcement | .reply announcement =>
      if chronicle.subscriber.accepts id announcement then
        [.accepted chronicle.now id announcement]
      else []
  | .byeBye => [.withdrawn id]

/-- Let something be done, and record what has happened by it. -/
def after (chronicle : Chronicle) : Event → Chronicle
  | .subscribe category =>
      let next := (chronicle.subscriber.subscribe category).2
      let begins :=
        !chronicle.subscriber.categories.contains category && next.categories.contains category
      { chronicle with
        subscriber := next
        record := if begins then chronicle.record ++ [.created category] else chronicle.record }
  | .dispose id => { chronicle with subscriber := (chronicle.subscriber.dispose id).2 }
  | .handle id message =>
      { chronicle with
        subscriber := chronicle.subscriber.handle chronicle.now (id, message)
        record := chronicle.record ++ chronicle.recorded id message }
  | .wait span => { chronicle with now := chronicle.now + span }
  | .turn => { chronicle with subscriber := chronicle.subscriber.turn chronicle.now }
  | .collect => { chronicle with subscriber := chronicle.subscriber.collect.2 }
  | .read id => { chronicle with subscriber := (chronicle.subscriber.read id).2 }
  | .shuffle front => { chronicle with subscriber := { chronicle.subscriber with front := front } }

/-- A subscriber after a number of events. -/
def history (events : List Event) : Chronicle :=
  events.foldl after new

/-- Whether the timer has nothing to do. -/
def Settled (chronicle : Chronicle) : Prop :=
  chronicle.subscriber.timer.isReady chronicle.now = false

instance (chronicle : Chronicle) : Decidable chronicle.Settled :=
  inferInstanceAs (Decidable (_ = false))

end Chronicle

namespace Subscriber

/-- What is known is what the record says, and what is not known has lapsed by the record. -/
structure Remembers (subscriber : Subscriber) (now : Instant) (record : List Happening) : Prop where
  known : ∀ {category id entry}, subscriber.known? category id = some (some entry) →
    ∃ time announcement, Happening.Latest record category id time announcement ∧
      entry.resource = .ofAnnouncement id announcement ∧ entry.expiresAt = lapse time announcement
  unknown : ∀ {category id time announcement}, subscriber.known? category id = some none →
    Happening.Latest record category id time announcement → lapse time announcement ≤ now

namespace Remembers

open Happening

variable {before after : Subscriber} {now : Instant} {record : List Happening}

theorem new : Remembers Subscriber.new 0 [] :=
  ⟨nofun, nofun⟩

theorem wait
    (remembers : before.Remembers now record)
    (span : Span) :
    before.Remembers (now + span) record :=
  ⟨remembers.known, fun isUnknown latest =>
    Nat.le_add_right_of_le (remembers.unknown isUnknown latest)⟩

/-- What fades has lapsed or is no longer watched. -/
theorem fade
    (remembers : before.Remembers now record)
    (faded : Faded now after before) :
    after.Remembers now record := by
  refine ⟨fun isKnown => remembers.known (faded.kept isKnown), ?_⟩
  intro category id time announcement isUnknown latest
  obtain ⟨known, wasKnown⟩ :=
    Option.isSome_iff_exists.mp (faded.watched (by rw [isUnknown]; rfl))
  cases known with
  | none => exact remembers.unknown wasKnown latest
  | some entry =>
      obtain ⟨_, _, wasLatest, _, lasts⟩ := remembers.known wasKnown
      obtain ⟨rfl, rfl⟩ := latest_unique latest wasLatest
      exact lasts ▸ faded.lapsed isUnknown wasKnown

/-- A category that comes to life has no past. -/
theorem create
    (remembers : before.Remembers now record)
    {name : String}
    (first : ∀ category id, after.known? category id =
      if category = name then some none else before.known? category id) :
    after.Remembers now (record ++ [.created name]) := by
  constructor
  · intro category id entry isKnown
    rw [first] at isKnown
    split at isKnown
    next => cases isKnown
    next isOther =>
      obtain ⟨time, announcement, latest, described⟩ := remembers.known isKnown
      refine ⟨time, announcement, (latest_concat_of_not_concerns ?_).mpr latest, described⟩
      exact beq_false_of_ne (Ne.symm isOther)
  · intro category id time announcement isUnknown latest
    rw [first] at isUnknown
    split at isUnknown
    next isName =>
      have concerned : concerns category id (.created name) = true := beq_iff_eq.mpr isName.symm
      cases (latest_concat_of_concerns concerned).mp latest
    next isOther =>
      have notConcerned : concerns category id (.created name) = false :=
        beq_false_of_ne (Ne.symm isOther)
      exact remembers.unknown isUnknown ((latest_concat_of_not_concerns notConcerned).mp latest)

/-- An announcement that counts is the latest of its resource. -/
theorem accept
    (remembers : before.Remembers now record)
    {allowed : List Callback → Prop}
    (tidy : before.Tidy allowed)
    (tidyAfter : after.Tidy allowed)
    {heard : ResourceId}
    {said : Wire.Announcement}
    (own : ∀ {category}, before.index.find? heard = some category → category = said.category)
    (taught : Taught now heard (some said) after before) :
    after.Remembers now (record ++ [.accepted now heard said]) := by
  have notConcerned : ∀ category id, ¬ (id = heard ∧ category = said.category) →
      concerns category id (.accepted now heard said) = false := by
    intro category id isOther
    simpa [concerns, @eq_comm _ heard, @eq_comm _ said.category] using isOther
  have concerned : concerns said.category heard (.accepted now heard said) = true := by
    simp [concerns]
  constructor
  · intro category id entry isKnown
    by_cases isSame : id = heard
    · subst isSame
      obtain ⟨_, isSaid, isResource⟩ := taught.learnt isKnown
      cases isSaid
      have isCategory : said.category = category := by
        rw [← (tidyAfter.named isKnown).2, isResource]
        rfl
      subst isCategory
      obtain ⟨_, isEntry, lasts⟩ := taught.known rfl isKnown
      cases isEntry
      exact ⟨now, said, (latest_concat_of_concerns concerned).mpr rfl, isResource, lasts⟩
    · rw [taught.others isSame] at isKnown
      obtain ⟨time, announcement, latest, described⟩ := remembers.known isKnown
      have apart := notConcerned category id fun same => isSame same.1
      exact ⟨time, announcement, (latest_concat_of_not_concerns apart).mpr latest, described⟩
  · intro category id time announcement isUnknown latest
    by_cases isSame : id = heard ∧ category = said.category
    · obtain ⟨rfl, rfl⟩ := isSame
      obtain ⟨_, isEntry, _⟩ := taught.known rfl isUnknown
      cases isEntry
    · rw [latest_concat_of_not_concerns (notConcerned _ _ isSame)] at latest
      obtain ⟨known, wasKnown⟩ :=
        Option.isSome_iff_exists.mp (taught.watched (by rw [isUnknown]; rfl))
      refine remembers.unknown ?_ latest
      by_cases isHeard : id = heard
      · subst isHeard
        cases known with
        | none => exact wasKnown
        | some entry => exact absurd ⟨rfl, own (tidy.filed wasKnown)⟩ isSame
      · rwa [taught.others isHeard] at isUnknown

/-- Of a resource that is withdrawn nothing is left. -/
theorem withdraw
    (remembers : before.Remembers now record)
    {heard : ResourceId}
    (taught : Taught now heard none after before) :
    after.Remembers now (record ++ [.withdrawn heard]) := by
  have notConcerned : ∀ {category id}, id ≠ heard →
      concerns category id (.withdrawn heard) = false :=
    fun isOther => beq_false_of_ne (Ne.symm isOther)
  constructor
  · intro category id entry isKnown
    by_cases isSame : id = heard
    · subst isSame
      obtain ⟨_, isSaid, _⟩ := taught.learnt isKnown
      cases isSaid
    · rw [taught.others isSame] at isKnown
      obtain ⟨time, announcement, latest, described⟩ := remembers.known isKnown
      exact ⟨time, announcement, (latest_concat_of_not_concerns (notConcerned isSame)).mpr latest,
        described⟩
  · intro category id time announcement isUnknown latest
    by_cases isSame : id = heard
    · have concerned : concerns category id (.withdrawn heard) = true :=
        beq_iff_eq.mpr isSame.symm
      cases (latest_concat_of_concerns concerned).mp latest
    · rw [taught.others isSame] at isUnknown
      exact remembers.unknown isUnknown
        ((latest_concat_of_not_concerns (notConcerned isSame)).mp latest)

end Remembers

end Subscriber

namespace Chronicle

open Happening

/-- A subscriber in service, in order, that knows what its record says. -/
structure Faithful (chronicle : Chronicle) : Prop where
  readable : chronicle.subscriber.Readable
  watchful : chronicle.subscriber.Watchful
  inService : chronicle.subscriber.stopped = false
  remembers : chronicle.subscriber.Remembers chronicle.now chronicle.record

/-- What is done to a subscriber in service does not shut it. -/
theorem step_after (chronicle : Chronicle) (event : Event) :
    chronicle.subscriber.Step .service (chronicle.after event).subscriber := by
  cases event with
  | subscribe => exact .subscribe trivial
  | dispose id => exact .dispose id
  | handle _ message =>
      cases message with
      | query => exact .rest
      | hello announcement | reply announcement => exact .hear trivial trivial announcement
      | byeBye => exact .forget trivial
  | wait => exact .rest
  | turn => exact .turn trivial
  | collect => exact .collect trivial
  | read id => exact .read id
  | shuffle front => exact .shuffle front

namespace Faithful

variable {chronicle : Chronicle}

theorem new : Faithful Chronicle.new :=
  ⟨.new, .new, rfl, .new⟩

/-- The record tells when a category comes to life. -/
theorem remembers_subscribe
    (faithful : chronicle.Faithful)
    (name : String) :
    (chronicle.after (.subscribe name)).subscriber.Remembers chronicle.now
      (chronicle.after (.subscribe name)).record := by
  have watched : ∀ subscriber : Subscriber,
      subscriber.categories.contains name = (subscriber.known? name .nil).isSome :=
    fun _ => Option.isSome_map.symm
  simp only [after, watched]
  rcases joined : chronicle.subscriber.subscribe name with ⟨_ | ⟨id, isFirst⟩, next⟩
  · rw [Subscriber.subscribe_error joined, Bool.not_and_self, if_neg Bool.false_ne_true]
    exact faithful.remembers
  have watching := Subscriber.watching_subscribe faithful.readable.tidy trivial joined
  cases isFirst with
  | false =>
      rw [watching.further rfl, Bool.not_and_self, if_neg Bool.false_ne_true]
      exact faithful.remembers.fade (.of_same (watching.further rfl) watching.index)
  | true =>
      rw [watching.unwatched rfl, watching.first rfl, if_pos rfl]
      exact faithful.remembers.create (watching.first rfl)

/-- The record tells which announcements count. -/
theorem remembers_hear
    (faithful : chronicle.Faithful)
    (id : StreamId)
    (announcement : Wire.Announcement) :
    (chronicle.subscriber.hear chronicle.now id announcement).Remembers chronicle.now
      (chronicle.record ++
        if chronicle.subscriber.accepts id announcement then
          [.accepted chronicle.now id announcement]
        else []) := by
  obtain ⟨⟨sound, tidy, _⟩, watchful, _, remembers⟩ := faithful
  cases counts : chronicle.subscriber.accepts id announcement with
  | false =>
      rw [Subscriber.hear_of_not_accepts tidy watchful counts, if_neg Bool.false_ne_true,
        List.append_nil]
      exact remembers
  | true =>
      obtain ⟨real, _, own⟩ := Subscriber.own_of_accepts tidy watchful counts
      obtain ⟨tidyAfter, taught⟩ := Subscriber.taught_hear tidy sound chronicle.now real own
      exact remembers.accept tidy tidyAfter own taught

/-- The record keeps up with whatever is done. -/
theorem remembers_after
    (faithful : chronicle.Faithful)
    (event : Event) :
    (chronicle.after event).subscriber.Remembers (chronicle.after event).now
      (chronicle.after event).record := by
  obtain ⟨sound, tidy, _⟩ := faithful.readable
  have remembers := faithful.remembers
  cases event with
  | subscribe name => exact faithful.remembers_subscribe name
  | dispose id => exact remembers.fade (Subscriber.faded_dispose tidy chronicle.now id).1
  | handle id message =>
      cases message with
      | query category =>
          have same : (chronicle.after (.handle id (.query category))).record = chronicle.record :=
            List.append_nil chronicle.record
          rw [same]
          exact remembers
      | hello announcement | reply announcement => exact faithful.remembers_hear id announcement
      | byeBye =>
          exact remembers.withdraw (Subscriber.taught_forget tidy sound chronicle.now id).2
  | wait span => exact remembers.wait span
  | turn => exact remembers.fade (Subscriber.faded_turn tidy chronicle.now).1
  | collect =>
      obtain ⟨_, known, index⟩ := Subscriber.tidy_collect tidy
      exact remembers.fade (.of_same known index)
  | read id =>
      obtain ⟨_, known, index⟩ := Subscriber.tidy_read tidy sound id
      exact remembers.fade (.of_same known index)
  | shuffle => exact ⟨remembers.known, remembers.unknown⟩

theorem after
    (faithful : chronicle.Faithful)
    (event : Event) :
    (chronicle.after event).Faithful where
  readable := faithful.readable.step (chronicle.step_after event) nofun
  watchful :=
    faithful.watchful.step faithful.readable faithful.inService (chronicle.step_after event)
      id id
  inService := by
    rcases (chronicle.step_after event).stopped_cases with same | ⟨due, _⟩
    · exact same.trans faithful.inService
    · exact due.elim
  remembers := faithful.remembers_after event

theorem history (events : List Event) : (history events).Faithful :=
  List.foldlRecOn events Chronicle.after .new fun _ faithful event _ => faithful.after event

/-- When the timer has nothing to do, what is known is what is still good by the record. -/
theorem known_iff
    (faithful : chronicle.Faithful)
    (settled : chronicle.Settled)
    {category : String}
    (isWatched : chronicle.subscriber.categories.contains category = true)
    {id : ResourceId}
    {resource : RemoteResource} :
    (∃ entry, chronicle.subscriber.known? category id = some (some entry) ∧
        entry.resource = resource) ↔
      ∃ time announcement, Latest chronicle.record category id time announcement ∧
        chronicle.now < lapse time announcement ∧ resource = .ofAnnouncement id announcement := by
  obtain ⟨_, watchful, _, remembers⟩ := faithful
  constructor
  · rintro ⟨entry, isKnown, rfl⟩
    obtain ⟨time, announcement, latest, isResource, lasts⟩ := remembers.known isKnown
    obtain ⟨deadline, isDeadline, early⟩ := watchful.armed isKnown
    have ahead := (watchful.timer.asleep_of_atRest watchful.running settled isDeadline).2
    exact ⟨time, announcement, latest, lasts ▸ Nat.lt_of_lt_of_le ahead early, isResource⟩
  · rintro ⟨time, announcement, latest, good, rfl⟩
    obtain ⟨known, isKnown⟩ : ∃ known, chronicle.subscriber.known? category id = some known :=
      Option.isSome_iff_exists.mp (by rwa [Subscriber.known?, Option.isSome_map])
    cases known with
    | none => exact absurd (remembers.unknown isKnown latest) (Nat.not_le_of_lt good)
    | some entry =>
        obtain ⟨_, _, wasLatest, isResource, _⟩ := remembers.known isKnown
        obtain ⟨rfl, rfl⟩ := latest_unique latest wasLatest
        exact ⟨entry, isKnown, isResource⟩

/-- When the timer has nothing to do, the record tells which announcements count. -/
theorem accepts_iff
    (faithful : chronicle.Faithful)
    (settled : chronicle.Settled)
    (id : StreamId)
    (announcement : Wire.Announcement) :
    chronicle.subscriber.accepts id announcement = true ↔
      id.isNil = false ∧
        chronicle.subscriber.categories.contains announcement.category = true ∧
        ∀ {other time earlier}, other ≠ announcement.category →
          chronicle.subscriber.categories.contains other = true →
            Latest chronicle.record other id time earlier → lapse time earlier ≤ chronicle.now := by
  simp only [Subscriber.accepts, Bool.and_eq_true, Bool.not_eq_true', and_assoc]
  refine and_congr_right fun _ => and_congr_right fun _ => ?_
  rw [← Bool.not_eq_true, Subscriber.holdsElsewhere_iff]
  constructor
  · intro notElsewhere other time earlier different isWatched latest
    refine Nat.le_of_not_lt fun good => ?_
    obtain ⟨entry, isKnown, _⟩ :=
      (faithful.known_iff settled isWatched).mpr ⟨time, earlier, latest, good, rfl⟩
    exact notElsewhere ⟨other, entry, different, isKnown⟩
  · rintro nothingElsewhere ⟨other, entry, different, isKnown⟩
    have isWatched : chronicle.subscriber.categories.contains other = true := by
      have isSome : (chronicle.subscriber.known? other id).isSome := by rw [isKnown]; rfl
      rwa [Subscriber.known?, Option.isSome_map] at isSome
    obtain ⟨time, earlier, latest, good, _⟩ :=
      (faithful.known_iff settled isWatched).mp ⟨entry, isKnown, rfl⟩
    exact Nat.not_le_of_lt good (nothingElsewhere different isWatched latest)

/-- An announcement that does not count leaves neither an effect nor a record. -/
theorem after_of_not_accepts
    (faithful : chronicle.Faithful)
    {id : StreamId}
    {announcement : Wire.Announcement}
    (refused : chronicle.subscriber.accepts id announcement = false) :
    chronicle.after (.handle id (.hello announcement)) = chronicle ∧
      chronicle.after (.handle id (.reply announcement)) = chronicle := by
  have unchanged := Subscriber.hear_of_not_accepts faithful.readable.tidy faithful.watchful refused
  simp only [Chronicle.after, Subscriber.handle, recorded, unchanged, refused, Bool.false_eq_true,
    if_false, List.append_nil, and_self]

end Faithful

/--
Whatever is done to a subscriber in service, whenever its timer has nothing to
do it lists in a subscribed category each resource whose latest announcement
that counted is still good, as that announcement describes it, and no other.
Which announcements count can then be told from the record as well, and those
that do not count change nothing at any time.
-/
theorem mem_snapshot_iff (events : List Event) :
    ((history events).Settled →
      (∀ {category resource},
        (history events).subscriber.categories.contains category = true →
          (resource ∈ (history events).subscriber.snapshot category ↔
            ∃ time announcement,
              Latest (history events).record category resource.id time announcement ∧
                (history events).now < lapse time announcement ∧
                resource = .ofAnnouncement resource.id announcement)) ∧
      ∀ {id announcement},
        (history events).subscriber.accepts id announcement = true ↔
          id.isNil = false ∧
            (history events).subscriber.categories.contains announcement.category = true ∧
            ∀ {other time earlier}, other ≠ announcement.category →
              (history events).subscriber.categories.contains other = true →
                Latest (history events).record other id time earlier →
                  lapse time earlier ≤ (history events).now) ∧
    ∀ {id announcement}, (history events).subscriber.accepts id announcement = false →
      (history events).after (.handle id (.hello announcement)) = history events ∧
        (history events).after (.handle id (.reply announcement)) = history events := by
  have faithful := Faithful.history events
  refine ⟨fun settled => ⟨fun {category resource} isWatched => ?_, fun {id announcement} =>
    faithful.accepts_iff settled id announcement⟩, fun refused =>
    faithful.after_of_not_accepts refused⟩
  rw [faithful.readable.mem_snapshot]
  exact faithful.known_iff settled isWatched

/-- A resource that is announced in two categories stays in the first until it lapses. -/
theorem mem_snapshot_iff_conflicting :
    let one : StreamId := ⟨List.replicate 16 1, List.length_replicate⟩
    let room : Wire.Announcement := ⟨"Room", "here", 30, ∅⟩
    let hall : Wire.Announcement := ⟨"Hall", "there", 60, ∅⟩
    let resource : RemoteResource := .ofAnnouncement one room
    let early := history
      [.subscribe "Room", .subscribe "Hall", .handle one (.hello room),
        .handle one (.hello hall), .turn, .wait (29 * second)]
    let late := history
      [.subscribe "Room", .subscribe "Hall", .handle one (.hello room),
        .handle one (.hello hall), .turn, .wait (30 * second), .turn, .turn]
    early.Settled ∧ early.subscriber.categories.contains "Room" = true ∧
      resource ∈ early.subscriber.snapshot "Room" ∧
      (∃ time announcement, Latest early.record "Room" one time announcement ∧
        early.now < lapse time announcement ∧ resource = .ofAnnouncement one announcement) ∧
      early.after (.handle one (.hello hall)) = early ∧
      late.Settled ∧ late.subscriber.categories.contains "Room" = true ∧
      resource ∉ late.subscriber.snapshot "Room" ∧
      late.subscriber.accepts one hall = true := by
  intro one room hall resource early late
  have settled : early.Settled := by decide +kernel
  have isWatched : early.subscriber.categories.contains "Room" = true := by decide +kernel
  have isListed : resource ∈ early.subscriber.snapshot "Room" := by decide +kernel
  obtain ⟨told, refused⟩ := mem_snapshot_iff
    [.subscribe "Room", .subscribe "Hall", .handle one (.hello room),
      .handle one (.hello hall), .turn, .wait (29 * second)]
  refine ⟨settled, isWatched, isListed, ((told settled).1 isWatched).mp isListed,
    (refused (by decide +kernel)).1, by decide +kernel, by decide +kernel, by decide +kernel,
    by decide +kernel⟩

end Chronicle

end Discovery
