import Discovery.Proofs.Subscriber.Revision
import Mathlib.Data.List.Destutter

namespace Discovery

/-!
# Messages on different streams

A transport promises an order on each stream only, and may repeat a message.
A subscriber needs no more: messages on different streams can be handled in
either order, and handling a message again at once changes nothing.  Two
sequences that agree on every stream up to repetitions therefore lead to the
same subscriber.
-/

namespace Arrivals

variable {State Stream Message : Type}

/-- The messages on one stream, in the order of their arrival. -/
def onStream
    [DecidableEq Stream]
    (stream : Stream)
    (arrivals : List (Stream × Message)) : List Message :=
  (arrivals.filter fun arrival => arrival.1 = stream).map Prod.snd

/-- Two sequences say the same on every stream, up to repetitions of a message. -/
def SameStreams
    [DecidableEq Stream]
    [DecidableEq Message]
    (first second : List (Stream × Message)) : Prop :=
  ∀ stream,
    (onStream stream first).destutter (· ≠ ·) = (onStream stream second).destutter (· ≠ ·)

section Fold

variable {step : State → Stream × Message → State}

/-- A message can be handled before others that are on other streams. -/
theorem foldl_of_forall_ne
    (independent : ∀ state (first second : Stream × Message), first.1 ≠ second.1 →
      step (step state first) second = step (step state second) first)
    {arrivals : List (Stream × Message)}
    {arrival : Stream × Message}
    (others : ∀ other ∈ arrivals, other.1 ≠ arrival.1)
    (state : State) :
    step (arrivals.foldl step state) arrival = arrivals.foldl step (step state arrival) := by
  induction arrivals generalizing state with
  | nil => rfl
  | cons first rest inductionHypothesis =>
      have inRest : ∀ other ∈ rest, other.1 ≠ arrival.1 :=
        fun other member => others other (List.mem_cons_of_mem first member)
      rw [List.foldl_cons, inductionHypothesis inRest,
        independent state first arrival (others first List.mem_cons_self), List.foldl_cons]

/-- The messages on one stream can be handled before all others. -/
theorem foldl_partition
    [DecidableEq Stream]
    (independent : ∀ state (first second : Stream × Message), first.1 ≠ second.1 →
      step (step state first) second = step (step state second) first)
    (stream : Stream)
    (arrivals : List (Stream × Message))
    (state : State) :
    arrivals.foldl step state =
      (arrivals.filter fun arrival => arrival.1 ≠ stream).foldl step
        ((arrivals.filter fun arrival => arrival.1 = stream).foldl step state) := by
  induction arrivals using List.reverseRecOn with
  | nil => rfl
  | append_singleton earlier last inductionHypothesis =>
      rw [List.foldl_append, inductionHypothesis, List.filter_append, List.filter_append]
      by_cases onIt : last.1 = stream
      · have others : ∀ other ∈ earlier.filter fun arrival => arrival.1 ≠ stream,
            other.1 ≠ last.1 := by
          intro other member same
          have elsewhere := (List.mem_filter.mp member).2
          exact (of_decide_eq_true elsewhere) (same.trans onIt)
        simp only [List.foldl_cons, List.foldl_nil, List.filter_cons, onIt, ne_eq,
          not_true_eq_false, decide_false, decide_true, Bool.false_eq_true, ↓reduceIte,
          List.filter_nil, List.append_nil, List.foldl_append]
        exact foldl_of_forall_ne independent others _
      · simp only [List.foldl_cons, List.foldl_nil, List.filter_cons, onIt, ne_eq,
          not_false_eq_true, decide_false, decide_true, Bool.false_eq_true, ↓reduceIte,
          List.filter_nil, List.append_nil, List.foldl_append]

/-- Handling a message and then others on its stream is not changed by dropping repetitions. -/
theorem foldl_destutter'
    [DecidableEq Message]
    (repeated : ∀ state (arrival : Stream × Message),
      step (step state arrival) arrival = step state arrival)
    (stream : Stream)
    (message : Message)
    (messages : List Message)
    (state : State) :
    ((messages.destutter' (· ≠ ·) message).map (Prod.mk stream)).foldl step state =
      (messages.map (Prod.mk stream)).foldl step (step state (stream, message)) := by
  induction messages generalizing message state with
  | nil => rfl
  | cons next rest inductionHypothesis =>
      rw [List.destutter'_cons]
      by_cases same : message = next
      · rw [if_neg (not_not.mpr same), inductionHypothesis, List.map_cons, List.foldl_cons,
          ← same, repeated]
      · rw [if_pos same, List.map_cons, List.foldl_cons, inductionHypothesis, List.map_cons,
          List.foldl_cons]

/-- Repetitions on one stream can be dropped. -/
theorem foldl_destutter
    [DecidableEq Message]
    (repeated : ∀ state (arrival : Stream × Message),
      step (step state arrival) arrival = step state arrival)
    (stream : Stream)
    (messages : List Message)
    (state : State) :
    ((messages.destutter (· ≠ ·)).map (Prod.mk stream)).foldl step state =
      (messages.map (Prod.mk stream)).foldl step state := by
  cases messages with
  | nil => rfl
  | cons message rest => exact foldl_destutter' repeated stream message rest state

/-- The messages on one stream, with the stream. -/
theorem map_onStream
    [DecidableEq Stream]
    (stream : Stream)
    (arrivals : List (Stream × Message)) :
    (onStream stream arrivals).map (Prod.mk stream) =
      arrivals.filter fun arrival => arrival.1 = stream := by
  rw [onStream, List.map_map]
  conv => rhs; rw [← List.map_id (arrivals.filter fun arrival => arrival.1 = stream)]
  refine List.map_congr_left fun arrival member => ?_
  have onIt : arrival.1 = stream := of_decide_eq_true (List.mem_filter.mp member).2
  exact Prod.ext onIt.symm rfl

/-- Taking the messages of one stream away leaves the other streams as they are. -/
theorem onStream_filter_ne
    [DecidableEq Stream]
    {stream other : Stream}
    (different : other ≠ stream)
    (arrivals : List (Stream × Message)) :
    onStream other (arrivals.filter fun arrival => arrival.1 ≠ stream) =
      onStream other arrivals := by
  rw [onStream, onStream, List.filter_filter]
  congr 1
  refine List.filter_congr fun arrival _ => ?_
  by_cases onOther : arrival.1 = other
  · simp [onOther, different]
  · simp [onOther]

/-- Nothing is left on a stream whose messages were taken away. -/
theorem onStream_filter_self
    [DecidableEq Stream]
    (stream : Stream)
    (arrivals : List (Stream × Message)) :
    onStream stream (arrivals.filter fun arrival => arrival.1 ≠ stream) = [] := by
  rw [onStream, List.filter_filter]
  simp

/--
Handling sequences that say the same on every stream leads to the same state,
because one stream after another can be handled first.
-/
theorem foldl_eq_of_sameStreams
    [DecidableEq Stream]
    [DecidableEq Message]
    (independent : ∀ state (first second : Stream × Message), first.1 ≠ second.1 →
      step (step state first) second = step (step state second) first)
    (repeated : ∀ state (arrival : Stream × Message),
      step (step state arrival) arrival = step state arrival)
    {first second : List (Stream × Message)}
    (same : SameStreams first second)
    (state : State) :
    first.foldl step state = second.foldl step state := by
  have sorted : ∀ (streams : List Stream) (first second : List (Stream × Message)),
      (∀ arrival ∈ first ++ second, arrival.1 ∈ streams) →
        SameStreams first second → ∀ state,
          first.foldl step state = second.foldl step state := by
    intro streams
    induction streams with
    | nil =>
        intro first second covered same state
        have none : first ++ second = [] :=
          List.eq_nil_iff_forall_not_mem.mpr fun arrival member => by
            simpa using covered arrival member
        obtain ⟨rfl, rfl⟩ := List.append_eq_nil_iff.mp none
        rfl
    | cons stream rest inductionHypothesis =>
        intro first second covered same state
        have onIt :
            (first.filter fun arrival => arrival.1 = stream).foldl step state =
              (second.filter fun arrival => arrival.1 = stream).foldl step state := by
          rw [← map_onStream, ← map_onStream, ← foldl_destutter repeated, same stream,
            foldl_destutter repeated]
        rw [foldl_partition independent stream first, foldl_partition independent stream second,
          onIt]
        refine inductionHypothesis _ _ ?_ ?_ _
        · intro arrival member
          rw [← List.filter_append] at member
          obtain ⟨known, elsewhere⟩ := List.mem_filter.mp member
          exact List.mem_of_ne_of_mem (of_decide_eq_true elsewhere) (covered arrival known)
        · intro other
          by_cases isStream : other = stream
          · rw [isStream, onStream_filter_self, onStream_filter_self]
          · rw [onStream_filter_ne isStream, onStream_filter_ne isStream, same other]
  exact sorted ((first ++ second).map Prod.fst) first second
    (fun arrival member => List.mem_map_of_mem member) same state

end Fold

end Arrivals

namespace Subscriber

/-- A revision leaves what is known of other resources alone. -/
theorem known?_revise
    (subscriber : Subscriber)
    {revision : Revision}
    {id : ResourceId}
    (different : revision.id ≠ id)
    (name : String) :
    (subscriber.revise revision).known? name id = subscriber.known? name id := by
  simp only [known?, revise, Table.find?_modify]
  split
  next =>
    rw [Option.map_map]
    congr 1
    funext category
    simp only [Function.comp, Revision.onCategory, Table.find?_assign, if_neg different.symm]
  next => rfl

/-- A revision leaves the index of other resources alone. -/
theorem index_revise
    (subscriber : Subscriber)
    {revision : Revision}
    {id : ResourceId}
    (different : revision.id ≠ id) :
    (subscriber.revise revision).index.find? id = subscriber.index.find? id := by
  simp only [revise, Table.find?_assign, if_neg different.symm]

/-- What a message revises does not depend on what is known of other resources. -/
theorem revision?_revise
    (subscriber : Subscriber)
    (now : Instant)
    {revision : Revision}
    {id : StreamId}
    (different : revision.id ≠ id)
    (message : Wire.Message) :
    (subscriber.revise revision).revision? now id message =
      subscriber.revision? now id message := by
  have index := index_revise subscriber different
  have known := known?_revise subscriber different
  have running : (subscriber.revise revision).stopped = subscriber.stopped := rfl
  have elsewhere : ∀ category,
      (subscriber.revise revision).knownElsewhere id category =
        subscriber.knownElsewhere id category := by
    intro category
    rw [knownElsewhere, index, knownElsewhere]
  have heard : ∀ announcement,
      (subscriber.revise revision).heard? now id announcement =
        subscriber.heard? now id announcement := by
    intro announcement
    have announced : (subscriber.revise revision).announced now id announcement =
        subscriber.announced now id announcement := by
      funext before
      cases before <;> simp only [announced, index]
    simp only [heard?, elsewhere, running, known, announced]
  cases message with
  | query category => rfl
  | hello announcement => exact heard announcement
  | reply announcement => exact heard announcement
  | byeBye => simp only [revision?, withdrawn?, running, index, known]

/-- A message revises what is known of the resource named by its stream. -/
theorem id_of_revision?
    {subscriber : Subscriber}
    {now : Instant}
    {id : StreamId}
    {message : Wire.Message}
    {revision : Revision}
    (revises : subscriber.revision? now id message = some revision) :
    revision.id = id := by
  have heard : ∀ announcement,
      subscriber.heard? now id announcement = some revision → revision.id = id := by
    intro announcement counts
    unfold heard? at counts
    split at counts
    · cases counts
    · obtain ⟨before, _, rfl⟩ := Option.map_eq_some_iff.mp counts
      cases before <;> rfl
  cases message with
  | query category => cases revises
  | hello announcement => exact heard announcement revises
  | reply announcement => exact heard announcement revises
  | byeBye =>
      simp only [revision?, withdrawn?] at revises
      split at revises
      · cases revises
      · obtain ⟨name, _, rfl⟩ := Option.map_eq_some_iff.mp revises
        rfl

/-- A revision leaves the lives of categories alone. -/
theorem epoch?_revise
    (subscriber : Subscriber)
    (revision : Revision)
    (name : String) :
    (subscriber.revise revision).epoch? name = subscriber.epoch? name := by
  simp only [epoch?, revise, Table.find?_modify]
  split
  next =>
    rw [Option.map_map]
    rfl
  next => rfl

/-- It does not matter in which order two serial numbers are advanced. -/
theorem advanceSerial_comm
    (serials : Table Nat Nat)
    (first second : Option Nat) :
    advanceSerial (advanceSerial serials first) second =
      advanceSerial (advanceSerial serials second) first := by
  cases first with
  | none => cases second <;> rfl
  | some first =>
      cases second with
      | none => rfl
      | some second =>
          apply Table.ext_find?
          intro epoch
          simp only [advanceSerial, Table.find?_insert]
          by_cases same : first = second
          · rw [same]
          · simp only [if_neg same, if_neg (Ne.symm same)]
            by_cases isFirst : epoch = first
            · have notSecond : epoch ≠ second :=
                fun isSecond => same (isFirst.symm.trans isSecond)
              simp only [if_pos isFirst, if_neg notSecond]
            · simp only [if_neg isFirst]

/-- Revisions of different resources commute. -/
theorem revise_comm
    (subscriber : Subscriber)
    {first second : Revision}
    (different : first.id ≠ second.id) :
    (subscriber.revise first).revise second = (subscriber.revise second).revise first := by
  have categories :
      (subscriber.categories.modify first.category first.onCategory).modify second.category
          second.onCategory =
        (subscriber.categories.modify second.category second.onCategory).modify first.category
          first.onCategory :=
    Table.modify_comm subscriber.categories fun _ category => by
      simp only [Revision.onCategory, Table.assign_comm category.resources different,
        Bool.or_right_comm]
  have index := Table.assign_comm subscriber.index different first.indexed second.indexed
  have advancesSecond :
      (subscriber.revise first).advances? second = subscriber.advances? second := by
    rw [advances?, epoch?_revise, advances?]
  have advancesFirst :
      (subscriber.revise second).advances? first = subscriber.advances? first := by
    rw [advances?, epoch?_revise, advances?]
  have serials :=
    advanceSerial_comm subscriber.serials (subscriber.advances? first)
      (subscriber.advances? second)
  have timer := Timer.armEarlier?_comm subscriber.timer first.lapses second.lapses
  have called := Bool.or_right_comm subscriber.called first.visible second.visible
  rw [revise, advancesSecond]
  conv => rhs; rw [revise, advancesFirst]
  simp only [revise, categories, index, serials, timer, called]

/-- Messages on different streams can be handled in either order. -/
theorem handle_comm
    (now : Instant)
    (subscriber : Subscriber)
    {first second : StreamId × Wire.Message}
    (different : first.1 ≠ second.1) :
    handle now (handle now subscriber first) second =
      handle now (handle now subscriber second) first := by
  simp only [handle_eq_revise]
  cases firstRevises : subscriber.revision? now first.1 first.2 with
  | none =>
      simp only [Option.map_none, Option.getD_none]
      cases secondRevises : subscriber.revision? now second.1 second.2 with
      | none => simp only [firstRevises, Option.map_none, Option.getD_none]
      | some revision =>
          have other : revision.id ≠ first.1 :=
            (id_of_revision? secondRevises).symm ▸ different.symm
          simp only [Option.map_some, Option.getD_some, revision?_revise subscriber now other,
            firstRevises, Option.map_none, Option.getD_none]
  | some revision =>
      have notSecond : revision.id ≠ second.1 := (id_of_revision? firstRevises).symm ▸ different
      simp only [Option.map_some, Option.getD_some, revision?_revise subscriber now notSecond]
      cases secondRevises : subscriber.revision? now second.1 second.2 with
      | none => simp only [firstRevises, Option.map_none, Option.map_some, Option.getD_none,
          Option.getD_some]
      | some other =>
          have notFirst : other.id ≠ first.1 :=
            (id_of_revision? secondRevises).symm ▸ different.symm
          have apart : revision.id ≠ other.id :=
            (id_of_revision? secondRevises).symm ▸ notSecond
          simp only [Option.map_some, Option.getD_some,
            revision?_revise subscriber now notFirst, firstRevises,
            revise_comm subscriber apart]

/-- A revision that says what is known already changes nothing. -/
theorem revise_eq_self
    {subscriber : Subscriber}
    {revision : Revision}
    (known : subscriber.known? revision.category revision.id = some revision.entry)
    (indexed : subscriber.index.find? revision.id = revision.indexed)
    (unseen : revision.visible = false)
    (armed : subscriber.timer.armEarlier? revision.lapses = subscriber.timer) :
    subscriber.revise revision = subscriber := by
  obtain ⟨category, found, entry⟩ := Option.map_eq_some_iff.mp known
  have sameCategory : revision.onCategory category = category := by
    simp only [Revision.onCategory, ← entry, Table.assign_find?, unseen, Bool.or_false]
  have categories :
      subscriber.categories.insert revision.category category = subscriber.categories := by
    have same := Table.assign_find? subscriber.categories revision.category
    rwa [found] at same
  rw [revise_of_find? found, sameCategory, categories, ← indexed, Table.assign_find?, unseen,
    armed]
  simp only [Bool.or_false, Bool.false_eq_true, ↓reduceIte]

/-- After a revision in a subscribed category its entry is known there. -/
theorem known?_revise_self
    {subscriber : Subscriber}
    {revision : Revision}
    {name : String}
    {id : ResourceId}
    {before : Option RemoteEntry}
    (inCategory : revision.category = name)
    (ofResource : revision.id = id)
    (subscribed : subscriber.known? name id = some before) :
    (subscriber.revise revision).known? name id = some revision.entry := by
  subst inCategory ofResource
  obtain ⟨category, found, _⟩ := Option.map_eq_some_iff.mp subscribed
  simp only [known?, revise, Table.find?_modify, ↓reduceIte, found, Option.map_some,
    Revision.onCategory, Table.find?_assign]

@[simp]
theorem id_announced
    (subscriber : Subscriber)
    (now : Instant)
    (id : StreamId)
    (announcement : Wire.Announcement)
    (before : Option RemoteEntry) :
    (subscriber.announced now id announcement before).id = id := by
  cases before <;> rfl

@[simp]
theorem category_announced
    (subscriber : Subscriber)
    (now : Instant)
    (id : StreamId)
    (announcement : Wire.Announcement)
    (before : Option RemoteEntry) :
    (subscriber.announced now id announcement before).category = announcement.category := by
  cases before <;> rfl

@[simp]
theorem lapses_announced
    (subscriber : Subscriber)
    (now : Instant)
    (id : StreamId)
    (announcement : Wire.Announcement)
    (before : Option RemoteEntry) :
    (subscriber.announced now id announcement before).lapses = some (lapse now announcement) := by
  cases before <;> rfl

/-- The entry that an announcement makes says what the announcement says. -/
theorem entry_announced
    (subscriber : Subscriber)
    (now : Instant)
    (id : StreamId)
    (announcement : Wire.Announcement)
    (before : Option RemoteEntry) :
    ∃ entry, (subscriber.announced now id announcement before).entry = some entry ∧
      entry.resource.differsFrom announcement = false ∧
        entry.expiresAt = lapse now announcement := by
  cases before with
  | none => exact ⟨_, rfl, RemoteResource.differsFrom_ofAnnouncement id announcement, rfl⟩
  | some entry =>
      refine ⟨_, rfl, ?_, rfl⟩
      cases differs : entry.resource.differsFrom announcement with
      | true => exact RemoteResource.differsFrom_ofAnnouncement id announcement
      | false => exact differs

/-- After an announcement its resource is still not known elsewhere. -/
theorem knownElsewhere_revise_announced
    {subscriber : Subscriber}
    (now : Instant)
    {id : StreamId}
    {announcement : Wire.Announcement}
    (notElsewhere : subscriber.knownElsewhere id announcement.category = false)
    (before : Option RemoteEntry) :
    (subscriber.revise (subscriber.announced now id announcement before)).knownElsewhere id
      announcement.category = false := by
  cases before with
  | none => simp [knownElsewhere, revise, announced]
  | some entry =>
      rw [knownElsewhere] at notElsewhere
      simp only [knownElsewhere, revise, announced, Table.assign_find?, notElsewhere]

/-- An announcement that is heard again at once changes nothing. -/
theorem heard_again
    {subscriber : Subscriber}
    {now : Instant}
    {id : StreamId}
    {announcement : Wire.Announcement}
    {revision : Revision}
    (revises : subscriber.heard? now id announcement = some revision) :
    (((subscriber.revise revision).heard? now id announcement).map
        (subscriber.revise revision).revise).getD (subscriber.revise revision) =
      subscriber.revise revision := by
  unfold heard? at revises
  split at revises
  next => cases revises
  next counts =>
    obtain ⟨before, subscribed, rfl⟩ := Option.map_eq_some_iff.mp revises
    simp only [not_or, Bool.not_eq_true] at counts
    obtain ⟨named, running, notElsewhere⟩ := counts
    obtain ⟨entry, made, same, lasts⟩ := entry_announced subscriber now id announcement before
    have elsewhere := knownElsewhere_revise_announced now notElsewhere before
    have known :
        (subscriber.revise (subscriber.announced now id announcement before)).known?
            announcement.category id =
          some (some entry) := by
      rw [← made]
      exact known?_revise_self (category_announced subscriber now id announcement before)
        (id_announced subscriber now id announcement before) subscribed
    have stillRunning :
        (subscriber.revise (subscriber.announced now id announcement before)).stopped = false :=
      running
    simp only [heard?, named, stillRunning, elsewhere, known, Bool.false_eq_true, or_self,
      ↓reduceIte, Option.map_some, Option.getD_some]
    apply revise_eq_self
    · rw [category_announced, id_announced, known, announced, same, ← lasts]
      rfl
    · rfl
    · exact same
    · simp only [revise, lapses_announced, Timer.armEarlier?, Timer.armEarlier_armEarlier_self]

/-- A bye-bye that is handled again at once finds nothing to withdraw. -/
theorem withdrawn_again
    {subscriber : Subscriber}
    {id : StreamId}
    {revision : Revision}
    (revises : subscriber.withdrawn? id = some revision) :
    (subscriber.revise revision).withdrawn? id = none := by
  unfold withdrawn? at revises
  split at revises
  next => cases revises
  next running =>
    obtain ⟨name, _, rfl⟩ := Option.map_eq_some_iff.mp revises
    simp [withdrawn?, revise]

/-- A message that is handled again at once changes nothing. -/
theorem handle_handle_self
    (now : Instant)
    (subscriber : Subscriber)
    (arrival : StreamId × Wire.Message) :
    handle now (handle now subscriber arrival) arrival = handle now subscriber arrival := by
  obtain ⟨id, message⟩ := arrival
  simp only [handle_eq_revise]
  cases revises : subscriber.revision? now id message with
  | none => simp only [Option.map_none, Option.getD_none, revises]
  | some revision =>
      simp only [Option.map_some, Option.getD_some]
      cases message with
      | query category => cases revises
      | hello announcement => exact heard_again revises
      | reply announcement => exact heard_again revises
      | byeBye =>
          rw [revision?, withdrawn_again revises]
          rfl

/--
A subscriber needs no more than a transport promises: two sequences of messages
that say the same on every stream, up to repetitions, lead from any subscriber
to the same one if they are handled at one instant.
-/
theorem foldl_handle_eq_of_sameStreams
    (now : Instant)
    (subscriber : Subscriber)
    {first second : List (StreamId × Wire.Message)}
    (same : Arrivals.SameStreams first second) :
    first.foldl (handle now) subscriber = second.foldl (handle now) subscriber :=
  Arrivals.foldl_eq_of_sameStreams (fun state _ _ different => handle_comm now state different)
    (handle_handle_self now) same subscriber

/-- A resource is withdrawn twice and announced again while another one comes and goes. -/
theorem foldl_handle_overtaken :
    let one : StreamId := ⟨List.replicate 16 1, List.length_replicate⟩
    let other : StreamId := ⟨List.replicate 16 2, List.length_replicate⟩
    let hello : Wire.Message := .hello ⟨"Room", "here", 30, ∅⟩
    let first := [(one, hello), (other, .byeBye), (one, hello), (one, .byeBye), (other, hello)]
    let second := [(other, .byeBye), (other, .byeBye), (other, hello), (one, hello), (one, .byeBye)]
    let subscriber := (Subscriber.new.subscribe "Room").2
    Arrivals.SameStreams first second ∧
      first.foldl (handle 5) subscriber = second.foldl (handle 5) subscriber := by
  intro one other hello first second subscriber
  have same : Arrivals.SameStreams first second := by
    intro stream
    have apart : one ≠ other := by decide
    by_cases isOne : stream = one
    · subst isOne
      simp [first, second, hello, Arrivals.onStream, apart.symm, List.destutter]
    · by_cases isOther : stream = other
      · subst isOther
        simp [first, second, hello, Arrivals.onStream, apart, List.destutter]
      · simp [first, second, Arrivals.onStream, Ne.symm isOne, Ne.symm isOther]
  exact ⟨same, foldl_handle_eq_of_sameStreams 5 subscriber same⟩

end Subscriber

end Discovery
