import Discovery.Proofs.Convergence.View

namespace Discovery.View

/-!
# Asking, hearing and forgetting

A reader begins to watch a category and asks everyone for it, learns from a
word in its queue, or comes to know less because something lapsed or because it
no longer watches a category; and an owner takes a question off its queue.
Each of these keeps a view coherent.
-/

/-- The view in which the first payload has been taken off a queue. -/
def taken (view : View) (name : String) (rest : List Delivery) : View :=
  { view with queue := fun other => if other = name then some rest else view.queue other }

/-- The view in which a reader knows and looks up what is given. -/
def informed
    (view : View)
    (reader : String)
    (knows : String → ResourceId → Option (Option RemoteEntry))
    (indexed : ResourceId → Option String) : View :=
  { view with
    knows := fun other => if other = reader then knows else view.knows other
    indexed := fun other => if other = reader then indexed else view.indexed other }

/-- A reader comes to know less; what it loses has lapsed or is no longer watched. -/
structure Fading
    (view : View)
    (reader : String)
    (knows : String → ResourceId → Option (Option RemoteEntry))
    (indexed : ResourceId → Option String) : Prop where
  watched : ∀ {category id}, (knows category id).isSome → (view.knows reader category id).isSome
  kept : ∀ {category id entry}, knows category id = some (some entry) →
    view.knows reader category id = some (some entry)
  lapsed : ∀ {category id entry}, knows category id = some none →
    view.knows reader category id = some (some entry) → entry.expiresAt ≤ view.now
  index : ∀ {id category}, indexed id = some category → view.indexed reader id = some category
  filed : ∀ {category id entry}, knows category id = some (some entry) →
    indexed id = some category

/-- A reader learns what a word says, if it watches the category of the resource. -/
structure Lesson
    (view : View)
    (reader : String)
    (id : ResourceId)
    (said : Option Wire.Announcement)
    (knows : String → ResourceId → Option (Option RemoteEntry))
    (indexed : ResourceId → Option String) : Prop where
  others : ∀ {category other}, other ≠ id → knows category other = view.knows reader category other
  watched : ∀ {category other},
    (knows category other).isSome → (view.knows reader category other).isSome
  indexOthers : ∀ {other}, other ≠ id → indexed other = view.indexed reader other
  index : ∀ {category}, indexed id = some category →
    view.indexed reader id = some category ∨
      ∃ announcement, said = some announcement ∧ announcement.category = category
  filed : ∀ {category other entry}, knows category other = some (some entry) →
    indexed other = some category
  /-- What is known afterwards is what was said. -/
  learnt : ∀ {category entry}, knows category id = some (some entry) →
    ∃ announcement, said = some announcement ∧ entry.resource = .ofAnnouncement id announcement
  /-- What is said is known afterwards, for as long as it is believed. -/
  known : ∀ {announcement known}, said = some announcement →
    knows announcement.category id = some known →
      ∃ entry, known = some entry ∧ entry.expiresAt = lapse view.now announcement

/-- A reader that can be reached asks everyone for a category that it has not watched. -/
structure Question
    (view : View)
    (reader category : String)
    (number : Nat)
    (questions : String → List Delivery) : Prop where
  address : view.address reader = some number
  reached : (view.queue reader).isSome
  unwatched : ∀ id, view.knows reader category id = none
  silent : ∀ {other delivery}, delivery ∈ questions other → delivery.word? = none
  asks : ∀ {other}, other ≠ reader → (view.queue other).isSome →
    ∃ delivery ∈ questions other, delivery.question? = some (.endpoint number, category)

/-- The view in which a reader watches a category and has asked for it. -/
def asked
    (view : View)
    (reader category : String)
    (questions : String → List Delivery) : View :=
  { view with
    knows := fun other watched id =>
      if other = reader ∧ watched = category then some none else view.knows other watched id
    queue := fun other =>
      if other = reader then view.queue other
      else (view.queue other).map (· ++ questions other) }

theorem saidOf_of_silent
    {id : ResourceId}
    {queue : List Delivery}
    (silent : ∀ delivery ∈ queue, delivery.word? = none) :
    saidOf id queue = [] := by
  refine List.eq_nil_iff_forall_not_mem.mpr fun said member => ?_
  obtain ⟨delivery, inQueue, word⟩ := mem_saidOf.mp member
  rw [silent delivery inQueue] at word
  cases word

theorem saidOf_cons_of_word
    {id : ResourceId}
    {said : Option Wire.Announcement}
    {first : Delivery}
    (word : first.word? = some (id, said))
    (rest : List Delivery) :
    saidOf id (first :: rest) = said :: saidOf id rest := by
  simp [saidOf, word]

theorem saidOf_cons_of_other
    {id : ResourceId}
    {first : Delivery}
    (other : ∀ said, first.word? ≠ some (id, said))
    (rest : List Delivery) :
    saidOf id (first :: rest) = saidOf id rest := by
  unfold saidOf
  rw [List.filterMap_cons]
  cases word : first.word? with
  | none => rfl
  | some known =>
      have different : known.1 ≠ id := by
        rintro rfl
        exact other known.2 word
      simp [different]

/-- A payload that says something asks nothing. -/
theorem question?_of_word
    {delivery : Delivery}
    {word : ResourceId × Option Wire.Announcement}
    (isWord : delivery.word? = some word) :
    delivery.question? = none := by
  unfold Delivery.word? at isWord
  unfold Delivery.question?
  split at isWord
  next decoded => rw [decoded]
  next decoded => rw [decoded]
  next decoded => rw [decoded]
  next => cases isWord
  next => cases isWord

/-- What waits after the first payload was taken off a queue. -/
theorem queue_taken
    {view : View}
    {name other : String}
    {first : Delivery}
    {rest queue : List Delivery}
    (waiting : view.queue name = some (first :: rest))
    (isWaiting : (view.taken name rest).queue other = some queue) :
    ∃ before, view.queue other = some before ∧ ∀ delivery ∈ queue, delivery ∈ before := by
  simp only [taken] at isWaiting
  split at isWaiting
  next isName =>
    cases isWaiting
    exact ⟨first :: rest, isName ▸ waiting, fun _ member => List.mem_cons_of_mem _ member⟩
  next => exact ⟨queue, isWaiting, fun _ member => member⟩

theorem isSome_queue_taken
    {view : View}
    {name : String}
    {first : Delivery}
    {rest : List Delivery}
    (waiting : view.queue name = some (first :: rest))
    (other : String) :
    ((view.taken name rest).queue other).isSome = (view.queue other).isSome := by
  simp only [taken]
  split
  next isName => rw [isName, waiting]; rfl
  next => rfl

namespace Coherent

variable {view : View}

/-- An answered question, or a payload that says nothing, is taken off a queue. -/
theorem answered
    (coherent : view.Coherent)
    {name : String}
    {first : Delivery}
    {rest : List Delivery}
    (waiting : view.queue name = some (first :: rest))
    (noWord : first.word? = none)
    (answers : ∀ {number reader id scheduled known},
      first.question? = some (.endpoint number, scheduled.resource.category) →
        view.address reader = some number → view.posted name id = some scheduled →
          name ≠ reader → view.knows reader scheduled.resource.category id = some known →
            ∃ queue announcement, view.queue reader = some queue ∧
              some announcement ∈ saidOf id queue) :
    (view.taken name rest).Coherent := by
  have sameWords : ∀ {other queue id}, (view.taken name rest).queue other = some queue →
      ∃ before, view.queue other = some before ∧ saidOf id before = saidOf id queue := by
    intro other queue id isWaiting
    simp only [taken] at isWaiting
    split at isWaiting
    next isName =>
      cases isWaiting
      refine ⟨first :: rest, isName ▸ waiting, saidOf_cons_of_other ?_ rest⟩
      intro said word
      rw [noWord] at word
      cases word
    next => exact ⟨queue, isWaiting, rfl⟩
  refine
    { coherent with
      ownerReached := ?_, readerReached := ?_, wordStems := ?_, lastWord := ?_, knowledge := ?_
      covered := ?_ }
  · intro owner id posted
    rw [isSome_queue_taken waiting]
    exact coherent.ownerReached posted
  · intro reader category id knows
    rw [isSome_queue_taken waiting]
    exact coherent.readerReached knows
  · intro reader queue delivery id said isWaiting inQueue word
    obtain ⟨before, wasWaiting, all⟩ := queue_taken waiting isWaiting
    exact coherent.wordStems wasWaiting (all delivery inQueue) word
  · intro reader queue id said isWaiting isLast
    obtain ⟨before, wasWaiting, same⟩ := sameWords isWaiting
    exact coherent.lastWord wasWaiting (same ▸ isLast)
  · intro reader queue category id entry isWaiting silent knows
    obtain ⟨before, wasWaiting, same⟩ := sameWords isWaiting
    exact coherent.knowledge wasWaiting (same.trans silent) knows
  · intro owner reader id scheduled known posted different knows
    have told : ∀ {queue : List Delivery} {announcement : Wire.Announcement},
        view.queue reader = some queue → some announcement ∈ saidOf id queue →
          (view.taken name rest).Covered owner reader id scheduled known := by
      intro queue announcement wasWaiting isSaid
      by_cases isName : reader = name
      · subst isName
        rw [waiting] at wasWaiting
        cases wasWaiting
        refine .told (if_pos rfl) (?_ : some announcement ∈ saidOf id rest)
        have notFirst : ∀ said, first.word? ≠ some (id, said) := by
          intro said word
          rw [noWord] at word
          cases word
        rwa [← saidOf_cons_of_other notFirst rest]
      · exact .told ((if_neg isName).trans wasWaiting) isSaid
    cases coherent.covered posted different knows with
    | @asked queue query number wasWaiting inQueue asks address =>
        by_cases isName : owner = name
        · subst isName
          rw [waiting] at wasWaiting
          cases wasWaiting
          rcases List.mem_cons.mp inQueue with isFirst | inRest
          · subst isFirst
            obtain ⟨queue, announcement, isWaiting, isSaid⟩ :=
              answers asks address posted different knows
            exact told isWaiting isSaid
          · exact .asked (if_pos rfl) inRest asks address
        · exact .asked ((if_neg isName).trans wasWaiting) inQueue asks address
    | told wasWaiting isSaid => exact told wasWaiting isSaid
    | fresh isKnown lasts => exact .fresh isKnown lasts
    | due reached => exact .due reached

section Informing

variable {reader : String}
variable (knows : String → ResourceId → Option (Option RemoteEntry))
variable (indexed : ResourceId → Option String)

/-- If the informed reader watches no more than before, nobody does. -/
theorem watched_informed
    (watched : ∀ {category id}, (knows category id).isSome →
      (view.knows reader category id).isSome)
    {other category : String}
    {id : ResourceId}
    (known : ((view.informed reader knows indexed).knows other category id).isSome) :
    (view.knows other category id).isSome := by
  simp only [informed] at known
  split at known
  next isReader => exact isReader ▸ watched known
  next => exact known

theorem filed_informed
    (coherent : view.Coherent)
    (filed : ∀ {category id entry}, knows category id = some (some entry) →
      indexed id = some category)
    {other category : String}
    {id : ResourceId}
    {entry : RemoteEntry}
    (known : (view.informed reader knows indexed).knows other category id = some (some entry)) :
    (view.informed reader knows indexed).indexed other id = some category := by
  simp only [informed] at known ⊢
  split
  next isReader =>
    rw [if_pos isReader] at known
    exact filed known
  next notReader =>
    rw [if_neg notReader] at known
    exact coherent.filed known

theorem indexStems_informed
    (coherent : view.Coherent)
    (stems : ∀ {category id}, indexed id = some category →
      view.Stems reader id fun _ resource => resource.category = category)
    {other category : String}
    {id : ResourceId}
    (isIndexed : (view.informed reader knows indexed).indexed other id = some category) :
    view.Stems other id fun _ resource => resource.category = category := by
  simp only [informed] at isIndexed
  split at isIndexed
  next isReader => exact isReader ▸ stems isIndexed
  next => exact coherent.indexStems isIndexed

end Informing

/-- What a reader no longer knows has lapsed, so its next announcement is due. -/
theorem fade
    (coherent : view.Coherent)
    {reader : String}
    {knows : String → ResourceId → Option (Option RemoteEntry)}
    {indexed : ResourceId → Option String}
    (fading : Fading view reader knows indexed) :
    (view.informed reader knows indexed).Coherent := by
  have keptEntry : ∀ {other category id entry},
      (view.informed reader knows indexed).knows other category id = some (some entry) →
        view.knows other category id = some (some entry) := by
    intro other category id entry known
    simp only [informed] at known
    split at known
    next isReader => exact isReader ▸ fading.kept known
    next => exact known
  refine
    { coherent with
      readerReached := fun known =>
        coherent.readerReached (watched_informed knows indexed fading.watched known)
      filed := coherent.filed_informed knows indexed fading.filed
      indexStems := coherent.indexStems_informed knows indexed fun isIndexed =>
        coherent.indexStems (fading.index isIndexed)
      knowledge := fun waiting silent known => coherent.knowledge waiting silent (keptEntry known)
      covered := ?_ }
  intro owner other id scheduled known posted different isKnown
  obtain ⟨before, wasKnown⟩ :=
    Option.isSome_iff_exists.mp (watched_informed knows indexed fading.watched
      (by rw [isKnown]; rfl))
  have covered := coherent.covered posted different wasKnown
  cases covered with
  | asked waiting inQueue asks address => exact .asked waiting inQueue asks address
  | told waiting isSaid => exact .told waiting isSaid
  | due reached => exact .due reached
  | @fresh entry isEntry lasts =>
      subst isEntry
      cases known with
      | some later =>
          have same := keptEntry isKnown
          rw [wasKnown] at same
          cases same
          exact .fresh rfl lasts
      | none =>
          by_cases isReader : other = reader
          · subst isReader
            have lost : knows scheduled.resource.category id = some none := by
              simpa [informed] using isKnown
            have lapsed := fading.lapsed lost wasKnown
            have short := (coherent.timely posted).2
            refine .due (?_ : scheduled.nextAnnounce ≤ view.now)
            unfold Instant Span at *
            omega
          · simp only [informed, if_neg isReader, wasKnown] at isKnown
            cases isKnown

section Learning

variable {reader : String} {first : Delivery} {rest : List Delivery}
variable {id : ResourceId} {said : Option Wire.Announcement}
variable {knows : String → ResourceId → Option (Option RemoteEntry)}
variable {indexed : ResourceId → Option String}

/-- The queue that a word was taken off began with it; the others are as they were. -/
theorem waiting_of_taken
    (waiting : view.queue reader = some (first :: rest))
    {other : String}
    {queue : List Delivery}
    (isWaiting : (view.taken reader rest).queue other = some queue) :
    ∃ before, view.queue other = some before ∧ (other ≠ reader → queue = before) ∧
      (other = reader → before = first :: queue) := by
  simp only [taken] at isWaiting
  split at isWaiting
  next isReader =>
    cases isWaiting
    exact ⟨first :: rest, isReader ▸ waiting, fun different => absurd isReader different,
      fun _ => rfl⟩
  next notReader =>
    exact ⟨queue, isWaiting, fun _ => rfl, fun isReader => absurd isReader notReader⟩

/-- A word says nothing about other resources. -/
theorem saidOf_cons_of_other_word
    (word : first.word? = some (id, said))
    {about : ResourceId}
    (different : about ≠ id)
    (rest : List Delivery) :
    saidOf about (first :: rest) = saidOf about rest := by
  refine saidOf_cons_of_other ?_ rest
  rintro other isOther
  rw [word] at isOther
  cases isOther
  exact different rfl

/-- What was said last is still said last if anything is. -/
theorem lastWord_taken
    (coherent : view.Coherent)
    (waiting : view.queue reader = some (first :: rest))
    {other : String}
    {queue : List Delivery}
    {about : ResourceId}
    {what : Option Wire.Announcement}
    (isWaiting : (view.taken reader rest).queue other = some queue)
    (isLast : (saidOf about queue).getLast? = some what) :
    view.Current other about what := by
  obtain ⟨before, wasBefore, same, popped⟩ := waiting_of_taken waiting isWaiting
  refine coherent.lastWord wasBefore ?_
  by_cases isReader : other = reader
  · rw [popped isReader, show first :: queue = [first] ++ queue from rfl, saidOf_append,
      List.getLast?_append, isLast]
    rfl
  · rw [← same isReader]
    exact isLast

/-- What is learnt is looked up under the category of the resource. -/
theorem indexStems_learnt
    (coherent : view.Coherent)
    (stems : view.Stems reader id (view.Permits id said))
    (lesson : Lesson view reader id said knows indexed)
    {category : String}
    {about : ResourceId}
    (isIndexed : indexed about = some category) :
    view.Stems reader about fun _ resource => resource.category = category := by
  by_cases isId : about = id
  · subst isId
    rcases lesson.index isIndexed with before | ⟨announcement, isSaid, isCategory⟩
    · exact coherent.indexStems before
    · obtain ⟨owner, resource, different, isEver, permits⟩ := stems
      rw [isSaid] at permits
      exact ⟨owner, resource, different, isEver, permits.1.symm.trans isCategory⟩
  · rw [lesson.indexOthers isId] at isIndexed
    exact coherent.indexStems isIndexed

/-- What was learnt is true unless something is said afterwards. -/
theorem knowledge_learnt
    (coherent : view.Coherent)
    (waiting : view.queue reader = some (first :: rest))
    (word : first.word? = some (id, said))
    (lesson : Lesson view reader id said knows indexed)
    {category : String}
    {about : ResourceId}
    {entry : RemoteEntry}
    (silent : saidOf about rest = [])
    (known : knows category about = some (some entry)) :
    ∃ announcement, view.Current reader about (some announcement) ∧
      entry.resource = .ofAnnouncement about announcement := by
  by_cases isId : about = id
  · subst isId
    obtain ⟨announcement, isSaid, isEntry⟩ := lesson.learnt known
    subst isSaid
    have isLast : (saidOf about (first :: rest)).getLast? = some (some announcement) := by
      rw [saidOf_cons_of_word word, silent]
      rfl
    exact ⟨announcement, coherent.lastWord waiting isLast, isEntry⟩
  · rw [lesson.others isId] at known
    exact coherent.knowledge waiting ((saidOf_cons_of_other_word word isId rest).trans silent) known

/-- What is said of a resource that is offered makes it known until after its next announcement. -/
theorem fresh_of_said
    (coherent : view.Coherent)
    (stems : view.Stems reader id (view.Permits id said))
    (lesson : Lesson view reader id said knows indexed)
    {owner : String}
    {scheduled : Scheduled}
    {known : Option RemoteEntry}
    (posted : view.posted owner id = some scheduled)
    (isKnown : knows scheduled.resource.category id = some known) :
    ∃ entry, known = some entry ∧
      scheduled.nextAnnounce + scheduled.lifetime ≤ entry.expiresAt + scheduled.interval := by
  obtain ⟨source, resource, _, isEver, permits⟩ := stems
  obtain ⟨isOwner, isResource⟩ := coherent.owner_eq isEver (coherent.offered posted)
  subst isOwner isResource
  cases said with
  | none =>
      rw [permits] at posted
      cases posted
  | some announcement =>
      obtain ⟨sameCategory, sameExpiry⟩ := permits
      rw [← sameCategory] at isKnown
      obtain ⟨entry, isEntry, lasts⟩ := lesson.known rfl isKnown
      have soon := (coherent.timely posted).1
      have isLifetime : scheduled.lifetime = announcement.expiry.toInt.toNat * second := by
        rw [Scheduled.lifetime, ← sameExpiry]
      refine ⟨entry, isEntry, ?_⟩
      rw [lasts, lapse, ← isLifetime]
      unfold Instant Span at *
      omega

/-- The question is not the word that was taken, so it still waits. -/
theorem question_taken
    (waiting : view.queue reader = some (first :: rest))
    (word : first.word? = some (id, said))
    {owner : String}
    {queue : List Delivery}
    {query : Delivery}
    (isWaiting : view.queue owner = some queue)
    (inQueue : query ∈ queue)
    (isQuestion : query.question?.isSome) :
    ∃ later, (view.taken reader rest).queue owner = some later ∧ query ∈ later := by
  by_cases isReader : owner = reader
  · subst isReader
    rw [waiting] at isWaiting
    cases isWaiting
    rcases List.mem_cons.mp inQueue with isFirst | inRest
    · rw [isFirst, question?_of_word word] at isQuestion
      cases isQuestion
    · exact ⟨rest, if_pos rfl, inRest⟩
  · exact ⟨queue, (if_neg isReader).trans isWaiting, inQueue⟩

/-- A reader learns from the first word in its queue. -/
theorem learn
    (coherent : view.Coherent)
    (waiting : view.queue reader = some (first :: rest))
    (word : first.word? = some (id, said))
    (lesson : Lesson view reader id said knows indexed) :
    ((view.taken reader rest).informed reader knows indexed).Coherent := by
  have stems : view.Stems reader id (view.Permits id said) :=
    coherent.wordStems waiting List.mem_cons_self word
  refine
    { coherent with
      ownerReached := ?_, readerReached := ?_
      filed := coherent.filed_informed knows indexed lesson.filed
      indexStems :=
        coherent.indexStems_informed knows indexed (coherent.indexStems_learnt stems lesson)
      wordStems := ?_, lastWord := coherent.lastWord_taken waiting, knowledge := ?_
      covered := ?_ }
  · intro owner about posted
    exact (isSome_queue_taken waiting owner).trans (coherent.ownerReached posted)
  · intro other category about known
    have wasKnown := watched_informed knows indexed lesson.watched known
    exact (isSome_queue_taken waiting other).trans (coherent.readerReached wasKnown)
  · intro other queue delivery about what isWaiting inQueue isWord
    obtain ⟨before, wasBefore, all⟩ := queue_taken waiting isWaiting
    exact coherent.wordStems wasBefore (all delivery inQueue) isWord
  · intro other queue category about entry isWaiting silent known
    obtain ⟨before, wasBefore, same, popped⟩ := waiting_of_taken waiting isWaiting
    simp only [informed, taken] at known
    split at known
    next isReader =>
      subst isReader
      have isBefore := popped rfl
      subst isBefore
      rw [waiting] at wasBefore
      cases wasBefore
      exact coherent.knowledge_learnt waiting word lesson silent known
    next notReader =>
      rw [same notReader] at silent
      exact coherent.knowledge wasBefore silent known
  · intro owner other about scheduled known posted different isKnown
    have posted' : view.posted owner about = some scheduled := posted
    by_cases isReader : other = reader
    · subst isReader
      have isKnown' : knows scheduled.resource.category about = some known := by
        simpa [informed] using isKnown
      by_cases isId : about = id
      · subst isId
        obtain ⟨entry, isEntry, lasts⟩ := coherent.fresh_of_said stems lesson posted' isKnown'
        exact .fresh isEntry lasts
      · rw [lesson.others isId] at isKnown'
        refine (coherent.covered posted' different isKnown').mono rfl rfl
          (question_taken waiting word) ?_
        intro queue what isWaiting isSaid
        rw [waiting] at isWaiting
        cases isWaiting
        exact ⟨rest, if_pos rfl, saidOf_cons_of_other_word word isId rest ▸ isSaid⟩
    · have isKnown' : view.knows other scheduled.resource.category about = some known := by
        simpa [informed, taken, isReader] using isKnown
      refine (coherent.covered posted' different isKnown').mono rfl rfl
        (question_taken waiting word) ?_
      intro queue what isWaiting isSaid
      exact ⟨queue, (if_neg isReader).trans isWaiting, isSaid⟩

end Learning

section Asking

variable {reader category : String} {number : Nat} {questions : String → List Delivery}

theorem isSome_queue_asked (other : String) :
    ((view.asked reader category questions).queue other).isSome = (view.queue other).isSome := by
  simp only [asked]
  split
  next => rfl
  next => exact Option.isSome_map

/-- Questions come after what waited before, and say nothing. -/
theorem waiting_of_asked
    (question : Question view reader category number questions)
    {other : String}
    {queue : List Delivery}
    (isWaiting : (view.asked reader category questions).queue other = some queue) :
    ∃ before, view.queue other = some before ∧ (∀ id, saidOf id queue = saidOf id before) ∧
      ∀ delivery ∈ queue, delivery ∈ before ∨ delivery.word? = none := by
  simp only [asked] at isWaiting
  split at isWaiting
  next => exact ⟨queue, isWaiting, fun _ => rfl, fun _ member => .inl member⟩
  next =>
    obtain ⟨before, wasWaiting, rfl⟩ := Option.map_eq_some_iff.mp isWaiting
    refine ⟨before, wasWaiting, fun id => ?_, fun delivery member => ?_⟩
    · rw [saidOf_append, saidOf_of_silent fun _ member => question.silent member,
        List.append_nil]
    · rcases List.mem_append.mp member with inBefore | inQuestions
      · exact .inl inBefore
      · exact .inr (question.silent inQuestions)

/-- What waited goes on waiting. -/
theorem asked_of_waiting
    {other : String}
    {queue : List Delivery}
    (waiting : view.queue other = some queue) :
    ∃ later, (view.asked reader category questions).queue other = some later ∧
      ∀ delivery ∈ queue, delivery ∈ later := by
  by_cases isReader : other = reader
  · exact ⟨queue, (if_pos isReader).trans waiting, fun _ member => member⟩
  · exact ⟨queue ++ questions other, by simp [asked, isReader, waiting],
      fun _ member => List.mem_append_left _ member⟩

/-- Nothing is known yet of what was asked for. -/
theorem known_of_asked
    {other watched : String}
    {id : ResourceId}
    {entry : RemoteEntry}
    (isKnown : (view.asked reader category questions).knows other watched id =
      some (some entry)) :
    view.knows other watched id = some (some entry) := by
  simp only [asked] at isKnown
  split at isKnown
  next => cases isKnown
  next => exact isKnown

/-- Whatever is offered in the category is asked for, and the rest is covered as before. -/
theorem covered_asked
    (coherent : view.Coherent)
    (question : Question view reader category number questions)
    {owner other : String}
    {id : ResourceId}
    {scheduled : Scheduled}
    {known : Option RemoteEntry}
    (posted : view.posted owner id = some scheduled)
    (different : owner ≠ other)
    (isKnown : (view.asked reader category questions).knows other
      scheduled.resource.category id = some known) :
    (view.asked reader category questions).Covered owner other id scheduled known := by
  by_cases isHere : other = reader ∧ scheduled.resource.category = category
  · obtain ⟨rfl, isCategory⟩ := isHere
    obtain ⟨queue, waiting⟩ :=
      Option.isSome_iff_exists.mp (coherent.ownerReached (by rw [posted]; rfl))
    obtain ⟨query, inQuestions, asks⟩ := question.asks different (by rw [waiting]; rfl)
    have isWaiting : (view.asked other category questions).queue owner =
        some (queue ++ questions owner) := by
      simp [asked, different, waiting]
    exact .asked isWaiting (List.mem_append_right _ inQuestions) (isCategory ▸ asks)
      question.address
  · have wasKnown : view.knows other scheduled.resource.category id = some known := by
      simpa [asked, isHere] using isKnown
    refine (coherent.covered posted different wasKnown).mono rfl rfl ?_ ?_
    · intro queue query waiting inQueue _
      obtain ⟨later, stillWaiting, all⟩ := asked_of_waiting waiting
      exact ⟨later, stillWaiting, all query inQueue⟩
    · intro queue said waiting isSaid
      obtain ⟨later, stillWaiting, all⟩ := asked_of_waiting waiting
      obtain ⟨delivery, inQueue, word⟩ := mem_saidOf.mp isSaid
      exact ⟨later, stillWaiting, mem_saidOf.mpr ⟨delivery, all delivery inQueue, word⟩⟩

/-- A reader begins to watch a category: its question is on its way to every owner. -/
theorem ask
    (coherent : view.Coherent)
    (question : Question view reader category number questions) :
    (view.asked reader category questions).Coherent := by
  refine
    { coherent with
      ownerReached := ?_, readerReached := ?_
      filed := fun isKnown => coherent.filed (known_of_asked isKnown)
      wordStems := ?_, lastWord := ?_, knowledge := ?_
      covered := coherent.covered_asked question }
  · intro owner id posted
    rw [isSome_queue_asked]
    exact coherent.ownerReached posted
  · intro other watched id isKnown
    rw [isSome_queue_asked]
    simp only [asked] at isKnown
    split at isKnown
    next isHere => exact isHere.1 ▸ question.reached
    next => exact coherent.readerReached isKnown
  · intro other queue delivery id said isWaiting inQueue word
    obtain ⟨before, wasWaiting, _, all⟩ := waiting_of_asked question isWaiting
    rcases all delivery inQueue with inBefore | noWord
    · exact coherent.wordStems wasWaiting inBefore word
    · rw [noWord] at word
      cases word
  · intro other queue id said isWaiting isLast
    obtain ⟨before, wasWaiting, same, _⟩ := waiting_of_asked question isWaiting
    exact coherent.lastWord wasWaiting (same id ▸ isLast)
  · intro other queue watched id entry isWaiting silent isKnown
    obtain ⟨before, wasWaiting, same, _⟩ := waiting_of_asked question isWaiting
    exact coherent.knowledge wasWaiting (same id ▸ silent) (known_of_asked isKnown)

end Asking

end Coherent

end Discovery.View
