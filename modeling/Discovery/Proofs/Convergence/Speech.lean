import Discovery.Proofs.Convergence.View

namespace Discovery.View

/-!
# Speaking

An owner speaks of its resources to everyone, or answers a question.  Whatever
changes of a resource it says at once, and what it says is true; only a
resource that nobody has heard of may wait for its announcement, which is due.
`View.Coherent.speak` says that this keeps a view coherent.
-/

/--
A speaker changes what it offers and says so to everyone else, or answers some.
What it has offered before it speaks of whenever something changes; a resource
that it offers for the first time may wait until its announcement, which is due.
-/
structure Speech
    (view : View)
    (speaker : String)
    (posted : ResourceId → Option Scheduled)
    (ever : ResourceId → Option LocalResource)
    (words : String → List Delivery) : Prop where
  offered : ∀ {id scheduled}, posted id = some scheduled → ever id = some scheduled.resource
  timely : ∀ {id scheduled}, posted id = some scheduled →
    scheduled.nextAnnounce ≤ view.now + scheduled.interval ∧
      scheduled.interval ≤ scheduled.lifetime
  reached : ∀ {id}, (posted id).isSome → (view.queue speaker).isSome
  lasting : ∀ {id resource}, view.ever speaker id = some resource →
    ∃ later, ever id = some later ∧ later.category = resource.category ∧
      later.expiry = resource.expiry
  first : ∀ {id}, view.ever speaker id = none → (ever id).isSome →
    (∀ other, view.ever other id = none) ∧
      ∀ scheduled, posted id = some scheduled → scheduled.nextAnnounce ≤ view.now
  gone : ∀ {id}, (view.ever speaker id).isSome → view.posted speaker id = none →
    posted id = none
  truthful : ∀ {reader delivery id said}, reader ≠ speaker → delivery ∈ words reader →
    delivery.word? = some (id, said) →
      (ever id).isSome ∧ said = (posted id).map fun scheduled => scheduled.resource.announcement
  outspoken : ∀ {reader id}, reader ≠ speaker → (view.queue reader).isSome →
    (view.ever speaker id).isSome → posted id ≠ view.posted speaker id →
      ∃ delivery ∈ words reader, ∃ said, delivery.word? = some (id, said)

/-- The view after a speech. -/
def spoken
    (view : View)
    (speaker : String)
    (posted : ResourceId → Option Scheduled)
    (ever : ResourceId → Option LocalResource)
    (words : String → List Delivery) : View :=
  { view with
    posted := fun owner => if owner = speaker then posted else view.posted owner
    ever := fun owner => if owner = speaker then ever else view.ever owner
    queue := fun reader =>
      if reader = speaker then view.queue reader
      else (view.queue reader).map (· ++ words reader) }

section Speech

variable {view : View} {speaker : String}
variable {posted : ResourceId → Option Scheduled}
variable {ever : ResourceId → Option LocalResource}
variable {words : String → List Delivery}

theorem isSome_queue_spoken (reader : String) :
    ((view.spoken speaker posted ever words).queue reader).isSome = (view.queue reader).isSome := by
  simp only [spoken]
  split
  · rfl
  · exact Option.isSome_map

/-- A queue after a speech is the queue before it and perhaps some words. -/
theorem queue_spoken
    {reader : String}
    {queue : List Delivery}
    (waiting : (view.spoken speaker posted ever words).queue reader = some queue) :
    (reader = speaker ∧ view.queue reader = some queue) ∨
      (reader ≠ speaker ∧
        ∃ before, view.queue reader = some before ∧ queue = before ++ words reader) := by
  simp only [spoken] at waiting
  split at waiting
  next isSpeaker => exact .inl ⟨isSpeaker, waiting⟩
  next different =>
    obtain ⟨before, wasWaiting, rfl⟩ := Option.map_eq_some_iff.mp waiting
    exact .inr ⟨different, before, wasWaiting, rfl⟩

/-- Where a resource comes from stays true while somebody speaks. -/
theorem stems_spoken
    (speech : Speech view speaker posted ever words)
    {reader : String}
    {id : ResourceId}
    {holds holds' : String → LocalResource → Prop}
    (carried : ∀ {owner resource later}, later.category = resource.category →
      later.expiry = resource.expiry → view.ever owner id = some resource →
        holds owner resource → holds' owner later)
    (stems : view.Stems reader id holds) :
    (view.spoken speaker posted ever words).Stems reader id holds' := by
  obtain ⟨owner, resource, different, isOwner, held⟩ := stems
  by_cases isSpeaker : owner = speaker
  · subst isSpeaker
    obtain ⟨later, isLater, category, expiry⟩ := speech.lasting isOwner
    exact ⟨owner, later, different, by simpa [spoken] using isLater,
      carried category expiry isOwner held⟩
  · exact ⟨owner, resource, different, by simpa [spoken, isSpeaker] using isOwner,
      carried rfl rfl isOwner held⟩

/-- What is current stays so if the speaker goes on offering a resource as it did. -/
theorem current_spoken
    {reader : String}
    {id : ResourceId}
    {said : Option Wire.Announcement}
    (same : posted id = view.posted speaker id)
    (current : view.Current reader id said) :
    (view.spoken speaker posted ever words).Current reader id said := by
  have samePosted : ∀ owner,
      (view.spoken speaker posted ever words).posted owner id = view.posted owner id := by
    intro owner
    simp only [spoken]
    split
    next isSpeaker => rw [isSpeaker, same]
    next => rfl
  cases said with
  | none => exact fun owner => (samePosted owner).trans (current owner)
  | some announcement =>
      obtain ⟨owner, scheduled, different, isPosted, announces⟩ := current
      exact ⟨owner, scheduled, different, (samePosted owner).trans isPosted, announces⟩

/-- What the speaker itself should be told of others does not change. -/
theorem current_spoken_self
    (speech : Speech view speaker posted ever words)
    {other : String}
    {id : ResourceId}
    {said : Option Wire.Announcement}
    (heard : (view.ever other id).isSome)
    (current : view.Current speaker id said) :
    (view.spoken speaker posted ever words).Current speaker id said := by
  cases said with
  | some announcement =>
      obtain ⟨owner, scheduled, different, isPosted, announces⟩ := current
      exact ⟨owner, scheduled, different, by simpa [spoken, different] using isPosted, announces⟩
  | none =>
      intro owner
      simp only [spoken]
      split
      next =>
        refine Option.eq_none_iff_forall_ne_some.mpr fun scheduled now => ?_
        cases known : view.ever speaker id with
        | some resource =>
            rw [speech.gone (by rw [known]; rfl) (current speaker)] at now
            cases now
        | none =>
            have nobody := (speech.first known (by rw [speech.offered now]; rfl)).1 other
            rw [nobody] at heard
            cases heard
      next => exact current owner

/-- Nothing that waits in a queue is lost through a speech. -/
theorem kept_spoken
    {name : String}
    {queue : List Delivery}
    (waiting : view.queue name = some queue) :
    ∃ later, (view.spoken speaker posted ever words).queue name = some later ∧
      ∀ delivery ∈ queue, delivery ∈ later := by
  by_cases isSpeaker : name = speaker
  · exact ⟨queue, by simpa [spoken, isSpeaker] using waiting, fun _ member => member⟩
  · exact ⟨queue ++ words name, by simp [spoken, isSpeaker, waiting],
      fun _ member => List.mem_append_left _ member⟩

theorem covered_spoken
    {owner reader : String}
    {id : ResourceId}
    {scheduled : Scheduled}
    {known : Option RemoteEntry}
    (covered : view.Covered owner reader id scheduled known) :
    (view.spoken speaker posted ever words).Covered owner reader id scheduled known := by
  refine covered.mono rfl rfl ?_ ?_
  · intro queue query waiting inQueue _
    obtain ⟨later, stillWaiting, all⟩ := kept_spoken waiting
    exact ⟨later, stillWaiting, all query inQueue⟩
  · intro queue said waiting isSaid
    obtain ⟨later, stillWaiting, all⟩ := kept_spoken waiting
    obtain ⟨delivery, inQueue, word⟩ := mem_saidOf.mp isSaid
    exact ⟨later, stillWaiting, mem_saidOf.mpr ⟨delivery, all delivery inQueue, word⟩⟩

/-- What anyone offers after a speech, by whether it is the speaker. -/
theorem posted_spoken
    {owner : String}
    {id : ResourceId}
    {scheduled : Scheduled}
    (isPosted : (view.spoken speaker posted ever words).posted owner id = some scheduled) :
    (owner = speaker ∧ posted id = some scheduled) ∨
      (owner ≠ speaker ∧ view.posted owner id = some scheduled) := by
  simp only [spoken] at isPosted
  split at isPosted
  next isSpeaker => exact .inl ⟨isSpeaker, isPosted⟩
  next different => exact .inr ⟨different, isPosted⟩

/-- A resource offered at any time was offered before the speech, or by nobody before. -/
theorem ever_spoken
    (speech : Speech view speaker posted ever words)
    {owner : String}
    {id : ResourceId}
    (isEver : ((view.spoken speaker posted ever words).ever owner id).isSome) :
    (view.ever owner id).isSome ∨ (owner = speaker ∧ ∀ other, view.ever other id = none) := by
  simp only [spoken] at isEver
  split at isEver
  next isSpeaker =>
    cases known : view.ever owner id with
    | some resource => exact .inl rfl
    | none => exact .inr ⟨isSpeaker, (speech.first (isSpeaker ▸ known) isEver).1⟩
  next => exact .inl isEver

namespace Coherent

theorem offered_spoken
    (coherent : view.Coherent)
    (speech : Speech view speaker posted ever words)
    {owner : String}
    {id : ResourceId}
    {scheduled : Scheduled}
    (isPosted : (view.spoken speaker posted ever words).posted owner id = some scheduled) :
    (view.spoken speaker posted ever words).ever owner id = some scheduled.resource := by
  rcases posted_spoken isPosted with ⟨isSpeaker, now⟩ | ⟨different, before⟩
  · simpa [spoken, isSpeaker] using speech.offered now
  · simpa [spoken, different] using coherent.offered before

theorem alone_spoken
    (coherent : view.Coherent)
    (speech : Speech view speaker posted ever words)
    {first second : String}
    {id : ResourceId}
    (byFirst : ((view.spoken speaker posted ever words).ever first id).isSome)
    (bySecond : ((view.spoken speaker posted ever words).ever second id).isSome) :
    first = second := by
  rcases ever_spoken speech byFirst with firstBefore | ⟨firstSpeaks, nobody⟩
  · rcases ever_spoken speech bySecond with secondBefore | ⟨_, nobody⟩
    · exact coherent.alone firstBefore secondBefore
    · rw [nobody] at firstBefore
      cases firstBefore
  · rcases ever_spoken speech bySecond with secondBefore | ⟨secondSpeaks, _⟩
    · rw [nobody] at secondBefore
      cases secondBefore
    · exact firstSpeaks.trans secondSpeaks.symm

/-- What is said in a speech is current afterwards. -/
theorem current_of_word
    (coherent : view.Coherent)
    (speech : Speech view speaker posted ever words)
    {reader : String}
    {delivery : Delivery}
    {id : ResourceId}
    {said : Option Wire.Announcement}
    (different : reader ≠ speaker)
    (inWords : delivery ∈ words reader)
    (word : delivery.word? = some (id, said)) :
    (view.spoken speaker posted ever words).Current reader id said := by
  obtain ⟨isEver, isTrue⟩ := speech.truthful different inWords word
  cases now : posted id with
  | some scheduled =>
      rw [now] at isTrue
      subst isTrue
      exact ⟨speaker, scheduled, different.symm, by simpa [spoken] using now, rfl⟩
  | none =>
      rw [now] at isTrue
      subst isTrue
      intro owner
      refine Option.eq_none_iff_forall_ne_some.mpr fun scheduled isPosted => ?_
      have isSpeaker : owner = speaker :=
        coherent.alone_spoken speech
          (by rw [coherent.offered_spoken speech isPosted]; rfl)
          (by simpa [spoken] using isEver)
      rcases posted_spoken isPosted with ⟨_, bySpeaker⟩ | ⟨notSpeaker, _⟩
      · rw [now] at bySpeaker
        cases bySpeaker
      · exact notSpeaker isSpeaker

/-- A reader to whom nothing is said either knew the resource as it is, or never heard of it. -/
theorem unchanged_or_unheard
    (coherent : view.Coherent)
    (speech : Speech view speaker posted ever words)
    {reader : String}
    {queue : List Delivery}
    {id : ResourceId}
    (different : reader ≠ speaker)
    (waiting : view.queue reader = some queue)
    (silent : saidOf id (words reader) = []) :
    posted id = view.posted speaker id ∨ ∀ other, view.ever other id = none := by
  by_cases same : posted id = view.posted speaker id
  · exact .inl same
  refine .inr ?_
  cases known : view.ever speaker id with
  | some resource =>
      obtain ⟨delivery, inWords, said, isWord⟩ :=
        speech.outspoken different (by rw [waiting]; rfl) (by rw [known]; rfl) same
      have member := mem_saidOf.mpr ⟨delivery, inWords, isWord⟩
      rw [silent] at member
      cases member
  | none =>
      cases now : posted id with
      | some scheduled =>
          exact (speech.first known (by rw [speech.offered now]; rfl)).1
      | none =>
          rw [now] at same
          cases before : view.posted speaker id with
          | none => exact absurd before.symm same
          | some scheduled =>
              rw [coherent.offered before] at known
              cases known

/-- Whatever is said of a resource in a queue, somebody has offered it. -/
theorem heardOf
    (coherent : view.Coherent)
    {reader : String}
    {queue : List Delivery}
    {id : ResourceId}
    {said : Option Wire.Announcement}
    (waiting : view.queue reader = some queue)
    (isSaid : said ∈ saidOf id queue) :
    ∃ owner, (view.ever owner id).isSome := by
  obtain ⟨delivery, inQueue, word⟩ := mem_saidOf.mp isSaid
  obtain ⟨owner, resource, _, isEver, _⟩ := coherent.wordStems waiting inQueue word
  exact ⟨owner, by rw [isEver]; rfl⟩

theorem wordStems_spoken
    (coherent : view.Coherent)
    (speech : Speech view speaker posted ever words)
    {reader : String}
    {queue : List Delivery}
    {delivery : Delivery}
    {id : ResourceId}
    {said : Option Wire.Announcement}
    (waiting : (view.spoken speaker posted ever words).queue reader = some queue)
    (inQueue : delivery ∈ queue)
    (word : delivery.word? = some (id, said)) :
    (view.spoken speaker posted ever words).Stems reader id
      ((view.spoken speaker posted ever words).Permits id said) := by
  have old : ∀ {before}, view.queue reader = some before → delivery ∈ before →
      (view.spoken speaker posted ever words).Stems reader id
        ((view.spoken speaker posted ever words).Permits id said) := by
    intro before wasWaiting wasThere
    refine stems_spoken speech ?_ (coherent.wordStems wasWaiting wasThere word)
    intro owner resource later sameCategory sameExpiry isEver holds
    cases said with
    | some announcement => exact ⟨holds.1.trans sameCategory.symm, holds.2.trans sameExpiry.symm⟩
    | none =>
        simp only [Permits, spoken]
        split
        next isSpeaker =>
          subst isSpeaker
          exact speech.gone (by rw [isEver]; rfl) holds
        next => exact holds
  rcases queue_spoken waiting with ⟨_, wasWaiting⟩ | ⟨different, before, wasWaiting, rfl⟩
  · exact old wasWaiting inQueue
  rcases List.mem_append.mp inQueue with wasThere | inWords
  · exact old wasWaiting wasThere
  obtain ⟨isEver, isTrue⟩ := speech.truthful different inWords word
  obtain ⟨resource, isResource⟩ := Option.isSome_iff_exists.mp isEver
  refine ⟨speaker, resource, different.symm, by simpa [spoken] using isResource, ?_⟩
  cases now : posted id with
  | some scheduled =>
      rw [now] at isTrue
      subst isTrue
      have same : resource = scheduled.resource :=
        Option.some.inj (isResource.symm.trans (speech.offered now))
      subst same
      exact ⟨rfl, rfl⟩
  | none =>
      rw [now] at isTrue
      subst isTrue
      simpa [Permits, spoken] using now

theorem lastWord_spoken
    (coherent : view.Coherent)
    (speech : Speech view speaker posted ever words)
    {reader : String}
    {queue : List Delivery}
    {id : ResourceId}
    {said : Option Wire.Announcement}
    (waiting : (view.spoken speaker posted ever words).queue reader = some queue)
    (isLast : (saidOf id queue).getLast? = some said) :
    (view.spoken speaker posted ever words).Current reader id said := by
  rcases queue_spoken waiting with ⟨rfl, wasWaiting⟩ | ⟨different, before, wasWaiting, rfl⟩
  · obtain ⟨other, heard⟩ := coherent.heardOf wasWaiting (List.mem_of_getLast? isLast)
    exact current_spoken_self speech heard (coherent.lastWord wasWaiting isLast)
  rw [saidOf_append] at isLast
  by_cases silent : saidOf id (words reader) = []
  · rw [silent, List.append_nil] at isLast
    rcases coherent.unchanged_or_unheard speech different wasWaiting silent with same | nobody
    · exact current_spoken same (coherent.lastWord wasWaiting isLast)
    · obtain ⟨other, heard⟩ := coherent.heardOf wasWaiting (List.mem_of_getLast? isLast)
      rw [nobody] at heard
      cases heard
  · rw [List.getLast?_append, List.getLast?_eq_some_getLast silent, Option.some_or,
      ← List.getLast?_eq_some_getLast silent] at isLast
    obtain ⟨delivery, inWords, word⟩ := mem_saidOf.mp (List.mem_of_getLast? isLast)
    exact coherent.current_of_word speech different inWords word

theorem knowledge_spoken
    (coherent : view.Coherent)
    (speech : Speech view speaker posted ever words)
    {reader category : String}
    {queue : List Delivery}
    {id : ResourceId}
    {entry : RemoteEntry}
    (waiting : (view.spoken speaker posted ever words).queue reader = some queue)
    (silent : saidOf id queue = [])
    (knows : view.knows reader category id = some (some entry)) :
    ∃ announcement,
      (view.spoken speaker posted ever words).Current reader id (some announcement) ∧
        entry.resource = .ofAnnouncement id announcement := by
  obtain ⟨other, resource, _, isEver, _⟩ := coherent.indexStems (coherent.filed knows)
  have heard : (view.ever other id).isSome := by
    rw [isEver]
    rfl
  rcases queue_spoken waiting with ⟨rfl, wasWaiting⟩ | ⟨different, before, wasWaiting, rfl⟩
  · obtain ⟨announcement, isCurrent, same⟩ := coherent.knowledge wasWaiting silent knows
    exact ⟨announcement, current_spoken_self speech heard isCurrent, same⟩
  rw [saidOf_append] at silent
  obtain ⟨silentBefore, silentNow⟩ := List.append_eq_nil_iff.mp silent
  obtain ⟨announcement, isCurrent, same⟩ := coherent.knowledge wasWaiting silentBefore knows
  rcases coherent.unchanged_or_unheard speech different wasWaiting silentNow with
    unchanged | nobody
  · exact ⟨announcement, current_spoken unchanged isCurrent, same⟩
  · rw [nobody] at heard
    cases heard

/-- A resource of the speaker: its reader is told now, or nothing has changed, or it is due. -/
theorem covered_speaker
    (coherent : view.Coherent)
    (speech : Speech view speaker posted ever words)
    {reader : String}
    {id : ResourceId}
    {scheduled : Scheduled}
    {known : Option RemoteEntry}
    (now : posted id = some scheduled)
    (different : speaker ≠ reader)
    (knows : view.knows reader scheduled.resource.category id = some known) :
    (view.spoken speaker posted ever words).Covered speaker reader id scheduled known := by
  obtain ⟨queue, waiting⟩ :=
    Option.isSome_iff_exists.mp (coherent.readerReached (by rw [knows]; rfl))
  by_cases silent : saidOf id (words reader) = []
  · rcases coherent.unchanged_or_unheard speech different.symm waiting silent with same | nobody
    · exact covered_spoken (coherent.covered (same ▸ now) different knows)
    · have isFirst := speech.first (nobody speaker) (by rw [speech.offered now]; rfl)
      exact .due (isFirst.2 scheduled now)
  · obtain ⟨said, member⟩ := List.exists_mem_of_ne_nil _ silent
    obtain ⟨delivery, inWords, word⟩ := mem_saidOf.mp member
    have isTrue := (speech.truthful different.symm inWords word).2
    rw [now] at isTrue
    subst isTrue
    have isWaiting : (view.spoken speaker posted ever words).queue reader =
        some (queue ++ words reader) := by
      simp [spoken, different.symm, waiting]
    have isSaid : some scheduled.resource.announcement ∈ saidOf id (queue ++ words reader) := by
      rw [saidOf_append]
      exact List.mem_append_right _ member
    exact .told isWaiting isSaid

/-- A speech keeps a view coherent. -/
theorem speak
    (coherent : view.Coherent)
    (speech : Speech view speaker posted ever words) :
    (view.spoken speaker posted ever words).Coherent := by
  refine
    { offered := coherent.offered_spoken speech, timely := ?_
      alone := coherent.alone_spoken speech, ownerReached := ?_, readerReached := ?_
      filed := coherent.filed, indexStems := ?_, wordStems := coherent.wordStems_spoken speech
      lastWord := coherent.lastWord_spoken speech
      knowledge := coherent.knowledge_spoken speech, covered := ?_ }
  · intro owner id scheduled isPosted
    rcases posted_spoken isPosted with ⟨_, now⟩ | ⟨_, before⟩
    · exact speech.timely now
    · exact coherent.timely before
  · intro owner id isPosted
    rw [isSome_queue_spoken]
    obtain ⟨scheduled, isScheduled⟩ := Option.isSome_iff_exists.mp isPosted
    rcases posted_spoken isScheduled with ⟨isSpeaker, now⟩ | ⟨_, before⟩
    · rw [isSpeaker]
      exact speech.reached (by rw [now]; rfl)
    · exact coherent.ownerReached (by rw [before]; rfl)
  · intro reader category id knows
    rw [isSome_queue_spoken]
    exact coherent.readerReached knows
  · intro reader category id indexed
    refine stems_spoken speech ?_ (coherent.indexStems indexed)
    intro owner resource later sameCategory _ _ isCategory
    exact sameCategory.trans isCategory
  · intro owner reader id scheduled known isPosted different knows
    rcases posted_spoken isPosted with ⟨rfl, now⟩ | ⟨_, before⟩
    · exact coherent.covered_speaker speech now different knows
    · exact covered_spoken (coherent.covered before different knows)

end Coherent

end Speech

end Discovery.View
