import Discovery.Proofs.Convergence.Conduct

namespace Discovery

/-!
# A payload is handed over

The first payload of a queue is taken off and its reader handles it.  A query
is answered before it is gone, and a word is learnt before it is gone, so the
participants still come to agree.
-/

/-- A publisher replies to whoever asks for the category of a resource that it offers. -/
theorem Publisher.answerTo_mem_answer
    {publisher : Publisher}
    {id : ResourceId}
    {scheduled : Scheduled}
    (owned : publisher.owned.find? id = some scheduled)
    (origin : Origin) :
    answerTo origin scheduled.resource ∈
      publisher.answer origin scheduled.resource.category := by
  refine List.mem_map_of_mem (List.mem_filter.mpr ⟨?_, beq_self_eq_true _⟩)
  exact mem_resources.mpr ⟨id, scheduled, owned, rfl⟩

theorem Progress.enterPublisher_self
    {progress : Progress}
    {publisher : Publisher}
    (known : progress.agent.publisher = some publisher) :
    progress.enterPublisher publisher = progress := by
  rw [enterPublisher, ← known]

namespace Simulation.Sustained

open Progress (Unseen)

variable {world : World} {name : String} {number : Nat} {progress : Progress}
variable {network : Network} {first : Delivery} {rest : List Delivery}

/-- Taking a payload off one queue, and sending others, changes that queue and those of others. -/
theorem viewDuring_taken
    (wired : Wired world)
    (address : world.view.address name = some number)
    (taken : world.network.Taken number first rest network)
    {outgoing : List Outgoing}
    (outputs : progress.outputs = outgoing.map .sent) :
    World.viewDuring { world with network := network } name number progress =
      (world.viewDuring name number progress).taken name rest := by
  obtain ⟨_, sent⟩ := world.network.sendAll_spec number outgoing
  obtain ⟨_, sentLater⟩ := network.sendAll_spec number outgoing
  have sameArrivals : ∀ receiver, network.arrivals number receiver outgoing =
      world.network.arrivals number receiver outgoing := by
    intro receiver
    simp only [Network.arrivals, taken.shape.faults]
  ext1
  · rfl
  · rfl
  · rfl
  · rfl
  · rfl
  · rfl
  · funext reader
    change (world.view.address reader).bind (network.transmitAll number progress.outputs).queue? =
      if reader = name then some rest
      else (world.view.address reader).bind
        (world.network.transmitAll number progress.outputs).queue?
    rw [outputs, Network.transmitAll_sent, Network.transmitAll_sent]
    rcases address_cases wired address reader with ⟨isName, isAddress⟩ | ⟨notName, notNumber⟩
    · rw [if_pos isName, isAddress, Option.bind_some, sentLater, taken.queue, if_pos rfl,
        Network.arrivals_self, Option.map_some, List.append_nil]
    · rw [if_neg notName]
      cases isAddress : world.view.address reader with
      | none => rfl
      | some receiver =>
          rw [Option.bind_some, Option.bind_some, sentLater, sent, taken.queue,
            if_neg (notNumber isAddress), sameArrivals]

/-- What holds while a payload is handed over, if the participants still come to agree. -/
theorem handed
    {agent : Agent}
    (sustained : Sustained world name number agent.begin)
    (wired : Wired world)
    (address : world.view.address name = some number)
    (taken : world.network.Taken number first rest network)
    {outgoing : List Outgoing}
    (outputs : progress.outputs = outgoing.map .sent)
    (users : progress.agent.users = agent.users)
    (coherent : ((world.viewDuring name number progress).taken name rest).Coherent)
    (publisher : ∀ {publisher}, progress.agent.publisher = some publisher →
      publisher.Sound world.now)
    (tidy : ∀ {subscriber}, progress.agent.subscriber = some subscriber → subscriber.Silent) :
    Sustained { world with network := network } name number progress := by
  obtain ⟨sentShape, sent⟩ := network.sendAll_spec number outgoing
  have after : World.networkAfter { world with network := network } number progress =
      network.sendAll number outgoing := by
    rw [World.networkAfter, outputs, Network.transmitAll_sent]
  have sameSome : ∀ receiver,
      ((network.sendAll number outgoing).queue? receiver).isSome =
        (network.queue? receiver).isSome := by
    intro receiver
    rw [sent, Option.isSome_map]
  refine ⟨viewDuring_taken wired address taken outputs ▸ coherent, ?_, ?_, ?_, ?_,
    publisher, tidy⟩
  · rw [after]
    exact sentShape
  · have online := sustained.online
    change (world.network.queue? number).isSome = _ at online
    rw [taken.waiting] at online
    rw [after, sameSome, taken.queue, if_pos rfl, users]
    exact online
  · intro other different
    rw [after, sameSome]
  · intro output member
    rw [outputs] at member
    obtain ⟨_, _, rfl⟩ := List.mem_map.mp member
    rfl

theorem waiting_viewDuring
    (agent : Agent)
    (address : world.view.address name = some number)
    (taken : world.network.Taken number first rest network) :
    (world.viewDuring name number agent.begin).queue name = some (first :: rest) := by
  change (world.view.address name).bind world.network.queue? = _
  rw [address, Option.bind_some, taken.waiting]

section Answering

variable {agent : Agent}

/-- Taking a payload that says nothing and asks nothing of the agent makes no difference. -/
theorem ignore
    (sustained : Sustained world name number agent.begin)
    (wired : Wired world)
    (address : world.view.address name = some number)
    (taken : world.network.Taken number first rest network)
    (noWord : first.word? = none)
    (offersNothing : first.question?.isSome → ∀ id, agent.posted? id = none) :
    Sustained { world with network := network } name number agent.begin := by
  have isWaiting := waiting_viewDuring agent address taken
  refine sustained.handed wired address taken
    (show agent.begin.outputs = [].map .sent from rfl) rfl ?_ sustained.publisher sustained.tidy
  refine sustained.coherent.answered isWaiting noWord fun asks _ posted => ?_
  rw [posted_viewDuring] at posted
  rw [show agent.begin.agent.posted? _ = none from offersNothing (by rw [asks]; rfl) _] at posted
  cases posted

/-- A query is answered before it is taken off the queue. -/
theorem answer
    (sustained : Sustained world name number agent.begin)
    (wired : Wired world)
    (address : world.view.address name = some number)
    (taken : world.network.Taken number first rest network)
    {category : String}
    (decoded : Wire.Message.decode first.contents = .ok (.query category))
    {publisher : Publisher}
    (known : agent.publisher = some publisher) :
    Sustained { world with network := network } name number
      (agent.begin.send (publisher.answer first.origin category)) := by
  have sound : publisher.Sound world.now := sustained.publisher known
  have spoken := sustained.utter wired address known (.answer sound first.origin category)
  rw [Progress.enterPublisher_self known] at spoken
  have inQueue := sustained.queue_send wired address (publisher.answer first.origin category)
  have isWaiting : (world.viewDuring name number
      (agent.begin.send (publisher.answer first.origin category))).queue name =
        some (first :: rest) := by
    refine (inQueue name).trans ?_
    rw [if_pos rfl]
    exact waiting_viewDuring agent address taken
  refine sustained.handed wired address taken rfl rfl ?_ sustained.publisher
    sustained.tidy
  refine spoken.coherent.answered isWaiting (by simp only [Delivery.word?, decoded]) ?_
  intro target reader id scheduled entry asks isAddress posted different knows
  simp only [Delivery.question?, decoded, Option.some.injEq, Prod.mk.injEq] at asks
  obtain ⟨isOrigin, rfl⟩ := asks
  change world.view.address reader = some target at isAddress
  have owned : publisher.owned.find? id = some scheduled := by
    rw [posted_viewDuring] at posted
    change agent.posted? id = _ at posted
    rwa [Agent.posted?, known] at posted
  have notNumber : target ≠ number := by
    rcases address_cases wired address reader with ⟨isName, _⟩ | ⟨_, notNumber⟩
    · exact absurd isName.symm different
    · exact notNumber isAddress
  obtain ⟨after, isAfter⟩ := Option.isSome_iff_exists.mp
    (spoken.coherent.readerReached (by rw [knows]; rfl))
  refine ⟨after, scheduled.resource.announcement, isAfter, ?_⟩
  have appended := (inQueue reader).symm.trans isAfter
  rw [if_neg different.symm] at appended
  obtain ⟨before, _, rfl⟩ := Option.map_eq_some_iff.mp appended
  rw [saidOf_append]
  refine List.mem_append_right _ (mem_saidOf.mpr
    ⟨(Publisher.answerTo first.origin scheduled.resource).arrival number, ?_, ?_⟩)
  · rw [words, isAddress, Option.elim_some]
    refine world.network.arrival_mem_arrivals wired.lossless
      (Publisher.answerTo_mem_answer owned first.origin) ?_
    rw [isOrigin]
    exact decide_eq_true ⟨rfl, notNumber⟩
  · have tells := Publisher.tells_answerTo (sound.valid owned) (sound.lasting owned) first.origin
    rw [sound.named owned] at tells
    exact tells number

/-- What a subscriber was taught is a lesson for all that it shows of itself. -/
theorem lesson
    {subscriber after : Subscriber}
    (known : agent.subscriber = some subscriber)
    {id : ResourceId}
    {said : Option Wire.Announcement}
    (taught : Subscriber.Taught world.now id said after subscriber)
    (tidy : after.Silent) :
    View.Lesson (world.viewDuring name number agent.begin) name id said after.known?
      after.index.find? := by
  have knows : ∀ category other,
      (world.viewDuring name number agent.begin).knows name category other =
        subscriber.known? category other := by
    intro category other
    rw [knows_viewDuring]
    change agent.known? category other = _
    rw [Agent.known?, known, Option.bind_some]
  have indexed : ∀ other, (world.viewDuring name number agent.begin).indexed name other =
      subscriber.index.find? other := by
    intro other
    rw [indexed_viewDuring]
    change agent.indexed? other = _
    rw [Agent.indexed?, known, Option.bind_some]
  constructor
  · intro category other different
    rw [knows]
    exact taught.others different
  · intro category other watched
    rw [knows]
    exact taught.watched watched
  · intro other different
    rw [indexed]
    exact taught.indexOthers different
  · intro category isIndexed
    rw [indexed]
    exact taught.index isIndexed
  · exact tidy.filed
  · exact taught.learnt
  · exact taught.known

/-- A word is learnt when it is taken off the queue. -/
theorem learn
    (sustained : Sustained world name number agent.begin)
    (wired : Wired world)
    (address : world.view.address name = some number)
    (taken : world.network.Taken number first rest network)
    {id : ResourceId}
    {said : Option Wire.Announcement}
    (word : first.word? = some (id, said))
    {after : Agent}
    (users : after.users = agent.users)
    (publisher : after.publisher = agent.publisher)
    (lesson : View.Lesson (world.viewDuring name number agent.begin) name id said after.known?
      after.indexed?)
    (tidy : ∀ {subscriber}, after.subscriber = some subscriber → subscriber.Silent) :
    Sustained { world with network := network } name number after.begin := by
  have isWaiting := waiting_viewDuring agent address taken
  refine sustained.handed wired address taken
    (show after.begin.outputs = [].map .sent from rfl) users ?_
    (fun known => sustained.publisher (publisher.symm.trans known)) tidy
  have same : (world.viewDuring name number after.begin).taken name rest =
      ((world.viewDuring name number agent.begin).taken name rest).informed name after.known?
        after.indexed? := by
    ext1
    · rfl
    · rfl
    · funext owner id
      change (if owner = name then after.posted? else _) id =
        (if owner = name then agent.posted? else _) id
      split
      next => rw [Agent.posted?, publisher, Agent.posted?]
      next => rfl
    · funext owner id
      change (if owner = name then after.localResource? else _) id =
        (if owner = name then agent.localResource? else _) id
      split
      next => rw [Agent.localResource?, publisher, Agent.localResource?]
      next => rfl
    · funext reader
      simp only [World.viewDuring, World.viewWith, View.informed, View.taken]
      split <;> rfl
    · funext reader
      simp only [World.viewDuring, World.viewWith, View.informed, View.taken]
      split <;> rfl
    · rfl
  exact same ▸ sustained.coherent.learn isWaiting word lesson

/-- An agent without a subscriber has nothing to learn. -/
theorem pass
    (sustained : Sustained world name number agent.begin)
    (wired : Wired world)
    (address : world.view.address name = some number)
    (taken : world.network.Taken number first rest network)
    {said : ResourceId × Option Wire.Announcement}
    (word : first.word? = some said)
    (absent : agent.subscriber = none) :
    Sustained { world with network := network } name number agent.begin := by
  have unknown : ∀ category id, agent.known? category id = none := by
    intro category id
    rw [Agent.known?, absent]
    rfl
  refine sustained.learn wired address taken word rfl rfl ?_ sustained.tidy
  refine ⟨?_, ?_, ?_, ?_, ?_, ?_, ?_⟩
  · intro category other _
    rw [knows_viewDuring]
    rfl
  · intro category other watched
    rwa [knows_viewDuring]
  · intro other _
    rw [indexed_viewDuring]
    rfl
  · intro category isIndexed
    rw [indexed_viewDuring]
    exact .inl isIndexed
  · intro category other entry known
    rw [unknown] at known
    cases known
  · intro category entry known
    rw [unknown] at known
    cases known
  · intro announcement known _ isKnown
    rw [unknown] at isKnown
    cases isKnown

/-- What is announced comes from its owner, and is learnt under its own category. -/
theorem hear
    (sustained : Sustained world name number agent.begin)
    (wired : Wired world)
    (address : world.view.address name = some number)
    (taken : world.network.Taken number first rest network)
    (real : ∀ {owner id}, (world.view.ever owner id).isSome → id.isNil = false)
    {announcement : Wire.Announcement}
    (word : first.word? = some (first.stream, some announcement))
    {subscriber : Subscriber}
    (known : agent.subscriber = some subscriber)
    (sound : subscriber.Sound) :
    Sustained { world with network := network } name number
      (agent.begin.enterSubscriber (subscriber.hear world.now first.stream announcement)) := by
  have isWaiting := waiting_viewDuring agent address taken
  obtain ⟨owner, resource, different, isEver, sameCategory, _⟩ :=
    sustained.coherent.wordStems isWaiting List.mem_cons_self word
  have notNil : first.stream.isNil = false := by
    have wasEver : world.view.ever owner first.stream = some resource :=
      (congrFun (if_neg different).symm first.stream).trans isEver
    exact real (by rw [wasEver]; rfl)
  have own : ∀ {category}, subscriber.index.find? first.stream = some category →
      category = announcement.category := by
    intro category indexed
    have isIndexed : (world.viewDuring name number agent.begin).indexed name first.stream =
        some category := by
      rw [indexed_viewDuring]
      change agent.indexed? first.stream = _
      rw [Agent.indexed?, known, Option.bind_some, indexed]
    obtain ⟨other, otherResource, _, otherEver, rfl⟩ := sustained.coherent.indexStems isIndexed
    rw [(sustained.coherent.owner_eq otherEver isEver).2, sameCategory]
  obtain ⟨tidy, taught⟩ :=
    Subscriber.taught_hear (sustained.tidy known) sound world.now notNil own
  exact sustained.learn wired address taken word rfl rfl (lesson known taught tidy)
    fun isNext => Option.some.inj isNext ▸ tidy

/-- Handing a payload over is sustained. -/
theorem receive
    (sustained : Sustained world name number agent.begin)
    (wired : Wired world)
    (address : world.view.address name = some number)
    (taken : world.network.Taken number first rest network)
    (sound : ∀ {subscriber}, agent.subscriber = some subscriber → subscriber.Sound)
    (real : ∀ {owner id}, (world.view.ever owner id).isSome → id.isNil = false) :
    Sustained { world with network := network } name number
      (agent.begin.receive world.now first) := by
  unfold Progress.receive
  split
  next decoded =>
    exact sustained.ignore wired address taken (by simp only [Delivery.word?, decoded])
      (by
        simp only [Delivery.question?, decoded]
        intro isAsked
        cases isAsked)
  next category decoded =>
    split
    next absent =>
      refine sustained.ignore wired address taken (by simp only [Delivery.word?, decoded])
        fun _ id => ?_
      rw [Agent.posted?, show agent.publisher = none from absent]
      rfl
    next publisher known => exact sustained.answer wired address taken decoded known
  next announcement decoded =>
    have word : first.word? = some (first.stream, some announcement) := by
      simp only [Delivery.word?, decoded]
    split
    next absent => exact sustained.pass wired address taken word absent
    next subscriber known =>
      exact sustained.hear wired address taken real word known (sound known)
  next announcement decoded =>
    have word : first.word? = some (first.stream, some announcement) := by
      simp only [Delivery.word?, decoded]
    split
    next absent => exact sustained.pass wired address taken word absent
    next subscriber known =>
      exact sustained.hear wired address taken real word known (sound known)
  next decoded =>
    have word : first.word? = some (first.stream, none) := by
      simp only [Delivery.word?, decoded]
    split
    next absent => exact sustained.pass wired address taken word absent
    next subscriber known =>
      obtain ⟨tidy, taught⟩ :=
        Subscriber.taught_forget (sustained.tidy known) (sound known) world.now first.stream
      exact sustained.learn wired address taken word rfl rfl (lesson known taught tidy)
        fun isNext => Option.some.inj isNext ▸ tidy

end Answering

end Simulation.Sustained

end Discovery
