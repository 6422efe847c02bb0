import Discovery.Proofs.Agent.Usage

namespace Discovery.Progress

/-!
# What callbacks keep

A callback disposes subscriptions, registers further callbacks and makes
requests, in any order and as often as it likes.  What each of these keeps is
therefore kept by every callback, and so by telling a subscription of a change.
-/

/-- A property that nothing takes away that a callback can do. -/
structure KeptByCallbacks (motive : Progress → Prop) : Prop where
  quiet : ∀ {next progress}, Quiet next progress → motive progress → motive next
  disposes : ∀ {progress} id, motive progress → motive (progress.dispose id)
  subscribes : ∀ {progress} category, motive progress → motive (progress.subscribe category).2
  publishes : ∀ {progress} now id category connection attributes,
    motive progress → motive (progress.publish now id category connection attributes).2

/-- A request is subscribing or publishing. -/
theorem perform_cases
    (progress : Progress)
    (now : Instant)
    (request : Request) :
    (∃ category, (progress.perform now request).2 = (progress.subscribe category).2) ∨
      ∃ id category connection,
        (progress.perform now request).2 =
          (progress.publish now id category connection ∅).2 := by
  cases request with
  | subscribe name category =>
      refine .inl ⟨category, ?_⟩
      unfold perform
      dsimp only
      split <;> simp [*]
  | publish name id category connection =>
      refine .inr ⟨id, category, connection, ?_⟩
      unfold perform
      dsimp only
      split <;> simp [*]

namespace KeptByCallbacks

variable {motive : Progress → Prop} {progress : Progress}

theorem act
    (kept : KeptByCallbacks motive)
    (now : Instant)
    (callback : String)
    (action : Action)
    (holds : motive progress) :
    motive (act now callback progress action) := by
  cases action with
  | dispose subscription => exact kept.disposes subscription holds
  | listen subscription name script =>
      exact kept.quiet (.updateSubscription progress subscription fun _ => rfl) holds
  | perform request =>
      have performed : motive (progress.perform now request).2 := by
        rcases progress.perform_cases now request with
          ⟨category, isSubscribe⟩ | ⟨id, category, connection, isPublish⟩
        · rw [isSubscribe]
          exact kept.subscribes category holds
        · rw [isPublish]
          exact kept.publishes now id category connection ∅ holds
      exact kept.quiet (.emit _ rfl) performed
  | elsewhere agent request => exact kept.quiet (.emit progress rfl) holds

theorem runCallback
    (kept : KeptByCallbacks motive)
    (now : Instant)
    (subscription position : Nat)
    (holds : motive progress) :
    motive (runCallback now subscription progress position) := by
  unfold Progress.runCallback
  dsimp only
  split
  next => exact holds
  next callback _ =>
    have shortened := kept.quiet
      (.updateSubscription progress subscription fun known =>
        show { known with
            callbacks :=
              known.callbacks.set position
                { callback with script := callback.script.tail } }.standing =
          known.standing from rfl)
      holds
    refine List.foldlRecOn _ _ (kept.quiet (.emit _ rfl) shortened) ?_
    exact fun current holds action _ => kept.act now callback.name action holds

/-- Telling a subscription of a change keeps what callbacks keep. -/
theorem notify
    (kept : KeptByCallbacks motive)
    (now : Instant)
    (subscription : Nat)
    (holds : motive progress) :
    motive (notify now progress subscription) := by
  unfold Progress.notify
  split
  next => exact holds
  next known _ =>
    split
    next => exact holds
    next =>
      refine List.foldlRecOn _ _
        (kept.quiet (.updateSubscription progress subscription fun _ => rfl) holds) ?_
      exact fun current holds position _ => kept.runCallback now subscription position holds

/-- So does a turn of the delivery task. -/
theorem deliver
    (kept : KeptByCallbacks motive)
    (now : Instant)
    (holds : motive progress) :
    motive (progress.deliver now) := by
  unfold Progress.deliver
  split
  next => exact holds
  next subscriber known =>
    have collected := kept.quiet (.enterSubscriber known subscriber.sameMembership_collect) holds
    refine List.foldlRecOn _ _ collected ?_
    exact fun current holds id _ => kept.notify now id holds

end KeptByCallbacks

end Discovery.Progress
