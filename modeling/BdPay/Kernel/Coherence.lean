import BdPay.Kernel.Numbering

namespace BdPay.Kernel

open Platform Data Effect Connectors PaymentSystem List

/-! What holds of the payment system after every write: where an intent is given
its attempts, what the adapters were handed, and what a regime lets be seen. -/

/-! Intents and their attempts -/

/-- The intent was given up for reversal, and it failed only if the reversal did. -/
def GivenUp (system : PaymentSystem) (intent : PaymentIntentRecord) : Prop :=
  intent.status ∈ reversalPath ∧ (intent.status = .failed → ReversalFailed system intent.paymentIntentId)

/-- A dispatched intent is processing, given up for reversal, or settled by what the kernel was told. -/
def Decided (system : PaymentSystem) (intent : PaymentIntentRecord) : Prop :=
  intent.status = .processing ∨ intent.status ∈ reversalPath ∨
    ∃ attempt, system.HasAttempt attempt ∧ attempt.paymentIntentId = intent.paymentIntentId ∧ Settled system attempt

/-- Where an intent is, given its attempts. -/
structure Owning (system : PaymentSystem) : Prop where
  keys : ∀ {id intent}, system.store.intents.get? id = some intent → intent.paymentIntentId = id
  dispatched : ∀ {attempt}, system.HasAttempt attempt →
    ∃ intent, system.HasIntent intent ∧ intent.paymentIntentId = attempt.paymentIntentId ∧ intent.status ∉ undispatched
  undecided : ∀ {attempt intent}, system.HasAttempt attempt → attempt.status ∈ openAttempts →
    system.HasIntent intent → intent.paymentIntentId = attempt.paymentIntentId →
      intent.status = .processing ∨ GivenUp system intent
  exhausted : ∀ {attempt intent}, system.HasAttempt attempt → maxStatusPolls ≤ attempt.pollCount →
    system.HasIntent intent → intent.paymentIntentId = attempt.paymentIntentId → GivenUp system intent
  decided : ∀ {attempt intent}, system.HasAttempt attempt → system.HasIntent intent →
    intent.paymentIntentId = attempt.paymentIntentId → Decided system intent

theorem intentRules_from_undispatched :
    ∀ rule ∈ intentRules, rule.toState ∈ undispatched → rule.fromState ∈ undispatched := by
  decide

theorem intentRules_from_reversalPath :
    ∀ rule ∈ intentRules, rule.fromState ∈ reversalPath → rule.toState ∈ reversalPath := by
  decide

theorem intentRules_to_failed_in_reversal : ∀ rule ∈ intentRules, rule.fromState ∈ reversalPath →
    rule.toState = .failed → rule.fromState = .reversalInitiated ∨ rule.fromState = .reversalPending := by
  decide

theorem intentRules_from_processing : ∀ rule ∈ intentRules, rule.fromState = .processing →
    rule.toState = .processing ∨ rule.toState = .reversalInitiated ∨ rule.toState = .failed ∨
      rule.toState = .succeeded ∨ rule.toState = .requiresCapture := by
  decide

variable {system : PaymentSystem} {attempt : PaymentAttemptRecord} {observation : Observation} {next : PaymentSystem}

theorem Extends.givenUp (extended : Extends system next) (given : GivenUp system intent) : GivenUp next intent :=
  ⟨given.1, fun failed => extended.reversalFailed (given.2 failed)⟩

theorem Extends.decided (extended : Extends system next) (decided : Decided system intent) : Decided next intent := by
  rcases decided with processing | given | ⟨attempt, stored, owner, settled⟩
  · exact .inl processing
  · exact .inr (.inl given)
  · obtain ⟨current, inNext, same⟩ := extended.attempts stored
    exact .inr (.inr ⟨current, inNext, (identity_eq same).2.1.trans owner,
      (extended.settled settled).congr same.symm⟩)

theorem Decided.moved (numbering : Numbering system)
    (decided : Decided system old) (moves : IntentMoves system old new) : Decided system new := by
  unfold Decided
  rw [moves.same]
  rcases moves.declared with same | ⟨rule, listed, source, target⟩
  · rw [same]
    exact decided
  · rcases decided with processing | given | settled
    · have charged : new.status = .succeeded ∨ new.status = .requiresCapture →
          ∃ attempt, system.HasAttempt attempt ∧ attempt.paymentIntentId = old.paymentIntentId ∧
            Settled system attempt := by
        intro status
        obtain ⟨attempt, stored, owner, charged⟩ := moves.charged processing status
        have closed : attempt.status ∉ openAttempts ∧ attempt.status ≠ .authorizationFailed := by
          rcases charged with isAt | isAt <;> rw [isAt] <;> decide
        exact ⟨attempt, stored, owner, (numbering.heard stored closed.1).resolve_left closed.2⟩
      rcases intentRules_from_processing rule listed (source.trans processing) with went | went | went | went | went <;>
        rw [target] at went
      · exact .inl went
      · exact .inr (.inl (by rw [went]; decide))
      · exact .inr (.inl (by rw [went]; decide))
      · exact .inr (.inr (charged (.inl went)))
      · exact .inr (.inr (charged (.inr went)))
    · exact .inr (.inl (target ▸ intentRules_from_reversalPath rule listed (source ▸ given)))
    · exact .inr (.inr settled)

theorem GivenUp.moved (given : GivenUp system old) (moves : IntentMoves system old new) : GivenUp system new := by
  rcases moves.declared with same | ⟨rule, listed, source, target⟩
  · unfold GivenUp
    rw [same, moves.same]
    exact given
  · have inside : rule.fromState ∈ reversalPath := source ▸ given.1
    refine ⟨target ▸ intentRules_from_reversalPath rule listed inside, ?_⟩
    intro failed
    rw [moves.same]
    have reversing := intentRules_to_failed_in_reversal rule listed inside (target.trans failed)
    rw [source] at reversing
    exact moves.unreversed reversing failed

/-- A hard decline is about the last attempt, so every attempt of the intent has failed. -/
theorem HardDeclined.all_failed (numbering : Numbering system) (declined : HardDeclined system intentId)
    (stored : system.HasAttempt attempt) (owner : attempt.paymentIntentId = intentId) :
    attempt.status = .authorizationFailed := by
  by_contra alive
  obtain ⟨final, finalStored, finalOwner, failed, highest, -⟩ := declined
  have below := highest attempt stored owner
  have above := numbering.last stored finalStored (finalOwner.trans owner.symm) alive
  have same := stored.unique finalStored
    (numbering.numbers stored finalStored (owner.trans finalOwner.symm) (by omega))
  exact alive (same ▸ failed)

/-- A processing intent with an open attempt is still processing, or given up. -/
theorem processing_moved (numbering : Numbering system) (stored : system.HasAttempt attempt)
    (opened : attempt.status ∈ openAttempts)
    (owner : old.paymentIntentId = attempt.paymentIntentId) (processing : old.status = .processing)
    (moves : IntentMoves system old new) : new.status = .processing ∨ GivenUp system new := by
  have notCharged : ¬ (new.status = .succeeded ∨ new.status = .requiresCapture) := by
    intro target
    obtain ⟨charged, chargedStored, chargedOwner, settled⟩ := moves.charged processing target
    have alive : ∀ status : AttemptStatus, status ∈ openAttempts ∨ status = .charged ∨ status = .authorized →
        status ≠ .authorizationFailed := by
      intro status known failed
      subst failed
      revert known
      decide
    have same := numbering.alive_unique stored chargedStored (owner.symm.trans chargedOwner.symm)
      (alive _ (.inl opened)) (alive _ (.inr settled))
    rw [same] at opened
    rcases settled with status | status <;> rw [status] at opened <;> exact absurd opened (by decide)
  have notDeclined : new.status ≠ .failed := by
    intro failed
    rw [(moves.declined processing failed).all_failed numbering stored owner.symm] at opened
    exact absurd opened (by decide)
  rcases moves.declared with same | ⟨rule, listed, source, target⟩
  · exact .inl (same.trans processing)
  · rcases intentRules_from_processing rule listed (source.trans processing) with went | went | went | went | went <;>
      rw [target] at went
    · exact .inl went
    · exact .inr ⟨by rw [went]; decide, fun failed => absurd failed (by rw [went]; decide)⟩
    · exact absurd went notDeclined
    · exact absurd (.inl went) notCharged
    · exact absurd (.inr went) notCharged

namespace Owning

variable (owning : Owning system)
include owning

/-- An intent is written: the facts about its attempts are the caller's. -/
theorem intent_written
    (dispatched : ∀ {attempt}, system.HasAttempt attempt → attempt.paymentIntentId = new.paymentIntentId →
      new.status ∉ undispatched) (undecided : ∀ {attempt}, system.HasAttempt attempt → attempt.status ∈ openAttempts →
      new.paymentIntentId = attempt.paymentIntentId → new.status = .processing ∨ GivenUp system new)
    (exhausted : ∀ {attempt}, system.HasAttempt attempt → maxStatusPolls ≤ attempt.pollCount →
      new.paymentIntentId = attempt.paymentIntentId → GivenUp system new)
    (decided : ∀ {attempt}, system.HasAttempt attempt → new.paymentIntentId = attempt.paymentIntentId →
      Decided system new) : Owning (system.putIntent new) := by
  constructor
  case keys =>
    exact Dict.forall_set owning.keys rfl
  case dispatched =>
    intro attempt stored
    by_cases here : attempt.paymentIntentId = new.paymentIntentId
    · exact ⟨new, hasIntent_putIntent.mpr (.inl rfl), here.symm, dispatched stored here⟩
    · obtain ⟨intent, intentStored, owner, status⟩ := owning.dispatched stored
      exact ⟨intent, hasIntent_putIntent.mpr (.inr ⟨intentStored, fun same => here (owner.symm.trans same)⟩), owner,
        status⟩
  case undecided =>
    intro attempt intent stored opened intentStored owner
    rcases hasIntent_putIntent.mp intentStored with rfl | ⟨intentStored, -⟩
    · exact undecided stored opened owner
    · exact owning.undecided stored opened intentStored owner
  case exhausted =>
    intro attempt intent stored polled intentStored owner
    rcases hasIntent_putIntent.mp intentStored with rfl | ⟨intentStored, -⟩
    · exact exhausted stored polled owner
    · exact owning.exhausted stored polled intentStored owner
  case decided =>
    intro attempt intent stored intentStored owner
    rcases hasIntent_putIntent.mp intentStored with rfl | ⟨intentStored, -⟩
    · exact decided stored owner
    · exact owning.decided stored intentStored owner

theorem intent_created
    (fresh : system.store.intents.get? intent.paymentIntentId = none) : Owning (system.putIntent intent) := by
  have unused : ∀ {attempt}, system.HasAttempt attempt → attempt.paymentIntentId ≠ intent.paymentIntentId := by
    intro attempt stored same
    obtain ⟨owner, ownerStored, owned, -⟩ := owning.dispatched stored
    exact ownerStored.ne_of_fresh fresh (owned.trans same)
  apply owning.intent_written
  · exact fun stored same => absurd same (unused stored)
  · exact fun stored _ same => absurd same.symm (unused stored)
  · exact fun stored _ same => absurd same.symm (unused stored)
  · exact fun stored same => absurd same.symm (unused stored)

theorem intent_moved (numbering : Numbering system)
    (stored : system.HasIntent old) (moves : IntentMoves system old new) : Owning (system.putIntent new) := by
  apply owning.intent_written
  · intro attempt attemptStored owner early
    obtain ⟨intent, intentStored, owned, late⟩ := owning.dispatched attemptStored
    have same := intentStored.unique stored (by rw [owned, owner, moves.same])
    subst same
    rcases moves.declared with kept | ⟨rule, listed, source, target⟩
    · exact late (kept ▸ early)
    · exact late (source ▸ intentRules_from_undispatched rule listed (target ▸ early))
  · intro attempt attemptStored opened owner
    have oldOwner := moves.same.symm.trans owner
    rcases owning.undecided attemptStored opened stored oldOwner with processing | given
    · exact processing_moved numbering attemptStored opened oldOwner processing moves
    · exact .inr (given.moved moves)
  · intro attempt attemptStored polled owner
    exact (owning.exhausted attemptStored polled stored (moves.same.symm.trans owner)).moved moves
  · intro attempt attemptStored owner
    exact (owning.decided attemptStored stored (moves.same.symm.trans owner)).moved numbering moves

theorem attempt_opened (opens : Opens service system attempt) : Owning (system.putAttempt attempt) := by
  have extended := extends_of_opens opens
  obtain ⟨owner, ownerStored, owned, processing⟩ := opens.processing
  constructor
  case keys => exact fun found => owning.keys found
  case dispatched =>
    intro other stored
    rcases hasAttempt_putAttempt.mp stored with rfl | ⟨stored, -⟩
    · exact ⟨owner, ownerStored, owned, by rw [processing]; decide⟩
    · exact owning.dispatched stored
  case undecided =>
    intro other intent stored opened intentStored intentOwner
    rcases hasAttempt_putAttempt.mp stored with rfl | ⟨stored, -⟩
    · have stillThere : system.HasIntent intent := intentStored
      rw [stillThere.unique ownerStored (intentOwner.trans owned.symm)]
      exact .inl processing
    · exact (owning.undecided stored opened intentStored intentOwner).imp_right extended.givenUp
  case exhausted =>
    intro other intent stored polled intentStored intentOwner
    rcases hasAttempt_putAttempt.mp stored with rfl | ⟨stored, -⟩
    · rw [opens.unpolled] at polled
      exact absurd polled (by decide)
    · exact extended.givenUp (owning.exhausted stored polled intentStored intentOwner)
  case decided =>
    intro other intent stored intentStored intentOwner
    rcases hasAttempt_putAttempt.mp stored with rfl | ⟨stored, -⟩
    · have stillThere : system.HasIntent intent := intentStored
      rw [stillThere.unique ownerStored (intentOwner.trans owned.symm)]
      exact .inl processing
    · exact extended.decided (owning.decided stored intentStored intentOwner)

theorem attempt_moved (stored : system.HasAttempt old)
    (moves : AttemptMoves system old new) : Owning (system.putAttempt new) := by
  have extended := extends_of_moves stored moves.same
  obtain ⟨-, sameOwner, -, -⟩ := identity_eq moves.same
  constructor
  case keys => exact fun found => owning.keys found
  case dispatched =>
    intro other inNext
    rcases hasAttempt_putAttempt.mp inNext with rfl | ⟨inSystem, -⟩
    · rw [sameOwner]
      exact owning.dispatched stored
    · exact owning.dispatched inSystem
  case undecided =>
    intro other intent inNext opened intentStored owner
    rcases hasAttempt_putAttempt.mp inNext with rfl | ⟨inSystem, -⟩
    · exact (owning.undecided stored (moves.from_open opened) intentStored (owner.trans sameOwner)).imp_right
        extended.givenUp
    · exact (owning.undecided inSystem opened intentStored owner).imp_right extended.givenUp
  case exhausted =>
    intro other intent inNext polled intentStored owner
    rcases hasAttempt_putAttempt.mp inNext with rfl | ⟨inSystem, -⟩
    · apply extended.givenUp
      have oldOwner := owner.trans sameOwner
      -- Polls are spent only on a timed-out attempt, and the write that spends them ends it.
      rcases moves.counted polled with already | ⟨timedOut, failed⟩
      · exact owning.exhausted stored already intentStored oldOwner
      · have opened : old.status ∈ openAttempts := by rw [timedOut]; decide
        rcases owning.undecided stored opened intentStored oldOwner with processing | given
        · exact absurd processing ((moves.ended timedOut failed).2 intent intentStored oldOwner)
        · exact given
    · exact extended.givenUp (owning.exhausted inSystem polled intentStored owner)
  case decided =>
    intro other intent inNext intentStored owner
    rcases hasAttempt_putAttempt.mp inNext with rfl | ⟨inSystem, -⟩
    · exact extended.decided (owning.decided stored intentStored (owner.trans sameOwner))
    · exact extended.decided (owning.decided inSystem intentStored owner)

theorem poll_ended (numbering : Numbering system)
    {before after : PaymentIntentRecord} (stored : system.HasAttempt old) (ownerStored : system.HasIntent before)
    (ends : PollEnds system old new before after) : Owning ((system.putAttempt new).putIntent after) := by
  have extended : Extends system ((system.putAttempt new).putIntent after) :=
    ⟨(extends_of_moves stored ends.same).attempts, id⟩
  obtain ⟨-, sameOwner, -, -⟩ := identity_eq ends.same
  have opened : old.status ∈ openAttempts := by rw [ends.timedOut]; decide
  have owned : after.paymentIntentId = new.paymentIntentId := by rw [ends.kept, ends.owner, sameOwner]
  constructor
  case keys =>
    exact Dict.forall_set owning.keys rfl
  case dispatched =>
    intro attempt inNext
    by_cases here : attempt.paymentIntentId = after.paymentIntentId
    · refine ⟨after, hasIntent_putIntent.mpr (.inl rfl), here.symm, ?_⟩
      rcases ends.ends with ⟨status, -⟩ | ⟨status, -⟩ <;> rw [status] <;> decide
    · rcases hasAttempt_putAttempt.mp inNext with rfl | ⟨inSystem, -⟩
      · exact absurd owned.symm here
      · obtain ⟨intent, intentStored, owner, status⟩ := owning.dispatched inSystem
        exact ⟨intent, hasIntent_putIntent.mpr (.inr ⟨intentStored, fun same => here (owner.symm.trans same)⟩),
          owner, status⟩
  case undecided =>
    intro attempt intent inNext stillOpen intentStored owner
    rcases hasAttempt_putAttempt.mp inNext with rfl | ⟨inSystem, different⟩
    · rw [ends.failed] at stillOpen
      exact absurd stillOpen (by decide)
    · rcases hasIntent_putIntent.mp intentStored with rfl | ⟨intentStored, -⟩
      · -- An intent has one open attempt, and it is the one that ended here.
        have alive : ∀ status : AttemptStatus, status ∈ openAttempts → status ≠ .authorizationFailed := by decide
        have same := numbering.alive_unique inSystem stored (by rw [← owner, owned, sameOwner])
          (alive _ stillOpen) (alive _ opened)
        rw [same] at different
        exact absurd (identity_eq ends.same).1.symm different
      · exact (owning.undecided inSystem stillOpen intentStored owner).imp_right extended.givenUp
  case exhausted =>
    intro attempt intent inNext polled intentStored owner
    rcases hasIntent_putIntent.mp intentStored with rfl | ⟨intentStored, different⟩
    · rcases hasAttempt_putAttempt.mp inNext with rfl | ⟨inSystem, -⟩
      · rcases ends.ends with ⟨-, count, -⟩ | ⟨status, -⟩
        · have few := numbering.open_polls stored opened
          omega
        · exact ⟨by rw [status]; decide, fun failed => absurd failed (by rw [status]; decide)⟩
      · have given := owning.exhausted inSystem polled ownerStored (ends.kept.symm.trans owner)
        have inside := given.1
        rw [ends.processing] at inside
        exact absurd inside (by decide)
    · rcases hasAttempt_putAttempt.mp inNext with rfl | ⟨inSystem, -⟩
      · exact absurd (owner.trans owned.symm) different
      · exact extended.givenUp (owning.exhausted inSystem polled intentStored owner)
  case decided =>
    intro attempt intent inNext intentStored owner
    rcases hasIntent_putIntent.mp intentStored with rfl | ⟨intentStored, different⟩
    · refine .inr (.inl ?_)
      rcases ends.ends with ⟨status, -⟩ | ⟨status, -⟩ <;> rw [status] <;> decide
    · rcases hasAttempt_putAttempt.mp inNext with rfl | ⟨inSystem, -⟩
      · exact absurd (owner.trans owned.symm) different
      · exact extended.decided (owning.decided inSystem intentStored owner)

/-- Nothing here reads more than the two tables and what the kernel was told. -/
theorem of_tables_eq (extended : Extends system next)
    (attempts : next.store.attempts = system.store.attempts) (intents : next.store.intents = system.store.intents) :
    Owning next := by
  have attempt : ∀ {attempt}, next.HasAttempt attempt → system.HasAttempt attempt := by
    intro attempt stored
    rwa [HasAttempt, PaymentStore.HasAttempt, ← attempts]
  have intent : ∀ {intent}, next.HasIntent intent → system.HasIntent intent := by
    intro intent stored
    rwa [HasIntent, PaymentStore.HasIntent, ← intents]
  constructor
  case keys =>
    intro id found inNext
    rw [intents] at inNext
    exact owning.keys inNext
  case dispatched =>
    intro other stored
    obtain ⟨owner, ownerStored, owned, status⟩ := owning.dispatched (attempt stored)
    refine ⟨owner, ?_, owned, status⟩
    rwa [HasIntent, PaymentStore.HasIntent, intents]
  case undecided =>
    intro other owner stored opened ownerStored owned
    exact (owning.undecided (attempt stored) opened (intent ownerStored) owned).imp_right extended.givenUp
  case exhausted =>
    intro other owner stored polled ownerStored owned
    exact extended.givenUp (owning.exhausted (attempt stored) polled (intent ownerStored) owned)
  case decided =>
    intro other owner stored ownerStored owned
    exact extended.decided (owning.decided (attempt stored) (intent ownerStored) owned)

end Owning

/-! References handed to the adapters -/

structure Handling (system : PaymentSystem) : Prop where
  known : ∀ {ref}, system.Handed ref ∨ system.Refused ref →
    ∃ attempt, system.HasAttempt attempt ∧ attempt.connectorRef = ref
  exclusive : ∀ {ref}, system.Handed ref → system.Refused ref → system.SubmitFailed ref

namespace Handling

variable {next : PaymentSystem}

theorem of_history_eq (handling : Handling system) (extended : Extends system next)
    (same : next.history = system.history) : Handling next := by
  have handed : ∀ {ref}, next.Handed ref → system.Handed ref := by
    intro ref happened
    unfold Handed at happened ⊢
    rwa [← same]
  have refused : ∀ {ref}, next.Refused ref → system.Refused ref := by
    intro ref happened
    unfold Refused at happened ⊢
    rwa [← same]
  constructor
  · intro ref happened
    obtain ⟨attempt, stored, sameRef⟩ := handling.known (happened.imp handed refused)
    obtain ⟨current, inNext, identity⟩ := extended.attempts stored
    exact ⟨current, inNext, (identity_eq identity).2.2.2.trans sameRef⟩
  · intro ref wasHanded wasRefused
    exact extended.submitFailed (handling.exclusive (handed wasHanded) (refused wasRefused))

theorem handed_append
    (handed : ({ system with history := system.history ++ [observation] } : PaymentSystem).Handed ref) :
    system.Handed ref ∨ ∃ request : Request, observation = .invoked .submit request ∧ request.connectorRef = ref := by
  obtain ⟨request, member, sameRef⟩ := handed
  rcases mem_append.mp member with earlier | now
  · exact .inl ⟨request, earlier, sameRef⟩
  · exact .inr ⟨request, (mem_singleton.mp now).symm, sameRef⟩

theorem refused_append
    (refused : ({ system with history := system.history ++ [observation] } : PaymentSystem).Refused ref) :
    system.Refused ref ∨ ∃ refusal : Refusal, observation = .refused .submit ref refusal := by
  obtain ⟨refusal, member⟩ := refused
  rcases mem_append.mp member with earlier | now
  · exact .inl ⟨refusal, earlier⟩
  · exact .inr ⟨refusal, (mem_singleton.mp now).symm⟩

theorem observed (handling : Handling system) (sound : observation.Sound system) :
    Handling { system with history := system.history ++ [observation] } := by
  have extended : Extends system { system with history := system.history ++ [observation] } :=
    ⟨fun stored => ⟨_, stored, rfl⟩, fun member => mem_append_left _ member⟩
  constructor
  · intro ref happened
    rcases happened with handed | refused
    · rcases handed_append handed with earlier | ⟨request, rfl, rfl⟩
      · exact handling.known (.inl earlier)
      · exact sound.1
    · rcases refused_append refused with earlier | ⟨refusal, rfl⟩
      · exact handling.known (.inr earlier)
      · exact sound.1
  · intro ref handed refused
    apply extended.submitFailed
    rcases handed_append handed with earlier | ⟨request, rfl, rfl⟩ <;>
      rcases refused_append refused with alsoEarlier | ⟨refusal, now⟩
    · exact handling.exclusive earlier alsoEarlier
    · subst now
      exact sound.2 earlier
    · exact sound.2 alsoEarlier
    · cases now

end Handling

/-- What holds after every write. -/
structure Coherent (system : PaymentSystem) : Prop where
  numbering : Numbering system
  owning : Owning system
  handling : Handling system
  calls : ∀ call ∈ system.calls, call.Coherent system
  refundKeys : ∀ {id refund}, system.store.refunds.get? id = some refund → refund.refundId = id

namespace Coherent

variable {next : PaymentSystem}

theorem store_write (coherent : Coherent system) (write : StoreWrite service system next) : Coherent next := by
  have extended := write.extends
  have kept : next.history = system.history ∧ next.calls = system.calls := by cases write <;> exact ⟨rfl, rfl⟩
  have handling := coherent.handling.of_history_eq extended kept.1
  have calls : ∀ call ∈ next.calls, call.Coherent next := by
    intro call member
    exact extended.call (coherent.calls call (kept.2 ▸ member))
  obtain ⟨numbering, owning, -, -, refundKeys⟩ := coherent
  cases write with
  | ports =>
    exact ⟨numbering.of_attempts_eq extended rfl, owning.of_tables_eq extended rfl rfl, handling, calls, refundKeys⟩
  | refundOpened | refundMoved =>
    exact ⟨numbering.of_attempts_eq extended rfl, owning.of_tables_eq extended rfl rfl, handling, calls,
      Dict.forall_set refundKeys rfl⟩
  | intentCreated fresh =>
    exact ⟨numbering.of_attempts_eq extended rfl, owning.intent_created fresh, handling, calls, refundKeys⟩
  | intentMoved stored moves =>
    exact ⟨numbering.of_attempts_eq extended rfl, owning.intent_moved numbering stored moves, handling, calls,
      refundKeys⟩
  | attemptOpened opens => exact ⟨numbering.opened opens, owning.attempt_opened opens, handling, calls, refundKeys⟩
  | attemptMoved stored moves =>
    exact ⟨numbering.attempt_moved stored moves, owning.attempt_moved stored moves, handling, calls, refundKeys⟩
  | pollEnded stored owner ends =>
    have moved := numbering.moved stored ends.same (fun _ => ends.failed) (fun _ => ends.failed)
      (fun _ => .inl ends.failed)
    exact ⟨moved.of_attempts_eq ⟨fun stored => ⟨_, stored, rfl⟩, id⟩ rfl,
      owning.poll_ended numbering stored owner ends, handling, calls, refundKeys⟩

theorem write (coherent : Coherent system) (write : Write service regime system next) : Coherent next := by
  have extended := write.extends
  cases write with
  | store write => exact coherent.store_write write
  | runner =>
    exact ⟨coherent.numbering.of_attempts_eq extended rfl, coherent.owning.of_tables_eq extended rfl rfl,
      coherent.handling.of_history_eq extended rfl, fun call member => extended.call (coherent.calls call member),
      coherent.refundKeys⟩
  | observed _ sound =>
    exact ⟨coherent.numbering.of_attempts_eq extended rfl, coherent.owning.of_tables_eq extended rfl rfl,
      coherent.handling.observed sound, fun call member => extended.call (coherent.calls call member), coherent.refundKeys⟩
  | suspended suspended =>
    refine ⟨coherent.numbering.of_attempts_eq extended rfl, coherent.owning.of_tables_eq extended rfl rfl,
      coherent.handling.of_history_eq extended rfl, ?_, coherent.refundKeys⟩
    intro call member
    rcases mem_append.mp member with earlier | now
    · exact extended.call (coherent.calls call earlier)
    · exact mem_singleton.mp now ▸ extended.call suspended
  | resumed =>
    exact ⟨coherent.numbering.of_attempts_eq extended rfl, coherent.owning.of_tables_eq extended rfl rfl,
      coherent.handling.of_history_eq extended rfl,
      fun call member => extended.call (coherent.calls call (mem_of_mem_eraseIdx member)), coherent.refundKeys⟩

theorem writes (coherent : Coherent system) (writes : Relation.ReflTransGen (Write service regime) system next) :
    Coherent next := by
  induction writes with
  | refl => exact coherent
  | tail _ last ih => exact ih.write last

end Coherent

theorem coherent_start (runner : ConnectorRunner) : Coherent (start runner) := by
  have absent : ∀ {attempt} {holds : Prop}, (start runner).HasAttempt attempt → holds := fun stored => by cases stored
  have silent : ∀ {observation}, observation ∉ (start runner).history := not_mem_nil
  constructor
  case numbering =>
    refine ⟨⟨?_, absent, absent⟩, absent, absent, absent, absent⟩
    intro id attempt found
    cases found
  case owning =>
    refine ⟨?_, absent, absent, absent, absent⟩
    intro id intent found
    cases found
  case handling =>
    constructor
    · intro ref happened
      rcases happened with ⟨_, member, _⟩ | ⟨_, member⟩ <;> exact absurd member silent
    · intro ref handed
      obtain ⟨_, member, _⟩ := handed
      exact absurd member silent
  case calls =>
    intro call member
    cases member
  case refundKeys =>
    intro id refund found
    cases found

theorem StoreWrite.origin (write : StoreWrite service system next) (stored : next.HasAttempt attempt) :
    (∃ earlier, system.HasAttempt earlier ∧ attempt.identity = earlier.identity) ∨ Opens service system attempt := by
  cases write with
  | ports | intentCreated | intentMoved | refundOpened | refundMoved => exact .inl ⟨attempt, stored, rfl⟩
  | attemptOpened opens =>
    rcases hasAttempt_putAttempt.mp stored with rfl | ⟨stored, -⟩
    · exact .inr opens
    · exact .inl ⟨attempt, stored, rfl⟩
  | attemptMoved old moves =>
    rcases hasAttempt_putAttempt.mp stored with rfl | ⟨stored, -⟩
    · exact .inl ⟨_, old, moves.same⟩
    · exact .inl ⟨attempt, stored, rfl⟩
  | pollEnded old _ ends =>
    rcases hasAttempt_putAttempt.mp stored with rfl | ⟨stored, -⟩
    · exact .inl ⟨_, old, ends.same⟩
    · exact .inl ⟨attempt, stored, rfl⟩

/-! Runs that stay within a regime -/

/-- Everything an observer saw is allowed by the regime. -/
def Lawful (regime : Regime) (system : PaymentSystem) : Prop :=
  ∀ observation ∈ system.history, regime.Allows system observation

namespace Lawful

variable {next : PaymentSystem}

/-- What the regime allows of a reference, it allows as long as no other attempt takes the reference. -/
theorem allows_of_attempts {regime : Regime} {system : PaymentSystem} (allowed : regime.Allows system observation)
    (extended : Extends system next)
    (attempts : ∀ {ref refusal}, observation = .refused .submit ref refusal → ∀ attempt, next.HasAttempt attempt →
      attempt.connectorRef = ref → ∃ earlier, system.HasAttempt earlier ∧ attempt.identity = earlier.identity) :
    regime.Allows next observation := by
  cases observation with
  | replayed | invoked | calledBack => exact allowed
  | answered purpose => cases purpose <;> exact allowed
  | refused purpose =>
    cases purpose with
    | poll | reversal | refund => exact allowed
    | submit =>
      intro closed isOpen
      refine (allowed closed isOpen).imp extended.submitFailed fun later attempt stored sameRef => ?_
      obtain ⟨earlier, earlierStored, same⟩ := attempts rfl attempt stored sameRef
      obtain ⟨-, -, number, keptRef⟩ := identity_eq same
      rw [number]
      exact later earlier earlierStored (keptRef.symm.trans sameRef)

variable (lawful : Lawful regime system) (coherent : Coherent system)
include lawful coherent

theorem store_write (write : StoreWrite service system next) : Lawful regime next := by
  have kept : next.history = system.history := by cases write <;> rfl
  intro observation member
  rw [kept] at member
  refine allows_of_attempts (lawful observation member) write.extends ?_
  intro ref refusal refused attempt stored sameRef
  subst refused
  rcases write.origin stored with known | opens
  · exact known
  · -- The reference was refused before, so an attempt had it already.
    obtain ⟨holder, holderStored, holds⟩ := coherent.handling.known (.inr ⟨refusal, member⟩)
    exact absurd (holds.trans sameRef.symm) (opens.freshRef holder holderStored)

theorem write (write : Write service regime system next) : Lawful regime next := by
  have extended := write.extends
  cases write with
  | store write => exact lawful.store_write coherent write
  | runner | suspended | resumed => exact lawful
  | observed allowed =>
    intro other member
    rcases mem_append.mp member with earlier | now
    · exact allows_of_attempts (lawful other earlier) extended fun _ attempt stored _ => ⟨attempt, stored, rfl⟩
    · rw [mem_singleton.mp now]
      exact allows_of_attempts allowed extended fun _ attempt stored _ => ⟨attempt, stored, rfl⟩

theorem writes (writes : Relation.ReflTransGen (Write service regime) system next) : Lawful regime next := by
  induction writes with
  | refl => exact lawful
  | tail before last ih => exact ih.write (coherent.writes before) last

end Lawful

end BdPay.Kernel
