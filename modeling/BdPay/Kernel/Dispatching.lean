import BdPay.Kernel.Charging

namespace BdPay.Kernel

open Data Effect Connectors PaymentSystem PaymentOrchestrator Books Goes AttemptTerms

/-! Failures and the attempts they open. -/

variable {service : PaymentOrchestrator} {licence : Licence} {moment : Moment} {before : PaymentSystem}
  {intent : PaymentIntentRecord} {attempt : PaymentAttemptRecord} {books : Books}

/-- An intent that may be sent under a new attempt: all its attempts have failed. -/
structure Dispatchable (books : Books) (intent : PaymentIntentRecord) (number : Nat) : Prop where
  row : ∃ current, books.HasIntent current ∧ current.paymentIntentId = intent.paymentIntentId ∧
    current.status = .processing ∧ intent.terms = current.terms ∧ intent.method = current.method
  processing : intent.status = .processing
  spent : ∀ other, books.HasAttempt other → other.paymentIntentId = intent.paymentIntentId →
    other.attemptNumber < number ∧ other.status = .authorizationFailed

/-- What `_dispatch` is given to go on with after a failure. -/
def Redispatches (service : PaymentOrchestrator) (licence : Licence)
    (redispatch : PaymentIntentRecord → Nat → KernelM Progress) : Prop :=
  ∀ (state : PaymentSystem) (intent : PaymentIntentRecord) (number : Nat), state.books.Ordered →
    Dispatchable state.books intent number →
      Proceeds service licence (redispatch intent number) state

theorem yields_emitFailed (idle : Idles before returns) :
    Yields (service.emitFailed moment intent failureCode) before returns :=
  yields_emit idle

section

variable (ordered : before.books.Ordered) (hand : InHand before.books intent attempt)

include ordered hand

theorem yields_applyRejected : Proceeds service licence (service.applyRejected moment intent attempt) before := by
  simp only [applyRejected, yields_bind]
  refine yields_advanceAttempt fun target old failed first found stored same terms reached tried started => ?_
  obtain ⟨waiting, rfl⟩ := resolved_move found .authorizationPending .authorizationFailed (by decide)
  refine yields_emitAttempt fun second quiet kept => ?_
  refine yields_followAttempt service licence ordered hand stored same terms (.inl waiting) (.inl reached)
    (quiet.trans tried) (kept.trans started) (by decide) fun _ _ goes => ?_
  exact yields_emitFailed fun after books calls => goes.trans (idle books calls)

theorem yields_applyTimedOut : Proceeds service licence (applyTimedOut moment intent attempt) before := by
  simp only [applyTimedOut, yields_bind]
  refine yields_advanceAttempt fun target old silent first found stored same terms reached tried started => ?_
  obtain ⟨waiting, rfl⟩ := resolved_move found .authorizationPending .timedOut (by decide)
  exact yields_followAttempt service licence ordered hand stored same terms (.inl waiting) (.inr (.inl reached))
    tried started (by decide) fun _ _ goes => yields_pure.mpr goes

end

theorem Books.Ordered.all_failed (ordered : books.Ordered)
    (stored : books.HasAttempt old) (waiting : old.status = .authorizationPending) (terms : failed.terms = old.terms)
    (reached : failed.status = .authorizationFailed)
    (inside : (books.putAttempt failed).HasAttempt other) (owner : other.paymentIntentId = old.paymentIntentId) :
    other.attemptNumber < old.attemptNumber + 1 ∧ other.status = .authorizationFailed := by
  obtain ⟨id, -, number, -⟩ := PaymentAttemptRecord.terms_eq terms
  rcases hasAttempt_putAttempt.mp inside with rfl | ⟨was, apart⟩
  · exact ⟨by omega, reached⟩
  · rcases Nat.lt_trichotomy other.attemptNumber old.attemptNumber with below | equal | above
    · exact ⟨by omega, ordered.passed was stored owner below⟩
    · exact absurd ((ordered.numbers was stored owner equal).trans id.symm) apart
    · have failed := ordered.passed stored was owner.symm above
      rw [waiting] at failed
      cases failed

variable {new : PaymentIntentRecord} {result : ConnectorResult} {number : Nat} {prepared : Prepared}

section

variable (again : Redispatches service licence redispatch) (ordered : before.books.Ordered)
  (hand : InHand before.books intent attempt)
include again ordered hand

theorem yields_applyFailed : Proceeds service licence (service.applyFailed moment redispatch intent attempt) before := by
  simp only [applyFailed, yields_bind]
  refine yields_advanceAttempt fun target old failed first found stored same terms reached tried started => ?_
  obtain ⟨waiting, rfl⟩ := resolved_move found .authorizationPending .authorizationFailed (by decide)
  rw [yields_ite]
  constructor
  · intro retryable
    rw [yields_bind]
    refine yields_advanceIntent fun target current new second found owned status sameTerms method stays moved last => ?_
    obtain ⟨processing, rfl⟩ := resolved_move found .processing .processing (by decide)
    rw [tried] at owned moved
    have rewrites : Rewrites before.books intent attempt old failed current new :=
      ⟨stored, same, terms, owned, status, processing, sameTerms, method⟩
    have ended : Deed service licence before.books second.books := by
      rw [moved]
      exact rewrites.ended ordered hand (.inl waiting) (.inl reached) (.inl stays)
    refine (deed ended (last.trans started)).follow (again second new _ (ended.ordered ordered) ?_)
    have same_old := rewrites.attempt_same hand
    have owner : new.paymentIntentId = old.paymentIntentId :=
      (congrArg IntentTerms.paymentIntentId (rewrites.sameIntent hand).terms).trans (rewrites.owner ordered hand)
    obtain ⟨-, -, number, -⟩ := PaymentAttemptRecord.terms_eq same_old
    rw [moved]
    refine ⟨⟨new, hasIntent_putIntent.mpr (.inl rfl), rfl, stays, rfl, rfl⟩, stays, fun other inside owned => ?_⟩
    rw [number]
    exact ordered.all_failed (ordered.hasAttempt stored) (same.trans waiting) same_old reached inside
      (owned.trans owner)
  · intro _
    rw [yields_bind]
    refine yields_followAttempt service licence ordered hand stored same terms (.inl waiting) (.inl reached)
      tried started (by decide) fun _ _ goes => ?_
    rw [yields_bind]
    exact yields_emitFailed fun after books calls => yields_pure.mpr (goes.trans (idle books calls))

theorem yields_applyConnectorResult :
    Proceeds service licence (service.applyConnectorResult moment redispatch intent attempt result) before := by
  -- The result is written into the attempt first; what it is about stays.
  have resulted : InHand before.books intent (withResult moment attempt result) :=
    ⟨hand.owner, hand.attemptTerms, hand.intentTerms⟩
  unfold applyConnectorResult
  cases result.status with
  | success =>
    exact yields_bind.mpr ((yields_applySuccess ordered resulted).mono fun _ after goes => yields_pure.mpr goes)
  | pending =>
    refine yields_bind.mpr (yields_updateAttempt fun current after stored status books calls => yields_pure.mpr ?_)
    refine deed ?_ calls
    rw [books]
    exact .attemptKept current _ (ordered.hasAttempt stored) (resulted.attemptTerms current stored status) status.symm
  | rejected =>
    exact yields_bind.mpr ((yields_applyRejected ordered resulted).mono fun _ after goes => yields_pure.mpr goes)
  | failed => exact yields_applyFailed again ordered resulted
  | timedOut =>
    exact yields_bind.mpr ((yields_applyTimedOut ordered resulted).mono fun _ after goes => yields_pure.mpr goes)
  | reversed => exact yields_throw.mpr trivial

end

/-! From the dispatch to the runner. -/

section

variable (dispatchable : Dispatchable books intent number) (terms : new.terms = intent.terms)

include dispatchable terms

theorem Dispatchable.of_written (status : new.status = intent.status) :
    Dispatchable (books.putIntent new) new number where
  row := ⟨new, hasIntent_putIntent.mpr (.inl rfl), rfl, status.trans dispatchable.processing, rfl, rfl⟩
  processing := status.trans dispatchable.processing
  spent := by
    intro other inside owner
    exact dispatchable.spent other inside (owner.trans (congrArg IntentTerms.paymentIntentId terms))

theorem Dispatchable.rewritten (method : new.method = intent.method)
    (status : new.status = intent.status) : Deed service licence books (books.putIntent new) := by
  obtain ⟨current, stored, -, processing, sameTerms, sameMethod⟩ := dispatchable.row
  have kept : new.status = current.status := status.trans (dispatchable.processing.trans processing.symm)
  refine .moved current new stored ⟨terms.trans sameTerms, fun _ => method.trans sameMethod⟩ (.inl kept)
    fun _ reversing => ?_
  rw [kept, processing] at reversing
  cases reversing

end

theorem yields_insertAttempt
    (held : before.books.HasIntent current) (owner : record.paymentIntentId = current.paymentIntentId)
    (inserted : ∀ latest after, before.books.store.attempts.get? record.attemptId = none →
      latest.terms = current.terms → latest.method = current.method → latest.status = current.status →
      after.books = (before.books.putAttempt record).putIntent latest → after.calls = before.calls → returns () after) :
    Yields (writeStore (·.insertAttempt record)) before returns := by
  refine yields_writeStore.mpr fun store written => ?_
  unfold PaymentStore.insertAttempt at written
  split_ifs at written with known shared
  have found : before.store.intents.get? record.paymentIntentId = some current := by
    rw [owner]
    exact held
  simp only [found] at written
  cases written
  have fresh : before.store.attempts.get? record.attemptId = none :=
    Dict.contains_eq_false_iff.mp (Bool.eq_false_iff.mpr known)
  refine inserted { current with latestAttemptId := some record.attemptId } _ fresh rfl rfl rfl ?_ rfl
  simp only [PaymentSystem.books, owner]
  rfl

variable {number : Nat}

section

variable (dispatchable : Dispatchable before.books intent number)

include dispatchable

theorem yields_openAttempt {connectorId : String} :
    Yields (service.openAttempt moment intent number connectorId) before fun prepared after =>
      Goes service licence before after ∧ Snapped after.books prepared.intent prepared.attempt := by
  obtain ⟨current, held, id, processing, terms, method⟩ := dispatchable.row
  simp only [openAttempt, yields_bind, yields_attempt]
  intro attemptId _ connectorRef _ instructionId _
  split
  · rename_i numbered
    rw [yields_bind]
    refine yields_insertAttempt held id.symm
      fun latest first fresh latestTerms latestMethod latestStatus written started => ?_
    rw [yields_bind]
    refine yields_advanceAttempt fun target opened submitted second found stored same sameTerms reached tried kept =>
      yields_pure.mpr ?_
    obtain ⟨-, rfl⟩ := resolved_move found .started .authorizationPending (by decide)
    have sameId : submitted.attemptId = attemptId := congrArg AttemptTerms.attemptId sameTerms
    have owner : submitted.paymentIntentId = intent.paymentIntentId := congrArg AttemptTerms.paymentIntentId sameTerms
    have numberedSame : submitted.attemptNumber = number := congrArg AttemptTerms.attemptNumber sameTerms
    have amount : submitted.amountMinor = intent.amountMinor := congrArg AttemptTerms.amountMinor sameTerms
    have books : second.books = (before.books.putAttempt submitted).putIntent latest := by
      rw [tried, written]
      change ((before.books.putAttempt _).putAttempt submitted).putIntent latest = _
      rw [putAttempt_putAttempt]
      exact sameId
    have deed : Deed service licence before.books second.books := by
      rw [books]
      refine .opened current latest submitted held ⟨latestTerms, fun _ => latestMethod⟩ processing
        (latestStatus.trans processing) (sameId ▸ fresh) reached (owner.trans id.symm) ?_ fun other inside owned => ?_
      · exact amount.trans (congrArg IntentTerms.amountMinor terms)
      · rw [numberedSame]
        exact dispatchable.spent other inside (owned.trans id)
    refine ⟨.deed deed (kept.trans started), ?_, ?_, owner, reached, dispatchable.processing⟩
    · rw [books]
      have latestProcessing : latest.status = .processing := latestStatus.trans processing
      refine ⟨latest, hasIntent_putIntent.mpr (.inl rfl), ?_, ?_, fun _ => ?_⟩
      · exact (congrArg IntentTerms.paymentIntentId latestTerms).trans id
      · rw [latestProcessing]
        decide
      · exact ⟨terms.trans latestTerms.symm, method.trans latestMethod.symm⟩
    · rw [books]
      exact ⟨submitted, hasAttempt_putAttempt.mpr (.inl rfl), rfl, fun _ => rfl⟩
  · exact yields_throw.mpr trivial

theorem yields_deferIntent : Proceeds service licence (service.deferIntent moment intent) before := by
  simp only [deferIntent, yields_bind]
  refine yields_updateIntent fun current first stored status books calls => ?_
  refine yields_emit fun after quiet kept => deed ?_ (kept.trans calls)
  rw [quiet, books]
  exact dispatchable.rewritten rfl rfl rfl

theorem yields_clearDeferral : Yields (clearDeferral moment intent) before fun cleared after =>
      Goes service licence before after ∧ Dispatchable after.books cleared number := by
  rw [clearDeferral, yields_ite]
  refine ⟨fun _ => ?_, fun _ => yields_pure.mpr ⟨idle rfl rfl, dispatchable⟩⟩
  rw [yields_bind]
  refine yields_updateIntent fun current after stored status books calls => yields_pure.mpr ⟨deed ?_ calls, ?_⟩
  · rw [books]
    exact dispatchable.rewritten rfl rfl rfl
  · rw [books]
    exact dispatchable.of_written rfl rfl

theorem yields_prepare :
    Yields (service.prepare moment intent number) before fun passed after => Goes service licence before after ∧
      ∀ prepared, passed = some prepared → Snapped after.books prepared.intent prepared.attempt := by
  simp only [prepare, yields_bind, yields_get, yields_attempt]
  refine yields_requirePspLicense fun route _ => ?_
  cases route with
  | storeAndForward =>
    refine yields_bind.mpr ((yields_deferIntent dispatchable).mono fun _ after goes => yields_pure.mpr ⟨goes, ?_⟩)
    intro prepared absent
    cases absent
  | connector connectorId =>
    have cleared := @yields_clearDeferral service licence moment before intent number dispatchable
    refine yields_bind.mpr (cleared.mono fun cleared first clears => ?_)
    have opened := @yields_openAttempt service licence moment first cleared number clears.2 connectorId
    refine yields_bind.mpr (opened.mono fun prepared after opens => yields_pure.mpr ⟨clears.1.trans opens.1, ?_⟩)
    intro _ same
    obtain rfl := Option.some.inj same
    exact opens.2

end

section

variable (again : Redispatches service licence redispatch) (ordered : before.books.Ordered)
  (snapped : Snapped before.books prepared.intent prepared.attempt)
include again ordered snapped

theorem yields_submitSettled :
    Proceeds service licence (service.submitSettled moment redispatch prepared budget attempts result) before := by
  simp only [submitSettled, yields_ite, yields_bind]
  refine ⟨fun _ => ?_, fun _ => yields_applyConnectorResult again ordered snapped.inHand⟩
  exact yields_suspend fun after books calls => yields_pure.mpr ((idle rfl rfl).suspended books calls snapped)

theorem yields_submitBegun :
    Proceeds service licence (service.submitBegun moment redispatch prepared budget attempts begun) before := by
  have observed : ∀ {result : ConnectorResult} (observation : Observation),
      Yields (observe observation) before fun _ middle =>
      Yields (service.submitSettled moment redispatch prepared budget attempts result) middle fun _ =>
        Goes service licence before := by
    intro result observation
    refine yields_observe fun middle books calls => ?_
    rw [← books] at ordered snapped
    exact (idle books calls).follow (yields_submitSettled again ordered snapped)
  cases begun with
  | replayed => exact yields_bind.mpr (observed _)
  | admission admission =>
    cases admission with
    | refused => exact yields_bind.mpr (observed _)
    | invoked =>
      simp only [submitBegun, yields_bind]
      refine yields_observe fun first books kept => ?_
      rw [← books] at snapped
      exact yields_suspend fun after same calls =>
        yields_pure.mpr ((idle books kept).suspended same calls snapped)

end

theorem redispatches_dispatch (left : Nat) : Redispatches service licence (service.dispatch moment left) := by
  induction left with
  | zero => exact fun _ _ _ _ _ => yields_throw.mpr trivial
  | succ _ ih =>
    intro state intent number ordered dispatchable
    simp only [dispatch, yields_bind]
    have prepared := @yields_prepare service licence moment state intent number dispatchable
    refine prepared.mono fun passed first prepares => ?_
    cases passed with
    | none => exact yields_pure.mpr prepares.1
    | some prepared =>
      refine yields_bind.mpr (yields_onRunner fun begun _ second _ books calls => ?_)
      have snapped := prepares.2 prepared rfl
      have later := deeds_ordered ordered prepares.1.deeds
      rw [← books] at snapped later
      exact (prepares.1.trans (idle books calls)).follow (yields_submitBegun ih later snapped)

variable {prepared : Prepared}

section

variable (ordered : before.books.Ordered) (snapped : Snapped before.books prepared.intent prepared.attempt)

include ordered snapped

theorem yields_submitAnswered {registration : ConnectorRegistration} {outcome : AdapterOutcome} :
    Proceeds service licence (service.submitAnswered moment prepared registration budget attempts outcome) before := by
  simp only [submitAnswered, yields_bind]
  refine yields_observe fun first seen kept => yields_onRunner fun result _ second _ books calls => ?_
  have same := books.trans seen
  rw [← same] at ordered snapped
  exact (idle same (calls.trans kept)).follow (yields_submitSettled (redispatches_dispatch _) ordered snapped)

theorem yields_submitRetried :
    Proceeds service licence (service.submitRetried moment prepared budget attempts) before := by
  simp only [submitRetried, yields_bind]
  refine yields_onRunner fun begun _ first _ books calls => ?_
  rw [← books] at ordered snapped
  exact (idle books calls).follow (yields_submitBegun (redispatches_dispatch _) ordered snapped)

end

end BdPay.Kernel
