import BdPay.Kernel.Performing

namespace BdPay.Kernel

open Data Effect PaymentSystem PaymentOrchestrator Books IntentTerms

/-! What the results of a submit do: charge, hold, fail, or open the next attempt. -/

variable {service : PaymentOrchestrator} {licence : Licence} {before : PaymentSystem} {intent : PaymentIntentRecord}
  {attempt : PaymentAttemptRecord}

namespace Books

variable {books : Books} {id : String}

theorem Ordered.hasIntent (ordered : books.Ordered)
    (found : books.store.intents.get? id = some intent) : books.HasIntent intent :=
  Dict.row_of_key found (ordered.intentKeys found)

theorem Ordered.hasAttempt (ordered : books.Ordered)
    (found : books.store.attempts.get? id = some attempt) : books.HasAttempt attempt :=
  Dict.row_of_key found (ordered.keys found)

theorem Ordered.hasRefund (ordered : books.Ordered)
    (found : books.store.refunds.get? id = some refund) : books.HasRefund refund :=
  Dict.row_of_key found (ordered.refundKeys found)

theorem putAttempt_putAttempt (same : second.attemptId = first.attemptId) :
    (books.putAttempt first).putAttempt second = books.putAttempt second := by
  simp only [putAttempt, PaymentStore.putAttempt, same, Dict.set_set]

theorem putIntent_putIntent (same : second.paymentIntentId = first.paymentIntentId) :
    (books.putIntent first).putIntent second = books.putIntent second := by
  simp only [putIntent, PaymentStore.putIntent, same, Dict.set_set]

end Books

/-- The rows an operation has in hand are those of the books, unless these have moved since. -/
structure InHand (books : Books) (intent : PaymentIntentRecord) (attempt : PaymentAttemptRecord) : Prop where
  owner : attempt.paymentIntentId = intent.paymentIntentId
  attemptTerms : ∀ current, books.store.attempts.get? attempt.attemptId = some current → current.status = attempt.status →
    attempt.terms = current.terms
  intentTerms : ∀ current, books.store.intents.get? intent.paymentIntentId = some current → current.status = .processing →
    intent.terms = current.terms ∧ intent.method = current.method

theorem InHand.of_stored {books : Books} (tried : books.HasAttempt attempt) (stored : books.HasIntent intent)
    (owner : attempt.paymentIntentId = intent.paymentIntentId) : InHand books intent attempt where
  owner := owner
  attemptTerms := by
    intro current found _
    rw [Option.some.inj (found.symm.trans tried)]
  intentTerms := by
    intro current found _
    rw [Option.some.inj (found.symm.trans stored)]
    exact ⟨rfl, rfl⟩

theorem Snapped.inHand {books : Books} (snapped : Snapped books intent attempt) : InHand books intent attempt where
  owner := snapped.owner
  attemptTerms := by
    intro current found status
    obtain ⟨row, stored, same, kept⟩ := snapped.attemptRow
    rw [HasAttempt, PaymentStore.HasAttempt, same, found] at stored
    obtain rfl := Option.some.inj stored
    exact kept (status.trans snapped.waiting)
  intentTerms := by
    intro current found processing
    obtain ⟨row, stored, same, -, kept⟩ := snapped.intentRow
    rw [HasIntent, PaymentStore.HasIntent, same, found] at stored
    obtain rfl := Option.some.inj stored
    exact kept processing

/-- The new rows of an attempt and its intent, over the old ones that an operation found. -/
structure Rewrites (books : Books) (intent : PaymentIntentRecord) (attempt : PaymentAttemptRecord)
    (old new : PaymentAttemptRecord) (current after : PaymentIntentRecord) : Prop where
  stored : books.store.attempts.get? attempt.attemptId = some old
  status : old.status = attempt.status
  terms : new.terms = attempt.terms
  owned : books.store.intents.get? intent.paymentIntentId = some current
  intentStatus : current.status = intent.status
  processing : intent.status = .processing
  intentTerms : after.terms = intent.terms
  method : after.method = intent.method

namespace Rewrites

variable {books : Books} {current after : PaymentIntentRecord}

variable (rewrites : Rewrites books intent attempt old new current after)
include rewrites

theorem attempt_same (hand : InHand books intent attempt) : new.terms = old.terms :=
  rewrites.terms.trans (hand.attemptTerms old rewrites.stored rewrites.status)

theorem now_processing : current.status = .processing :=
  rewrites.intentStatus.trans rewrites.processing

theorem intent_same (hand : InHand books intent attempt) :
    intent.terms = current.terms ∧ intent.method = current.method :=
  hand.intentTerms current rewrites.owned rewrites.now_processing

theorem sameIntent (hand : InHand books intent attempt) :
    SameIntent current after where
  terms := rewrites.intentTerms.trans (rewrites.intent_same hand).1
  method := fun _ => rewrites.method.trans (rewrites.intent_same hand).2

theorem owner (ordered : books.Ordered) (hand : InHand books intent attempt) :
    current.paymentIntentId = old.paymentIntentId := by
  have kept := congrArg AttemptTerms.paymentIntentId (hand.attemptTerms old rewrites.stored rewrites.status)
  exact (ordered.intentKeys rewrites.owned).trans (hand.owner.symm.trans kept)

theorem ended (ordered : books.Ordered)
    (hand : InHand books intent attempt) (waiting : attempt.status = .authorizationPending ∨ attempt.status = .timedOut)
    (ended : new.status = .authorizationFailed ∨ new.status = .timedOut ∨ new.status = .reversed)
    (status : after.status = .processing ∨ after.status = .failed ∨ after.status = .reversalInitiated) :
    Deed service licence books ((books.putAttempt new).putIntent after) := by
  refine .attemptEnded old new current after (ordered.hasAttempt rewrites.stored) (rewrites.attempt_same hand) ?_ ended
    (ordered.hasIntent rewrites.owned) (rewrites.owner ordered hand) (rewrites.sameIntent hand) rewrites.now_processing status
  rw [rewrites.status]
  exact waiting

end Rewrites

variable (service licence) {returns : PaymentIntentRecord → PaymentSystem → Prop} in
/-- The intent of an attempt that ended moves after it. -/
theorem yields_followAttempt (ordered : before.books.Ordered) (hand : InHand before.books intent attempt)
    (stored : before.books.store.attempts.get? attempt.attemptId = some old) (same : old.status = attempt.status)
    (terms : new.terms = attempt.terms) (waiting : attempt.status = .authorizationPending ∨ attempt.status = .timedOut)
    (ended : new.status = .authorizationFailed ∨ new.status = .timedOut ∨ new.status = .reversed)
    (tried : middle.books = before.books.putAttempt new) (started : middle.calls = before.calls)
    (moves : ∀ rule ∈ intentTable.rules, rule.trigger = trigger → rule.fromState = .processing ∧
      (rule.toState = .processing ∨ rule.toState = .failed ∨ rule.toState = .reversalInitiated))
    (goes : ∀ record after, Goes service licence before after → returns record after) :
    Yields (advanceIntent moment intent trigger) middle returns := by
  refine yields_advanceIntent fun target current record after found owned status sameTerms method reached moved last => ?_
  obtain ⟨processing, ends⟩ := resolved_rule found
    (fun old new => old = .processing ∧ (new = .processing ∨ new = .failed ∨ new = .reversalInitiated)) moves
  rw [tried] at owned moved
  have rewrites : Rewrites before.books intent attempt old new current record :=
    ⟨stored, same, terms, owned, status, processing, sameTerms, method⟩
  refine goes record after (.deed ?_ (last.trans started))
  rw [moved]
  exact rewrites.ended ordered hand waiting ended (reached ▸ ends)

/-! Charges and holds. -/

theorem yields_emitSucceeded (idle : Idles before returns) :
    Yields (service.emitSucceeded moment intent attempt feeMinor feeRuleId) before returns := by
  rw [emitSucceeded, yields_bind]
  refine yields_emitAttempt fun middle same kept => yields_emit fun after books calls => ?_
  exact idle after (books.trans same) (calls.trans kept)

theorem yields_settleCharge (settled : ∀ accounts capture fee fees current new after,
      service.AccountsOf intent accounts →
      Entry capture intent.paymentIntentId "PAYMENT" "payment_captured" accounts.inTransit accounts.merchantSettlement
        attempt.amountMinor → FeePosted accounts intent.paymentIntentId fee fees →
      before.books.store.intents.get? intent.paymentIntentId = some current → current.status = intent.status →
      intent.status = .processing → new.terms = intent.terms → new.method = intent.method → new.status = .succeeded →
      after.books = (fees.foldl log (before.books.log capture)).putIntent new → after.calls = before.calls →
        returns new after) : Yields (service.settleCharge moment intent attempt) before returns := by
  simp only [settleCharge, yields_bind, yields_attempt, yields_onRaise]
  refine yields_requirePspLicense fun accounts resolved => ?_
  rintro ⟨feeMinor, feeRuleId⟩ _
  refine yields_postEntry fun capture first entry captured started => ?_
  refine yields_postFee fun fee fees second feePosted charged kept => ?_
  refine yields_advanceIntent fun target current new third found held status terms method reached moved same => ?_
  obtain ⟨processing, rfl⟩ := resolved_move found .processing .succeeded (by decide)
  refine yields_emitSucceeded fun after books calls => yields_pure.mpr ?_
  rw [charged, captured] at held moved
  simp only [store_foldl_log, store_log] at held
  exact settled accounts capture fee fees current new after resolved entry feePosted held status processing terms method
    reached (books.trans moved) (calls.trans (same.trans (kept.trans started)))

/-- A charge that was posted is a deed, if it is one of those that need no capture. -/
theorem Rewrites.charged {books : Books} {current after : PaymentIntentRecord}
    (rewrites : Rewrites books intent attempt old new current after) (ordered : books.Ordered)
    (hand : InHand books intent attempt) (waiting : attempt.status = .authorizationPending ∨ attempt.status = .timedOut)
    (charged : new.status = .charged) (succeeded : after.status = .succeeded)
    (direct : intent.captureMethod = .automatic ∨ licence.late) {capture : LedgerCall}
    (resolved : service.AccountsOf intent accounts)
    (entry : Entry capture intent.paymentIntentId "PAYMENT" "payment_captured" accounts.inTransit accounts.merchantSettlement
      new.amountMinor) (feePosted : FeePosted accounts intent.paymentIntentId fee fees) :
    Deed service licence books ((fees.foldl log ((books.putAttempt new).log capture)).putIntent after) := by
  obtain ⟨sameTerms, sameMethod⟩ := rewrites.intent_same hand
  have merchant : intent.merchantId = current.merchantId := congrArg merchantId sameTerms
  have id : intent.paymentIntentId = current.paymentIntentId := congrArg paymentIntentId sameTerms
  have capturing : intent.captureMethod = current.captureMethod := congrArg captureMethod sameTerms
  rw [AccountsOf, merchant, sameMethod] at resolved
  rw [id] at entry feePosted
  rw [capturing] at direct
  refine .charged old new current after accounts capture fee fees (ordered.hasAttempt rewrites.stored)
    (rewrites.attempt_same hand) ?_ charged (ordered.hasIntent rewrites.owned) (rewrites.owner ordered hand)
    (rewrites.sameIntent hand) rewrites.now_processing succeeded direct resolved entry feePosted
  rw [rewrites.status]
  exact waiting

variable (ordered : before.books.Ordered) (hand : InHand before.books intent attempt)
include ordered hand

theorem yields_applyCharged (automatic : intent.captureMethod = .automatic) :
    Proceeds service licence (service.applyCharged moment intent attempt) before := by
  simp only [applyCharged, yields_bind]
  refine yields_advanceAttempt fun target old charged middle found stored same terms reached tried calls => ?_
  obtain ⟨waiting, rfl⟩ := resolved_move found .authorizationPending .charged (by decide)
  refine yields_settleCharge fun accounts capture fee fees current new after resolved entry feePosted held status processing
    sameTerms method succeeded booked kept => yields_pure.mpr ?_
  rw [tried] at held booked
  have rewrites : Rewrites before.books intent attempt old charged current new :=
    ⟨stored, same, terms, held, status, processing, sameTerms, method⟩
  refine .deed ?_ (kept.trans calls)
  rw [booked]
  exact rewrites.charged ordered hand (.inl waiting) reached succeeded (.inl automatic) resolved entry feePosted

theorem yields_applyAuthorized : Proceeds service licence (service.applyAuthorized moment intent attempt) before := by
  simp only [applyAuthorized, openAuthorizationHold, yields_bind, yields_attempt,
    yields_onRaise]
  intro expiry _
  refine yields_advanceAttempt fun target old authorized first found stored same terms reached tried started => ?_
  obtain ⟨waiting, rfl⟩ := resolved_move found .authorizationPending .authorized (by decide)
  intro accounts resolved
  refine yields_askLedger fun second held reserved => ?_
  refine yields_emitAttempt fun third quiet kept => ?_
  refine yields_advanceIntent fun target current new after found owned status sameTerms method waits moved last =>
    yields_pure.mpr ?_
  obtain ⟨processing, rfl⟩ := resolved_move found .processing .requiresCapture (by decide)
  rw [quiet, held, tried] at owned moved
  have rewrites : Rewrites before.books intent attempt old authorized current new :=
    ⟨stored, same, terms, owned, status, processing, sameTerms, method⟩
  obtain ⟨intentTerms, sameMethod⟩ := rewrites.intent_same hand
  have merchant : intent.merchantId = current.merchantId := congrArg merchantId intentTerms
  have id : intent.paymentIntentId = current.paymentIntentId := congrArg paymentIntentId intentTerms
  refine .deed ?_ (last.trans (kept.trans (reserved.trans started)))
  rw [merchant, sameMethod] at resolved
  rw [moved, id]
  exact .authorized old authorized current new accounts authorized.authExpiresAt (ordered.hasAttempt stored)
    (rewrites.attempt_same hand) (same.trans waiting) reached (ordered.hasIntent owned) (rewrites.owner ordered hand)
    (rewrites.sameIntent hand) rewrites.now_processing waits resolved

theorem yields_applySuccess : Proceeds service licence (service.applySuccess moment intent attempt) before := by
  rw [Proceeds, applySuccess, yields_ite]
  refine ⟨fun _ => yields_applyAuthorized ordered hand, fun automatic => yields_applyCharged ordered hand ?_⟩
  cases given : intent.captureMethod with
  | automatic => rfl
  | manual => exact absurd given automatic

end BdPay.Kernel
