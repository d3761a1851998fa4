import BdPay.Kernel.Dispatch

namespace BdPay.Kernel

open Platform Data Effect Connectors PaymentSystem ConnectorRunner

/-! What happens to an intent after its dispatch: status polls, callbacks,
captures, voids, reversals, the TTL sweep and refunds. -/

namespace PaymentOrchestrator

variable (service : PaymentOrchestrator) (moment : Moment)

/-- `result.rail_transaction_id or attempt.rail_transaction_id`, and the hash of the answer. -/
def withPollResult (attempt : PaymentAttemptRecord) (result : ConnectorResult) : PaymentAttemptRecord :=
  { attempt with
    railTransactionId := match result.railTransactionId with
      | some given => if given = "" then attempt.railTransactionId else some given
      | none => attempt.railTransactionId
    rawResponseHash := some result.rawResponseHash, updatedAt := moment.now }

variable (intent : PaymentIntentRecord)

def emitReversalInitiated (attemptId : Option String) : KernelM Unit :=
  service.emit moment "payment_intent.reversal_initiated" intent
    [("payment_intent_id", .str intent.paymentIntentId), ("attempt_id", optional attemptId)]

def pollSucceeded (attempt : PaymentAttemptRecord) (result : ConnectorResult) :
    KernelM Unit := do
  let attempt ← advanceAttempt moment
    { withPollResult moment attempt result with chargedAt := some moment.now } .pollSuccess (some .charged)
  let _ ← service.settleCharge moment intent attempt

def pollReversed (intent : PaymentIntentRecord) (attempt : PaymentAttemptRecord) (result : ConnectorResult) :
    KernelM Unit := do
  let attempt ← advanceAttempt moment (withPollResult moment attempt result) .pollReversed
  let intent ← advanceIntent moment intent .reversalTriggered
  service.emitReversalInitiated moment intent (some attempt.attemptId)

/-- An unresolved poll is counted; the last one gives the charge up for reversal. -/
def pollPending (intent : PaymentIntentRecord) (attempt : PaymentAttemptRecord) : KernelM Unit := do
  let counted := { attempt with pollCount := attempt.pollCount + 1, updatedAt := moment.now }
  if maxStatusPolls ≤ counted.pollCount then do
    let exhausted ← advanceAttempt moment { counted with failedAt := some moment.now } .pollExhausted
    let intent ← advanceIntent moment intent .reversalTriggered
    service.emitReversalInitiated moment intent (some exhausted.attemptId)
  else do
    let _ ← advanceAttempt moment counted .pollPending

/-- The branch of the poll for every other status. -/
def pollFailed (intent : PaymentIntentRecord) (attempt : PaymentAttemptRecord) (result : ConnectorResult) :
    KernelM Unit := do
  let _ ← advanceAttempt moment { attempt with failedAt := some moment.now } .pollFailed
  let intent ← advanceIntent moment intent .attemptHardDeclined
  service.emitFailed moment intent (orElse result.errorCode "poll_failed")

def applyStatusPollResult (attemptId : String) (result : ConnectorResult) : KernelM Unit := do
  let attempt ← requireAttempt attemptId
  let intent ← requireIntent attempt.paymentIntentId
  match result.status with
  | .success => service.pollSucceeded moment intent attempt result
  | .reversed => service.pollReversed moment intent attempt result
  | .pending => service.pollPending moment intent attempt
  | .failed | .rejected | .timedOut => service.pollFailed moment intent attempt result

def pollTimedOutAttempt (attemptId : String) : KernelM Progress := do
  let attempt ← requireAttempt attemptId
  let _ ← requireIntent attempt.paymentIntentId
  match ← onRunner
    (call (service.around moment) attempt.connectorId attempt.connectorRef .queryStatus) with
  | .refused refusal result => do
      observe (.refused .poll attempt.connectorRef refusal)
      service.applyStatusPollResult moment attemptId result
      pure .done
  | .invoked registration => do
      observe (.invoked .poll {
        connectorId := registration.connectorId, connectorRef := attempt.connectorRef
        railTransactionId := attempt.railTransactionId })
      suspend (.poll attemptId registration attempt.connectorRef)
      pure .suspended

/-- An adapter came back from `query_status` or `reverse`. -/
def railAnswered (purpose : Purpose) (kind : CallKind) (registration : ConnectorRegistration) (connectorRef : String)
    (outcome : AdapterOutcome) (apply : ConnectorResult → KernelM Unit) : KernelM Progress := do
  observe (.answered purpose connectorRef outcome)
  let result ← onRunner (called (service.around moment) registration connectorRef kind outcome)
  apply result
  pure .done

/-- The captured amount, when it may be captured at all. -/
def captureMinor (attempt : PaymentAttemptRecord) (amountMinor : Option Int) :
    Except KernelError { amount : Int // 0 < amount } :=
  let amount := amountMinor.getD intent.amountMinor
  if within : 0 < amount ∧ amount ≤ attempt.amountMinor then .ok ⟨amount, within.1⟩
  else .error (.conflict "capture amount must be > 0 and <= authorized amount" "invalid_capture_state")

def capture (paymentIntentId : String) (amountMinor : Option Int) : KernelM Unit := do
  let intent ← requireIntent paymentIntentId
  raiseIf (intent.status ≠ .requiresCapture) (.conflict "intent is not awaiting capture" "invalid_capture_state")
  match ← latestAttempt paymentIntentId with
  | none => throw (.conflict "no AUTHORIZED attempt to capture" "invalid_capture_state")
  | some attempt => do
      raiseIf (attempt.status ≠ .authorized) (.conflict "no AUTHORIZED attempt to capture" "invalid_capture_state")
      let captured ← Effect.attempt (captureMinor intent attempt amountMinor)
      service.requirePspLicense
      let attempt ← advanceAttempt moment attempt .captureSubmitted
      let attempt ← advanceAttempt moment { attempt with chargedAt := some moment.now } .captureConfirmed
      if captured.val = intent.amountMinor then do
        let _ ← service.settleAuthorizedCharge moment intent attempt
      else do
        -- A partial capture burns the remaining authorization.
        let intent := { intent with amountMinor := captured.val, positive := captured.property, updatedAt := moment.now }
        writeStore (·.updateIntent intent intent.status)
        let attempt :=
          { attempt with amountMinor := captured.val, positive := captured.property, updatedAt := moment.now }
        writeStore (·.updateAttempt attempt attempt.status)
        let _ ← service.settleAuthorizedCharge moment intent attempt

/-- An authorized attempt gives its hold back. -/
def voidAttempt (attempt : PaymentAttemptRecord) : KernelM Unit := do
  let attempt ← advanceAttempt moment attempt .voidSubmitted
  service.emitAttempt moment "payment_attempt.voided" intent attempt

def emitCancelled (reason : String) : KernelM Unit :=
  service.emit moment "payment_intent.cancelled" intent
    [("payment_intent_id", .str intent.paymentIntentId), ("reason", .str reason)]

/-- The hold of an authorized attempt, which has to be there. -/
def voidAuthorized (attempt : PaymentAttemptRecord) : KernelM Unit := do
  match ← openHold? intent.paymentIntentId with
  | none => throw holdMissing
  | some hold => do
      askLedger moment (.releaseHold hold "VOIDED" none)
      service.voidAttempt moment intent attempt

def voidLatest : Option PaymentAttemptRecord → KernelM Unit
  | some attempt => if attempt.status = .authorized then service.voidAuthorized moment intent attempt else pure ()
  | none => pure ()

def voidIntent : KernelM Unit := do
  let latest ← latestAttempt intent.paymentIntentId
  service.voidLatest moment intent latest
  let intent ← advanceIntent moment { intent with cancelledAt := some moment.now } .voidRequested
  service.emitCancelled moment intent "void"

def cancel (paymentIntentId : String) : KernelM Unit := do
  let intent ← requireIntent paymentIntentId
  if intent.status = .requiresCapture then service.voidIntent moment intent
  else do
    let intent ← advanceIntent moment { intent with cancelledAt := some moment.now } .cancelRequested
    service.emitCancelled moment intent "merchant_cancel"

def noAttemptToReverse : KernelError := .conflict "no attempt to reverse" "invalid_state_transition"

/-- `updated_at + REVERSAL_PENDING_RETRY_AFTER` has not passed yet. -/
def reversalHot : Except KernelError Bool :=
  match intent.updatedAt.add? reversalPendingRetryAfter with
  | none => .error .overflow
  | some retryAt => .ok (decide (¬ retryAt ≤ moment.now))

/-- A reversal that has been claimed may be claimed again once it has gone cold. -/
def claimIntent : KernelM PaymentIntentRecord :=
  match intent.status with
  | .reversalInitiated => advanceIntent moment intent .reversalDispatchClaimed
  | .reversalPending => do
      let hot ← attempt (reversalHot moment intent)
      raiseIf hot (.conflict "reversal is already in progress" "reversal_already_in_progress")
      advanceIntent moment intent .reversalDispatchClaimed
  | _ => throw (.conflict "intent is not in REVERSAL_INITIATED" "invalid_state_transition")

def claimReversalDispatch (paymentIntentId : String) : KernelM PaymentAttemptRecord := do
  let intent ← requireIntent paymentIntentId
  let _ ← claimIntent moment intent
  match ← latestAttempt paymentIntentId with
  | none => throw noAttemptToReverse
  | some attempt => pure attempt

def reverseCharged (attempt : PaymentAttemptRecord) : KernelM Unit := do
  let attempt ← advanceAttempt moment attempt .reversalSubmitted
  service.postReversalEntries moment intent attempt
  service.emitAttempt moment "payment_attempt.reversed" intent attempt

def releaseVoided : Option String → KernelM Unit
  | some hold => askLedger moment (.releaseHold hold "VOIDED" none)
  | none => pure ()

/-- The connector voided an authorization: only the hold is given back. -/
def reverseAuthorized (attempt : PaymentAttemptRecord) : KernelM Unit := do
  let hold ← openHold? intent.paymentIntentId
  releaseVoided moment hold
  service.voidAttempt moment intent attempt

def reverseAttempt (attempt : PaymentAttemptRecord) : KernelM Unit :=
  match attempt.status with
  | .charged => service.reverseCharged moment intent attempt
  | .authorized => service.reverseAuthorized moment intent attempt
  | _ => pure ()

def reversalConfirmed (intent : PaymentIntentRecord) (attempt : PaymentAttemptRecord) : KernelM Unit := do
  service.reverseAttempt moment intent attempt
  let intent ← advanceIntent moment { intent with reversedAt := some moment.now } .reversalConfirmed
  service.emit moment "payment_intent.reversed" intent
    [("payment_intent_id", .str intent.paymentIntentId), ("attempt_id", .str attempt.attemptId),
      ("amount_minor", .int attempt.amountMinor)]

def reversalFailed (intent : PaymentIntentRecord) (attempt : PaymentAttemptRecord) : KernelM Unit := do
  let intent ← advanceIntent moment intent .reversalFailed
  let compensationId ← Effect.attempt (service.makeKernelId "cref"
    [("payment_intent_id", .str intent.paymentIntentId), ("purpose", .str "compensation")])
  service.emit moment "compensation_item.queued" intent
    [("compensation_id", .str compensationId), ("resolution_kind", .str "manual_reversal"),
      ("amount_minor", .int attempt.amountMinor)]
    "PaymentIntent" none "platform.events"

def applyReversalResult (paymentIntentId : String) (result : ConnectorResult) : KernelM Unit := do
  let intent ← requireIntent paymentIntentId
  raiseIf (intent.status ≠ .reversalInitiated ∧ intent.status ≠ .reversalPending) (.conflict
    "intent is not in a reversible state" "invalid_state_transition")
  match ← latestAttempt paymentIntentId with
  | none => throw noAttemptToReverse
  | some attempt =>
    match result.status with
    | .reversed | .success => service.reversalConfirmed moment intent attempt
    | .pending | .failed | .rejected | .timedOut => service.reversalFailed moment intent attempt

def executeReversal (paymentIntentId reason : String) : KernelM Progress := do
  service.requirePspLicense
  let attempt ← claimReversalDispatch moment paymentIntentId
  match ← onRunner
    (call (service.around moment) attempt.connectorId attempt.connectorRef .reverse) with
  | .refused refusal result => do
      observe (.refused .reversal attempt.connectorRef refusal)
      service.applyReversalResult moment paymentIntentId result
      pure .done
  | .invoked registration => do
      observe (.invoked .reversal {
        connectorId := registration.connectorId, connectorRef := attempt.connectorRef
        railTransactionId := attempt.railTransactionId, amountMinor := some attempt.amountMinor
        reason := some reason })
      suspend (.reversal paymentIntentId registration attempt.connectorRef)
      pure .suspended

/-- One expired intent.  PRE_FLIGHT has no declared expiry and is skipped. -/
def sweepIntent : KernelM Unit := do
  match intent.status with
  | .created | .requiresPaymentMethod | .requiresConfirmation => do
      let updated ← advanceIntent moment { intent with cancelledAt := some moment.now } .ttlExpired
      service.emit moment "payment_intent.expired" updated [("payment_intent_id", .str updated.paymentIntentId)]
  | .requiresAction => do
      let updated ← advanceIntent moment intent .ttlExpired
      service.emitFailed moment updated "action_ttl_expired"
  | .processing | .requiresCapture => do
      let updated ← advanceIntent moment intent .ttlExpired
      service.emitReversalInitiated moment updated updated.latestAttemptId
  | _ => pure ()

def sweepExpiredIntents : KernelM Unit := do
  let system ← get
  forEach (system.store.listExpiredIntents moment.now) (service.sweepIntent moment)

def confirmDelivery (paymentIntentId : String) (deliveredAt : DateTime) : KernelM Unit := do
  let intent ← requireIntent paymentIntentId
  raiseIf (intent.status ≠ .succeeded ∧ intent.status ≠ .partiallyRefunded) (.conflict
    "delivery can only be confirmed for a succeeded intent" "intent_not_succeeded")
  raiseIf (¬ deliveredAt ≤ moment.now) (.invalidRequest
    "delivered_at cannot be in the future" "delivered_at_in_future")
  if intent.deliveryConfirmedAt.isSome then pure ()
  else do
    let updated := { intent with deliveryConfirmedAt := some moment.now, updatedAt := moment.now }
    writeStore (·.updateIntent updated intent.status)
    auditTransition updated (some intent.status) intent.status "DELIVERY_CONFIRMED"
    service.emit moment "payment_intent.delivery_confirmed" updated
      [("payment_intent_id", .str updated.paymentIntentId), ("delivery_confirmed_at", .datetime moment.now)]

end PaymentOrchestrator

end BdPay.Kernel
