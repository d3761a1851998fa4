import BdPay.Kernel.Lifecycle

namespace BdPay.Kernel

open Data Effect Connectors PaymentSystem

/-! Refunds, and callbacks, which may belong to an attempt or to a refund. -/

namespace PaymentOrchestrator

variable (service : PaymentOrchestrator) (moment : Moment)

def refundedTotal (paymentIntentId : String) : KernelM Int := do
  pure ((((← get).store.listRefunds paymentIntentId).filter (·.status = .refundSucceeded)).map (·.amountMinor)).sum

def reservedRefundTotal (paymentIntentId : String) : KernelM Int := do
  pure ((((← get).store.listRefunds paymentIntentId).filter (·.status ≠ .refundFailed)).map (·.amountMinor)).sum

/-- The three identifiers a refund is created under. -/
structure RefundIds where
  (refundId connectorRef instructionId : String)

variable (intent : PaymentIntentRecord)

def refundIds (charged : PaymentAttemptRecord) (amountMinor : Int) :
    Except KernelError RefundIds := do
  let refundId ← service.makeId "rfnd"
    [("payment_intent_id", .str intent.paymentIntentId), ("attempt_id", .str charged.attemptId),
      ("amount_minor", .int amountMinor), ("created_at", .datetime moment.now)]
  let connectorRef ← service.makeKernelId "cref"
    [("refund_id", .str refundId), ("connector_id", .str charged.connectorId)]
  let instructionId ← service.makeId "ins" [("connector_ref", .str connectorRef), ("operation", .str "refund")]
  pure { refundId, connectorRef, instructionId }

/-- A refund that is not a replay. -/
def openRefund (amountMinor : Int) (reason : RefundReason)
    (idempotencyKey : Option String) : KernelM RefundRecord := do
  raiseIf (intent.status ≠ .succeeded ∧ intent.status ≠ .partiallyRefunded) (.conflict
    "refunds require a SUCCEEDED or PARTIALLY_REFUNDED intent" "invalid_state_transition")
  match ← chargedAttempt intent.paymentIntentId with
  | none => throw (.conflict "no charged attempt to refund" "invalid_state_transition")
  | some charged => do
      let reserved ← reservedRefundTotal intent.paymentIntentId
      raiseIf (intent.amountMinor - reserved < amountMinor) (.limitExceeded
        "refund exceeds the remaining refundable amount" "refund_exceeds_captured")
      let ids ← attempt (service.refundIds moment intent charged amountMinor)
      if positive : 0 < amountMinor then do
        let refund : RefundRecord := {
          refundId := ids.refundId, paymentIntentId := intent.paymentIntentId, attemptId := charged.attemptId
          amountMinor, positive, reason, createdAt := moment.now, updatedAt := moment.now
          connectorId := some charged.connectorId, connectorRef := some ids.connectorRef
          instructionId := some ids.instructionId, idempotencyKey }
        writeStore (·.insertRefund refund)
        let intent ← advanceIntent moment intent .refundInitiated
        service.emit moment "refund.initiated" intent
          [("refund_id", .str refund.refundId), ("payment_intent_id", .str intent.paymentIntentId),
            ("amount_minor", .int amountMinor), ("reason", .str reason.value)]
          "Refund" (some refund.refundId)
        pure refund
      else throw (.invalidRequest "amount_minor must be > 0 paisa" "amount_not_positive")

def createRefund (paymentIntentId : String) (amountMinor : Int) (reason : RefundReason)
    (idempotencyKey : Option String) : KernelM RefundRecord := do
  service.requirePspLicense
  raiseIf (idempotencyKey = some "") (.invalidRequest
    "idempotency_key must be non-empty" "idempotency_key_required")
  let intent ← requireIntent paymentIntentId
  let system ← get
  match idempotencyKey.bind (system.store.findRefundByIdempotencyKey paymentIntentId) with
  | some existing => do
      raiseIf (existing.amountMinor ≠ amountMinor ∨ existing.reason ≠ reason)
        (.idempotencyConflict "Idempotency-Key replayed with mismatched refund parameters")
      pure existing
  | none => service.openRefund moment intent amountMinor reason idempotencyKey

variable (refund : RefundRecord)

def returnIntentAfterRefundFailure : KernelM Unit := do
  let refunded ← refundedTotal intent.paymentIntentId
  let guard := if 0 < refunded then Guard.priorPartial else Guard.noPriorPartial
  let intent ← advanceIntent moment intent .refundFailed (some guard)
  service.emit moment "refund.failed" intent
    [("refund_id", .str refund.refundId), ("error_code", .str "refund_failed")]
    "Refund" (some refund.refundId)

def refundSettled (result : ConnectorResult) :
    KernelM Unit := do
  let already ← refundedTotal intent.paymentIntentId
  raiseIf (intent.amountMinor < already + refund.amountMinor) (.limitExceeded
    "refund exceeds the captured amount" "refund_exceeds_captured")
  let refund ← advanceRefund moment
    { refund with
      railTransactionId := result.railTransactionId, rawResponseHash := some result.rawResponseHash
      succeededAt := some moment.now, updatedAt := moment.now } .connectorSuccess
  service.postRefundEntries moment intent refund
  let refunded ← refundedTotal intent.paymentIntentId
  let trigger := if intent.amountMinor ≤ refunded then IntentTrigger.refundFullSucceeded else .refundPartialSucceeded
  let intent ← advanceIntent moment intent trigger
  service.emit moment "refund.succeeded" intent
    [("refund_id", .str refund.refundId), ("payment_intent_id", .str intent.paymentIntentId),
      ("amount_minor", .int refund.amountMinor)]
    "Refund" (some refund.refundId)

def refundRejected : KernelM Unit := do
  let refund ← advanceRefund moment { refund with failedAt := some moment.now, updatedAt := moment.now }
    .connectorRejected
  service.returnIntentAfterRefundFailure moment intent refund

/-- FAILED, TIMED_OUT and what else is left: the retry budget. -/
def refundRetried (status : ConnectorStatus) :
    KernelM Unit := do
  let counted := { refund with retryCount := refund.retryCount + 1, updatedAt := moment.now }
  if maxRefundRetries ≤ counted.retryCount then do
    let failed ← advanceRefund moment { counted with failedAt := some moment.now } .retriesExhausted
    service.returnIntentAfterRefundFailure moment intent failed
  else do
    let _ ← advanceRefund moment counted (if status = .timedOut then .connectorTimeout else .connectorFailed)

def applyRefundResult (refundId : String) (result : ConnectorResult) : KernelM Unit := do
  let refund ← requireRefund refundId
  let intent ← requireIntent refund.paymentIntentId
  match result.status with
  | .success | .reversed => service.refundSettled moment intent refund result
  | .rejected => service.refundRejected moment intent refund
  | .pending | .failed | .timedOut => service.refundRetried moment intent refund result.status

/-- What `process_refund` gives the runner to reverse. -/
def refundRequest : Request where
  connectorId := refund.connectorId.getD ""
  connectorRef := orElse refund.connectorRef refund.refundId
  railTransactionId := refund.railTransactionId
  amountMinor := some refund.amountMinor
  reason := some refund.reason.value

def dispatchRefund : KernelM RefundRecord := do
  if refund.status = .refundInitiated then advanceRefund moment refund .connectorDispatched else pure refund

def processRefund (refundId : String) : KernelM Progress := do
  service.requirePspLicense
  let refund ← requireRefund refundId
  let _ ← requireIntent refund.paymentIntentId
  let refund ← dispatchRefund moment refund
  let request := refundRequest refund
  match ← onRunner
    (ConnectorRunner.call (service.around moment) request.connectorId request.connectorRef .reverse) with
  | .refused refusal result => do
      observe (.refused .refund request.connectorRef refusal)
      service.applyRefundResult moment refundId result
      pure .done
  | .invoked registration => do
      observe (.invoked .refund request)
      suspend (.refund refundId registration request.connectorRef)
      pure .suspended

/-- A callback for an attempt: only one that still waits, or timed out, takes it. -/
def inboundAttempt (attempt : PaymentAttemptRecord) (result : ConnectorResult) : KernelM Progress := do
  if attempt.instructionId ≠ result.instructionId then pure .done
  else
    match attempt.status with
    | .authorizationPending => do
        let intent ← requireIntent attempt.paymentIntentId
        service.applyConnectorResult moment (service.redispatchAfter moment attempt) intent attempt result
    | .timedOut => do
        service.applyStatusPollResult moment attempt.attemptId result
        pure .done
    | _ => pure .done

/-- A callback for a refund: one that waits for the connector takes it. -/
def inboundRefund (result : ConnectorResult) : Option RefundRecord → KernelM Progress
  | none => pure .done
  | some refund =>
    if refund.instructionId.isSome ∧ refund.instructionId ≠ some result.instructionId then pure .done
    else if refund.status ≠ .refundPendingConnector then pure .done
    else do
      service.applyRefundResult moment refund.refundId result
      pure .done

def applyInboundConnectorResult (connectorId : String) (result : ConnectorResult) : KernelM Progress := do
  observe (.calledBack connectorId result)
  let system ← get
  match system.store.findAttemptByConnectorRef connectorId result.connectorRef with
  | some attempt => service.inboundAttempt moment attempt result
  | none =>
    service.inboundRefund moment result
      (system.store.findRefundByConnectorRef connectorId result.connectorRef)

end PaymentOrchestrator

end BdPay.Kernel
