import BdPay.Kernel.Orchestrator

namespace BdPay.Kernel

open Platform Data Effect Connectors PaymentSystem ConnectorRunner

/-! From a new intent to the rail, and what each connector result does to it. -/

namespace PaymentOrchestrator

variable (service : PaymentOrchestrator) (moment : Moment)

/-- `now + INTENT_TTL`. -/
def intentExpiry : Except KernelError DateTime :=
  match moment.now.add? intentTtl with
  | some expiry => .ok expiry
  | none => .error .overflow

def createIntent (request : PaymentIntentRequest) : KernelM PaymentIntentRecord := do
  raiseIf (request.idempotencyKey = "") (.invalidRequest
    "Idempotency-Key is required for intent creation" "idempotency_key_required")
  match (← get).store.findIntentByIdempotencyKey request.merchantId request.idempotencyKey with
  | some existing => do
      raiseIf (existing.amountMinor ≠ request.amountMinor ∨ existing.method ≠ request.method ∨
        existing.customerId ≠ request.customerId)
        (.idempotencyConflict "Idempotency-Key replayed with mismatched parameters")
      pure existing
  | none => do
      let intentId ← attempt (service.makeId "pi"
        [("merchant_id", .str request.merchantId), ("customer_id", optional request.customerId),
          ("amount_minor", .int request.amountMinor), ("currency", .str request.currency),
          ("method", .str request.method.value), ("idempotency_key", .str request.idempotencyKey),
          ("created_at", .datetime moment.now)])
      let clientSecretHash ← attempt (match sha256Canonical service.sha256 (.dict
          [("intent_id", .str intentId), ("purpose", .str "client_secret"), ("created_at", .datetime moment.now)]) with
        | .ok digest => .ok digest
        | .error error => .error (.canonical error))
      let expiresAt ← attempt (intentExpiry moment)
      -- The record's own validation, in its order.
      if positive : 0 < request.amountMinor then do
        raiseIf (request.currency ≠ "BDT") (.invalidRequest "currency must be BDT in v1" "currency_unsupported")
        if metadataValid : MetadataValid request.metadata then do
          let record : PaymentIntentRecord := {
            paymentIntentId := intentId, merchantId := request.merchantId, amountMinor := request.amountMinor, positive
            method := request.method, expiresAt, createdAt := moment.now, updatedAt := moment.now
            customerId := request.customerId, captureMethod := request.captureMethod, status := .created
            description := request.description, statementDescriptor := request.statementDescriptor
            metadata := request.metadata, metadataValid, idempotencyKey := some request.idempotencyKey
            clientSecretHash := some clientSecretHash }
          writeStore (·.insertIntent record)
          auditTransition record none .created
          service.emit moment "payment_intent.created" record
            [("payment_intent_id", .str intentId), ("merchant_id", .str record.merchantId),
              ("amount_minor", .int record.amountMinor), ("currency", .str "BDT"),
              ("method", .str record.method.value)]
          pure record
        else throw (metadataInvalid request.metadata)
      else throw (.invalidRequest "amount_minor must be > 0 paisa" "amount_not_positive")

/-- What `_dispatch` hands to the runner. -/
structure Prepared where
  intent : PaymentIntentRecord
  attempt : PaymentAttemptRecord
  instruction : PaymentInstruction

variable (intent : PaymentIntentRecord)

/-- A deferred intent stays PROCESSING until its next rail window. -/
def deferIntent : KernelM Unit := do
  let deferredUntil := service.nextRailWindow intent.method moment.now
  let deferred := { intent with deferredUntil := some deferredUntil, updatedAt := moment.now }
  writeStore (·.updateIntent deferred deferred.status)
  service.emit moment "payment_intent.deferred" deferred
    [("payment_intent_id", .str deferred.paymentIntentId), ("rail", .str deferred.method.value),
      ("deferred_until", .str (String.ofList deferredUntil.isoMillis))]

/-- A real connector is dispatchable again: the deferral is over. -/
def clearDeferral : KernelM PaymentIntentRecord := do
  if intent.deferredUntil.isSome then do
    let cleared := { intent with deferredUntil := none, updatedAt := moment.now }
    writeStore (·.updateIntent cleared cleared.status)
    pure cleared
  else pure intent

/-- Opens the attempt under a connector reference of its own. -/
def openAttempt (attemptNumber : Nat) (connectorId : String) : KernelM Prepared := do
  let attemptId ← attempt (service.makeId "pa"
    [("payment_intent_id", .str intent.paymentIntentId), ("attempt_number", .int attemptNumber),
      ("connector_id", .str connectorId), ("created_at", .datetime moment.now)])
  let connectorRef ← attempt (service.makeKernelId "cref"
    [("attempt_id", .str attemptId), ("connector_id", .str connectorId)])
  let instructionId ← attempt (service.makeId "ins" [("connector_ref", .str connectorRef)])
  if numbered : 1 ≤ attemptNumber ∧ attemptNumber ≤ 10 then do
    let opened : PaymentAttemptRecord := {
      attemptId, paymentIntentId := intent.paymentIntentId, attemptNumber, numbered, connectorId, instructionId
      connectorRef, amountMinor := intent.amountMinor, positive := intent.positive
      createdAt := moment.now, updatedAt := moment.now }
    writeStore (·.insertAttempt opened)
    let intent := { intent with latestAttemptId := some attemptId }
    let submitted ← advanceAttempt moment opened .submitted
    let instruction : PaymentInstruction := {
      instructionId, connectorRef, amountMinor := intent.amountMinor, method := intent.method.value
      senderRef := match intent.customerId with
        | some customerId => if customerId = "" then intent.merchantId else customerId
        | none => intent.merchantId
      beneficiaryRef := intent.merchantId, rail := connectorId
      instructionAt := String.ofList moment.now.isoFormat, metadata := intent.metadata.entries }
    pure { intent, attempt := submitted, instruction }
  else throw (.invalidRequest "attempt_number must be in 1..10" "invalid_request")

/-- `_dispatch`, up to the runner; nothing to hand over when the intent is deferred. -/
def prepare (attemptNumber : Nat) : KernelM (Option Prepared) := do
  service.requirePspLicense
  let route ← attempt (selectConnector (← get).runner intent.method)
  match route with
  | .storeAndForward => do
      service.deferIntent moment intent
      pure none
  | .connector connectorId => do
      let intent ← clearDeferral moment intent
      let prepared ← service.openAttempt moment intent attemptNumber connectorId
      pure (some prepared)

variable (attempt : PaymentAttemptRecord)

/-- The attempt as the result leaves it, before its status moves. -/
def withResult (result : ConnectorResult) : PaymentAttemptRecord :=
  { attempt with
    railTransactionId := result.railTransactionId, errorCode := result.errorCode
    rawResponseHash := some result.rawResponseHash, updatedAt := moment.now }

/-- `now + timedelta(days=AUTH_HOLD_DAYS)`. -/
def authHoldEnd : Except KernelError DateTime :=
  match moment.now.addDays? authHoldDays with
  | some expiry => .ok expiry
  | none => .error .overflow

/-- A success of an intent that is captured by hand: hold the funds. -/
def applyAuthorized : KernelM Unit := do
  let authExpiresAt ← Effect.attempt (authHoldEnd moment)
  let attempt ← advanceAttempt moment
    { attempt with authorizedAt := some moment.now, authExpiresAt := some authExpiresAt } .connectorAuthorized
  onRaise (service.openAuthorizationHold moment intent attempt)
    (service.recordLedgerPostFailure moment intent attempt)
  service.emitAttempt moment "payment_attempt.authorized" intent attempt
  let _ ← advanceIntent moment { intent with expiresAt := authExpiresAt } .attemptAuthorized

def applyCharged : KernelM Unit := do
  let attempt ← advanceAttempt moment { attempt with chargedAt := some moment.now } .connectorSuccessDirect
  let _ ← service.settleCharge moment intent attempt

def applySuccess : KernelM Unit :=
  if intent.captureMethod = .manual then service.applyAuthorized moment intent attempt
  else service.applyCharged moment intent attempt

def emitFailed (failureCode : String) : KernelM Unit :=
  service.emit moment "payment_intent.failed" intent
    [("payment_intent_id", .str intent.paymentIntentId), ("failure_code", .str failureCode)]

/-- `text or fallback`. -/
def orElse (text : Option String) (fallback : String) : String :=
  match text with
  | some given => if given = "" then fallback else given
  | none => fallback

def applyRejected : KernelM Unit := do
  let attempt ← advanceAttempt moment { attempt with failedAt := some moment.now } .connectorRejected
  service.emitAttempt moment "payment_attempt.hard_declined" intent attempt
  let intent ← advanceIntent moment intent .attemptHardDeclined
  service.emitFailed moment intent (orElse attempt.errorCode "hard_declined")

variable (redispatch : PaymentIntentRecord → Nat → KernelM Progress)

/-- A failed attempt is tried again under a new reference until the attempts are spent. -/
def applyFailed (intent : PaymentIntentRecord)
    (attempt : PaymentAttemptRecord) : KernelM Progress := do
  let attempt ← advanceAttempt moment { attempt with failedAt := some moment.now } .connectorFailed
  if attempt.attemptNumber < maxAttemptsPerIntent then do
    let intent ← advanceIntent moment intent .attemptFailedRetryable
    redispatch intent (attempt.attemptNumber + 1)
  else do
    let intent ← advanceIntent moment intent .attemptHardDeclined
    service.emitFailed moment intent "retries_exhausted"
    pure .done

def applyTimedOut : KernelM Unit := do
  let _ ← advanceAttempt moment attempt .connectorTimeout
  let _ ← advanceIntent moment intent .attemptTimedOut

/-- `_apply_connector_result`, from the snapshots its caller holds. -/
def applyConnectorResult
    (intent : PaymentIntentRecord) (attempt : PaymentAttemptRecord) (result : ConnectorResult) :
    KernelM Progress := do
  let attempt := withResult moment attempt result
  match result.status with
  | .success => do
      service.applySuccess moment intent attempt
      pure .done
  | .pending => do
      writeStore (·.updateAttempt attempt attempt.status)
      pure .done
  | .rejected => do
      service.applyRejected moment intent attempt
      pure .done
  | .failed => service.applyFailed moment redispatch intent attempt
  | .timedOut => do
      applyTimedOut moment intent attempt
      pure .done
  | .reversed => throw (.conflict "unhandled connector status <ConnectorStatus.REVERSED: 'reversed'>"
      "connector_status_unknown")

variable (prepared : Prepared)

/-- The retry loop of `runner.submit` sleeps, or the kernel goes on with the result. -/
def submitSettled
    (budget attempts : Int) (result : ConnectorResult) : KernelM Progress := do
  if retries result attempts budget then do
    suspend (.backoff prepared.intent prepared.attempt prepared.instruction budget (attempts + 1))
    pure .suspended
  else service.applyConnectorResult moment redispatch prepared.intent prepared.attempt result

def submitBegun
    (budget attempts : Int) : ConnectorRunner.Begun → KernelM Progress
  | .replayed result => do
      observe (.replayed prepared.instruction.connectorRef result)
      service.submitSettled moment redispatch prepared budget attempts result
  | .admission (.refused refusal result) => do
      observe (.refused .submit prepared.instruction.connectorRef refusal)
      service.submitSettled moment redispatch prepared budget attempts result
  | .admission (.invoked registration) => do
      observe (.invoked .submit {
        connectorId := registration.connectorId, connectorRef := prepared.instruction.connectorRef
        amountMinor := some prepared.instruction.amountMinor })
      suspend (.submit prepared.intent prepared.attempt prepared.instruction registration budget attempts)
      pure .suspended

/-- `_dispatch`.  Every retry spends one attempt, so the attempts left bound the recursion. -/
def dispatch : Nat → PaymentIntentRecord → Nat → KernelM Progress
  | 0, _, _ => throw .retriesSpent
  | left + 1, intent, attemptNumber => do
      match ← service.prepare moment intent attemptNumber with
      | none => pure .done
      | some prepared => do
          let (budget, begun) ←
            onRunner (submit (service.around moment) prepared.instruction)
          service.submitBegun moment (dispatch left) prepared budget 0 begun

/-- The retries an attempt still has. -/
def redispatchAfter : PaymentIntentRecord → Nat → KernelM Progress :=
  service.dispatch moment (maxAttemptsPerIntent - attempt.attemptNumber)

/-- An adapter came back from `submit`. -/
def submitAnswered (registration : ConnectorRegistration) (budget attempts : Int)
    (outcome : AdapterOutcome) : KernelM Progress := do
  observe (.answered .submit prepared.instruction.connectorRef outcome)
  let result ← onRunner
    (dispatched (service.around moment) registration prepared.instruction outcome)
  service.submitSettled moment (service.redispatchAfter moment prepared.attempt) prepared budget attempts result

/-- The backoff is over: the runner dispatches the same instruction again. -/
def submitRetried (budget attempts : Int) : KernelM Progress := do
  let begun ← onRunner (ConnectorRunner.dispatch (service.around moment) prepared.instruction)
  service.submitBegun moment (service.redispatchAfter moment prepared.attempt) prepared budget attempts begun

/-- Refusal-first: no ledger write has happened. -/
def failPreflight (trigger : IntentTrigger) : KernelM Unit := do
  let failed ← advanceIntent moment intent trigger
  service.emitFailed moment failed trigger.value

def startProcessing (trigger : IntentTrigger) : KernelM PaymentIntentRecord := do
  let intent ← advanceIntent moment intent trigger
  service.emit moment "payment_intent.processing" intent [("payment_intent_id", .str intent.paymentIntentId)]
  pure intent

variable (paymentIntentId : String)

/-- `confirm` up to the verdict of the pre-flight pipeline, and what follows it. -/
def confirming {α : Type} (next : PaymentIntentRecord → PaymentIntentRecord → KernelM α) : KernelM α := do
  let intent ← requireIntent paymentIntentId
  raiseIf (intent.status = .requiresPaymentMethod) (.conflict
    "intent requires a payment method before confirm" "invalid_state_transition")
  service.requirePspLicense
  let advanced ← advanceIntent moment intent .confirm none true
  next intent advanced

/-- `confirm` up to the dispatch; the verdict is given. -/
def preflighted (preflight : Preflight) : KernelM (Option PaymentIntentRecord) :=
  service.confirming moment paymentIntentId fun intent advanced =>
    let refuse (trigger : IntentTrigger) (error : KernelError) := do
      auditTransition advanced (some intent.status) advanced.status
      service.failPreflight moment advanced trigger
      throw error
    match preflight with
    | .raised => throw (.port "pre-flight pipeline raised")
    | .passed => do
        auditTransition advanced (some intent.status) advanced.status
        some <$> service.startProcessing moment advanced .preflightPassed
    | .actionRequired => do
        auditTransition advanced (some intent.status) advanced.status
        let _ ← advanceIntent moment advanced .actionRequired
        pure none
    | .limitExceeded message code => refuse .limitExceeded (.limitExceeded message code)
    | .sanctionsHit message code => refuse .sanctionsHit (.sanctionsBlock message code)
    | .amlBlock message code => refuse .amlBlock (.amlBlock message code)

def confirm (preflight : Preflight) : KernelM Progress := do
  match ← service.preflighted moment paymentIntentId preflight with
  | none => pure .done
  | some intent => service.dispatch moment maxAttemptsPerIntent intent 1

/-- `complete_action` up to the dispatch. -/
def actionCompleted (paymentIntentId : String) (success : Bool) : KernelM (Option PaymentIntentRecord) := do
  let intent ← requireIntent paymentIntentId
  if success then do
    service.requirePspLicense
    some <$> service.startProcessing moment intent .actionCompleted
  else do
    let failed ← advanceIntent moment intent .actionFailed
    service.emitFailed moment failed "action_failed"
    pure none

def completeAction (success : Bool) : KernelM Progress := do
  match ← service.actionCompleted moment paymentIntentId success with
  | none => pure .done
  | some intent => service.dispatch moment maxAttemptsPerIntent intent 1

def supplyMethod (method : PaymentMethod) : KernelM PaymentIntentRecord := do
  let intent ← requireIntent paymentIntentId
  advanceIntent moment { intent with method } .methodSupplied

end PaymentOrchestrator

end BdPay.Kernel
