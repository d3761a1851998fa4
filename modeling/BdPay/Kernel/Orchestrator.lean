import BdPay.Kernel.PaymentSystem
import BdPay.Kernel.Routing

namespace BdPay.Kernel

open Platform Data Effect Connectors PaymentSystem

/-! The payment orchestrator: intent, attempt, connector dispatch, refunds. -/

def producer : String := "payment-orchestrator@1"

def maxAttemptsPerIntent : Nat := 3

def maxStatusPolls : Nat := 3

def maxRefundRetries : Nat := 3

/-- Five minutes, in microseconds. -/
def reversalPendingRetryAfter : Nat := 300000000

def authHoldDays : Nat := 7

/-- Thirty minutes, in microseconds. -/
def intentTtl : Nat := 1800000000

/-- Additive prefixes the kernel mints under. -/
def kernelPrefixes : List String :=
  ["cref", "doc", "ubon", "uboe", "mccr", "agr", "agrac", "kybr", "plv", "apik", "vcref", "kycdoc", "kycbio",
    "kycrev", "kyccfg"]

/-- A configured orchestrator.  The hash, the PII patterns, the rail calendar and
the fee table come from outside. -/
structure PaymentOrchestrator where
  (sha256 redact : String → String)
  pspLicenseActive : Bool
  nextRailWindow : PaymentMethod → DateTime → DateTime
  resolveCaptureFee : PaymentIntentRecord → PaymentAttemptRecord → DateTime → Except KernelError (Int × String)

structure PaymentIntentRequest where
  merchantId : String
  amountMinor : Int
  method : PaymentMethod
  idempotencyKey : String
  customerId : Option String := none
  currency : String := "BDT"
  captureMethod : CaptureMethod := .automatic
  description : Option String := none
  statementDescriptor : Option String := none
  metadata : Dict String String := .empty

/-- How the pre-flight pipeline ends. -/
inductive Preflight where
  | passed | actionRequired
  | limitExceeded (message code : String)
  | sanctionsHit (message code : String)
  | amlBlock (message code : String)
  | raised

/-- Where an operation that may reach a rail got to before it yielded. -/
inductive Progress where
  | done | suspended

namespace PaymentOrchestrator

variable (service : PaymentOrchestrator) (moment : Moment)

def around : Surroundings where
  sha256 := service.sha256
  now := moment.now
  breakerReadable := moment.breakerReadable

def raiseId {α : Type} : Except IdError α → Except KernelError α
  | .ok value => .ok value
  | .error error => .error (.ident error)

def makeId (label : String) (payload : List (String × PyValue)) : Except KernelError String :=
  raiseId (Platform.makeId service.sha256 label payload)

def makeKernelId (label : String) (payload : List (String × PyValue)) : Except KernelError String :=
  if label ∈ idPrefixes then service.makeId label payload
  else if label ∈ kernelPrefixes then raiseId (mintId service.sha256 label payload)
  else .error (.ident (.unknownPrefix label))

def resolved {σ τ γ : Type} [DecidableEq σ] [DecidableEq τ] [DecidableEq γ] (table : TransitionTable σ τ γ)
    (fromState : σ) (trigger : τ) (guard : Option γ) : Except KernelError σ :=
  match table.resolve fromState trigger guard with
  | .ok rule => .ok rule.toState
  | .error denied => .error (.transitionDenied denied)

theorem resolved_ok [DecidableEq σ] [DecidableEq τ] [DecidableEq γ] {table : TransitionTable σ τ γ}
    {guard : Option γ} (found : resolved table fromState trigger guard = .ok target) :
    ∃ rule ∈ table.rules, rule.fromState = fromState ∧ rule.trigger = trigger ∧ rule.toState = target := by
  unfold resolved at found
  cases resolution : table.resolve fromState trigger guard with
  | error => simp [resolution] at found
  | ok rule =>
    simp only [resolution, Except.ok.injEq] at found
    obtain ⟨listed, source, triggered⟩ := TransitionTable.resolve_ok resolution
    exact ⟨rule, listed, source, triggered, found⟩

def optional (text : Option String) : PyValue := (text.map PyValue.str).getD .none

/-! Shared internals -/

def requireRow {α : Type} (row? : PaymentStore → Option α) (message : String) : KernelM α := do
  match row? (← get).store with
  | some row => pure row
  | none => throw (.notFound message)

def requireIntent (paymentIntentId : String) : KernelM PaymentIntentRecord :=
  requireRow (·.intents.get? paymentIntentId) s!"unknown payment intent {paymentIntentId}"

def requireAttempt (attemptId : String) : KernelM PaymentAttemptRecord :=
  requireRow (·.attempts.get? attemptId) s!"unknown attempt {attemptId}"

def requireRefund (refundId : String) : KernelM RefundRecord :=
  requireRow (·.refunds.get? refundId) s!"unknown refund {refundId}"

def latestAttempt (paymentIntentId : String) : KernelM (Option PaymentAttemptRecord) := do
  pure ((← get).store.listAttempts paymentIntentId).getLast?

def chargedAttempt (paymentIntentId : String) : KernelM (Option PaymentAttemptRecord) := do
  pure (((← get).store.listAttempts paymentIntentId).reverse.find? (·.status = .charged))

def requirePspLicense : KernelM Unit :=
  raiseIf (service.pspLicenseActive = false) (.conflict
    ("holding or settling third-party merchant funds requires a live PSP licence / " ++
      "merchant-of-record authorization (PSP_LICENSE_ACTIVE)")
    "psp_license_not_active")

def audit (entry : AuditEntry) : KernelM Unit :=
  writePorts fun ports => { ports with audit := ports.audit ++ [entry] }

variable (intent : PaymentIntentRecord)

def auditTransition (fromState : Option IntentStatus) (toState : IntentStatus)
    (eventType : String := "PAYMENT_STATE_TRANSITION") : KernelM Unit :=
  audit {
    eventType, subjectType := "PaymentIntent", subjectId := intent.paymentIntentId
    fromState := fromState.map IntentStatus.value, toState := toState.value
    payload := [("merchant_id", .str intent.merchantId)] }

/-- Redacts every text of a payload but the values of identifier keys, and enqueues it. -/
def emit (eventType : String) (intent : PaymentIntentRecord) (payload : List (String × PyValue))
    (subjectType : String := "PaymentIntent") (subjectId : Option String := none)
    (topic : String := "payment.events") : KernelM Unit :=
  let clean := payload.map fun field =>
    match field.2 with
    | .str text => if isOpaqueIdentifierKey field.1 then field else (field.1, .str (service.redact text))
    | _ => field
  writePorts fun ports =>
    { ports with outbox := ports.outbox ++ [{
        eventType, subjectType, subjectId := subjectId.getD intent.paymentIntentId, topic, payload := clean
        occurredAt := moment.now }] }

def emitAttempt (eventType : String) (intent : PaymentIntentRecord) (attempt : PaymentAttemptRecord) :
    KernelM Unit :=
  service.emit moment eventType intent
    [("payment_intent_id", .str intent.paymentIntentId), ("attempt_id", .str attempt.attemptId),
      ("merchant_id", .str intent.merchantId), ("customer_id", optional intent.customerId),
      ("amount_minor", .int attempt.amountMinor), ("currency", .str "BDT"),
      ("connector_id", .str attempt.connectorId), ("rail_transaction_id", optional attempt.railTransactionId),
      ("method", .str intent.method.value), ("direction", .str "OUTBOUND"),
      ("sender_ref", optional intent.customerId), ("beneficiary_ref", .str intent.merchantId)]
    "PaymentAttempt" (some attempt.attemptId)

def auditUnless (deferred : Bool) (intent : PaymentIntentRecord) (fromState toState : IntentStatus) :
    KernelM Unit :=
  if deferred then pure () else auditTransition intent (some fromState) toState

/-- Moves an intent along its table, from the status the caller holds. -/
def advanceIntent (trigger : IntentTrigger) (guard : Option Guard := none)
    (deferAudit : Bool := false) : KernelM PaymentIntentRecord := do
  let toState ← attempt (resolved intentTable intent.status trigger guard)
  let updated := { intent with status := toState, updatedAt := moment.now }
  writeStore (·.updateIntent updated intent.status)
  auditUnless deferAudit updated intent.status toState
  pure updated

def advanceAttempt (attempt : PaymentAttemptRecord) (trigger : AttemptTrigger) (guard : Option Guard := none) :
    KernelM PaymentAttemptRecord := do
  let toState ← Effect.attempt (resolved attemptTable attempt.status trigger guard)
  let updated := { attempt with status := toState, updatedAt := moment.now }
  writeStore (·.updateAttempt updated attempt.status)
  audit {
    eventType := "PAYMENT_STATE_TRANSITION", subjectType := "PaymentAttempt", subjectId := updated.attemptId
    fromState := some attempt.status.value, toState := toState.value
    payload := [("trigger", .str trigger.value)] }
  pure updated

def advanceRefund (refund : RefundRecord) (trigger : RefundTrigger) : KernelM RefundRecord := do
  let toState ← attempt (resolved refundTable refund.status trigger none)
  let updated := { refund with status := toState, updatedAt := moment.now }
  writeStore (·.updateRefund updated refund.status)
  audit {
    eventType := "PAYMENT_STATE_TRANSITION", subjectType := "Refund", subjectId := updated.refundId
    fromState := some refund.status.value, toState := toState.value
    payload := [("trigger", .str trigger.value)] }
  pure updated

/-! Ledger posting -/

def accountId (accountSubtype purposeTag : String) (ownerId : Option String := none) : Except KernelError String :=
  service.makeId "acct" [("owner_id", optional ownerId), ("account_subtype", .str accountSubtype),
    ("currency", .str "BDT"), ("purpose_tag", .str purposeTag)]

/-- The chart account a capture's gross leg debits, by rail. -/
def transitAccountFor : PaymentMethod → Except KernelError String
  | .npsbIbft => service.accountId "IN_TRANSIT" "npsb_transit"
  | .beftnCredit => service.accountId "IN_TRANSIT" "beftn_transit"
  | .banglaQr => service.accountId "IN_TRANSIT" "npsb_transit"
  | .bkash => service.accountId "CONNECTOR_CLEARING" "bkash_clearing"
  | .nagad => service.accountId "CONNECTOR_CLEARING" "nagad_clearing"
  | .rocket => service.accountId "CONNECTOR_CLEARING" "rocket_clearing"
  | .card => service.accountId "CONNECTOR_CLEARING" "card_clearing"

structure KernelAccounts where
  (inTransit mdrIncome merchantSettlement merchantHoldReserve : String)

def kernelAccounts (merchantId : String) (method : PaymentMethod) : Except KernelError KernelAccounts := do
  let inTransit ← service.transitAccountFor method
  let mdrIncome ← service.accountId "MDR_INCOME" "mdr_earned"
  let merchantSettlement ← service.accountId "MERCHANT_SETTLEMENT" "settlement_main" (some merchantId)
  let merchantHoldReserve ← service.accountId "MERCHANT_HOLD_RESERVE" "hold_reserve" (some merchantId)
  pure { inTransit, mdrIncome, merchantSettlement, merchantHoldReserve }

abbrev AccountsOf (intent : PaymentIntentRecord) (accounts : KernelAccounts) : Prop :=
  service.kernelAccounts intent.merchantId intent.method = .ok accounts

/-- The hold of an authorized amount. -/
abbrev KernelAccounts.hold (accounts : KernelAccounts) (amountMinor : Int) (paymentIntentId : String)
    (expiry : Option DateTime) : LedgerCall :=
  .openHold accounts.merchantSettlement amountMinor "PAYMENT_AUTHORIZATION" paymentIntentId accounts.inTransit
    accounts.merchantHoldReserve expiry

/-- A balanced entry of two legs; its idempotency key names what it is posted for. -/
def postEntry (referenceId referenceType entryType description keyField keyId debited credited : String)
    (amountMinor : Int) : KernelM Unit := do
  let idempotencyKey ← attempt (service.makeId "je" [(keyField, .str keyId), ("entry_type", .str entryType)])
  askLedger moment (.postJournalEntry {
    referenceId, referenceType, entryType, description, producedBy := producer, idempotencyKey
    postings := [⟨debited, "DEBIT", amountMinor, "BDT"⟩, ⟨credited, "CREDIT", amountMinor, "BDT"⟩] })

def postCapture (attempt : PaymentAttemptRecord) (accounts : KernelAccounts) :
    KernelM Unit :=
  service.postEntry moment intent.paymentIntentId "PAYMENT" "payment_captured" "payment captured" "attempt_id"
    attempt.attemptId accounts.inTransit accounts.merchantSettlement attempt.amountMinor

def postFee (attempt : PaymentAttemptRecord) (accounts : KernelAccounts)
    (feeMinor : Int) (feeRuleId : String) : KernelM Unit :=
  if 0 < feeMinor then
    service.postEntry moment intent.paymentIntentId "FEE" "fee_collected"
      s!"MDR fee collected at capture ({feeRuleId})" "attempt_id" attempt.attemptId
      accounts.merchantSettlement accounts.mdrIncome feeMinor
  else pure ()

def postReversalEntries (attempt : PaymentAttemptRecord) : KernelM Unit := do
  let accounts ← Effect.attempt (service.kernelAccounts intent.merchantId intent.method)
  service.postEntry moment intent.paymentIntentId "REVERSAL" "payment_reversed" "post-charge reversal" "attempt_id"
    attempt.attemptId accounts.merchantSettlement accounts.inTransit attempt.amountMinor

def postRefundEntries (refund : RefundRecord) : KernelM Unit := do
  let accounts ← attempt (service.kernelAccounts intent.merchantId intent.method)
  service.postEntry moment refund.refundId "REFUND" "refund_settled" "refund settled (new offsetting flow)"
    "refund_id" refund.refundId accounts.merchantSettlement accounts.inTransit refund.amountMinor

/-- The digest of a rail reference, cut into groups that no PII pattern matches. -/
def railRefProof (railTransactionId paymentIntentId : String) : Except KernelError String :=
  match sha256Canonical service.sha256 (.dict
    [("rail_transaction_id", .str railTransactionId), ("payment_intent_id", .str paymentIntentId)]) with
  | .ok digest => .ok ("rrh_" ++ String.intercalate "-" ((digest.toList.toChunks 8).map String.ofList))
  | .error error => .error (.canonical error)

/-- Money moved on the rail and did not reach the ledger: leave a trace of it. -/
def recordLedgerPostFailure (attempt : PaymentAttemptRecord) (error : KernelError) :
    KernelM Unit := do
  let proof ← Effect.attempt
    (service.railRefProof (attempt.railTransactionId.getD "") intent.paymentIntentId)
  service.emit moment "payment_intent.ledger_post_failed" intent
    [("payment_intent_id", .str intent.paymentIntentId), ("attempt_id", .str attempt.attemptId),
      ("merchant_id", .str intent.merchantId), ("amount_minor", .int attempt.amountMinor),
      ("method", .str intent.method.value), ("money_moved", .bool true), ("rail_ref_proof", .str proof),
      ("ledger_error", .str error.text)]
    "PaymentAttempt" (some attempt.attemptId)

def emitSucceeded (attempt : PaymentAttemptRecord) (feeMinor : Int)
    (feeRuleId : String) : KernelM Unit := do
  service.emitAttempt moment "payment_attempt.charged" intent attempt
  service.emit moment "payment_intent.succeeded" intent
    [("payment_intent_id", .str intent.paymentIntentId), ("merchant_id", .str intent.merchantId),
      ("amount_minor", .int attempt.amountMinor), ("method", .str intent.method.value),
      ("fee_minor", .int feeMinor), ("fee_rule_id", .str feeRuleId), ("succeeded_at", .datetime moment.now)]

def settleCharge (attempt : PaymentAttemptRecord) : KernelM PaymentIntentRecord := do
  service.requirePspLicense
  let accounts ← Effect.attempt (service.kernelAccounts intent.merchantId intent.method)
  let (feeMinor, feeRuleId) ← Effect.attempt (service.resolveCaptureFee intent attempt moment.now)
  onRaise
    (do
      service.postCapture moment intent attempt accounts
      service.postFee moment intent attempt accounts feeMinor feeRuleId)
    (service.recordLedgerPostFailure moment intent attempt)
  let intent ← advanceIntent moment { intent with succeededAt := some moment.now } .attemptCharged
  service.emitSucceeded moment intent attempt feeMinor feeRuleId
  pure intent

def openAuthorizationHold (attempt : PaymentAttemptRecord) : KernelM Unit := do
  let accounts ← Effect.attempt (service.kernelAccounts intent.merchantId intent.method)
  askLedger moment (accounts.hold attempt.amountMinor intent.paymentIntentId attempt.authExpiresAt)

def holdMissing : KernelError := .conflict "authorized intent has no open ledger hold" "authorization_hold_missing"

def settleAuthorizedCharge (attempt : PaymentAttemptRecord) :
    KernelM PaymentIntentRecord := do
  service.requirePspLicense
  let accounts ← Effect.attempt (service.kernelAccounts intent.merchantId intent.method)
  let (feeMinor, feeRuleId) ← Effect.attempt (service.resolveCaptureFee intent attempt moment.now)
  match ← openHold? intent.paymentIntentId with
  | none => throw holdMissing
  | some hold => do
      onRaise
        (do
          askLedger moment (.releaseHold hold "CAPTURED" (some attempt.amountMinor))
          service.postFee moment intent attempt accounts feeMinor feeRuleId)
        (service.recordLedgerPostFailure moment intent attempt)
      let intent ← advanceIntent moment { intent with succeededAt := some moment.now } .captureRequested
      service.emitSucceeded moment intent attempt feeMinor feeRuleId
      pure intent

end PaymentOrchestrator

end BdPay.Kernel
