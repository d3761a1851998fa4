import BdPay.Kernel.PaymentStates
import BdPay.Connectors.Runner

namespace BdPay.Kernel

open Platform Data Connectors

/-! The kernel's records and the in-memory payment store.

A record validates itself when it is built, so its fields carry what the
validation established; the currency is always BDT and is not kept.
-/

inductive KernelError where
  | invalidRequest (message code : String)
  | notFound (message : String)
  | conflict (message code : String)
  | idempotencyConflict (message : String)
  | limitExceeded (message code : String)
  | sanctionsBlock (message code : String)
  | amlBlock (message code : String)
  | connector (message code : String)
  | transitionDenied (denied : TransitionDenied)
  | runner (error : RunnerError)
  | ident (error : IdError)
  | canonical (error : CanonicalError)
  | port (message : String)
  | overflow | retriesSpent
deriving DecidableEq

/-- The class and the message, as a log line quotes them. -/
def KernelError.text : KernelError → String
  | .invalidRequest message _ => "InvalidRequestError: " ++ message
  | .notFound message => "NotFoundError: " ++ message
  | .conflict message _ => "ConflictError: " ++ message
  | .idempotencyConflict message => "IdempotencyConflictError: " ++ message
  | .limitExceeded message _ => "LimitExceededError: " ++ message
  | .sanctionsBlock message _ => "SanctionsBlockError: " ++ message
  | .amlBlock message _ => "AmlBlockError: " ++ message
  | .connector message _ => "ConnectorError: " ++ message
  | .transitionDenied denied => "TransitionDeniedError: " ++ denied.message
  | .runner (.unknownConnector message) => "UnknownConnectorError: " ++ message
  | .runner (.retryForbidden message) => "RetryForbiddenError: " ++ message
  | .runner (.canonical error) => "CanonicalError: " ++ error.message
  | .ident (.unknownPrefix label) => "IdPrefixError: " ++ label
  | .ident (.canonical error) => "CanonicalError: " ++ error.message
  | .canonical error => "CanonicalError: " ++ error.message
  | .port message => "LedgerError: " ++ message
  | .overflow => "OverflowError: date value out of range"
  | .retriesSpent => "RecursionError"

def maxMetadataKeys : Nat := 10

def maxMetadataValueLength : Nat := 64

/-- At most ten keys, and at most 64 characters a value. -/
def MetadataValid (metadata : Dict String String) : Prop :=
  metadata.size ≤ maxMetadataKeys ∧ ∀ value ∈ metadata.values, value.length ≤ maxMetadataValueLength

instance (metadata : Dict String String) : Decidable (MetadataValid metadata) :=
  inferInstanceAs (Decidable (_ ∧ _))

def metadataInvalid (metadata : Dict String String) : KernelError :=
  if maxMetadataKeys < metadata.size then
    .invalidRequest s!"metadata allows at most {maxMetadataKeys} keys" "metadata_invalid"
  else .invalidRequest s!"metadata values are capped at {maxMetadataValueLength} chars" "metadata_invalid"

structure PaymentIntentRecord where
  (paymentIntentId merchantId : String)
  amountMinor : Int
  positive : 0 < amountMinor
  method : PaymentMethod
  (expiresAt createdAt updatedAt : DateTime)
  customerId : Option String
  captureMethod : CaptureMethod
  status : IntentStatus
  (description statementDescriptor : Option String)
  metadata : Dict String String
  metadataValid : MetadataValid metadata
  (idempotencyKey clientSecretHash : Option String)
  latestAttemptId : Option String := none
  succeededAt : Option DateTime := none
  deliveryConfirmedAt : Option DateTime := none
  cancelledAt : Option DateTime := none
  reversedAt : Option DateTime := none
  deferredUntil : Option DateTime := none

structure PaymentAttemptRecord where
  (attemptId paymentIntentId : String)
  attemptNumber : Nat
  numbered : 1 ≤ attemptNumber ∧ attemptNumber ≤ 10
  (connectorId instructionId connectorRef : String)
  amountMinor : Int
  positive : 0 < amountMinor
  (createdAt updatedAt : DateTime)
  status : AttemptStatus := .started
  railTransactionId : Option String := none
  errorCode : Option String := none
  rawResponseHash : Option String := none
  pollCount : Nat := 0
  authorizedAt : Option DateTime := none
  authExpiresAt : Option DateTime := none
  chargedAt : Option DateTime := none
  failedAt : Option DateTime := none
deriving DecidableEq

structure RefundRecord where
  (refundId paymentIntentId attemptId : String)
  amountMinor : Int
  positive : 0 < amountMinor
  reason : RefundReason
  (createdAt updatedAt : DateTime)
  status : RefundStatus := .refundInitiated
  (connectorId connectorRef instructionId : Option String)
  railTransactionId : Option String := none
  rawResponseHash : Option String := none
  retryCount : Nat := 0
  idempotencyKey : Option String
  succeededAt : Option DateTime := none
  failedAt : Option DateTime := none
deriving DecidableEq

structure PaymentStore where
  intents : Dict String PaymentIntentRecord
  attempts : Dict String PaymentAttemptRecord
  refunds : Dict String RefundRecord

/-- Intent states swept by the TTL task. -/
def ttlSweepStates : List IntentStatus :=
  [.created, .requiresPaymentMethod, .requiresConfirmation, .preFlight, .requiresAction, .processing,
    .requiresCapture]

/-- Before its first dispatch an intent has no attempt. -/
def undispatched : List IntentStatus :=
  [.created, .requiresPaymentMethod, .requiresConfirmation, .preFlight, .requiresAction]

namespace PaymentStore

variable (store : PaymentStore)

def empty : PaymentStore := ⟨.empty, .empty, .empty⟩

def HasIntent (intent : PaymentIntentRecord) : Prop := store.intents.get? intent.paymentIntentId = some intent

def HasAttempt (attempt : PaymentAttemptRecord) : Prop := store.attempts.get? attempt.attemptId = some attempt

instance (attempt : PaymentAttemptRecord) : Decidable (store.HasAttempt attempt) := inferInstanceAs (Decidable (_ = _))

def HasRefund (refund : RefundRecord) : Prop := store.refunds.get? refund.refundId = some refund

instance (refund : RefundRecord) : Decidable (store.HasRefund refund) := inferInstanceAs (Decidable (_ = _))

def putIntent (intent : PaymentIntentRecord) : PaymentStore :=
  { store with intents := store.intents.set intent.paymentIntentId intent }

def putAttempt (attempt : PaymentAttemptRecord) : PaymentStore :=
  { store with attempts := store.attempts.set attempt.attemptId attempt }

def putRefund (refund : RefundRecord) : PaymentStore :=
  { store with refunds := store.refunds.set refund.refundId refund }

/-- Writes a row over the one with its id, if that has the status the caller saw; every caller passes one. -/
def replaced {ρ σ : Type} [DecidableEq σ] (rows : Dict String ρ) (id : String) (status : ρ → σ) (expected : σ)
    (label stale : String) (written : PaymentStore) : Except KernelError PaymentStore :=
  match rows.get? id with
  | none => .error (.notFound s!"unknown {label} {id}")
  | some current =>
    if status current ≠ expected then .error (.conflict s!"stale {stale} transition" "stale_state_transition")
    else .ok written

def findIntentByIdempotencyKey (merchantId idempotencyKey : String) : Option PaymentIntentRecord :=
  store.intents.values.find? fun record =>
    record.merchantId = merchantId ∧ record.idempotencyKey = some idempotencyKey

def insertIntent (record : PaymentIntentRecord) : Except KernelError PaymentStore :=
  if store.intents.contains record.paymentIntentId then
    .error (.conflict s!"intent {record.paymentIntentId} already exists" "duplicate_intent")
  else if record.idempotencyKey.any fun key => (store.findIntentByIdempotencyKey record.merchantId key).isSome then
    .error (.conflict "idempotency_key already used for this merchant" "duplicate_idempotency_key")
  else .ok (store.putIntent record)

def updateIntent (record : PaymentIntentRecord) (expectedStatus : IntentStatus) : Except KernelError PaymentStore :=
  replaced store.intents record.paymentIntentId PaymentIntentRecord.status expectedStatus "intent" "payment intent"
    (store.putIntent record)

def listExpiredIntents (now : DateTime) : List PaymentIntentRecord :=
  (store.intents.values.filter fun record => record.status ∈ ttlSweepStates ∧ record.expiresAt ≤ now).insertionSort
    fun first second => first.createdAt ≤ second.createdAt

def insertAttempt (record : PaymentAttemptRecord) : Except KernelError PaymentStore :=
  if store.attempts.contains record.attemptId then
    .error (.conflict s!"attempt {record.attemptId} already exists" "conflict")
  else if store.attempts.values.any fun other => other.connectorRef == record.connectorRef then
    .error (.conflict "connector_ref must be unique" "duplicate_connector_ref")
  else
    let attempts := store.attempts.set record.attemptId record
    match store.intents.get? record.paymentIntentId with
    | none => .ok { store with attempts }
    | some intent =>
      let latest := { intent with latestAttemptId := some record.attemptId }
      .ok { store with attempts, intents := store.intents.set record.paymentIntentId latest }

def findAttemptByConnectorRef (connectorId connectorRef : String) : Option PaymentAttemptRecord :=
  store.attempts.values.find? fun attempt => attempt.connectorId = connectorId ∧ attempt.connectorRef = connectorRef

def updateAttempt (record : PaymentAttemptRecord) (expectedStatus : AttemptStatus) :
    Except KernelError PaymentStore :=
  replaced store.attempts record.attemptId PaymentAttemptRecord.status expectedStatus "attempt" "payment attempt"
    (store.putAttempt record)

def listAttempts (paymentIntentId : String) : List PaymentAttemptRecord :=
  (store.attempts.values.filter fun attempt => attempt.paymentIntentId = paymentIntentId).insertionSort
    fun first second => first.attemptNumber ≤ second.attemptNumber

def findRefundByIdempotencyKey (paymentIntentId idempotencyKey : String) : Option RefundRecord :=
  store.refunds.values.find? fun refund =>
    refund.paymentIntentId = paymentIntentId ∧ refund.idempotencyKey = some idempotencyKey

def insertRefund (record : RefundRecord) : Except KernelError PaymentStore :=
  if store.refunds.contains record.refundId then
    .error (.conflict s!"refund {record.refundId} already exists" "conflict")
  else if record.idempotencyKey.any fun key =>
      (store.findRefundByIdempotencyKey record.paymentIntentId key).isSome then
    .error (.conflict "idempotency_key already used for this refund" "duplicate_idempotency_key")
  else .ok (store.putRefund record)

def findRefundByConnectorRef (connectorId connectorRef : String) : Option RefundRecord :=
  store.refunds.values.find? fun refund =>
    refund.connectorId = some connectorId ∧ refund.connectorRef = some connectorRef

def updateRefund (record : RefundRecord) (expectedStatus : RefundStatus) : Except KernelError PaymentStore :=
  replaced store.refunds record.refundId RefundRecord.status expectedStatus "refund" "refund" (store.putRefund record)

def listRefunds (paymentIntentId : String) : List RefundRecord :=
  (store.refunds.values.filter fun refund => refund.paymentIntentId = paymentIntentId).insertionSort
    fun first second => first.createdAt ≤ second.createdAt

variable {store} {id : String}

@[simp] theorem attempts_putIntent : (store.putIntent intent).attempts = store.attempts := rfl

@[simp] theorem refunds_putIntent : (store.putIntent intent).refunds = store.refunds := rfl

@[simp] theorem intents_putAttempt : (store.putAttempt attempt).intents = store.intents := rfl

@[simp] theorem refunds_putAttempt : (store.putAttempt attempt).refunds = store.refunds := rfl

theorem replaced_ok {ρ σ : Type} [DecidableEq σ] {rows : Dict String ρ} {status : ρ → σ} {expected : σ}
    (updated : replaced rows id status expected label stale written = .ok next) :
    ∃ old, rows.get? id = some old ∧ status old = expected ∧ next = written := by
  unfold replaced at updated
  cases found : rows.get? id with
  | none => simp [found] at updated
  | some old =>
    simp only [found] at updated
    split_ifs at updated with current
    cases updated
    exact ⟨old, rfl, not_not.mp current, rfl⟩

theorem HasIntent.unique (left : store.HasIntent first) (right : store.HasIntent second)
    (same : first.paymentIntentId = second.paymentIntentId) : first = second :=
  Dict.row_unique PaymentIntentRecord.paymentIntentId left right same

theorem HasAttempt.unique (left : store.HasAttempt first) (right : store.HasAttempt second)
    (same : first.attemptId = second.attemptId) : first = second :=
  Dict.row_unique PaymentAttemptRecord.attemptId left right same

theorem HasIntent.ne_of_fresh (stored : store.HasIntent intent) (fresh : store.intents.get? id = none) :
    intent.paymentIntentId ≠ id := by
  rintro rfl
  exact Option.some_ne_none _ (stored.symm.trans fresh)

theorem HasAttempt.ne_of_fresh (stored : store.HasAttempt attempt) (fresh : store.attempts.get? id = none) :
    attempt.attemptId ≠ id := by
  rintro rfl
  exact Option.some_ne_none _ (stored.symm.trans fresh)

end PaymentStore

section

variable {store : PaymentStore}

theorem hasIntent_putIntent : (store.putIntent written).HasIntent intent ↔
    intent = written ∨ (store.HasIntent intent ∧ intent.paymentIntentId ≠ written.paymentIntentId) :=
  Dict.get?_set_row PaymentIntentRecord.paymentIntentId

theorem hasAttempt_putAttempt {written attempt : PaymentAttemptRecord} : (store.putAttempt written).HasAttempt attempt ↔
    attempt = written ∨ (store.HasAttempt attempt ∧ attempt.attemptId ≠ written.attemptId) :=
  Dict.get?_set_row PaymentAttemptRecord.attemptId

theorem hasRefund_putRefund : (store.putRefund written).HasRefund refund ↔
    refund = written ∨ (store.HasRefund refund ∧ refund.refundId ≠ written.refundId) :=
  Dict.get?_set_row RefundRecord.refundId

variable {next : PaymentStore}

theorem hasIntent_of_eq (same : next.intents = store.intents) : next.HasIntent row ↔ store.HasIntent row := by
  rw [PaymentStore.HasIntent, same, PaymentStore.HasIntent]

theorem hasAttempt_of_eq (same : next.attempts = store.attempts) {row : PaymentAttemptRecord} :
    next.HasAttempt row ↔ store.HasAttempt row := by
  rw [PaymentStore.HasAttempt, same, PaymentStore.HasAttempt]

theorem hasIntent_of_put (put : next.intents = (store.putIntent written).intents) :
    next.HasIntent row ↔ row = written ∨ (store.HasIntent row ∧ row.paymentIntentId ≠ written.paymentIntentId) :=
  (hasIntent_of_eq put).trans hasIntent_putIntent

theorem hasAttempt_of_put {written row : PaymentAttemptRecord}
    (put : next.attempts = (store.putAttempt written).attempts) :
    next.HasAttempt row ↔ row = written ∨ (store.HasAttempt row ∧ row.attemptId ≠ written.attemptId) :=
  (hasAttempt_of_eq put).trans hasAttempt_putAttempt

namespace PaymentStore

/-- Attempts under their own keys; those of one intent are told apart by their numbers, and each that
another one follows is spent. -/
structure Ranked (store : PaymentStore) (spent : PaymentAttemptRecord → Prop) : Prop where
  keys : ∀ {id attempt}, store.attempts.get? id = some attempt → attempt.attemptId = id
  numbers : ∀ {first second}, store.HasAttempt first → store.HasAttempt second →
    first.paymentIntentId = second.paymentIntentId → first.attemptNumber = second.attemptNumber →
      first.attemptId = second.attemptId
  passed : ∀ {first second}, store.HasAttempt first → store.HasAttempt second →
    first.paymentIntentId = second.paymentIntentId → first.attemptNumber < second.attemptNumber → spent first

variable {spent still : PaymentAttemptRecord → Prop} (ranked : store.Ranked spent)
include ranked

theorem Ranked.moved (keys : ∀ {id attempt}, next.attempts.get? id = some attempt → attempt.attemptId = id)
    (origin : ∀ {attempt}, next.HasAttempt attempt → ∃ earlier, store.HasAttempt earlier ∧
      attempt.attemptId = earlier.attemptId ∧ attempt.paymentIntentId = earlier.paymentIntentId ∧
      attempt.attemptNumber = earlier.attemptNumber ∧ (spent earlier → still attempt)) : next.Ranked still where
  keys := keys
  numbers := by
    intro first second inFirst inSecond owner number
    obtain ⟨_, was, sameId, sameOwner, sameNumber, -⟩ := origin inFirst
    obtain ⟨_, wasToo, otherId, otherOwner, otherNumber, -⟩ := origin inSecond
    rw [sameId, otherId]
    exact ranked.numbers was wasToo (by rw [← sameOwner, ← otherOwner, owner]) (by omega)
  passed := by
    intro first second inFirst inSecond owner less
    obtain ⟨_, was, -, sameOwner, sameNumber, stays⟩ := origin inFirst
    obtain ⟨_, wasToo, -, otherOwner, otherNumber, -⟩ := origin inSecond
    exact stays (ranked.passed was wasToo (by rw [← sameOwner, ← otherOwner, owner]) (by omega))

theorem Ranked.opened {attempt : PaymentAttemptRecord} (put : next.attempts = (store.putAttempt attempt).attempts)
    (behind : ∀ other, store.HasAttempt other → other.paymentIntentId = attempt.paymentIntentId →
      other.attemptNumber < attempt.attemptNumber ∧ spent other) : next.Ranked spent where
  keys := fun found => Dict.forall_set ranked.keys rfl (put ▸ found)
  numbers := by
    intro first second inFirst inSecond owner number
    rcases (hasAttempt_of_put put).mp inFirst with rfl | ⟨was, -⟩ <;>
      rcases (hasAttempt_of_put put).mp inSecond with rfl | ⟨wasToo, -⟩
    · rfl
    · have earlier := (behind second wasToo owner.symm).1
      omega
    · have earlier := (behind first was owner).1
      omega
    · exact ranked.numbers was wasToo owner number
  passed := by
    intro first second inFirst inSecond owner less
    rcases (hasAttempt_of_put put).mp inFirst with rfl | ⟨was, -⟩ <;>
      rcases (hasAttempt_of_put put).mp inSecond with rfl | ⟨wasToo, -⟩
    · omega
    · have earlier := (behind second wasToo owner.symm).1
      omega
    · exact (behind first was owner).2
    · exact ranked.passed was wasToo owner less

end PaymentStore

end

end BdPay.Kernel
