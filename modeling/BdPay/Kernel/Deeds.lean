import BdPay.Data.Yield
import BdPay.Kernel.Runs

namespace BdPay.Kernel

open Platform Data Effect PaymentSystem

/-! Operations that are atomic, and what each of them does to the books.

The books are the payment store, the ledger and the holds that are open.  An
operation that returns has done some deeds, each of which moves an intent, its
attempts and the ledger together.
-/

/-- The coroutine that an event resumes is over, unless it suspends again. -/
def Event.remaining : Event → List Call → List Call
  | .answer index _, calls => calls.eraseIdx index
  | .wake index, calls => calls.eraseIdx index
  | _, calls => calls

namespace PaymentOrchestrator

variable (service : PaymentOrchestrator)

/-- The transaction of `confirm` whose pre-flight refuses: the refusal is raised after it committed. -/
def confirmRefused (moment : Moment) (paymentIntentId : String) (trigger : IntentTrigger) : KernelM Unit :=
  service.confirming moment paymentIntentId fun intent advanced => do
    auditTransition advanced (some intent.status) advanced.status
    service.failPreflight moment advanced trigger

/-- What an operation commits before it goes on to the rails. -/
def committed (step : Step) : KernelM Unit := do
  let moment := step.moment
  match step.event with
  | .confirm paymentIntentId preflight =>
    match preflight with
    | .raised => pure ()
    | .passed | .actionRequired => do let _ ← service.preflighted moment paymentIntentId preflight
    | .limitExceeded _ _ => service.confirmRefused moment paymentIntentId .limitExceeded
    | .sanctionsHit _ _ => service.confirmRefused moment paymentIntentId .sanctionsHit
    | .amlBlock _ _ => service.confirmRefused moment paymentIntentId .amlBlock
  | .completeAction paymentIntentId success => do let _ ← service.actionCompleted moment paymentIntentId success
  | .executeReversal paymentIntentId _ => do
      service.requirePspLicense
      let _ ← claimReversalDispatch moment paymentIntentId
  | .processRefund refundId => do
      service.requirePspLicense
      let refund ← requireRefund refundId
      let _ ← requireIntent refund.paymentIntentId
      let _ ← dispatchRefund moment refund
  | _ => pure ()

/-- With a transaction factory, a transaction that raises is rolled back; what the operation had committed before
stays, and so does what the rails and the runner have seen. -/
def atomically (step : Step) (system : PaymentSystem) : PaymentSystem :=
  match service.perform step system with
  | .ok _ reached => reached
  | .error _ reached =>
    let kept :=
      match service.committed step system with
      | .ok _ kept => kept
      | .error _ _ => system
    { kept with runner := reached.runner, history := reached.history, calls := step.event.remaining system.calls }

def atomicRun (system : PaymentSystem) (steps : List Step) : PaymentSystem :=
  steps.foldl (fun reached step => service.atomically step reached) system

end PaymentOrchestrator

structure Books where
  store : PaymentStore
  ledger : List LedgerCall
  openHolds : List String

def PaymentSystem.books (system : PaymentSystem) : Books := ⟨system.store, system.ports.ledger, system.ports.openHolds⟩

/-- What a ledger call is posted for. -/
def LedgerCall.reference : LedgerCall → String
  | .postJournalEntry spec => spec.referenceId
  | .openHold _ _ _ referenceId _ _ _ => referenceId
  | .releaseHold referenceId _ _ => referenceId

/-- Entries of refunds name the refund, all others the intent. -/
def LedgerCall.forRefund : LedgerCall → Bool
  | .postJournalEntry spec => spec.referenceType = "REFUND"
  | _ => false

namespace Books

variable (books : Books)

abbrev HasIntent := books.store.HasIntent

abbrev HasAttempt := books.store.HasAttempt

abbrev HasRefund := books.store.HasRefund

def putIntent (intent : PaymentIntentRecord) : Books := { books with store := books.store.putIntent intent }

def putAttempt (attempt : PaymentAttemptRecord) : Books := { books with store := books.store.putAttempt attempt }

def putRefund (refund : RefundRecord) : Books := { books with store := books.store.putRefund refund }

def log (call : LedgerCall) : Books :=
  { books with
    ledger := books.ledger ++ [call]
    openHolds := match call with
      | .postJournalEntry _ => books.openHolds
      | .openHold _ _ _ referenceId _ _ _ => books.openHolds ++ [referenceId]
      | .releaseHold referenceId _ _ => books.openHolds.filter (· ≠ referenceId) }

def refunded (paymentIntentId : String) : Int :=
  (((books.store.listRefunds paymentIntentId).filter (·.status = .refundSucceeded)).map (·.amountMinor)).sum

/-- What was posted for an intent, its refunds apart. -/
def posted (paymentIntentId : String) : List LedgerCall :=
  books.ledger.filter fun call => call.reference = paymentIntentId && !call.forRefund

/-- What was posted for a refund. -/
def postedRefund (refundId : String) : List LedgerCall :=
  books.ledger.filter fun call => call.reference = refundId && call.forRefund

end Books

/-! What stays the same about an intent and an attempt. -/

structure IntentTerms where
  (paymentIntentId merchantId : String)
  amountMinor : Int
  captureMethod : CaptureMethod
  (customerId idempotencyKey : Option String)

def PaymentIntentRecord.terms (intent : PaymentIntentRecord) : IntentTerms where
  paymentIntentId := intent.paymentIntentId
  merchantId := intent.merchantId
  amountMinor := intent.amountMinor
  captureMethod := intent.captureMethod
  customerId := intent.customerId
  idempotencyKey := intent.idempotencyKey

structure AttemptTerms where
  (attemptId paymentIntentId : String)
  attemptNumber : Nat
  amountMinor : Int

def PaymentAttemptRecord.terms (attempt : PaymentAttemptRecord) : AttemptTerms :=
  ⟨attempt.attemptId, attempt.paymentIntentId, attempt.attemptNumber, attempt.amountMinor⟩

structure RefundTerms where
  (refundId paymentIntentId : String)
  amountMinor : Int

def RefundRecord.terms (refund : RefundRecord) : RefundTerms :=
  ⟨refund.refundId, refund.paymentIntentId, refund.amountMinor⟩

/-- Where the money of an intent is the merchant's. -/
def settledStatuses : List IntentStatus := [.succeeded, .refundInitiated, .partiallyRefunded, .refunded]

/-- Statuses between which an intent moves while nothing is posted for it and no attempt of it changes. -/
def quietMoves : List (IntentStatus × IntentStatus) :=
  [(.created, .requiresPaymentMethod), (.created, .preFlight), (.created, .cancelled),
    (.requiresPaymentMethod, .requiresConfirmation), (.requiresPaymentMethod, .cancelled),
    (.requiresConfirmation, .preFlight), (.requiresConfirmation, .cancelled),
    (.preFlight, .processing), (.preFlight, .requiresAction), (.preFlight, .failed),
    (.requiresAction, .processing), (.requiresAction, .failed),
    (.processing, .reversalInitiated), (.requiresCapture, .reversalInitiated),
    (.reversalInitiated, .reversalPending), (.reversalPending, .reversalPending)]

/-- How an intent may be written: its terms stay, and once it is dispatched so does its method. -/
structure SameIntent (old new : PaymentIntentRecord) : Prop where
  terms : new.terms = old.terms
  method : old.status ∉ undispatched → new.method = old.method

/-- The last attempt of an intent, as `_latest_attempt` finds it. -/
def Books.latest (books : Books) (paymentIntentId : String) : Option PaymentAttemptRecord :=
  (books.store.listAttempts paymentIntentId).getLast?

/-! The entries the orchestrator posts. -/

namespace PaymentOrchestrator

variable (service : PaymentOrchestrator)

/-- An entry of two legs, whatever key it has. -/
structure Entry (call : LedgerCall) (referenceId referenceType entryType debited credited : String)
    (amountMinor : Int) : Prop where
  posted : ∃ description idempotencyKey, call = .postJournalEntry {
    referenceId, referenceType, entryType, description, producedBy := producer, idempotencyKey
    postings := [⟨debited, "DEBIT", amountMinor, "BDT"⟩, ⟨credited, "CREDIT", amountMinor, "BDT"⟩] }

/-- The fee that was collected with a capture: none, or a positive amount. -/
inductive FeePosted (accounts : KernelAccounts) (paymentIntentId : String) : Int → List LedgerCall → Prop
  | none : FeePosted accounts paymentIntentId 0 []
  | collected (feeMinor : Int) (call : LedgerCall) (positive : 0 < feeMinor)
      (entry : Entry call paymentIntentId "FEE" "fee_collected" accounts.merchantSettlement accounts.mdrIncome feeMinor) :
      FeePosted accounts paymentIntentId feeMinor [call]

end PaymentOrchestrator

open PaymentOrchestrator

/-- What a step may do that not every step may: charge an attempt that timed out, give a
reversal up while the hold is open, reverse an intent that was never sent, and capture. -/
structure Licence where
  (late stuck orphan : Prop)
  capture : String → Prop

/-- One thing an operation does to the books. -/
inductive Deed (service : PaymentOrchestrator) (licence : Licence) (books : Books) : Books → Prop
  | created (intent : PaymentIntentRecord) (fresh : books.store.intents.get? intent.paymentIntentId = none)
      (status : intent.status = .created)
      (unused : ∀ other, books.HasIntent other → other.merchantId = intent.merchantId →
        other.idempotencyKey ≠ intent.idempotencyKey) : Deed service licence books (books.putIntent intent)
  | moved (old new : PaymentIntentRecord) (stored : books.HasIntent old) (same : SameIntent old new)
      (quiet : new.status = old.status ∨ (old.status, new.status) ∈ quietMoves)
      (sent : old.status = .processing → new.status = .reversalInitiated →
        licence.orphan ∨ ∃ attempt, books.HasAttempt attempt ∧ attempt.paymentIntentId = old.paymentIntentId) :
      Deed service licence books (books.putIntent new)
  | opened (old new : PaymentIntentRecord) (attempt : PaymentAttemptRecord) (stored : books.HasIntent old)
      (same : SameIntent old new) (processing : old.status = .processing) (status : new.status = .processing)
      (fresh : books.store.attempts.get? attempt.attemptId = none) (pending : attempt.status = .authorizationPending)
      (owner : attempt.paymentIntentId = old.paymentIntentId) (amount : attempt.amountMinor = old.amountMinor)
      (spent : ∀ other, books.HasAttempt other → other.paymentIntentId = old.paymentIntentId →
        other.attemptNumber < attempt.attemptNumber ∧ other.status = .authorizationFailed) :
      Deed service licence books ((books.putAttempt attempt).putIntent new)
  | attemptKept (old new : PaymentAttemptRecord) (stored : books.HasAttempt old) (same : new.terms = old.terms)
      (status : new.status = old.status) : Deed service licence books (books.putAttempt new)
  | attemptEnded (old new : PaymentAttemptRecord) (before after : PaymentIntentRecord) (stored : books.HasAttempt old)
      (same : new.terms = old.terms) (waiting : old.status = .authorizationPending ∨ old.status = .timedOut)
      (ended : new.status = .authorizationFailed ∨ new.status = .timedOut ∨ new.status = .reversed)
      (owned : books.HasIntent before) (owner : before.paymentIntentId = old.paymentIntentId)
      (sameIntent : SameIntent before after) (processing : before.status = .processing)
      (status : after.status = .processing ∨ after.status = .failed ∨ after.status = .reversalInitiated) :
      Deed service licence books ((books.putAttempt new).putIntent after)
  | charged (old new : PaymentAttemptRecord) (before after : PaymentIntentRecord) (accounts : KernelAccounts)
      (capture : LedgerCall) (feeMinor : Int) (fees : List LedgerCall) (stored : books.HasAttempt old)
      (same : new.terms = old.terms) (waiting : old.status = .authorizationPending ∨ old.status = .timedOut)
      (status : new.status = .charged) (owned : books.HasIntent before)
      (owner : before.paymentIntentId = old.paymentIntentId) (sameIntent : SameIntent before after)
      (processing : before.status = .processing) (succeeded : after.status = .succeeded)
      (direct : before.captureMethod = .automatic ∨ licence.late)
      (resolved : service.AccountsOf before accounts)
      (entry : Entry capture before.paymentIntentId "PAYMENT" "payment_captured" accounts.inTransit
        accounts.merchantSettlement new.amountMinor)
      (fee : FeePosted accounts before.paymentIntentId feeMinor fees) :
      Deed service licence books ((fees.foldl Books.log ((books.putAttempt new).log capture)).putIntent after)
  | authorized (old new : PaymentAttemptRecord) (before after : PaymentIntentRecord) (accounts : KernelAccounts)
      (expiry : Option DateTime) (stored : books.HasAttempt old) (same : new.terms = old.terms)
      (waiting : old.status = .authorizationPending) (status : new.status = .authorized) (owned : books.HasIntent before)
      (owner : before.paymentIntentId = old.paymentIntentId) (sameIntent : SameIntent before after)
      (processing : before.status = .processing) (held : after.status = .requiresCapture)
      (resolved : service.AccountsOf before accounts) :
      Deed service licence books (((books.putAttempt new).log (accounts.hold new.amountMinor before.paymentIntentId
        expiry)).putIntent after)
  | captured (old new : PaymentAttemptRecord) (before after : PaymentIntentRecord) (accounts : KernelAccounts)
      (feeMinor : Int) (fees : List LedgerCall) (stored : books.HasAttempt old)
      (latest : books.latest before.paymentIntentId = some old)
      (same : new.terms = { old.terms with amountMinor := new.amountMinor }) (authorized : old.status = .authorized)
      (status : new.status = .charged) (owned : books.HasIntent before)
      (sameIntent : after.terms = { before.terms with amountMinor := after.amountMinor })
      (amounts : (after.amountMinor = before.amountMinor ∧ new.amountMinor = old.amountMinor) ∨
        after.amountMinor = new.amountMinor) (method : after.method = before.method)
      (waiting : before.status = .requiresCapture) (succeeded : after.status = .succeeded)
      (held : before.paymentIntentId ∈ books.openHolds) (asked : licence.capture before.paymentIntentId)
      (resolved : service.AccountsOf before accounts)
      (fee : FeePosted accounts before.paymentIntentId feeMinor fees) :
      Deed service licence books ((fees.foldl Books.log ((books.putAttempt new).log
        (.releaseHold before.paymentIntentId "CAPTURED" (some new.amountMinor)))).putIntent after)
  | voided (old new : PaymentAttemptRecord) (before after : PaymentIntentRecord) (stored : books.HasAttempt old)
      (latest : books.latest before.paymentIntentId = some old) (same : new.terms = old.terms)
      (authorized : old.status = .authorized) (status : new.status = .voided) (owned : books.HasIntent before)
      (sameIntent : SameIntent before after)
      (ends : (before.status = .requiresCapture ∧ after.status = .cancelled) ∨
        (before.status.Reversing ∧ after.status = .reversed))
      (held : before.paymentIntentId ∈ books.openHolds) :
      Deed service licence books
        (((books.log (.releaseHold before.paymentIntentId "VOIDED" none)).putAttempt new).putIntent after)
  | unheld (old new : PaymentAttemptRecord) (before after : PaymentIntentRecord) (stored : books.HasAttempt old)
      (latest : books.latest before.paymentIntentId = some old) (same : new.terms = old.terms)
      (authorized : old.status = .authorized) (status : new.status = .voided) (owned : books.HasIntent before)
      (sameIntent : SameIntent before after)
      (reversing : before.status.Reversing)
      (reversed : after.status = .reversed) (free : before.paymentIntentId ∉ books.openHolds) :
      Deed service licence books ((books.putAttempt new).putIntent after)
  | ended (before after : PaymentIntentRecord) (owned : books.HasIntent before) (sameIntent : SameIntent before after)
      (ends : (before.status = .requiresCapture ∧ after.status = .cancelled) ∨
        (before.status.Reversing ∧ after.status = .reversed))
      (unauthorized : ∀ attempt, books.latest before.paymentIntentId = some attempt → attempt.status ≠ .authorized) :
      Deed service licence books (books.putIntent after)
  | uncharged (old new : PaymentAttemptRecord) (before after : PaymentIntentRecord) (accounts : KernelAccounts)
      (reversal : LedgerCall) (stored : books.HasAttempt old) (latest : books.latest before.paymentIntentId = some old)
      (same : new.terms = old.terms) (charged : old.status = .charged) (status : new.status = .reversed)
      (owned : books.HasIntent before) (sameIntent : SameIntent before after)
      (reversing : before.status.Reversing)
      (reversed : after.status = .reversed)
      (resolved : service.AccountsOf before accounts)
      (entry : Entry reversal before.paymentIntentId "REVERSAL" "payment_reversed" accounts.merchantSettlement
        accounts.inTransit new.amountMinor) :
      Deed service licence books (((books.putAttempt new).log reversal).putIntent after)
  | unreversed (before after : PaymentIntentRecord) (owned : books.HasIntent before) (sameIntent : SameIntent before after)
      (reversing : before.status.Reversing)
      (failed : after.status = .failed) (stuck : before.paymentIntentId ∈ books.openHolds → licence.stuck) :
      Deed service licence books (books.putIntent after)
  | refundOpened (before after : PaymentIntentRecord) (refund : RefundRecord) (owned : books.HasIntent before)
      (sameIntent : SameIntent before after)
      (refundable : before.status = .succeeded ∨ before.status = .partiallyRefunded)
      (initiated : after.status = .refundInitiated) (fresh : books.store.refunds.get? refund.refundId = none)
      (owner : refund.paymentIntentId = before.paymentIntentId) (status : refund.status = .refundInitiated) :
      Deed service licence books ((books.putRefund refund).putIntent after)
  | refundKept (old new : RefundRecord) (stored : books.HasRefund old) (same : new.terms = old.terms)
      (waiting : old.status = .refundInitiated ∨ old.status = .refundPendingConnector)
      (status : new.status = .refundPendingConnector) : Deed service licence books (books.putRefund new)
  | refundFailed (old new : RefundRecord) (before after : PaymentIntentRecord) (refunded : Int) (stored : books.HasRefund old)
      (same : new.terms = old.terms) (waiting : old.status = .refundPendingConnector) (status : new.status = .refundFailed)
      (owned : books.HasIntent before) (owner : old.paymentIntentId = before.paymentIntentId)
      (sameIntent : SameIntent before after) (initiated : before.status = .refundInitiated)
      (total : refunded = (books.putRefund new).refunded before.paymentIntentId)
      (back : after.status = if 0 < refunded then .partiallyRefunded else .succeeded) :
      Deed service licence books ((books.putRefund new).putIntent after)
  | refundSettled (old new : RefundRecord) (before after : PaymentIntentRecord) (accounts : KernelAccounts)
      (entry : LedgerCall) (already refunded : Int) (stored : books.HasRefund old) (same : new.terms = old.terms)
      (waiting : old.status = .refundPendingConnector) (status : new.status = .refundSucceeded)
      (owned : books.HasIntent before) (owner : old.paymentIntentId = before.paymentIntentId)
      (sameIntent : SameIntent before after)
      (initiated : before.status = .refundInitiated ∨ before.status = .partiallyRefunded)
      (earlier : already = books.refunded before.paymentIntentId)
      (within : already + old.amountMinor ≤ before.amountMinor)
      (total : refunded = (books.putRefund new).refunded before.paymentIntentId)
      (ends : after.status = if before.amountMinor ≤ refunded then .refunded else .partiallyRefunded)
      (resolved : service.AccountsOf before accounts)
      (posted : Entry entry new.refundId "REFUND" "refund_settled" accounts.merchantSettlement accounts.inTransit
        new.amountMinor) :
      Deed service licence books (((books.putRefund new).log entry).putIntent after)

end BdPay.Kernel
