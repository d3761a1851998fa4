import BdPay.Kernel.Runs
import BdPay.Data.Guarantee

namespace BdPay.Kernel

open Platform Data Effect Connectors PaymentSystem

/-! What one write of the payment system can be.

Every operation is a sequence of these writes, and each of them says under which
circumstances it is made.  What holds along all runs is read off this list.
-/

/-- What identifies an attempt, to the kernel and to the adapters; no write changes it. -/
def PaymentAttemptRecord.identity (attempt : PaymentAttemptRecord) :
    String × String × Nat × String × String × String :=
  (attempt.attemptId, attempt.paymentIntentId, attempt.attemptNumber, attempt.connectorId, attempt.instructionId,
    attempt.connectorRef)

def RefundRecord.identity (refund : RefundRecord) :
    String × String × String × Option String × Option String :=
  (refund.refundId, refund.paymentIntentId, refund.attemptId, refund.connectorId, refund.connectorRef)

namespace PaymentSystem

variable (system : PaymentSystem)

abbrev HasIntent := system.store.HasIntent

abbrev HasAttempt := system.store.HasAttempt

abbrev HasRefund := system.store.HasRefund

def putIntent (intent : PaymentIntentRecord) : PaymentSystem := { system with store := system.store.putIntent intent }

def putAttempt (attempt : PaymentAttemptRecord) : PaymentSystem :=
  { system with store := system.store.putAttempt attempt }

def putRefund (refund : RefundRecord) : PaymentSystem := { system with store := system.store.putRefund refund }

end PaymentSystem

/-- The kernel was told a status for a call it made on behalf of an attempt. -/
def Observation.Tells (purpose : Purpose) (attempt : PaymentAttemptRecord) (status : ConnectorStatus) :
    Observation → Prop
  | .answered asked ref outcome => asked = purpose ∧ ref = attempt.connectorRef ∧ outcome.status = status
  | .refused asked ref _ => asked = purpose ∧ ref = attempt.connectorRef ∧ status = .failed
  | .replayed ref result => purpose = .submit ∧ ref = attempt.connectorRef ∧ result.status = status
  -- A callback is taken for a submit while the attempt waits, and for a poll once it timed out.
  | .calledBack connectorId result =>
    (purpose = .submit ∨ purpose = .poll) ∧ connectorId = attempt.connectorId ∧
      result.connectorRef = attempt.connectorRef ∧ result.instructionId = attempt.instructionId ∧
      result.status = status
  | .invoked _ _ => False

variable (system : PaymentSystem)

def PaymentSystem.Told (purpose : Purpose) (attempt : PaymentAttemptRecord)
    (status : ConnectorStatus) : Prop :=
  ∃ observation ∈ system.history, observation.Tells purpose attempt status

/-- Where an intent is given up for reversal, or ended by one. -/
def reversalPath : List IntentStatus := [.reversalInitiated, .reversalPending, .reversed, .failed]

/-- The statuses of an attempt whose outcome is not known. -/
def openAttempts : List AttemptStatus := [.started, .authenticationPending, .authorizationPending, .timedOut]

/-- The statuses on which a poll fails an attempt. -/
def pollFailures : List ConnectorStatus := [.failed, .rejected, .timedOut]

/-- The statuses on which a reversal fails its intent. -/
def reversalFailures : List ConnectorStatus := [.pending, .failed, .rejected, .timedOut]

/-- The last attempt of an intent failed for good: it was rejected, or it was the last one allowed. -/
def HardDeclined (paymentIntentId : String) : Prop :=
  ∃ attempt, system.HasAttempt attempt ∧ attempt.paymentIntentId = paymentIntentId ∧
    attempt.status = .authorizationFailed ∧
    (∀ other, system.HasAttempt other → other.paymentIntentId = paymentIntentId →
      other.attemptNumber ≤ attempt.attemptNumber) ∧
    (system.Told .submit attempt .rejected ∨
      (system.Told .submit attempt .failed ∧ maxAttemptsPerIntent ≤ attempt.attemptNumber))

/-- A reversal of one of the intent's attempts did not come back confirmed. -/
def ReversalFailed (paymentIntentId : String) : Prop :=
  ∃ attempt, system.HasAttempt attempt ∧ attempt.paymentIntentId = paymentIntentId ∧
    ∃ status ∈ reversalFailures, system.Told .reversal attempt status

/-- How a stored intent may change. -/
structure IntentMoves (system : PaymentSystem) (old new : PaymentIntentRecord) : Prop where
  same : new.paymentIntentId = old.paymentIntentId
  declared : new.status = old.status ∨
    ∃ rule ∈ intentRules, rule.fromState = old.status ∧ rule.toState = new.status
  declined : old.status = .processing → new.status = .failed → HardDeclined system old.paymentIntentId
  unreversed : old.status.Reversing → new.status = .failed →
    ReversalFailed system old.paymentIntentId
  charged : old.status = .processing → new.status = .succeeded ∨ new.status = .requiresCapture →
    ∃ attempt, system.HasAttempt attempt ∧ attempt.paymentIntentId = old.paymentIntentId ∧
      (attempt.status = .charged ∨ attempt.status = .authorized)

/-- What a poll has to show for before it ends a timed-out attempt. -/
def PollSpent (attempt : PaymentAttemptRecord) : Prop :=
  (∃ status ∈ pollFailures, system.Told .poll attempt status) ∨ maxStatusPolls ≤ attempt.pollCount

/-- The kernel was told that the rail has, or had, the money. -/
def Settled (attempt : PaymentAttemptRecord) : Prop :=
  system.Told .submit attempt .success ∨ system.Told .poll attempt .success ∨ system.Told .poll attempt .reversed

/-- How a stored attempt may change on its own. -/
structure AttemptMoves (system : PaymentSystem) (old new : PaymentAttemptRecord) : Prop where
  same : new.identity = old.identity
  declared : new.status = old.status ∨
    ∃ rule ∈ attemptRules, rule.fromState = old.status ∧ rule.toState = new.status
  ended : old.status = .timedOut → new.status = .authorizationFailed →
    PollSpent system new ∧ ∀ intent, system.HasIntent intent → intent.paymentIntentId = old.paymentIntentId →
      intent.status ≠ .processing
  counted : maxStatusPolls ≤ new.pollCount →
    maxStatusPolls ≤ old.pollCount ∨ (old.status = .timedOut ∧ new.status = .authorizationFailed)
  stands : old.status = .authorizationFailed → new.pollCount = old.pollCount
  heard : old.status ∈ openAttempts → new.status ∉ openAttempts → new.status = .authorizationFailed ∨ Settled system new

/-- A poll that ends a timed-out attempt moves its intent in the same operation. -/
structure PollEnds (system : PaymentSystem) (old new : PaymentAttemptRecord) (before after : PaymentIntentRecord) :
    Prop where
  same : new.identity = old.identity
  timedOut : old.status = .timedOut
  failed : new.status = .authorizationFailed
  owner : before.paymentIntentId = old.paymentIntentId
  kept : after.paymentIntentId = before.paymentIntentId
  processing : before.status = .processing
  ends : (after.status = .failed ∧ new.pollCount = old.pollCount ∧
      ∃ status ∈ pollFailures, system.Told .poll new status) ∨
    (after.status = .reversalInitiated ∧ maxStatusPolls ≤ new.pollCount)

/-- When a new attempt may be opened. -/
structure Opens (service : PaymentOrchestrator) (system : PaymentSystem) (attempt : PaymentAttemptRecord) :
    Prop where
  freshId : system.store.attempts.get? attempt.attemptId = none
  freshRef : ∀ other, system.HasAttempt other → other.connectorRef ≠ attempt.connectorRef
  started : attempt.status = .started
  unpolled : attempt.pollCount = 0
  processing : ∃ intent, system.HasIntent intent ∧ intent.paymentIntentId = attempt.paymentIntentId ∧
    intent.status = .processing
  spent : ∀ other, system.HasAttempt other → other.paymentIntentId = attempt.paymentIntentId →
    other.attemptNumber < attempt.attemptNumber ∧ other.status = .authorizationFailed ∧
      system.Told .submit other .failed
  follows : attempt.attemptNumber = 1 ∨
    ∃ other, system.HasAttempt other ∧ other.paymentIntentId = attempt.paymentIntentId
  minted : service.makeKernelId "cref"
    [("attempt_id", .str attempt.attemptId), ("connector_id", .str attempt.connectorId)] = .ok attempt.connectorRef

/-- When a refund may be opened. -/
structure OpensRefund (service : PaymentOrchestrator) (system : PaymentSystem) (refund : RefundRecord) : Prop where
  freshId : system.store.refunds.get? refund.refundId = none
  initiated : refund.status = .refundInitiated
  unsettled : refund.railTransactionId = none
  minted : ∃ charged ref, system.HasAttempt charged ∧ charged.attemptId = refund.attemptId ∧
    charged.paymentIntentId = refund.paymentIntentId ∧ refund.connectorId = some charged.connectorId ∧
    refund.connectorRef = some ref ∧ service.makeKernelId "cref"
      [("refund_id", .str refund.refundId), ("connector_id", .str charged.connectorId)] = .ok ref

structure RefundMoves (old new : RefundRecord) : Prop where
  same : new.identity = old.identity
  final : old.status = .refundSucceeded → new.status = .refundSucceeded
  kept : new.railTransactionId = old.railTransactionId ∨ new.status = .refundSucceeded

/-- A write of the payment store or of a port. -/
inductive StoreWrite (service : PaymentOrchestrator) : PaymentSystem → PaymentSystem → Prop where
  | ports {system : PaymentSystem} (ports : Ports) : StoreWrite service system { system with ports }
  | intentCreated {system : PaymentSystem} {intent : PaymentIntentRecord}
      (fresh : system.store.intents.get? intent.paymentIntentId = none) (created : intent.status = .created) :
      StoreWrite service system (system.putIntent intent)
  | intentMoved {system : PaymentSystem} {old new : PaymentIntentRecord} (stored : system.HasIntent old)
      (moves : IntentMoves system old new) : StoreWrite service system (system.putIntent new)
  | attemptOpened {system : PaymentSystem} {attempt : PaymentAttemptRecord} (opens : Opens service system attempt) :
      StoreWrite service system (system.putAttempt attempt)
  | attemptMoved {system : PaymentSystem} {old new : PaymentAttemptRecord} (stored : system.HasAttempt old)
      (moves : AttemptMoves system old new) : StoreWrite service system (system.putAttempt new)
  | pollEnded {system : PaymentSystem} {old new : PaymentAttemptRecord} {before after : PaymentIntentRecord}
      (stored : system.HasAttempt old) (owner : system.HasIntent before)
      (ends : PollEnds system old new before after) :
      StoreWrite service system ((system.putAttempt new).putIntent after)
  | refundOpened {system : PaymentSystem} {refund : RefundRecord} (opens : OpensRefund service system refund) :
      StoreWrite service system (system.putRefund refund)
  | refundMoved {system : PaymentSystem} {old new : RefundRecord} (stored : system.HasRefund old)
      (moves : RefundMoves old new) : StoreWrite service system (system.putRefund new)

/-- What is taken for granted about a run: whether submits end in a verdict when
they fail, whether polls are answered by the rail, and whether the breaker lets
first submits, polls and reversals through. -/
structure Regime where
  certainSubmits : Bool := false
  railPolls : Bool := false
  closedCircuit : Bool := false

/-- An adapter answered a submit of the reference with a failure. -/
def PaymentSystem.SubmitFailed (connectorRef : String) : Prop :=
  ∃ outcome : AdapterOutcome, .answered .submit connectorRef outcome ∈ system.history ∧ outcome.status = .failed

/-- The observations a regime allows. -/
def Regime.Allows (regime : Regime) (system : PaymentSystem) : Observation → Prop
  | .answered .submit _ outcome => regime.certainSubmits → outcome.ambiguous = false
  | .answered .poll _ outcome => regime.railPolls → outcome.isVerdict = true
  | .refused .submit ref refusal => regime.closedCircuit → refusal = .circuitOpen →
      system.SubmitFailed ref ∨
        ∀ attempt, system.HasAttempt attempt → attempt.connectorRef = ref → attempt.attemptNumber ≠ 1
  | .refused .poll _ refusal => regime.railPolls = false ∧ (regime.closedCircuit → refusal ≠ .circuitOpen)
  | .refused .reversal _ refusal => regime.closedCircuit → refusal ≠ .circuitOpen
  | .calledBack _ result => regime.railPolls → result.status ≠ .timedOut
  | .replayed _ result => result.status ≠ .failed
  | _ => True

/-- The adapter's submit was invoked for the reference. -/
def HandedIn (history : List Observation) (connectorRef : String) : Prop :=
  ∃ request : Request, .invoked .submit request ∈ history ∧ request.connectorRef = connectorRef

abbrev PaymentSystem.Handed := HandedIn system.history

/-- The runner refused to submit the reference. -/
def PaymentSystem.Refused (connectorRef : String) : Prop :=
  ∃ refusal : Refusal, .refused .submit connectorRef refusal ∈ system.history

/-- A reference is handed to the adapter or refused, not both, until a submit of it failed. -/
def Observation.Sound : Observation → Prop
  | .invoked .submit request =>
    (∃ attempt, system.HasAttempt attempt ∧ attempt.connectorRef = request.connectorRef) ∧
      (system.Refused request.connectorRef → system.SubmitFailed request.connectorRef)
  | .refused .submit ref _ =>
    (∃ attempt, system.HasAttempt attempt ∧ attempt.connectorRef = ref) ∧
      (system.Handed ref → system.SubmitFailed ref)
  | _ => True

/-- The snapshots an operation holds are about a stored attempt that has polls left. -/
structure Held (system : PaymentSystem) (intent : PaymentIntentRecord) (attempt : PaymentAttemptRecord) : Prop where
  stored : ∃ current, system.HasAttempt current ∧ current.identity = attempt.identity
  owner : intent.paymentIntentId = attempt.paymentIntentId
  unpolled : attempt.pollCount < maxStatusPolls
  live : attempt.status ≠ .authorizationFailed

/-- The snapshots of a suspended submit. -/
structure Snapshots (system : PaymentSystem) (intent : PaymentIntentRecord) (attempt : PaymentAttemptRecord)
    (instruction : PaymentInstruction) : Prop extends Held system intent attempt where
  reference : instruction.connectorRef = attempt.connectorRef

/-- A suspended call is about something the store knows. -/
def Call.Coherent : Call → Prop
  | .submit intent attempt instruction _ _ _ => Snapshots system intent attempt instruction
  | .backoff intent attempt instruction _ _ =>
    Snapshots system intent attempt instruction ∧ system.SubmitFailed attempt.connectorRef
  | .poll attemptId _ ref =>
    ∃ attempt, system.HasAttempt attempt ∧ attempt.attemptId = attemptId ∧ attempt.connectorRef = ref
  | .reversal paymentIntentId _ ref =>
    ∃ attempt, system.HasAttempt attempt ∧ attempt.paymentIntentId = paymentIntentId ∧ attempt.connectorRef = ref
  | .refund _ _ _ => True

inductive Write (service : PaymentOrchestrator) (regime : Regime) : PaymentSystem → PaymentSystem → Prop where
  | store {system next : PaymentSystem} (write : StoreWrite service system next) : Write service regime system next
  | runner {system : PaymentSystem} (runner : ConnectorRunner) : Write service regime system { system with runner }
  | observed {system : PaymentSystem} {observation : Observation} (allowed : regime.Allows system observation)
      (sound : observation.Sound system) :
      Write service regime system { system with history := system.history ++ [observation] }
  | suspended {system : PaymentSystem} {call : Call} (coherent : call.Coherent system) :
      Write service regime system { system with calls := system.calls ++ [call] }
  | resumed {system : PaymentSystem} (index : Nat) :
      Write service regime system { system with calls := system.calls.eraseIdx index }

end BdPay.Kernel
