import BdPay.Kernel.Repository
import BdPay.Ledger.Types

namespace BdPay.Kernel

open Platform Data Effect Connectors

/-! The system the orchestrator runs in: its store, its ports, the connector
runner, and the coroutines that wait for an adapter. -/

/-- What the kernel asks the ledger for.  A hold is named by the reference it
reserves for, of which the ledger keeps one open hold. -/
inductive LedgerCall where
  | postJournalEntry (spec : Ledger.JournalEntrySpec)
  | openHold (accountId : String) (amountMinor : Int) (holdReason referenceId sourceAccountId
      holdReserveAccountId : String) (holdExpiresAt : Option DateTime)
  | releaseHold (referenceId outcome : String) (amountMinor : Option Int)

structure AuditEntry where
  (eventType subjectType subjectId : String)
  fromState : Option String
  toState : String
  payload : List (String × PyValue)

structure OutboxEvent where
  (eventType subjectType subjectId topic : String)
  payload : List (String × PyValue)
  occurredAt : DateTime

structure Ports where
  ledger : List LedgerCall
  openHolds : List String
  audit : List AuditEntry
  outbox : List OutboxEvent

/-- Why the kernel makes a connector call. -/
inductive Purpose where
  | submit | poll | reversal | refund
deriving DecidableEq

/-- What an adapter is given to find the instruction by. -/
structure Request where
  (connectorId connectorRef : String)
  railTransactionId : Option String := none
  amountMinor : Option Int := none
  reason : Option String := none
deriving DecidableEq

/-- One thing that happened between the kernel and the rails. -/
inductive Observation where
  | replayed (connectorRef : String) (result : ConnectorResult)
  | refused (purpose : Purpose) (connectorRef : String) (refusal : Refusal)
  | invoked (purpose : Purpose) (request : Request)
  | answered (purpose : Purpose) (connectorRef : String) (outcome : AdapterOutcome)
  | calledBack (connectorId : String) (result : ConnectorResult)
deriving DecidableEq

/-- A suspended coroutine: it waits for an adapter, or for its backoff to end. -/
inductive Call where
  | submit (intent : PaymentIntentRecord) (attempt : PaymentAttemptRecord) (instruction : PaymentInstruction)
      (registration : ConnectorRegistration) (budget attempts : Int)
  | backoff (intent : PaymentIntentRecord) (attempt : PaymentAttemptRecord) (instruction : PaymentInstruction)
      (budget attempts : Int)
  | poll (attemptId : String) (registration : ConnectorRegistration) (connectorRef : String)
  | reversal (paymentIntentId : String) (registration : ConnectorRegistration) (connectorRef : String)
  | refund (refundId : String) (registration : ConnectorRegistration) (connectorRef : String)

/-- `history` is what an observer of the rails has seen so far; no operation reads it. -/
structure PaymentSystem where
  store : PaymentStore
  ports : Ports
  runner : ConnectorRunner
  calls : List Call
  history : List Observation

abbrev KernelM := EStateM KernelError PaymentSystem

/-- What the world supplies while one operation runs. -/
structure Moment where
  now : DateTime
  breakerReadable : Bool := true
  ledgerAccepts : LedgerCall → Bool := fun _ => true

namespace PaymentSystem

/-- Nothing stored, nothing in flight. -/
def start (runner : ConnectorRunner) : PaymentSystem where
  store := .empty
  ports := { ledger := [], openHolds := [], audit := [], outbox := [] }
  runner := runner
  calls := []
  history := []

/-- One write of the payment store. -/
def writeStore (write : PaymentStore → Except KernelError PaymentStore) : KernelM Unit := do
  let system ← get
  let store ← attempt (write system.store)
  set { system with store }

def writePorts (write : Ports → Ports) : KernelM Unit :=
  modify fun system => { system with ports := write system.ports }

def onRunner {α : Type} (program : RunnerM α) : KernelM α :=
  zoom PaymentSystem.runner (fun runner system => { system with runner }) .runner program

def observe (observation : Observation) : KernelM Unit :=
  modify fun system => { system with history := system.history ++ [observation] }

def suspend (call : Call) : KernelM Unit :=
  modify fun system => { system with calls := system.calls ++ [call] }

/-- A call of the ledger: refused calls raise and leave nothing behind. -/
def askLedger (moment : Moment) (call : LedgerCall) : KernelM Unit := do
  raiseIf (moment.ledgerAccepts call = false) (.port "ledger call refused")
  writePorts fun ports =>
    { ports with
      ledger := ports.ledger ++ [call]
      openHolds := match call with
        | .postJournalEntry _ => ports.openHolds
        | .openHold _ _ _ referenceId _ _ _ => ports.openHolds ++ [referenceId]
        | .releaseHold referenceId _ _ => ports.openHolds.filter (· ≠ referenceId) }

/-- `get_open_hold_id`. -/
def openHold? (referenceId : String) : KernelM (Option String) := do
  pure ((← get).ports.openHolds.find? (· = referenceId))

end PaymentSystem

end BdPay.Kernel
