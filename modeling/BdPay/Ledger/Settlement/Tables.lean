import BdPay.Data.Dict
import BdPay.Data.Process
import BdPay.Platform.Clock

namespace BdPay.Ledger.Settlement

open Platform Data Effect

/-! Settlement batches and instructions, their state machines, and the journal
entries the engine posts for them. -/

inductive Rail where
  | beftnBatchV2 | npsbIso8583V28 | rtgsIso20022V1 | bkashPgwV2 | nagadPgwV33 | rocketAggregatorV1 | cardAcquirerV1
deriving DecidableEq

inductive Session where
  | morning | afternoon | eod
deriving DecidableEq

inductive MccCategory where
  | dailyEssential | directMerchant | other
deriving DecidableEq

inductive Direction where
  | credit | debit
deriving DecidableEq

inductive BatchStatus where
  | opened | pendingDispatch | held | dispatched | confirmed | failed | cancelled
deriving DecidableEq

def BatchStatus.terminal (status : BatchStatus) : Bool := status = .confirmed || status = .cancelled

inductive BatchTrigger where
  | batchCutoffReached | approvalGranted | dispatchTriggered | operatorCancel | tcsaShortfallResolved
  | sponsorBankConfirmed | sponsorBankRejected | connectorTimeout | manualRetryApproved | maxRetriesExceeded
deriving DecidableEq

/-- FSM 1: what is not in the table is denied. -/
def batchTransitions : BatchStatus → BatchTrigger → List BatchStatus
  | .opened, .batchCutoffReached => [.pendingDispatch, .cancelled]
  | .pendingDispatch, .approvalGranted => [.pendingDispatch]
  | .pendingDispatch, .dispatchTriggered => [.dispatched, .held]
  | .pendingDispatch, .operatorCancel => [.cancelled]
  | .held, .tcsaShortfallResolved => [.pendingDispatch]
  | .held, .operatorCancel => [.cancelled]
  | .dispatched, .sponsorBankConfirmed => [.confirmed]
  | .confirmed, .sponsorBankConfirmed => [.confirmed]
  | .dispatched, .sponsorBankRejected => [.failed]
  | .dispatched, .connectorTimeout => [.failed]
  | .failed, .manualRetryApproved => [.pendingDispatch]
  | .failed, .maxRetriesExceeded => [.cancelled]
  | _, _ => []

inductive InstructionStatus where
  | queued | submitted | settled | returned | cancelled | failed
deriving DecidableEq

inductive InstructionTrigger where
  | batchDispatched | batchCancelled | railConfirmed | railReturned | railHardRejected | timeoutOnBatchFail
  | batchRetryReset
deriving DecidableEq

/-- FSM 2. -/
def instructionTransitions : InstructionStatus → InstructionTrigger → List InstructionStatus
  | .queued, .batchDispatched => [.submitted]
  | .queued, .batchCancelled => [.cancelled]
  | .submitted, .railConfirmed => [.settled]
  | .submitted, .railReturned => [.returned]
  | .submitted, .railHardRejected => [.failed]
  | .submitted, .timeoutOnBatchFail => [.failed]
  | .failed, .batchRetryReset => [.queued]
  | _, _ => []

def maxRetries : Rail → Nat
  | .beftnBatchV2 => 3
  | .npsbIso8583V28 => 5
  | .rtgsIso20022V1 => 3
  | .bkashPgwV2 => 5
  | .nagadPgwV33 => 5
  | .rocketAggregatorV1 => 5
  | .cardAcquirerV1 => 3

def batchDispatchTimeoutMinutes : Rail → Nat
  | .beftnBatchV2 => 120
  | .npsbIso8583V28 => 60
  | _ => 30

def dispatchTwoEyesThresholdMinor : Int := 500000000

def retryTwoEyesThresholdMinor : Int := 50000000

def highValueThresholdMinor : Int := 10000000

structure SettlementBatch where
  batchId : String
  rail : Rail
  /-- Days, as `date.toordinal` counts them. -/
  cycleDate : Nat
  session : Option Session
  status : BatchStatus
  instructionCount : Nat
  (totalCreditMinor totalDebitMinor : Int)
  retryCount : Nat
  twoEyesRequired : Bool
  approvalRequestId : Option String
  heldAt : Option DateTime
  (heldTcsaSnapshotId sponsorBankRef connectorRef : Option String)
  createdAt : DateTime
  (cutoffAt dispatchedAt confirmedAt failedAt cancelledAt : Option DateTime)
  failReasonCode : Option String

structure SettlementInstruction where
  instructionId : String
  batchId : Option String
  (paymentIntentId merchantId : String)
  direction : Direction
  (amountMinor feeMinor netPayoutMinor : Int)
  feeRuleId : Option String
  rail : Rail
  beneficiaryAccountRef : String
  mccCategory : MccCategory
  highValue : Bool
  (earliestReleaseAt latestReleaseAt : DateTime)
  (deliveryHoldCleared amlHold : Bool)
  status : InstructionStatus
  (railTransactionId returnReasonCode : Option String)
  connectorRef : String
  createdAt : DateTime
  (submittedAt settledAt returnedAt failedAt : Option DateTime)
deriving DecidableEq

/-! The journal as the engine sees it. -/

inductive Account where
  | tcsa
  | transit (rail : Rail)
  | merchantSettlement (merchantId : String)

inductive Side where
  | debit | credit
deriving DecidableEq

def Side.flipped : Side → Side
  | .debit => .credit
  | .credit => .debit

structure Posting where
  account : Account
  side : Side
  amountMinor : Int

/-- What an idempotency key is computed from.  It stands for the entry as well: an
entry's identifier is computed from its key. -/
inductive EntryKey where
  | batchOpen (batchId instructionId : String)
  | batchClose (batchId : String)
  | batchOpenReversal (openEntry : EntryKey)
deriving DecidableEq

inductive EntryType where
  | settlementBatchOpen | settlementBatchClose | settlementBatchOpenReversal
deriving DecidableEq

structure JournalEntry where
  referenceId : String
  entryType : EntryType
  idempotencyKey : EntryKey
  postings : List Posting

def sideTotal (side : Side) (postings : List Posting) : Int :=
  ((postings.filter fun posting => posting.side = side).map Posting.amountMinor).sum

/-- At least two postings, each of a positive amount, that sum to zero. -/
def JournalEntry.wellFormed (entry : JournalEntry) : Bool :=
  2 ≤ entry.postings.length && entry.postings.all (fun posting => 0 < posting.amountMinor) &&
    sideTotal .debit entry.postings = sideTotal .credit entry.postings

structure Settlements where
  batches : Dict String SettlementBatch
  instructions : Dict String SettlementInstruction
  journal : List JournalEntry

def Settlements.empty : Settlements := ⟨.empty, .empty, []⟩

structure TcsaGateResult where
  clear : Bool
  snapshotId : Option String := none
  shortfallMinor : Int := 0
  stale : Bool := false

/-- What an operation finds around it: the clock, the TCSA gate, and which well-formed
entries the ledger takes (an account may be closed, or the write gate engaged). -/
structure Surroundings where
  now : DateTime
  gate : TcsaGateResult
  takes : JournalEntry → Bool

inductive SettlementError where
  | batchDenied (batchId : String) (status : BatchStatus) (trigger : BatchTrigger) (target : BatchStatus)
  | instructionDenied (instructionId : String) (status : InstructionStatus) (trigger : InstructionTrigger)
      (target : InstructionStatus)
  | guard (message : String)
  | settlement (message : String)
  | beftnFormat (message : String)
  | ledgerDuplicate (key : EntryKey)
  | ledger
deriving DecidableEq

abbrev SettlementM := EStateM SettlementError Settlements

abbrev SettlementP := Process Surroundings SettlementError Settlements

/-! The stores. -/

variable (tables : Settlements)

def Settlements.setBatch (row : SettlementBatch) : Settlements :=
  { tables with batches := tables.batches.set row.batchId row }

def Settlements.setInstruction (row : SettlementInstruction) : Settlements :=
  { tables with instructions := tables.instructions.set row.instructionId row }

def requireBatch (batchId : String) : SettlementP SettlementBatch :=
  .act fun _ => do
    match (← get).batches.get? batchId with
    | some batch => pure batch
    | none => throw (.settlement s!"unknown batch {batchId}")

def requireInstruction (instructionId : String) : SettlementP SettlementInstruction :=
  .act fun _ => do
    match (← get).instructions.get? instructionId with
    | some row => pure row
    | none => throw (.settlement s!"unknown instruction {instructionId}")

def insertBatch (row : SettlementBatch) : SettlementP Unit :=
  .act fun _ => do
    let tables ← get
    raiseIf (tables.batches.contains row.batchId) (.settlement s!"duplicate batch_id {row.batchId}")
    set (tables.setBatch row)

def updateBatch (batchId : String) (change : SettlementBatch → SettlementBatch) : SettlementP SettlementBatch :=
  .act fun _ => do
    let tables ← get
    match tables.batches.get? batchId with
    | none => throw (.settlement s!"unknown batch {batchId}")
    | some row => do
        set { tables with batches := tables.batches.set batchId (change row) }
        pure (change row)

def insertInstruction (row : SettlementInstruction) : SettlementP Unit :=
  .act fun _ => do
    let tables ← get
    raiseIf (tables.instructions.contains row.instructionId)
      (.settlement s!"duplicate instruction_id {row.instructionId}")
    raiseIf (∃ existing ∈ tables.instructions.values, existing.connectorRef = row.connectorRef)
      (.settlement s!"duplicate connector_ref {row.connectorRef}")
    raiseIf (row.netPayoutMinor ≠ row.amountMinor - row.feeMinor)
      (.settlement "net_payout_minor must equal amount_minor - fee_minor")
    set (tables.setInstruction row)

def updateInstruction (instructionId : String) (change : SettlementInstruction → SettlementInstruction) :
    SettlementP SettlementInstruction :=
  .act fun _ => do
    let tables ← get
    match tables.instructions.get? instructionId with
    | none => throw (.settlement s!"unknown instruction {instructionId}")
    | some row => do
        set { tables with instructions := tables.instructions.set instructionId (change row) }
        pure (change row)

/-- The instructions of a batch that have a status, in the order they came. -/
def Settlements.members (batchId : String) (status : InstructionStatus) :
    List SettlementInstruction :=
  tables.instructions.values.filter fun row => row.batchId = some batchId && row.status = status

def listMembers (batchId : String) (status : InstructionStatus) : SettlementP (List SettlementInstruction) :=
  .act fun _ => do pure ((← get).members batchId status)

def batchBefore (left right : SettlementBatch) : Bool :=
  left.createdAt.micros < right.createdAt.micros ||
    (left.createdAt.micros = right.createdAt.micros && left.batchId ≤ right.batchId)

def listBatches (status : BatchStatus) : SettlementP (List SettlementBatch) :=
  .act fun _ => do
    pure (((← get).batches.values.filter fun row => row.status = status).mergeSort batchBefore)

def findOpenBatch (rail : Rail) (cycleDate : Nat) (session : Option Session) : SettlementP (Option SettlementBatch) :=
  .act fun _ => do
    pure ((← get).batches.values.find? fun row =>
      row.rail = rail && row.cycleDate = cycleDate && row.session = session && row.status = .opened)

/-! The ledger. -/

def Settlements.entries (batchId : String) (entryType : EntryType) : List JournalEntry :=
  tables.journal.filter fun entry => entry.referenceId = batchId && entry.entryType = entryType

def post (around : Surroundings) (entry : JournalEntry) : SettlementM Unit := do
  let tables ← get
  raiseIf (entry.wellFormed = false) .ledger
  raiseIf (entry.idempotencyKey ∈ tables.journal.map JournalEntry.idempotencyKey)
    (.ledgerDuplicate entry.idempotencyKey)
  raiseIf (around.takes entry = false) .ledger
  set { tables with journal := tables.journal ++ [entry] }

def postJournalEntry (entry : JournalEntry) : SettlementP Unit := .act fun around => post around entry

def listEntries (batchId : String) (entryType : EntryType) : SettlementP (List JournalEntry) :=
  .act fun _ => do pure ((← get).entries batchId entryType)

def clockNow : SettlementP DateTime := .act fun around => pure around.now

def tcsaGate : SettlementP TcsaGateResult := .act fun around => pure around.gate

end BdPay.Ledger.Settlement
