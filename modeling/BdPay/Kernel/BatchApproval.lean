import BdPay.Data.Rows
import BdPay.Data.Stops
import BdPay.Kernel.PaymentSystem

namespace BdPay.Kernel.Disbursement

open Platform Data Effect Ledger

/-! Approving a disbursement batch.

The decision on the approval request is taken, once and for all, before the
transaction that checks the merchant's balance and funds the batch.
-/

inductive ApprovalState where
  | pendingSecondApprover | approved | approvedExecutionFailed | rejected | expired | withdrawn
deriving DecidableEq

def ApprovalState.value : ApprovalState → String
  | .pendingSecondApprover => "PENDING_SECOND_APPROVER"
  | .approved => "APPROVED"
  | .approvedExecutionFailed => "APPROVED_EXECUTION_FAILED"
  | .rejected => "REJECTED"
  | .expired => "EXPIRED"
  | .withdrawn => "WITHDRAWN"

structure ApprovalRecord where
  (approvalRequestId actionType subjectType subjectId payloadHash : String)
  state : ApprovalState
  initiatorId : String
  (expiresAt updatedAt : DateTime)
  approverId : Option String := none
  decisionReason : Option String := none
  decidedAt : Option DateTime := none
  executedAt : Option DateTime := none

inductive BatchStatus where
  | draft | validated | validationFailed | pendingApproval | approved | dispatching | completed | partiallyReturned
  | cancelled
deriving DecidableEq

structure DisbursementBatch where
  (batchId merchantId clientBatchRef : String)
  itemCount : Nat
  (totalAmountMinor feesTotalMinor : Int)
  status : BatchStatus
  approvalRequestId : Option String
  reconciliationTag : String
  approvedAt : Option DateTime := none

structure DisbursementItem where
  (itemId batchId : String)
  screenedAt : Option DateTime := none
  screeningListVersion : Option String := none

inductive BatchError where
  | unknownRequest (approvalRequestId : String)
  | singleShot (approvalRequestId : String) (state : ApprovalState)
  | requestExpired (approvalRequestId : String) (expiresAt : DateTime)
  | ownRequest
  | notApproved (state : ApprovalState)
  | batchNotFound | approvalRequestMissing | platformFinanceCosignRequired
  | screening (code : String)
  | transitionDenied (status : BatchStatus)
  | accountNotFound (accountId : String)
  | insufficientMerchantSettlementBalance | ledger | emptyField | unrecorded

structure DeskAudit extends AuditEntry where
  actorId : String

/-- The approval requests, which have a store of their own, and the tables of the disbursement. -/
structure Desk where
  requests : Dict String ApprovalRecord
  keyed : requests.Keyed (·.approvalRequestId)
  batches : Dict String DisbursementBatch
  items : Dict String DisbursementItem
  journal : List JournalEntrySpec := []
  audit : List DeskAudit := []
  outbox : List OutboxEvent := []

abbrev DeskM := EStateM BatchError Desk

/-- The answer of the recipient screen: a refusal, or the list version of each item it found clean. -/
inductive Screening where
  | refused (code : String)
  | clean (listVersion : String → String)

/-- What the call meets: the clock, the screen, the ledger, and an audit journal and an outbox that may fail. -/
structure Around where
  now : DateTime
  screening : Screening
  balance : String → Option Int
  ledgerAccepts : JournalEntrySpec → Bool := fun _ => true
  recordsUp : Bool := true

section Requests

variable (around : Around)

def requestEvent (eventType actorId : String) (fromState : ApprovalState) (record : ApprovalRecord) : DeskAudit where
  eventType := eventType
  actorId := actorId
  subjectType := "ApprovalRequest"
  subjectId := record.approvalRequestId
  fromState := some fromState.value
  toState := record.state.value
  payload := [("action_type", .str record.actionType), ("subject_type", .str record.subjectType),
    ("subject_id", .str record.subjectId), ("payload_hash", .str record.payloadHash),
    ("initiator_id", .str record.initiatorId), ("approver_id", (record.approverId.map .str).getD .none)]

/-- An audit event without an actor or a subject is refused by its constructor. -/
def appendAudit (entry : DeskAudit) : DeskM Unit := do
  raiseIf (entry.actorId = "" ∨ entry.subjectId = "") .emptyField
  raiseIf (¬ around.recordsUp) .unrecorded
  modify fun desk => { desk with audit := desk.audit ++ [entry] }

/-- The request is stored as it is now, and then the move is audited. -/
def saveRequest (eventType actorId : String) (fromState : ApprovalState) (record : ApprovalRecord) : DeskM Unit := do
  modify fun desk => { desk with
    requests := desk.requests.set record.approvalRequestId record, keyed := desk.keyed.set rfl }
  appendAudit around (requestEvent eventType actorId fromState record)

def requireRequest (approvalRequestId : String) : DeskM ApprovalRecord := do
  match (← get).requests.get? approvalRequestId with
  | some record => pure record
  | none => throw (.unknownRequest approvalRequestId)

def getPending (approvalRequestId : String) : DeskM ApprovalRecord := do
  let record ← requireRequest approvalRequestId
  raiseIf (record.state ≠ .pendingSecondApprover) (.singleShot approvalRequestId record.state)
  if record.expiresAt ≤ around.now then do
    saveRequest around "APPROVAL_EXPIRED" "system:approval-ttl-sweep" record.state
      { record with state := .expired, updatedAt := around.now }
    throw (.requestExpired approvalRequestId record.expiresAt)
  else pure record

def approve (approvalRequestId approverId decisionReason : String) : DeskM Unit := do
  let record ← getPending around approvalRequestId
  if approverId = record.initiatorId then do
    appendAudit around (requestEvent "APPROVAL_SELF_APPROVAL_DENIED" approverId record.state record)
    throw .ownRequest
  else
    saveRequest around "APPROVAL_GRANTED" approverId record.state { record with
      state := .approved, approverId := some approverId, decisionReason := some decisionReason
      decidedAt := some around.now, updatedAt := around.now }

def markExecuted (approvalRequestId : String) : DeskM Unit := do
  let record ← requireRequest approvalRequestId
  raiseIf (record.state ≠ .approved ∧ record.state ≠ .approvedExecutionFailed) (.notApproved record.state)
  saveRequest around "APPROVAL_EXECUTED" "system:approval-callback" record.state
    { record with state := .approved, executedAt := some around.now, updatedAt := around.now }

end Requests

structure DisbursementService where
  (merchantSettlement merchantHoldReserve : String → String)
  /-- `make_id("je", ...)` of the batch's funding entry. -/
  fundingKey : String → String
  producer : String

def highValueCosignThresholdMinor : Int := 100000000

def requireBatch (batchId : String) : DeskM DisbursementBatch := do
  match (← get).batches.get? batchId with
  | some batch => pure batch
  | none => throw .batchNotFound

def getBalance (around : Around) (accountId : String) : DeskM Int := do
  match around.balance accountId with
  | some balance => pure balance
  | none => throw (.accountNotFound accountId)

/-- `with self._operation_transaction(conn)`: what the block wrote is undone when it raises. -/
def transaction {α : Type} (block : DeskM α) : DeskM α := fun desk =>
  match block desk with
  | .ok value after => .ok value after
  | .error error _ => .error error desk

namespace DisbursementService

variable (service : DisbursementService) (around : Around)

def fundingEntry (batch : DisbursementBatch) (total : Int) : JournalEntrySpec where
  referenceId := batch.batchId
  referenceType := "SETTLEMENT"
  entryType := "disbursement_funded"
  description := "bulk disbursement funded into merchant hold reserve"
  producedBy := service.producer
  idempotencyKey := service.fundingKey batch.batchId
  postings := [{ accountId := service.merchantSettlement batch.merchantId, side := "DEBIT", amountMinor := total },
    { accountId := service.merchantHoldReserve batch.merchantId, side := "CREDIT", amountMinor := total }]

/-- The transaction of `approve_batch`. -/
def fundBatch (batchId checkerUserId : String) (total : Int) (listVersion : String → String) :
    DeskM DisbursementBatch := do
  let batch ← requireBatch batchId
  raiseIf (batch.status ≠ .pendingApproval) (.transitionDenied batch.status)
  let available ← getBalance around (service.merchantSettlement batch.merchantId)
  raiseIf (available < total) .insufficientMerchantSettlementBalance
  raiseIf (¬ around.ledgerAccepts (service.fundingEntry batch total)) .ledger
  let updated := { batch with status := .approved, approvedAt := some around.now }
  modify fun desk => { desk with
    journal := desk.journal ++ [service.fundingEntry batch total]
    batches := desk.batches.set batch.batchId updated
    items := desk.items.mapValues fun item =>
      if item.batchId = batchId then
        { item with screenedAt := some around.now, screeningListVersion := some (listVersion item.itemId) }
      else item }
  appendAudit around {
    eventType := "DISBURSEMENT_BATCH_STATE_TRANSITION", actorId := checkerUserId
    subjectType := "DisbursementBatch", subjectId := batch.batchId
    fromState := some "PENDING_APPROVAL", toState := "APPROVED"
    payload := [("trigger", .str "approved"), ("merchant_id", .str batch.merchantId),
      ("client_batch_ref", .str batch.clientBatchRef), ("reconciliation_tag", .str batch.reconciliationTag)] }
  raiseIf (service.producer = "") .emptyField
  modify fun desk => { desk with
    outbox := desk.outbox ++ [{
      eventType := "disbursement_batch.approved", subjectType := "DisbursementBatch", subjectId := batch.batchId
      topic := "settlement.events", occurredAt := around.now
      payload := [("batch_id", .str batch.batchId), ("merchant_id", .str batch.merchantId),
        ("item_count", .int batch.itemCount), ("total_amount_minor", .int batch.totalAmountMinor),
        ("fees_total_minor", .int batch.feesTotalMinor), ("status", .str "APPROVED"),
        ("reconciliation_tag", .str batch.reconciliationTag)] }] }
  pure updated

def approveBatch (batchId checkerUserId : String) (platformFinanceCosign : Bool) : DeskM DisbursementBatch := do
  let batch ← requireBatch batchId
  match batch.approvalRequestId with
  | none => throw .approvalRequestMissing
  | some approvalRequestId =>
    let total := batch.totalAmountMinor + batch.feesTotalMinor
    raiseIf (highValueCosignThresholdMinor < total ∧ ¬ platformFinanceCosign) .platformFinanceCosignRequired
    match around.screening with
    | .refused code => throw (.screening code)
    | .clean listVersion =>
      approve around approvalRequestId checkerUserId "bulk disbursement release approved"
      let updated ← transaction (service.fundBatch around batchId checkerUserId total listVersion)
      markExecuted around approvalRequestId
      pure updated

end DisbursementService

section Refusing

variable (service : DisbursementService) (around : Around) (checkerUserId : String) (platformFinanceCosign : Bool)
  (batch : DisbursementBatch) (desk : Desk)

/-- When `approve_batch` raises, the approval requests, the batches, their items and the ledger are as they were. -/
def RefusesCleanly : Prop :=
  Stops (service.approveBatch around batch.batchId checkerUserId platformFinanceCosign) desk (fun _ _ => True)
    fun _ after => after.requests = desk.requests ∧ after.batches = desk.batches ∧ after.items = desk.items ∧
      after.journal = desk.journal

/-- Whenever the pending request is reached it has not expired, and if the checker may decide it the decision can be
recorded and the batch funded. -/
def Retryable : Prop :=
  let total := batch.totalAmountMinor + batch.feesTotalMinor
  ∀ id ∈ batch.approvalRequestId, (highValueCosignThresholdMinor < total → platformFinanceCosign) →
    (∃ listVersion, around.screening = .clean listVersion) →
    ∀ record ∈ desk.requests.get? id, record.state = .pendingSecondApprover → ¬ record.expiresAt ≤ around.now ∧
      (checkerUserId ≠ record.initiatorId →
        checkerUserId ≠ "" ∧ id ≠ "" ∧ batch.batchId ≠ "" ∧ service.producer ≠ "" ∧ around.recordsUp ∧
        (∃ available ∈ around.balance (service.merchantSettlement batch.merchantId), total ≤ available) ∧
        around.ledgerAccepts (service.fundingEntry batch total))

theorem stops_transaction :
    Stops (transaction block) desk returns raises ↔ Stops block desk returns fun error _ => raises error desk := by
  cases ran : block desk <;> simp only [Stops, transaction, ran]

theorem stops_appendAudit : Stops (appendAudit around entry) desk returns raises ↔
    ((entry.actorId = "" ∨ entry.subjectId = "") → raises .emptyField desk) ∧
      (¬ (entry.actorId = "" ∨ entry.subjectId = "") → (around.recordsUp = false → raises .unrecorded desk) ∧
        (around.recordsUp = true → returns () { desk with audit := desk.audit ++ [entry] })) := by
  simp [appendAudit, stops_bind, stops_raiseIf, stops_modify]

theorem set_ne {requests : Dict String ApprovalRecord} {id : String}
    (found : requests.get? id = some old) (moved : new.state ≠ old.state) : requests.set id new ≠ requests := by
  intro same
  rw [← same, Dict.get?_set_self] at found
  exact moved (congrArg _ (Option.some.inj found))

theorem refusesCleanly_iff (stored : desk.batches.get? batch.batchId = some batch)
    (waiting : batch.status = .pendingApproval) :
    RefusesCleanly service around checkerUserId platformFinanceCosign batch desk ↔
      Retryable service around checkerUserId platformFinanceCosign batch desk := by
  simp only [RefusesCleanly, DisbursementService.approveBatch, requireBatch, stops_bind, stops_get, stored, stops_pure]
  unfold Retryable
  cases asked : batch.approvalRequestId with
  | none => simp [stops_throw]
  | some id =>
    dsimp only
    rw [stops_bind, stops_raiseIf]
    cases around.screening with
    | refused => simp [stops_throw]
    | clean listVersion =>
      cases found : desk.requests.get? id with
      | none => simp [approve, getPending, requireRequest, stops_bind, stops_get, stops_throw, found]
      | some record =>
        obtain rfl := desk.keyed.key_of_get? found
        simp only [approve, getPending, requireRequest, saveRequest, requestEvent, markExecuted, requireBatch,
          stops_transaction, DisbursementService.fundBatch, stops_bind, stops_get, found, stored, waiting, stops_pure,
          stops_raiseIf, stops_ite, stops_modify, stops_throw, stops_appendAudit]
        by_cases pending : record.state = .pendingSecondApprover
        · have moved : ∀ new : ApprovalRecord, new.state ≠ .pendingSecondApprover →
              desk.requests.set record.approvalRequestId new ≠ desk.requests :=
            fun new other => set_ne found (pending ▸ other)
          cases funds : around.balance (service.merchantSettlement batch.merchantId) <;>
            simp [getBalance, stops_pure, stops_throw, pending, found, moved, funds] <;> tauto
        · simp [pending, found]

end Refusing

/-! A batch whose merchant is short of funds when it is approved -/

def sampleService : DisbursementService where
  merchantSettlement := ("settlement of " ++ ·)
  merchantHoldReserve := ("reserve of " ++ ·)
  fundingKey := ("funding of " ++ ·)
  producer := "settlement-engine@1"

def sampleBatch : DisbursementBatch where
  batchId := "dbat_1"
  merchantId := "mrch_1"
  clientBatchRef := "payroll"
  itemCount := 1
  totalAmountMinor := 100
  feesTotalMinor := 2
  status := .pendingApproval
  approvalRequestId := some "appr_1"
  reconciliationTag := "payroll"

def sampleDesk : Desk where
  requests := Dict.empty.set "appr_1" {
    approvalRequestId := "appr_1", actionType := "bulk_disbursement_release", subjectType := "DisbursementBatch"
    subjectId := "dbat_1", payloadHash := "", state := .pendingSecondApprover, initiatorId := "maker"
    expiresAt := ⟨1, DateTime.one_inRange⟩, updatedAt := ⟨0, DateTime.zero_inRange⟩ }
  keyed := Dict.keyed_empty.set rfl
  batches := Dict.empty.set "dbat_1" sampleBatch
  items := Dict.empty.set "ditm_1" { itemId := "ditm_1", batchId := "dbat_1" }

def sampleAround (balance : Int) : Around where
  now := ⟨0, DateTime.zero_inRange⟩
  screening := .clean fun _ => "list_1"
  balance := fun _ => some balance

def approveSample (balance : Int) : DeskM DisbursementBatch :=
  sampleService.approveBatch (sampleAround balance) "dbat_1" "checker" false

theorem approveSample_short : (value? (approveSample 0) sampleDesk).isNone ∧
    ((leaves (approveSample 0) sampleDesk).requests.get? "appr_1").map (·.state) = some .approved ∧
    (value? (approveSample 102) (leaves (approveSample 0) sampleDesk)).isNone := by
  decide

/-- The balance is too low and the request is approved all the same; once there is money, the batch cannot be approved. -/
theorem short_of_funds_strands :
    ¬ RefusesCleanly sampleService (sampleAround 0) "checker" false sampleBatch sampleDesk ∧
    (value? (approveSample 102) (leaves (approveSample 0) sampleDesk)).isNone := by
  obtain ⟨raises, approved, again⟩ := approveSample_short
  refine ⟨fun clean => ?_, again⟩
  cases ran : approveSample 0 sampleDesk with
  | ok => simp [value?, ran] at raises
  | error =>
    rw [leaves_of_error ran, ((stops_iff_of_error ran).mp clean).1] at approved
    exact absurd approved (by decide)

theorem funded_refusesCleanly :
    RefusesCleanly sampleService (sampleAround 102) "checker" false sampleBatch sampleDesk := by
  refine (refusesCleanly_iff sampleService (sampleAround 102) "checker" false sampleBatch sampleDesk rfl rfl).mpr ?_
  rintro _ ⟨⟩ - - _ ⟨⟩ -
  decide

end BdPay.Kernel.Disbursement
