import BdPay.Ledger.Settlement.Tables

namespace BdPay.Ledger.Settlement

open Platform Data Effect

/-! The settlement engine. -/

structure SettlementEngine where
  /-- The working-day calendar of Bangladesh Bank, over day numbers. -/
  addWorkingDays : Nat → Nat → Nat
  /-- Nine in the morning of a day, Dhaka time. -/
  businessDayStart : Nat → DateTime
  beftnSession : DateTime → Option Session
  transitConfigured : Rail → Bool
  batchIdFor : Rail → Nat → Option Session → String
  instructionIdFor : String → String → Int → Rail → Direction → String

/-- The calendar date of an instant in Dhaka, six hours ahead. -/
def dhakaDate (instant : DateTime) : Nat := (instant.micros + 6 * 3600000000) / 86400000000

def earlier (left right : DateTime) : DateTime := if right.micros < left.micros then right else left

variable (batch : SettlementBatch)

def denyBatch (trigger : BatchTrigger) (target : BatchStatus) : SettlementP Unit :=
  .raiseIf (target ∉ batchTransitions batch.status trigger) (.batchDenied batch.batchId batch.status trigger target)

def denyInstruction (row : SettlementInstruction) (trigger : InstructionTrigger) (target : InstructionStatus) :
    SettlementP Unit :=
  .raiseIf (target ∉ instructionTransitions row.status trigger)
    (.instructionDenied row.instructionId row.status trigger target)

/-! Intake. -/

/-- A succeeded payment.  A text that names no rail, category or direction is `none`. -/
structure SucceededPayment where
  (paymentIntentId merchantId : String)
  (amountMinor feeMinor : Int)
  rail : Option Rail
  beneficiaryAccountRef : String
  mccCategory : Option MccCategory
  succeededAt : DateTime
  feeRuleId : Option String
  deliveryConfirmedAt : Option DateTime
  direction : Option Direction

def known {α : Type} (named : Option α) (message : String) : SettlementP α :=
  match named with
  | some value => pure value
  | none => .raised (.settlement message)

namespace SettlementEngine

variable (engine : SettlementEngine)

def calculateEarliestRelease (succeededAt : DateTime) (mccCategory : MccCategory)
    (deliveryConfirmedAt : Option DateTime) : DateTime :=
  match mccCategory with
  | .other => succeededAt
  | category =>
    let fiveWd := engine.addWorkingDays (dhakaDate succeededAt) 5
    let holdDays := if category = .dailyEssential then 5 else 7
    let holdEnd :=
      match deliveryConfirmedAt with
      | some confirmedAt => engine.addWorkingDays (dhakaDate confirmedAt) 0
      | none => engine.addWorkingDays (dhakaDate succeededAt) holdDays
    engine.businessDayStart (min holdEnd fiveWd)

def latestReleaseAt (succeededAt : DateTime) : DateTime :=
  engine.businessDayStart (engine.addWorkingDays (dhakaDate succeededAt) 5)

def queuedRow (payment : SucceededPayment) (rail : Rail) (mccCategory : MccCategory) (direction : Direction)
    (now : DateTime) : SettlementInstruction :=
  let instructionId :=
    engine.instructionIdFor payment.paymentIntentId payment.merchantId payment.amountMinor rail direction
  { instructionId, batchId := none, paymentIntentId := payment.paymentIntentId, merchantId := payment.merchantId
    direction, amountMinor := payment.amountMinor, feeMinor := payment.feeMinor
    netPayoutMinor := payment.amountMinor - payment.feeMinor, feeRuleId := payment.feeRuleId, rail
    beneficiaryAccountRef := payment.beneficiaryAccountRef, mccCategory
    highValue := highValueThresholdMinor ≤ payment.amountMinor
    earliestReleaseAt := earlier
      (engine.calculateEarliestRelease payment.succeededAt mccCategory payment.deliveryConfirmedAt)
      (engine.latestReleaseAt payment.succeededAt)
    latestReleaseAt := engine.latestReleaseAt payment.succeededAt
    deliveryHoldCleared := mccCategory = .other || payment.deliveryConfirmedAt.isSome
    amlHold := false, status := .queued, railTransactionId := none, returnReasonCode := none
    connectorRef := instructionId, createdAt := now, submittedAt := none, settledAt := none, returnedAt := none
    failedAt := none }

/-- An instruction that is there already is left alone. -/
def insertNew (row : SettlementInstruction) : SettlementP Unit := do
  let existing ← .act fun _ => do pure ((← get).instructions.get? row.instructionId)
  match existing with
  | some _ => pure ()
  | none => insertInstruction row

def registerSucceededPayment (payment : SucceededPayment) : SettlementP Unit := do
  let rail ← known payment.rail "unknown rail"
  let direction ← known payment.direction "unknown direction"
  let mccCategory ← known payment.mccCategory "unknown mcc_category"
  .raiseIf (payment.amountMinor ≤ 0 ∨ payment.feeMinor < 0 ∨ payment.amountMinor < payment.feeMinor)
    (.settlement "invalid amounts")
  let now ← clockNow
  insertNew (engine.queuedRow payment rail mccCategory direction now)

def listQueuedOf (paymentIntentId : String) : SettlementP (List SettlementInstruction) :=
  .act fun _ => do
    pure ((← get).instructions.values.filter fun row =>
      row.paymentIntentId = paymentIntentId && row.status = .queued)

def setAmlHold (paymentIntentId : String) (hold : Bool) : SettlementP Unit := do
  let rows ← listQueuedOf paymentIntentId
  .forEach rows fun row => do
    let _ ← updateInstruction row.instructionId fun current => { current with amlHold := hold }

def confirmDelivery (paymentIntentId : String) (confirmedAt : DateTime) : SettlementP Unit := do
  let rows ← listQueuedOf paymentIntentId
  .forEach rows fun row => do
    let earliest := engine.calculateEarliestRelease row.createdAt row.mccCategory (some confirmedAt)
    let _ ← updateInstruction row.instructionId fun current => { current with
      deliveryHoldCleared := true, earliestReleaseAt := earlier earliest row.latestReleaseAt }

/-! Accumulation. -/

def newBatch (rail : Rail) (cycleDate : Nat) (session : Option Session) (now : DateTime) : SettlementBatch :=
  { batchId := engine.batchIdFor rail cycleDate session, rail, cycleDate, session, status := .opened
    instructionCount := 0, totalCreditMinor := 0, totalDebitMinor := 0, retryCount := 0, twoEyesRequired := false
    approvalRequestId := none, heldAt := none, heldTcsaSnapshotId := none, sponsorBankRef := none
    connectorRef := none, createdAt := now, cutoffAt := none, dispatchedAt := none, confirmedAt := none
    failedAt := none, cancelledAt := none, failReasonCode := none }

def getOrCreateOpenBatch (rail : Rail) (cycleDate : Nat) (session : Option Session) :
    SettlementP SettlementBatch := do
  let existing ← findOpenBatch rail cycleDate session
  match existing with
  | some batch => pure batch
  | none => do
      let now ← clockNow
      let row := engine.newBatch rail cycleDate session now
      insertBatch row
      pure row

def releasable (row : SettlementInstruction) (now : DateTime) : Bool :=
  row.status = .queued && row.batchId = none && !row.amlHold &&
    (row.latestReleaseAt.micros ≤ now.micros ||
      (row.deliveryHoldCleared && row.earliestReleaseAt.micros ≤ now.micros))

/-- Released at the statutory deadline only. -/
def statutory (row : SettlementInstruction) (now : DateTime) : Bool :=
  row.latestReleaseAt.micros ≤ now.micros &&
    !(row.deliveryHoldCleared && row.earliestReleaseAt.micros ≤ now.micros)

/-- The float of an instruction is staged out of the rail's transit account into the TCSA. -/
def openEntry (batchId : String) (row : SettlementInstruction) : JournalEntry :=
  { referenceId := batchId, entryType := .settlementBatchOpen
    idempotencyKey := .batchOpen batchId row.instructionId
    postings := [⟨.tcsa, .debit, row.netPayoutMinor⟩, ⟨.transit row.rail, .credit, row.netPayoutMinor⟩] }

def requireTwoEyes (batch : SettlementBatch) : SettlementP Unit :=
  if dispatchTwoEyesThresholdMinor < batch.totalCreditMinor then do
    let _ ← updateBatch batch.batchId fun current => { current with twoEyesRequired := true }
  else pure ()

/-- The row is counted in its batch and filed under it. -/
def fileRow (now : DateTime) (row : SettlementInstruction) (batch : SettlementBatch) : SettlementP Unit := do
  let updated ← updateBatch batch.batchId fun current => { current with
    instructionCount := batch.instructionCount + 1
    totalCreditMinor := batch.totalCreditMinor + if row.direction = .credit then row.netPayoutMinor else 0
    totalDebitMinor := batch.totalDebitMinor + if row.direction = .debit then row.netPayoutMinor else 0 }
  let _ ← updateInstruction row.instructionId fun current => { current with
    batchId := some batch.batchId, deliveryHoldCleared := statutory row now || current.deliveryHoldCleared }
  requireTwoEyes updated

def assignIn (now : DateTime) (row : SettlementInstruction) (batch : SettlementBatch) : SettlementP Unit := do
  .raiseIf (engine.transitConfigured row.rail = false) (.settlement "no in-transit account configured for rail")
  postJournalEntry (openEntry batch.batchId row)
  fileRow now row batch

/-- The session of the batch an instruction goes into. -/
def sessionFor (now : DateTime) (row : SettlementInstruction) : Option Session :=
  if row.rail = .beftnBatchV2 then some ((engine.beftnSession now).getD .eod) else none

def assignRow (now : DateTime) (row : SettlementInstruction) : SettlementP Unit := do
  let batch ← engine.getOrCreateOpenBatch row.rail (dhakaDate now) (engine.sessionFor now row)
  engine.assignIn now row batch

def assignDueInstructions : SettlementP Unit := do
  let now ← clockNow
  let rows ← .act fun _ => do
    pure ((← get).instructions.values.filter fun row => row.status = .queued && row.batchId = none)
  .forEach rows fun row => if releasable row now then engine.assignRow now row else pure ()

end SettlementEngine

/-! The batch. -/

variable (batchId : String)

def cutoff : SettlementP Unit := do
  let batch ← requireBatch batchId
  let now ← clockNow
  if 1 ≤ batch.instructionCount then do
    denyBatch batch .batchCutoffReached .pendingDispatch
    let _ ← updateBatch batchId fun row => { row with status := .pendingDispatch, cutoffAt := some now }
  else do
    denyBatch batch .batchCutoffReached .cancelled
    let _ ← updateBatch batchId fun row => { row with
      status := .cancelled, cancelledAt := some now, failReasonCode := some "EMPTY_BATCH" }

def grantApproval (batchId approvalRequestId : String) : SettlementP Unit := do
  let batch ← requireBatch batchId
  denyBatch batch .approvalGranted .pendingDispatch
  let _ ← updateBatch batchId fun row => { row with
    approvalRequestId := some approvalRequestId, twoEyesRequired := false }

/-! The hand-off of a BEFTN batch. -/

structure BeftnEntry where
  (entryRef transactionCode accountToken : String)
  amountMinor : Int
  (amountField individualId individualName traceSequence connectorRef : String)

structure BeftnBatchHandoff where
  batchId : String
  session : Session
  entries : List BeftnEntry
  effectiveDate : Nat

/-- Eight digits of taka and two of paisa. -/
def maxAmountMinor : Int := 99999999 * 100 + 99

def beftnAmountField (amountMinor : Int) : Except SettlementError String :=
  if amountMinor ≤ 0 then .error (.beftnFormat s!"amount_minor must be > 0, got {amountMinor}")
  else if maxAmountMinor < amountMinor then
    .error (.beftnFormat s!"amount_minor {amountMinor} exceeds the BEFTN 10-digit field capacity")
  else .ok (String.ofList
    (Text.zeroPadded 8 (amountMinor.toNat / 100) ++ Text.zeroPadded 2 (amountMinor.toNat % 100)))

def individualName (name : String) : String := String.ofList ((name.toList.take 22).rightpad 22 ' ')

def beftnEntry (row : SettlementInstruction) (position : Nat) : Except SettlementError BeftnEntry :=
  (beftnAmountField row.netPayoutMinor).map fun amountField => {
    entryRef := row.instructionId
    transactionCode := if row.direction = .credit then "22" else "27"
    accountToken := row.beneficiaryAccountRef
    amountMinor := row.netPayoutMinor
    amountField
    individualId := String.ofList (row.instructionId.toList.take 15)
    individualName := individualName row.merchantId
    traceSequence := String.ofList (Text.zeroPadded 7 position)
    connectorRef := row.connectorRef }

variable (rows : List SettlementInstruction)

def buildBeftnEntries : Except SettlementError (List BeftnEntry) :=
  Effect.sequence ((rows.zipIdx 1).map fun numbered => beftnEntry numbered.1 numbered.2)

def buildHandoff :
    Except SettlementError BeftnBatchHandoff :=
  match batch.session with
  | none => .error (.beftnFormat s!"batch {batch.batchId} has no BEFTN session")
  | some session => (buildBeftnEntries rows).map fun entries =>
    { batchId := batch.batchId, session, entries, effectiveDate := batch.cycleDate }

/-- The queued instructions are submitted one by one; they are returned as they stand then. -/
def submitRows (now : DateTime) : List SettlementInstruction → SettlementP (List SettlementInstruction)
  | [] => pure []
  | row :: rest => do
      denyInstruction row .batchDispatched .submitted
      let _ ← updateInstruction row.instructionId fun current => { current with
        status := .submitted, submittedAt := some now }
      let submitted ← requireInstruction row.instructionId
      let others ← submitRows now rest
      pure (submitted :: others)

def handOff : SettlementP (Option BeftnBatchHandoff) :=
  if batch.rail = .beftnBatchV2 then do
    let handoff ← .attempt (buildHandoff batch rows)
    pure (some handoff)
  else pure none

variable (now : DateTime)

def dispatchNow : SettlementP (Option BeftnBatchHandoff) := do
  let updated ← updateBatch batchId fun row => { row with
    status := .dispatched, dispatchedAt := some now, connectorRef := some batchId }
  let rows ← listMembers batchId .queued
  let submitted ← submitRows now rows
  handOff updated submitted

def holdBack (gate : TcsaGateResult) :
    SettlementP (Option BeftnBatchHandoff) := do
  denyBatch batch .dispatchTriggered .held
  let _ ← updateBatch batch.batchId fun row => { row with
    status := .held, heldAt := some now, heldTcsaSnapshotId := gate.snapshotId }
  pure none

def tryDispatch : SettlementP (Option BeftnBatchHandoff) := do
  let batch ← requireBatch batchId
  let now ← clockNow
  .raiseIf (batch.twoEyesRequired = true) (.guard s!"batch {batchId} requires two-eyes approval before dispatch")
  denyBatch batch .dispatchTriggered .dispatched
  let gate ← tcsaGate
  if gate.clear then dispatchNow batchId now else holdBack batch now gate

def releaseHeld : SettlementP Unit := do
  let batch ← requireBatch batchId
  denyBatch batch .tcsaShortfallResolved .pendingDispatch
  let gate ← tcsaGate
  .raiseIf (gate.clear = false) (.guard s!"batch {batchId} stays HELD: payout initiation is still blocked")
  let _ ← updateBatch batchId fun row => { row with status := .pendingDispatch }

/-! Confirmation. -/

/-- The sponsor bank's reference to confirm with: evidence that is durable is never overwritten. -/
def sponsorRef (given : Option String) : Except SettlementError (Option String) :=
  let resolved :=
    if batch.status = .confirmed then (given.filter (· ≠ "")).or batch.sponsorBankRef else given.or batch.sponsorBankRef
  if batch.status ≠ .confirmed ∧ resolved = none then
    .error (.settlement "sponsor_bank_ref is required for a fresh confirmation")
  else if batch.sponsorBankRef.isSome ∧ resolved ≠ batch.sponsorBankRef then
    .error (.settlement "sponsor_bank_ref cannot overwrite already-durable confirmation evidence")
  else .ok resolved

/-- Whether a rail transaction identifier may be recorded for an instruction of the batch. -/
def evidenceFits (tables : Settlements) (batchId instructionId : String) : Bool :=
  match tables.instructions.get? instructionId with
  | none => false
  | some row => row.batchId = some batchId && (row.status = .submitted || row.status = .settled)

def recordTxid (instructions : Dict String SettlementInstruction) (evidence : String × String) :
    Dict String SettlementInstruction :=
  match instructions.get? evidence.1 with
  | none => instructions
  | some row =>
    let noted := { row with railTransactionId := some evidence.2 }
    if row.status = .submitted ∧ row.railTransactionId = none then instructions.set evidence.1 noted else instructions

/-- One transaction of the store: all the evidence is kept, or none of it. -/
def persistConfirmationEvidence (sponsorBankRef : Option String)
    (railTransactionIds : Dict String String) : SettlementP Unit :=
  .act fun _ => do
    let tables ← get
    match tables.batches.get? batchId with
    | none => throw (.settlement s!"unknown batch {batchId}")
    | some batch => do
        raiseIf (batch.sponsorBankRef.isSome ∧ batch.sponsorBankRef ≠ sponsorBankRef)
          (.settlement "sponsor_bank_ref cannot overwrite already-durable confirmation evidence")
        raiseIf (∃ instructionId ∈ railTransactionIds.keys, evidenceFits tables batchId instructionId = false)
          (.settlement "instruction is not a SUBMITTED member of the batch")
        set { tables with
          batches := tables.batches.set batchId { batch with sponsorBankRef }
          instructions := railTransactionIds.entries.foldl recordTxid tables.instructions }

def addPayout (perMerchant : Dict String Int) (row : SettlementInstruction) : Dict String Int :=
  perMerchant.set row.merchantId ((perMerchant.get? row.merchantId).getD 0 + row.netPayoutMinor)

def perMerchant : Dict String Int := rows.foldl addPayout .empty

def closeEntry : JournalEntry :=
  let payouts := (perMerchant rows).entries.mergeSort fun left right => decide (left.1 ≤ right.1)
  { referenceId := batchId, entryType := .settlementBatchClose, idempotencyKey := .batchClose batchId
    postings := payouts.map (fun payout => ⟨.merchantSettlement payout.1, .debit, payout.2⟩) ++
      [⟨.tcsa, .credit, (payouts.map Prod.snd).sum⟩] }

def isDuplicate : SettlementError → Bool
  | .ledgerDuplicate _ => true
  | _ => false

/-- Phase 1.  A close entry that is there already is taken for this one if it is of this batch. -/
def postClose : SettlementP Unit :=
  if rows = [] then pure ()
  else .act fun around => catchWhen isDuplicate (post around (closeEntry batchId rows)) do
    raiseIf ((← get).entries batchId .settlementBatchClose = []) (.ledgerDuplicate (.batchClose batchId))

def settleRow (railTransactionIds : Dict String String) (row : SettlementInstruction) :
    SettlementP Unit := do
  denyInstruction row .railConfirmed .settled
  let _ ← updateInstruction row.instructionId fun current => { current with
    status := .settled, settledAt := some now
    railTransactionId := (row.railTransactionId.filter (· ≠ "")).or (railTransactionIds.get? row.instructionId) }

/-- A confirmation that is taken up where an earlier one stopped. -/
def finishConfirm (railTransactionIds : Dict String String) : SettlementP Unit := do
  let rows ← listMembers batchId .submitted
  .forEach rows (settleRow now railTransactionIds)

/-- Phases 2 and 3. -/
def settleBatch (sponsorBankRef : Option String)
    (railTransactionIds : Dict String String) (rows : List SettlementInstruction) : SettlementP Unit := do
  let _ ← updateBatch batchId fun row => { row with
    status := .confirmed, confirmedAt := some now, sponsorBankRef }
  .forEach rows (settleRow now railTransactionIds)

def confirmFresh (sponsorBankRef : Option String)
    (railTransactionIds : Dict String String) : SettlementP Unit := do
  persistConfirmationEvidence batchId sponsorBankRef railTransactionIds
  let rows ← listMembers batchId .submitted
  postClose batchId rows
  settleBatch batchId now sponsorBankRef railTransactionIds rows

def confirm (sponsorBankRef : Option String) (railTransactionIds : Dict String String) :
    SettlementP Unit := do
  let batch ← requireBatch batchId
  let now ← clockNow
  let resolved ← .attempt (sponsorRef batch sponsorBankRef)
  denyBatch batch .sponsorBankConfirmed .confirmed
  if batch.status = .confirmed then finishConfirm batchId now railTransactionIds
  else confirmFresh batchId now resolved railTransactionIds

/-- `confirm` again for a confirmed batch that still has submitted instructions. -/
def resumeConfirmed : SettlementP Unit := do
  let pending ← listMembers batch.batchId .submitted
  if pending = [] then pure () else confirm batch.batchId batch.sponsorBankRef .empty

/-- `confirm` again for a dispatched batch whose evidence is durable. -/
def resumeDispatched : SettlementP Unit :=
  if batch.sponsorBankRef.isSome then confirm batch.batchId batch.sponsorBankRef .empty else pure ()

def resumeConfirmations : SettlementP Unit := do
  let confirmed ← listBatches .confirmed
  .forEach confirmed resumeConfirmed
  let dispatched ← listBatches .dispatched
  .forEach dispatched resumeDispatched

/-! Failure, retry, cancellation. -/

def failRow (row : SettlementInstruction) : SettlementP Unit := do
  denyInstruction row .timeoutOnBatchFail .failed
  let _ ← updateInstruction row.instructionId fun current => { current with
    status := .failed, failedAt := some now, returnReasonCode := some "BATCH_FAILED" }

def failBatch (trigger : BatchTrigger) (reasonCode : String) : SettlementP Unit := do
  let batch ← requireBatch batchId
  let now ← clockNow
  .raiseIf (batch.status = .dispatched ∧ batch.sponsorBankRef.isSome)
    (.settlement "batch has durable confirmation evidence; resume confirmations before failing")
  denyBatch batch trigger .failed
  let _ ← updateBatch batchId fun row => { row with
    status := .failed, failedAt := some now, failReasonCode := some reasonCode }
  let rows ← listMembers batchId .submitted
  .forEach rows (failRow now)

def reject (batchId reasonCode : String) : SettlementP Unit := failBatch batchId .sponsorBankRejected reasonCode

def timedOut (batch : SettlementBatch) : Bool :=
  batch.sponsorBankRef.isNone && match batch.dispatchedAt with
    | none => false
    | some dispatchedAt =>
      dispatchedAt.micros + batchDispatchTimeoutMinutes batch.rail * 60000000 < now.micros

def timeoutCheck : SettlementP Unit := do
  let now ← clockNow
  let batches ← listBatches .dispatched
  .forEach batches fun batch =>
    if timedOut now batch then failBatch batch.batchId .connectorTimeout "TIMEOUT_EXHAUSTED" else pure ()

/-- The exact inverse of an entry, keyed by that entry. -/
def reversalOf (entry : JournalEntry) : JournalEntry :=
  { referenceId := batchId, entryType := .settlementBatchOpenReversal
    idempotencyKey := .batchOpenReversal entry.idempotencyKey
    postings := entry.postings.map fun posting => { posting with side := posting.side.flipped } }

def reverseEntry (alreadyReversed : List EntryKey) (entry : JournalEntry) : SettlementP Unit :=
  if .batchOpenReversal entry.idempotencyKey ∈ alreadyReversed then pure ()
  else if entry.postings = [] then .raised (.settlement "settlement_batch_open JE has no postings")
  else postJournalEntry (reversalOf batchId entry)

/-- Every open entry of the batch that is not reversed yet is reversed. -/
def postBatchOpenReversals : SettlementP Unit := do
  let existing ← listEntries batchId .settlementBatchOpenReversal
  let openEntries ← listEntries batchId .settlementBatchOpen
  .forEach openEntries (reverseEntry batchId (existing.map JournalEntry.idempotencyKey))

def exhaustRetries : SettlementP Unit := do
  denyBatch batch .maxRetriesExceeded .cancelled
  postBatchOpenReversals batch.batchId
  let _ ← updateBatch batch.batchId fun row => { row with
    status := .cancelled, cancelledAt := some now, failReasonCode := some "MAX_RETRIES_EXCEEDED" }

def requeueRow (row : SettlementInstruction) : SettlementP Unit := do
  denyInstruction row .batchRetryReset .queued
  let _ ← updateInstruction row.instructionId fun current => { current with
    status := .queued, failedAt := none, returnReasonCode := none }

def requireFreshEyes : SettlementP Unit :=
  if retryTwoEyesThresholdMinor < batch.totalCreditMinor then do
    let _ ← updateBatch batch.batchId fun row => { row with twoEyesRequired := true }
  else pure ()

def retryBatch (operatorApproved : Bool) : SettlementP Unit := do
  .raiseIf (operatorApproved = false) (.guard s!"batch {batch.batchId} retry requires operator approval")
  requireFreshEyes batch
  denyBatch batch .manualRetryApproved .pendingDispatch
  let _ ← updateBatch batch.batchId fun row => { row with
    status := .pendingDispatch, retryCount := batch.retryCount + 1 }
  let rows ← listMembers batch.batchId .failed
  .forEach rows requeueRow

def manualRetry (operatorApproved : Bool) : SettlementP Unit := do
  let batch ← requireBatch batchId
  let now ← clockNow
  if maxRetries batch.rail ≤ batch.retryCount then exhaustRetries batch now else retryBatch batch operatorApproved

def cancelRow (row : SettlementInstruction) : SettlementP Unit := do
  let _ ← updateInstruction row.instructionId fun current => { current with status := .cancelled }

def cancel (batchId : String) (operatorApproved : Bool) : SettlementP Unit := do
  .raiseIf (operatorApproved = false) (.guard s!"batch {batchId} cancel requires operator approval")
  let batch ← requireBatch batchId
  let now ← clockNow
  denyBatch batch .operatorCancel .cancelled
  let rows ← listMembers batchId .queued
  .forEach rows fun row => denyInstruction row .batchCancelled .cancelled
  postBatchOpenReversals batchId
  .forEach rows cancelRow
  let _ ← updateBatch batchId fun row => { row with status := .cancelled, cancelledAt := some now }

/-! Callbacks for single instructions. -/

def onRail (trigger : InstructionTrigger) (instructionId : String) (target : InstructionStatus)
    (change : DateTime → SettlementInstruction → SettlementInstruction) : SettlementP Unit := do
  let row ← requireInstruction instructionId
  let now ← clockNow
  denyInstruction row trigger target
  let _ ← updateInstruction instructionId (change now)

def onRailConfirmed (instructionId railTransactionId : String) : SettlementP Unit :=
  onRail .railConfirmed instructionId .settled fun now current => { current with
    status := .settled, settledAt := some now, railTransactionId := some railTransactionId }

def onRailReturned (instructionId returnReasonCode : String) : SettlementP Unit :=
  onRail .railReturned instructionId .returned fun now current => { current with
    status := .returned, returnedAt := some now, returnReasonCode := some returnReasonCode }

def onRailRejected (instructionId errorCode : String) : SettlementP Unit :=
  onRail .railHardRejected instructionId .failed fun now current => { current with
    status := .failed, failedAt := some now, returnReasonCode := some errorCode }

/-! Runs. -/

inductive Operation where
  | registerSucceededPayment (payment : SucceededPayment)
  | setAmlHold (paymentIntentId : String) (hold : Bool)
  | confirmDelivery (paymentIntentId : String) (confirmedAt : DateTime)
  | assignDueInstructions
  | cutoff (batchId : String)
  | grantApproval (batchId approvalRequestId : String)
  | tryDispatch (batchId : String)
  | releaseHeld (batchId : String)
  | confirm (batchId : String) (sponsorBankRef : Option String) (railTransactionIds : Dict String String)
  | resumeConfirmations
  | reject (batchId reasonCode : String)
  | timeoutCheck
  | manualRetry (batchId : String) (operatorApproved : Bool)
  | cancel (batchId : String) (operatorApproved : Bool)
  | onRailConfirmed (instructionId railTransactionId : String)
  | onRailReturned (instructionId returnReasonCode : String)
  | onRailRejected (instructionId errorCode : String)

structure Step where
  around : Surroundings
  operation : Operation

namespace SettlementEngine

variable (engine : SettlementEngine)

/-- An operation, and the hand-off it returns if it is a dispatch. -/
def perform : Operation → SettlementP (Option BeftnBatchHandoff)
  | .registerSucceededPayment payment => do engine.registerSucceededPayment payment; pure none
  | .setAmlHold paymentIntentId hold => do setAmlHold paymentIntentId hold; pure none
  | .confirmDelivery paymentIntentId confirmedAt => do engine.confirmDelivery paymentIntentId confirmedAt; pure none
  | .assignDueInstructions => do engine.assignDueInstructions; pure none
  | .cutoff batchId => do Settlement.cutoff batchId; pure none
  | .grantApproval batchId approvalRequestId => do Settlement.grantApproval batchId approvalRequestId; pure none
  | .tryDispatch batchId => Settlement.tryDispatch batchId
  | .releaseHeld batchId => do Settlement.releaseHeld batchId; pure none
  | .confirm batchId sponsorBankRef railTransactionIds => do
      Settlement.confirm batchId sponsorBankRef railTransactionIds
      pure none
  | .resumeConfirmations => do Settlement.resumeConfirmations; pure none
  | .reject batchId reasonCode => do Settlement.reject batchId reasonCode; pure none
  | .timeoutCheck => do Settlement.timeoutCheck; pure none
  | .manualRetry batchId operatorApproved => do Settlement.manualRetry batchId operatorApproved; pure none
  | .cancel batchId operatorApproved => do Settlement.cancel batchId operatorApproved; pure none
  | .onRailConfirmed instructionId railTransactionId => do
      Settlement.onRailConfirmed instructionId railTransactionId
      pure none
  | .onRailReturned instructionId returnReasonCode => do
      Settlement.onRailReturned instructionId returnReasonCode
      pure none
  | .onRailRejected instructionId errorCode => do
      Settlement.onRailRejected instructionId errorCode
      pure none

/-- The operation run to its end.  What it wrote stays, whether it returned or raised. -/
def after (tables : Settlements) (step : Step) : Settlements :=
  leaves ((engine.perform step.operation).atomic step.around) tables

def run (steps : List Step) : Settlements := steps.foldl engine.after .empty

/-- The hand-off a step returns. -/
def handoff? (tables : Settlements) (step : Step) : Option BeftnBatchHandoff :=
  (value? ((engine.perform step.operation).atomic step.around) tables).join

end SettlementEngine

/-! An engine, its surroundings and payments to run it on. -/

def sampleEngine : SettlementEngine where
  addWorkingDays day days := day + days
  businessDayStart _ := ⟨63000000000000000, DateTime.year1997_inRange⟩
  beftnSession _ := some .morning
  transitConfigured _ := true
  batchIdFor _ _ _ := "sbatch_1"
  instructionIdFor paymentIntentId _ _ _ _ := paymentIntentId

def sampleAround : Surroundings where
  now := ⟨63000000000000000, DateTime.year1997_inRange⟩
  gate := { clear := true }
  takes _ := true

def samplePayment (paymentIntentId : String) (rail : Rail) (amountMinor : Int) : SucceededPayment where
  paymentIntentId := paymentIntentId
  merchantId := "mer_1"
  amountMinor := amountMinor
  feeMinor := 100
  rail := some rail
  beneficiaryAccountRef := "acct_1"
  mccCategory := some .other
  succeededAt := ⟨63000000000000000, DateTime.year1997_inRange⟩
  feeRuleId := none
  deliveryConfirmedAt := none
  direction := some .credit

end BdPay.Ledger.Settlement
