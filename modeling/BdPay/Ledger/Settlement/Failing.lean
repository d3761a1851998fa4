import BdPay.Ledger.Settlement.Confirming

namespace BdPay.Ledger.Settlement

open Platform Data Effect Data.Process Process Settlements SettlementBatch Dict Option

/-! What failing, retrying and cancelling a batch do. -/

variable {around : Surroundings} {tables : Settlements} {batchId : String}
  {raises : SettlementError → Settlements → Prop}

def failedRow (now : DateTime) (row : SettlementInstruction) : SettlementInstruction :=
  { row with status := .failed, failedAt := some now, returnReasonCode := some "BATCH_FAILED" }

variable {returns : Unit → Settlements → Prop}

theorem ends_failRows (keyed : tables.Keyed) {now : DateTime} :
    (forEach (tables.members batchId .submitted) (failRow now)).Ends around tables returns raises ↔
      returns () (tables.rewrite (inBatch batchId .submitted) (failedRow now)) :=
  ends_forEach_rewrite keyed (failedRow now) (fun _ => rfl) fun _ which _ _ present =>
    ends_moveRow (by rw [(inBatch_iff.mp which).2]; decide) present

def Settlements.failed (tables : Settlements) (now : DateTime) (batchId : String) (batch : SettlementBatch)
    (reasonCode : String) : Settlements :=
  { tables with batches := tables.batches.set batchId { batch with
      status := .failed, failedAt := some now, failReasonCode := some reasonCode } }.rewrite (inBatch batchId .submitted)
    (failedRow now)

theorem ends_failBatch (keyed : tables.Keyed)
    (failing : ∀ status, .failed ∈ batchTransitions status trigger ↔ status = .dispatched)
    (refused : ∀ error, (error.refusal = true →
      ¬ ∃ batch, tables.batches.get? batchId = some batch ∧ batch.status = .dispatched) → raises error tables)
    (failed : ∀ batch, tables.batches.get? batchId = some batch → batch.status = .dispatched →
      batch.sponsorBankRef = none → returns () (tables.failed around.now batchId batch reasonCode)) :
    (failBatch batchId trigger reasonCode).Ends around tables returns raises := by
  simp only [failBatch, ends_bind, ends_requireBatch, ends_clockNow, ends_raiseIf, ends_denyBatch]
  refine ⟨fun batch found => ⟨fun _ => refused _ (fun severe => absurd severe (by decide)), fun unconfirmed =>
    ⟨fun denied => refused _ fun _ standing => ?_, fun allowed => ?_⟩⟩,
      fun _ => refused _ (fun severe => absurd severe (by simp [SettlementError.refusal]))⟩
  · obtain ⟨_, same, dispatched⟩ := standing
    rw [found, some.injEq] at same
    exact denied ((failing _).mpr (same ▸ dispatched))
  have dispatched := (failing batch.status).mp allowed
  have unmarked : batch.sponsorBankRef = none := by
    simpa [dispatched] using unconfirmed
  simp only [ends_setBatch found, ends_listMembers]
  refine (@ends_failRows around { tables with batches := tables.batches.set batchId { batch with
    status := .failed, failedAt := some around.now, failReasonCode := some reasonCode } } batchId raises _ ?_ _).mpr
    (failed batch found dispatched unmarked)
  exact (@Wrote.batch .timeoutCheck tables batchId batch { batch with
    status := .failed, failedAt := some around.now, failReasonCode := some reasonCode } found
    (.of_same rfl (by simp))).keyed keyed

/-! Reversals. -/

/-- The open entries of the batch that no reversal is posted for. -/
def Settlements.unreversed (tables : Settlements) (batchId : String) : List JournalEntry :=
  (tables.entries batchId .settlementBatchOpen).filter fun entry =>
    .batchOpenReversal entry.idempotencyKey ∉
      (tables.entries batchId .settlementBatchOpenReversal).map JournalEntry.idempotencyKey

def Settlements.withReversals (tables : Settlements) (batchId : String) (reversed : List JournalEntry) : Settlements :=
  { tables with journal := tables.journal ++ reversed.map (reversalOf batchId) }

/-- Every open entry of the batch is reversed. -/
abbrev Settlements.takenBack (tables : Settlements) (batchId : String) : Settlements :=
  tables.withReversals batchId (tables.unreversed batchId)

theorem ends_reverseEntries {entries : List JournalEntry}
    (stopped : ∀ done error, done <+: entries.filter (fun entry => .batchOpenReversal entry.idempotencyKey ∉ already) →
      error.refusal = false → raises error (tables.withReversals batchId done))
    (finished : returns () (tables.withReversals batchId
      (entries.filter fun entry => .batchOpenReversal entry.idempotencyKey ∉ already))) :
    (forEach entries (reverseEntry batchId already)).Ends around tables returns raises := by
  induction entries generalizing tables with
  | nil =>
    refine ends_pure.mpr ?_
    simpa [withReversals] using finished
  | cons entry _ ih =>
    refine ends_bind.mpr ?_
    simp only [reverseEntry, ends_ite, ends_pure, ends_raised, ends_postJournalEntry, stops_post]
    have start : ∀ error, error.refusal = false → raises error tables := fun error mild => by
      simpa [withReversals] using stopped [] error (List.nil_prefix) mild
    refine ⟨fun skipped => ih ?_ ?_, fun open_ => ⟨fun _ => start _ rfl, fun _ => ⟨fun _ => start _ rfl, fun _ =>
      ⟨fun _ => start _ rfl, fun _ => ⟨fun _ => start _ rfl, fun _ => ih ?_ ?_⟩⟩⟩⟩⟩
    · intro done error leading mild
      exact stopped done error (by simpa [List.filter_cons, skipped] using leading) mild
    · simpa [List.filter_cons, skipped] using finished
    · intro done error leading mild
      have longer := stopped (entry :: done) error (by simpa [List.filter_cons, open_] using leading) mild
      simpa [withReversals] using longer
    · simpa [withReversals, List.filter_cons, open_] using finished

theorem ends_postBatchOpenReversals
    (stopped : ∀ done error, done <+: tables.unreversed batchId → error.refusal = false →
      raises error (tables.withReversals batchId done))
    (finished : returns () (tables.takenBack batchId)) :
    (postBatchOpenReversals batchId).Ends around tables returns raises := by
  simp only [postBatchOpenReversals, ends_bind, ends_listEntries]
  exact ends_reverseEntries stopped finished

/-! Retry. -/

def requeued (row : SettlementInstruction) : SettlementInstruction :=
  { row with status := .queued, failedAt := none, returnReasonCode := none }

theorem ends_requeueRows (keyed : tables.Keyed) :
    (forEach (tables.members batchId .failed) requeueRow).Ends around tables returns raises ↔
      returns () (tables.rewrite (inBatch batchId .failed) requeued) :=
  ends_forEach_rewrite keyed requeued (fun _ => rfl) fun _ which _ _ present =>
    ends_moveRow (by rw [(inBatch_iff.mp which).2]; decide) present

/-- Over the threshold for retries a fresh pair of eyes is required. -/
def SettlementBatch.rewatched (batch : SettlementBatch) : SettlementBatch :=
  if retryTwoEyesThresholdMinor < batch.totalCreditMinor then { batch with twoEyesRequired := true } else batch

theorem SettlementBatch.rewatched_batchId (batch : SettlementBatch) : batch.rewatched.batchId = batch.batchId := by
  rw [rewatched]
  split_ifs <;> rfl

def Settlements.retried (tables : Settlements) (batchId : String) (batch : SettlementBatch) : Settlements :=
  { tables with batches := tables.batches.set batchId { batch.rewatched with
      status := .pendingDispatch, retryCount := batch.retryCount + 1 } }.rewrite (inBatch batchId .failed) requeued

def Settlements.exhausted (tables : Settlements) (now : DateTime) (batchId : String) (batch : SettlementBatch) :
    Settlements :=
  { tables with batches := tables.batches.set batchId { batch with
      status := .cancelled, cancelledAt := some now, failReasonCode := some "MAX_RETRIES_EXCEEDED" } }

theorem ends_requireFreshEyes (found : tables.batches.get? batch.batchId = some batch) :
    (requireFreshEyes batch).Ends around tables returns raises ↔
      returns () { tables with batches := tables.batches.set batch.batchId batch.rewatched } := by
  rw [requireFreshEyes, rewatched]
  split_ifs with above
  · simp only [ends_bind, ends_setBatch found, ends_pure]
  · rw [ends_pure, set_of_get? found]

theorem ends_manualRetry (keyed : tables.Keyed)
    (refused : ∀ error, (∀ batch, tables.batches.get? batchId = some batch → batch.retryCount < maxRetries batch.rail →
      operatorApproved = false) → raises error tables)
    (stopped : ∀ batch done error, tables.batches.get? batchId = some batch → batch.status = .failed →
      maxRetries batch.rail ≤ batch.retryCount → done <+: tables.unreversed batchId → error.refusal = false →
      raises error (tables.withReversals batchId done))
    (exhausted : ∀ batch, tables.batches.get? batchId = some batch → batch.status = .failed →
      maxRetries batch.rail ≤ batch.retryCount →
      returns () ((tables.takenBack batchId).exhausted around.now batchId batch))
    (late : ∀ batch, tables.batches.get? batchId = some batch → batch.status ≠ .failed →
      batch.retryCount < maxRetries batch.rail → operatorApproved = true →
      raises (.batchDenied batchId batch.status .manualRetryApproved .pendingDispatch)
        { tables with batches := tables.batches.set batchId batch.rewatched })
    (retried : ∀ batch, tables.batches.get? batchId = some batch → batch.status = .failed →
      batch.retryCount < maxRetries batch.rail → operatorApproved = true → returns () (tables.retried batchId batch)) :
    (manualRetry batchId operatorApproved).Ends around tables returns raises := by
  simp only [manualRetry, ends_bind, ends_requireBatch, ends_clockNow, ends_ite]
  refine ⟨fun batch found => ?_, fun absent => refused _ fun _ found => by rw [absent] at found; cases found⟩
  have own : batch.batchId = batchId := keyed.batches.key_of_get? found
  subst own
  refine ⟨fun spent => ?_, fun again => ?_⟩
  · simp only [exhaustRetries, ends_bind, ends_denyBatch]
    refine ⟨fun _ => refused _ fun other same again => ?_, fun allowed => ?_⟩
    · rw [found, some.injEq] at same
      subst same
      exact absurd spent (Nat.not_le.mpr again)
    have failed : batch.status = .failed := by
      revert allowed
      cases batch.status <;> decide
    refine ends_postBatchOpenReversals (fun done error leading mild =>
      stopped batch done error found failed spent leading mild) ?_
    have there : (tables.withReversals batch.batchId (tables.unreversed batch.batchId)).batches.get? batch.batchId =
        some batch := found
    simp only [ends_setBatch there, ends_pure]
    exact exhausted batch found failed spent
  · have again := Nat.lt_of_not_le again
    simp only [retryBatch, ends_bind, ends_raiseIf, ends_requireFreshEyes found, ends_denyBatch, ends_updateBatch,
      ends_listMembers, get?_set_self, some.injEq, forall_eq', reduceCtorEq, false_implies, and_true,
      set_set]
    refine ⟨fun unapproved => refused _ fun _ _ _ => unapproved, fun approved => ⟨fun denied => ?_, fun allowed => ?_⟩⟩
    · refine late batch found ?_ again (by simpa using approved)
      intro failed
      rw [failed] at denied
      exact denied (by decide)
    · have failed : batch.status = .failed := by
        revert allowed
        cases batch.status <;> decide
      refine (@ends_requeueRows around { tables with batches := tables.batches.set batch.batchId { batch.rewatched with
        status := .pendingDispatch, retryCount := batch.retryCount + 1 } } batch.batchId raises _ ?_).mpr
        (retried batch found failed again (by simpa using approved))
      exact ⟨keyed.batches.set batch.rewatched_batchId, keyed.instructions⟩

/-! Cancellation. -/

def cancelledRow (row : SettlementInstruction) : SettlementInstruction := { row with status := .cancelled }

def Settlements.cancelled (tables : Settlements) (now : DateTime) (batchId : String) (batch : SettlementBatch) :
    Settlements :=
  let withdrawn := tables.rewrite (inBatch batchId .queued) cancelledRow
  { withdrawn with batches := withdrawn.batches.set batchId { batch with status := .cancelled, cancelledAt := some now } }

theorem ends_cancelRows (keyed : tables.Keyed) :
    (forEach (tables.members batchId .queued) cancelRow).Ends around tables returns raises ↔
      returns () (tables.rewrite (inBatch batchId .queued) cancelledRow) := by
  refine ends_forEach_rewrite keyed cancelledRow (fun _ => rfl) fun row _ _ _ present => ?_
  simp only [cancelRow, ends_bind, ends_updateInstruction, ends_pure, present, some.injEq, forall_eq', reduceCtorEq,
    false_implies, and_true]
  rfl

theorem ends_checkRows (queued : ∀ row ∈ rows, row.status = .queued) (holds : returns () tables) :
    (forEach rows fun row => denyInstruction row .batchCancelled .cancelled).Ends around tables returns raises := by
  induction rows with
  | nil => exact ends_pure.mpr holds
  | cons row _ ih =>
    have allowed : InstructionStatus.cancelled ∈ instructionTransitions row.status .batchCancelled := by
      rw [queued row List.mem_cons_self]
      decide
    refine ends_bind.mpr (ends_denyInstruction.mpr ⟨fun denied => absurd allowed denied, fun _ => ?_⟩)
    exact ih fun other member => queued other (List.mem_cons_of_mem _ member)

theorem ends_cancel (keyed : tables.Keyed) (refused : ∀ error, raises error tables)
    (stopped : ∀ batch done error, tables.batches.get? batchId = some batch →
      batch.status = .pendingDispatch ∨ batch.status = .held → done <+: tables.unreversed batchId →
      error.refusal = false → raises error (tables.withReversals batchId done))
    (cancelled : ∀ batch, tables.batches.get? batchId = some batch →
      batch.status = .pendingDispatch ∨ batch.status = .held →
      returns () ((tables.takenBack batchId).cancelled around.now batchId batch)) :
    (cancel batchId approved).Ends around tables returns raises := by
  simp only [cancel, ends_bind, ends_raiseIf, ends_requireBatch, ends_clockNow, ends_denyBatch, ends_listMembers]
  refine ⟨fun _ => refused _, fun _ => ⟨fun batch found => ⟨fun _ => refused _, fun allowed => ?_⟩, fun _ => refused _⟩⟩
  have waiting : batch.status = .pendingDispatch ∨ batch.status = .held := by
    revert allowed
    cases batch.status <;> decide
  refine ends_checkRows (fun row member => (mem_members.mp member).2.2) ?_
  refine ends_postBatchOpenReversals
    (fun done error leading mild => stopped batch done error found waiting leading mild) ?_
  have keyed' : (tables.takenBack batchId).Keyed := ⟨keyed.batches, keyed.instructions⟩
  have there : ((tables.takenBack batchId).rewrite (inBatch batchId .queued)
      cancelledRow).batches.get? batchId = some batch := found
  refine (ends_cancelRows keyed').mpr ?_
  simp only [ends_setBatch there, ends_pure]
  exact cancelled batch found waiting

end BdPay.Ledger.Settlement
