import BdPay.Ledger.Settlement.Rules

namespace BdPay.Ledger.Settlement

open Platform Data Effect Process SettlementBatch SettlementEngine

/-! Everything one step of an operation can write, and what follows for whole runs. -/

/-- What a batch is opened for. -/
def SettlementBatch.place (batch : SettlementBatch) : Rail × Nat × Option Session :=
  (batch.rail, batch.cycleDate, batch.session)

/-- What an operation may make of a batch.  Only a grant lifts the need for approval, and
only an assignment moves the totals, only a dispatch dispatches. -/
structure BatchChange (operation : Operation) (key : String) (old new : SettlementBatch) : Prop where
  batchId : new.batchId = old.batchId
  place : new.place = old.place
  eyes : old.twoEyesRequired = true → new.twoEyesRequired = true ∨ ∃ approval, operation = .grantApproval key approval
  totals : new.totalCreditMinor = old.totalCreditMinor ∧ new.instructionCount = old.instructionCount ∨
    operation = .assignDueInstructions
  dispatched : new.status = .dispatched → old.status = .dispatched ∨ operation = .tryDispatch key

/-- What an operation may make of an instruction.  Only a dispatch submits it. -/
structure InstructionChange (operation : Operation) (old new : SettlementInstruction) : Prop where
  instructionId : new.instructionId = old.instructionId
  submitted : new.status = .submitted → old.status = .submitted ∨ ∃ batchId, operation = .tryDispatch batchId

inductive Wrote (operation : Operation) (tables : Settlements) : Settlements → Prop
  | nothing : Wrote operation tables tables
  | newInstruction (row : SettlementInstruction) (queued : row.status = .queued)
      (fresh : tables.instructions.get? row.instructionId = none) : Wrote operation tables (tables.setInstruction row)
  | newBatch (row : SettlementBatch) (assigning : operation = .assignDueInstructions) (opened : row.status = .opened)
      (fresh : tables.batches.get? row.batchId = none) : Wrote operation tables (tables.setBatch row)
  | batch (key : String) (old new : SettlementBatch) (found : tables.batches.get? key = some old)
      (change : BatchChange operation key old new) :
      Wrote operation tables { tables with batches := tables.batches.set key new }
  | instruction (key : String) (old new : SettlementInstruction) (found : tables.instructions.get? key = some old)
      (change : InstructionChange operation old new) :
      Wrote operation tables { tables with instructions := tables.instructions.set key new }
  | evidence (key : String) (old new : SettlementBatch) (found : tables.batches.get? key = some old)
      (change : BatchChange operation key old new) (noted : List (String × String)) :
      Wrote operation tables { tables with
        batches := tables.batches.set key new, instructions := noted.foldl recordTxid tables.instructions }
  | posted (entry : JournalEntry) (formed : entry.wellFormed = true) :
    Wrote operation tables { tables with journal := tables.journal ++ [entry] }

section Rules

variable {α : Type} {batchId : String}

theorem keeps_look {look : Surroundings → Settlements → α} :
    (Process.act (fun around => do pure (look around (← get))) : SettlementP α).Keeps (Wrote operation) :=
  keeps_act fun _ _ => .nothing

theorem keeps_clockNow : clockNow.Keeps (Wrote operation) := keeps_act fun _ _ => .nothing

theorem keeps_tcsaGate : tcsaGate.Keeps (Wrote operation) := keeps_act fun _ _ => .nothing

theorem keeps_listMembers {status : InstructionStatus} : (listMembers batchId status).Keeps (Wrote operation) :=
  keeps_look

theorem keeps_listBatches {status : BatchStatus} : (listBatches status).Keeps (Wrote operation) := keeps_look

theorem keeps_listEntries {entryType : EntryType} : (listEntries batchId entryType).Keeps (Wrote operation) :=
  keeps_look

theorem keeps_requireBatch : (requireBatch batchId).Keeps (Wrote operation) :=
  keeps_act_of_ends fun _ _ => ends_requireBatch.mpr ⟨fun _ _ => .nothing, fun _ => .nothing⟩

theorem keeps_requireInstruction : (requireInstruction instructionId).Keeps (Wrote operation) :=
  keeps_act_of_ends fun _ _ => ends_requireInstruction.mpr ⟨fun _ _ => .nothing, fun _ => .nothing⟩

theorem keeps_updateBatch (allowed : ∀ batch, BatchChange operation batchId batch (change batch)) :
    (updateBatch batchId change).Keeps (Wrote operation) :=
  keeps_act_of_ends fun _ _ => ends_updateBatch.mpr
    ⟨fun batch found => .batch batchId batch _ found (allowed batch), fun _ => .nothing⟩

theorem keeps_updateInstruction (allowed : ∀ row, InstructionChange operation row (change row)) :
    (updateInstruction instructionId change).Keeps (Wrote operation) :=
  keeps_act_of_ends fun _ _ => ends_updateInstruction.mpr
    ⟨fun row found => .instruction instructionId row _ found (allowed row), fun _ => .nothing⟩

theorem keeps_insertBatch (opened : row.status = .opened) : (insertBatch row).Keeps (Wrote .assignDueInstructions) :=
  keeps_act_of_ends fun _ _ => ends_insertBatch.mpr ⟨fun _ => .nothing, fun absent =>
    .newBatch row rfl opened (Dict.contains_eq_false_iff.mp (by simpa using absent))⟩

theorem keeps_postJournalEntry : (postJournalEntry entry).Keeps (Wrote operation) := by
  refine keeps_act_of_ends fun _ _ => ends_postJournalEntry.mpr (stops_post.mpr ?_)
  refine ⟨fun _ => .nothing, fun formed => ⟨fun _ => .nothing, fun _ => ⟨fun _ => .nothing, fun _ => .posted entry ?_⟩⟩⟩
  simpa using formed

theorem keeps_denyBatch :
    (denyBatch batch trigger target).Keeps (Wrote operation) := keeps_raiseIf

theorem keeps_denyInstruction
    : (denyInstruction row trigger target).Keeps (Wrote operation) := keeps_raiseIf

end Rules

/-! The operations. -/

variable {operation : Operation} {batchId : String}

/-- What no operation but an assignment or one about approvals changes in a batch. -/
def SettlementBatch.lasting (batch : SettlementBatch) : String × (Rail × Nat × Option Session) × Bool × Int × Nat :=
  (batch.batchId, batch.place, batch.twoEyesRequired, batch.totalCreditMinor, batch.instructionCount)

theorem BatchChange.of_same (same : new.lasting = old.lasting)
    (dispatched : new.status = .dispatched → old.status = .dispatched ∨ operation = .tryDispatch key) :
    BatchChange operation key old new := by
  simp only [lasting, Prod.mk.injEq] at same
  obtain ⟨batchId, place, eyes, credit, count⟩ := same
  exact ⟨batchId, place, fun required => .inl (eyes.trans required), .inl ⟨credit, count⟩, dispatched⟩

theorem keeps_updateBatch_done
    (same : ∀ batch, (change batch).lasting = batch.lasting) (status : ∀ batch, (change batch).status ≠ .dispatched) :
    (do let _ ← updateBatch batchId change; pure () : SettlementP Unit).Keeps (Wrote operation) :=
  .bind (keeps_updateBatch fun batch => .of_same (same batch) fun now => absurd now (status batch)) fun _ => keeps_pure

variable {rows : List SettlementInstruction} {now : DateTime}

theorem keeps_updateInstruction_done
    (instructionIds : ∀ row, (change row).instructionId = row.instructionId)
    (submitted : ∀ row, (change row).status = .submitted → row.status = .submitted) :
    (do let _ ← updateInstruction instructionId change; pure () : SettlementP Unit).Keeps (Wrote operation) :=
  .bind (keeps_updateInstruction fun row => ⟨instructionIds row, fun now => .inl (submitted row now)⟩)
    fun _ => keeps_pure

theorem cutoff_writes : (cutoff batchId).Keeps (Wrote operation) := by
  refine keeps_requireBatch.bind fun batch => keeps_clockNow.bind fun now => keeps_ite ?_ ?_
  · exact keeps_denyBatch.bind fun _ => keeps_updateBatch_done (fun _ => rfl) (by simp)
  · exact keeps_denyBatch.bind fun _ => keeps_updateBatch_done (fun _ => rfl) (by simp)

theorem grantApproval_writes {approvalRequestId : String} :
    (grantApproval batchId approvalRequestId).Keeps (Wrote (.grantApproval batchId approvalRequestId)) := by
  refine keeps_requireBatch.bind fun batch => keeps_denyBatch.bind fun _ => ?_
  exact .bind (keeps_updateBatch fun _ => ⟨rfl, rfl, fun _ => .inr ⟨_, rfl⟩, .inl ⟨rfl, rfl⟩, .inl⟩) fun _ => keeps_pure

theorem releaseHeld_writes : (releaseHeld batchId).Keeps (Wrote operation) := by
  refine keeps_requireBatch.bind fun batch => keeps_denyBatch.bind fun _ => keeps_tcsaGate.bind fun gate => ?_
  exact keeps_raiseIf.bind fun _ => keeps_updateBatch_done (fun _ => rfl) (by simp)

theorem submitRows_writes : (submitRows now rows).Keeps (Wrote (.tryDispatch batchId)) := by
  induction rows with
  | nil => exact keeps_pure
  | cons _ _ ih =>
    refine keeps_denyInstruction.bind fun _ => ?_
    refine .bind (keeps_updateInstruction fun _ => ⟨rfl, fun _ => .inr ⟨_, rfl⟩⟩) fun _ => ?_
    exact keeps_requireInstruction.bind fun _ => ih.bind fun _ => keeps_pure

theorem tryDispatch_writes : (tryDispatch batchId).Keeps (Wrote (.tryDispatch batchId)) := by
  refine keeps_requireBatch.bind fun batch => keeps_clockNow.bind fun now => keeps_raiseIf.bind fun _ => ?_
  refine keeps_denyBatch.bind fun _ => keeps_tcsaGate.bind fun gate => keeps_ite ?_ ?_
  · refine .bind (keeps_updateBatch fun _ => .of_same rfl (by simp)) fun updated => ?_
    refine keeps_listMembers.bind fun rows => submitRows_writes.bind fun submitted => keeps_ite ?_ keeps_pure
    exact keeps_attempt.bind fun _ => keeps_pure
  · exact keeps_denyBatch.bind fun _ => .bind (keeps_updateBatch fun _ => .of_same rfl (by simp)) fun _ => keeps_pure

variable {txids : Dict String String} {sponsorBankRef : Option String}

theorem keeps_persistConfirmationEvidence :
    (persistConfirmationEvidence batchId sponsorBankRef txids).Keeps (Wrote operation) := by
  refine keeps_act fun around tables => stops_iff_leaves.mp ?_
  rw [stops_bind, stops_get]
  cases found : tables.batches.get? batchId with
  | none => exact stops_throw.mpr .nothing
  | some batch =>
    simp only [stops_bind, stops_raiseIf, stops_set]
    exact ⟨fun _ => .nothing, fun _ => ⟨fun _ => .nothing,
      fun _ => .evidence batchId batch { batch with sponsorBankRef } found (.of_same rfl .inl) txids.entries⟩⟩

theorem keeps_postClose : (postClose batchId rows).Keeps (Wrote operation) := by
  refine keeps_ite keeps_pure (keeps_act fun around tables => stops_iff_leaves.mp ?_)
  rw [stops_catchWhen, stops_post]
  refine ⟨fun _ => ?_, fun formed => ⟨fun _ => ?_, fun _ => ⟨fun _ => ?_, fun _ => .posted _ (by simpa using formed)⟩⟩⟩
  · exact .nothing
  · simp only [isDuplicate, if_true, stops_bind, stops_get, stops_raiseIf]
    exact ⟨fun _ => .nothing, fun _ => .nothing⟩
  · exact .nothing

theorem settleRow_writes : (settleRow now txids row).Keeps (Wrote operation) :=
  keeps_denyInstruction.bind fun _ => keeps_updateInstruction_done (fun _ => rfl) (by simp)

theorem confirm_writes : (confirm batchId sponsorBankRef txids).Keeps (Wrote operation) := by
  refine keeps_requireBatch.bind fun batch => keeps_clockNow.bind fun now => keeps_attempt.bind fun resolved => ?_
  refine keeps_denyBatch.bind fun _ => keeps_ite ?_ ?_
  · exact keeps_listMembers.bind fun rows => keeps_forEach fun _ => settleRow_writes
  · refine keeps_persistConfirmationEvidence.bind fun _ => keeps_listMembers.bind fun rows => ?_
    refine keeps_postClose.bind fun _ => (?_ : (settleBatch batchId now resolved txids rows).Keeps _)
    refine .bind (keeps_updateBatch fun _ => .of_same rfl (by simp)) fun _ => ?_
    exact keeps_forEach fun _ => settleRow_writes

theorem resumeConfirmations_writes : resumeConfirmations.Keeps (Wrote operation) := by
  refine keeps_listBatches.bind fun confirmed => (keeps_forEach fun batch => ?_).bind fun _ => ?_
  · exact keeps_listMembers.bind fun _ => keeps_ite keeps_pure confirm_writes
  · exact keeps_listBatches.bind fun dispatched => keeps_forEach fun batch => keeps_ite confirm_writes keeps_pure

theorem failBatch_writes {reasonCode : String} : (failBatch batchId trigger reasonCode).Keeps (Wrote operation) := by
  refine keeps_requireBatch.bind fun batch => keeps_clockNow.bind fun now => keeps_raiseIf.bind fun _ => ?_
  refine keeps_denyBatch.bind fun _ => .bind (keeps_updateBatch fun _ => .of_same rfl (by simp)) fun _ => ?_
  refine keeps_listMembers.bind fun rows => keeps_forEach fun _ => keeps_denyInstruction.bind fun _ => ?_
  exact keeps_updateInstruction_done (fun _ => rfl) (by simp)

theorem timeoutCheck_writes : timeoutCheck.Keeps (Wrote operation) := by
  refine keeps_clockNow.bind fun now => keeps_listBatches.bind fun batches => keeps_forEach fun batch => ?_
  exact keeps_ite failBatch_writes keeps_pure

theorem postBatchOpenReversals_writes : (postBatchOpenReversals batchId).Keeps (Wrote operation) := by
  refine keeps_listEntries.bind fun existing => keeps_listEntries.bind fun openEntries => keeps_forEach fun _ => ?_
  exact keeps_ite keeps_pure (keeps_ite keeps_raised keeps_postJournalEntry)

theorem requeueRow_writes : (requeueRow row).Keeps (Wrote operation) :=
  keeps_denyInstruction.bind fun _ => keeps_updateInstruction_done (fun _ => rfl) (by simp)

theorem manualRetry_writes : (manualRetry batchId operatorApproved).Keeps (Wrote operation) := by
  refine keeps_requireBatch.bind fun batch => keeps_clockNow.bind fun now => keeps_ite ?_ ?_
  · refine keeps_denyBatch.bind fun _ => postBatchOpenReversals_writes.bind fun _ => ?_
    exact keeps_updateBatch_done (fun _ => rfl) (by simp)
  · refine keeps_raiseIf.bind fun _ => (keeps_ite ?_ keeps_pure).bind fun _ => keeps_denyBatch.bind fun _ => ?_
    · exact .bind (keeps_updateBatch fun _ => ⟨rfl, rfl, fun _ => .inl rfl, .inl ⟨rfl, rfl⟩, .inl⟩) fun _ => keeps_pure
    · refine .bind (keeps_updateBatch fun _ => .of_same rfl (by simp)) fun _ => ?_
      exact keeps_listMembers.bind fun rows => keeps_forEach fun _ => requeueRow_writes

theorem cancel_writes : (cancel batchId operatorApproved).Keeps (Wrote operation) := by
  refine keeps_raiseIf.bind fun _ => keeps_requireBatch.bind fun batch => keeps_clockNow.bind fun now => ?_
  refine keeps_denyBatch.bind fun _ => keeps_listMembers.bind fun rows => ?_
  refine (keeps_forEach fun _ => keeps_denyInstruction).bind fun _ => postBatchOpenReversals_writes.bind fun _ => ?_
  refine (keeps_forEach fun _ => ?_).bind fun _ => ?_
  · exact keeps_updateInstruction_done (fun _ => rfl) (by simp)
  · exact keeps_updateBatch_done (fun _ => rfl) (by simp)

theorem onRail_writes (instructionIds : ∀ now row, (change now row).instructionId = row.instructionId)
    (submitted : ∀ now row, (change now row).status = .submitted → row.status = .submitted) :
    (onRail trigger instructionId target change).Keeps (Wrote operation) := by
  refine keeps_requireInstruction.bind fun row => keeps_clockNow.bind fun now => keeps_denyInstruction.bind fun _ => ?_
  exact keeps_updateInstruction_done (instructionIds now) (submitted now)

theorem setAmlHold_writes {hold : Bool} : (setAmlHold intentId hold).Keeps (Wrote operation) :=
  .bind keeps_look fun _ => keeps_forEach fun _ => keeps_updateInstruction_done (fun _ => rfl) fun _ => id

namespace SettlementEngine

variable (engine : SettlementEngine)

theorem confirmDelivery_writes {confirmedAt : DateTime} :
    (engine.confirmDelivery intentId confirmedAt).Keeps (Wrote operation) :=
  .bind keeps_look fun _ => keeps_forEach fun _ => keeps_updateInstruction_done (fun _ => rfl) fun _ => id

theorem insertNew_writes (queued : row.status = .queued) : (insertNew row).Keeps (Wrote operation) := by
  refine .bind keeps_look fun existing => ?_
  cases existing with
  | some => exact keeps_pure
  | none =>
    refine keeps_act fun around tables => stops_iff_leaves.mp ?_
    simp only [stops_bind, stops_get, stops_raiseIf, stops_set]
    refine ⟨fun _ => .nothing, fun absent => ⟨fun _ => .nothing, fun _ => ⟨fun _ => .nothing, fun _ => ?_⟩⟩⟩
    exact .newInstruction row queued (Dict.contains_eq_false_iff.mp (by simpa using absent))

variable {α : Type}

theorem keeps_known : (known named message).Keeps (Wrote operation) := by
  cases named with
  | none => exact keeps_raised
  | some => exact keeps_pure

theorem registerSucceededPayment_writes : (engine.registerSucceededPayment payment).Keeps (Wrote operation) := by
  refine keeps_known.bind fun rail => keeps_known.bind fun direction => keeps_known.bind fun mccCategory => ?_
  exact keeps_raiseIf.bind fun _ => keeps_clockNow.bind fun now => insertNew_writes rfl

theorem getOrCreateOpenBatch_writes {rail : Rail} {cycleDate : Nat} {session : Option Session} :
    (engine.getOrCreateOpenBatch rail cycleDate session).Keeps (Wrote .assignDueInstructions) := by
  refine .bind keeps_look fun existing => ?_
  cases existing with
  | some => exact keeps_pure
  | none => exact keeps_clockNow.bind fun now => (keeps_insertBatch rfl).bind fun _ => keeps_pure

theorem assignIn_writes : (engine.assignIn now row batch).Keeps (Wrote .assignDueInstructions) := by
  refine keeps_raiseIf.bind fun _ => keeps_postJournalEntry.bind fun _ => (?_ : (fileRow now row batch).Keeps _)
  refine .bind (keeps_updateBatch fun _ => ⟨rfl, rfl, fun required => .inl required, .inr rfl, .inl⟩) fun updated => ?_
  refine .bind (keeps_updateInstruction fun _ => ⟨rfl, fun same => .inl same⟩) fun _ => keeps_ite ?_ keeps_pure
  exact .bind (keeps_updateBatch fun _ => ⟨rfl, rfl, fun _ => .inl rfl, .inr rfl, .inl⟩) fun _ => keeps_pure

theorem assignRow_writes : (engine.assignRow now row).Keeps (Wrote .assignDueInstructions) :=
  engine.getOrCreateOpenBatch_writes.bind fun _ => engine.assignIn_writes

theorem assignDueInstructions_writes : engine.assignDueInstructions.Keeps (Wrote .assignDueInstructions) := by
  refine keeps_clockNow.bind fun now => .bind keeps_look fun rows => keeps_forEach fun row => ?_
  exact keeps_ite engine.assignRow_writes keeps_pure

/-- Every step of an operation is one of its writes. -/
theorem perform_writes (operation : Operation) : (engine.perform operation).Keeps (Wrote operation) := by
  cases operation with
  | registerSucceededPayment => exact engine.registerSucceededPayment_writes.bind fun _ => keeps_pure
  | setAmlHold => exact setAmlHold_writes.bind fun _ => keeps_pure
  | confirmDelivery => exact engine.confirmDelivery_writes.bind fun _ => keeps_pure
  | assignDueInstructions => exact engine.assignDueInstructions_writes.bind fun _ => keeps_pure
  | cutoff => exact cutoff_writes.bind fun _ => keeps_pure
  | grantApproval => exact grantApproval_writes.bind fun _ => keeps_pure
  | tryDispatch => exact tryDispatch_writes
  | releaseHeld => exact releaseHeld_writes.bind fun _ => keeps_pure
  | confirm => exact confirm_writes.bind fun _ => keeps_pure
  | resumeConfirmations => exact resumeConfirmations_writes.bind fun _ => keeps_pure
  | reject => exact failBatch_writes.bind fun _ => keeps_pure
  | timeoutCheck => exact timeoutCheck_writes.bind fun _ => keeps_pure
  | manualRetry => exact manualRetry_writes.bind fun _ => keeps_pure
  | cancel => exact cancel_writes.bind fun _ => keeps_pure
  | onRailConfirmed | onRailReturned | onRailRejected =>
    exact .bind (onRail_writes (fun _ _ => rfl) (by simp)) fun _ => keeps_pure

theorem after_keeps {rel : Settlements → Settlements → Prop} {step : Step}
    (kept : ∀ {tables later}, Wrote step.operation tables later → rel tables later)
    (transitive : ∀ {first second third}, rel first second → rel second third → rel first third)
    (tables : Settlements) : rel tables (engine.after tables step) :=
  Keeps.leaves ((engine.perform_writes step.operation).mono fun _ _ => kept) (fun _ => kept .nothing) transitive
    step.around tables

end SettlementEngine

/-- What a write does to the batch of one identifier. -/
theorem Wrote.batch_cases (wrote : Wrote operation tables later) (batchId : String) :
    later.batches.get? batchId = tables.batches.get? batchId ∨
      (∃ old new, tables.batches.get? batchId = some old ∧ later.batches.get? batchId = some new ∧
        BatchChange operation batchId old new) ∨
      ∃ row, operation = .assignDueInstructions ∧ row.status = .opened ∧ tables.batches.get? batchId = none ∧
        later.batches.get? batchId = some row := by
  cases wrote with
  | batch key old new found change | evidence key old new found change =>
    by_cases same : batchId = key
    · subst same
      exact .inr (.inl ⟨old, new, found, Dict.get?_set_self _ _ _, change⟩)
    · exact .inl (Dict.get?_set_of_ne same)
  | newBatch row assigning opened fresh =>
    by_cases same : batchId = row.batchId
    · subst same
      exact .inr (.inr ⟨row, assigning, opened, fresh, Dict.get?_set_self _ _ _⟩)
    · exact .inl (Dict.get?_set_of_ne same)
  | _ => exact .inl rfl

theorem foldl_recordTxid_keyed
    (keyed : instructions.Keyed SettlementInstruction.instructionId) (noted : List (String × String)) :
    (noted.foldl recordTxid instructions).Keyed SettlementInstruction.instructionId := by
  induction noted generalizing instructions with
  | nil => exact keyed
  | cons evidence _ ih =>
    refine ih ?_
    rw [recordTxid]
    cases found : instructions.get? evidence.1 with
    | none => exact keyed
    | some row =>
      dsimp only
      split_ifs
      · have own : row.instructionId = evidence.1 := keyed.key_of_get? found
        exact keyed.set own
      · exact keyed

theorem Wrote.keyed (wrote : Wrote operation tables later) (keyed : tables.Keyed) : later.Keyed := by
  have batches : ∀ {key old new}, tables.batches.get? key = some old → BatchChange operation key old new →
      (tables.batches.set key new).Keyed batchId := by
    intro key old new found change
    exact keyed.batches.set (change.batchId.trans (keyed.batches.key_of_get? found))
  cases wrote with
  | nothing => exact keyed
  | newInstruction => exact ⟨keyed.batches, keyed.instructions.set rfl⟩
  | newBatch => exact ⟨keyed.batches.set rfl, keyed.instructions⟩
  | batch _ _ _ found change => exact ⟨batches found change, keyed.instructions⟩
  | evidence _ _ _ found change noted => exact ⟨batches found change, foldl_recordTxid_keyed keyed.instructions noted⟩
  | posted => exact ⟨keyed.batches, keyed.instructions⟩
  | instruction _ _ _ found change =>
    exact ⟨keyed.batches, keyed.instructions.set (change.instructionId.trans (keyed.instructions.key_of_get? found))⟩

theorem keyed_of_writes {process : SettlementP α} (writes : process.Keeps (Wrote operation)) (keyed : tables.Keyed) :
    process.Ends around tables (fun _ later => later.Keyed) fun _ later => later.Keyed := by
  have kept : process.Keeps fun before later => before.Keyed → later.Keyed :=
    writes.mono fun _ _ wrote => wrote.keyed
  exact (kept.ends (fun _ => id) fun first second keyed => second (first keyed)).mono (fun _ _ stays => stays keyed)
    fun _ _ stays => stays keyed

theorem SettlementEngine.run_keyed (engine : SettlementEngine) (steps : List Step) : (engine.run steps).Keyed := by
  induction steps using List.reverseRecOn with
  | nil => exact ⟨Dict.keyed_empty, Dict.keyed_empty⟩
  | append_singleton _ _ ih =>
    rw [run, List.foldl_append]
    exact engine.after_keeps (fun wrote keyed => wrote.keyed keyed)
      (fun first second keyed => second (first keyed)) _ ih

end BdPay.Ledger.Settlement
