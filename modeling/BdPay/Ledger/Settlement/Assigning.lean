import BdPay.Ledger.Settlement.Writes

namespace BdPay.Ledger.Settlement

open Platform Data Effect Process SettlementBatch SettlementInstruction Settlements Dict Option

/-! What the assignment of one instruction does. -/

variable {tables : Settlements}

/-- The batch with one more instruction in it. -/
def SettlementBatch.taking (batch : SettlementBatch) (row : SettlementInstruction) : SettlementBatch :=
  { batch with
    instructionCount := batch.instructionCount + 1
    totalCreditMinor := batch.totalCreditMinor + if row.direction = .credit then row.netPayoutMinor else 0
    totalDebitMinor := batch.totalDebitMinor + if row.direction = .debit then row.netPayoutMinor else 0 }

/-- Over the threshold a second pair of eyes is required. -/
def SettlementBatch.watched (batch : SettlementBatch) : SettlementBatch :=
  if dispatchTwoEyesThresholdMinor < batch.totalCreditMinor then { batch with twoEyesRequired := true } else batch

@[simp] theorem SettlementBatch.watched_batchId (batch : SettlementBatch) : batch.watched.batchId = batch.batchId := by
  rw [watched]
  split_ifs <;> rfl

def SettlementInstruction.joining (row : SettlementInstruction) (batchId : String) (now : DateTime) :
    SettlementInstruction :=
  { row with batchId := some batchId, deliveryHoldCleared := SettlementEngine.statutory row now || row.deliveryHoldCleared }

/-- The tables once the row is in the batch. -/
def Settlements.assigned (tables : Settlements) (now : DateTime) (batch : SettlementBatch)
    (row : SettlementInstruction) : Settlements :=
  { batches := tables.batches.set batch.batchId (batch.taking row).watched
    instructions := tables.instructions.set row.instructionId (row.joining batch.batchId now)
    journal := tables.journal ++ [SettlementEngine.openEntry batch.batchId row] }

namespace SettlementEngine

variable (engine : SettlementEngine)

/-- The open batch an instruction goes into, if there is one. -/
def openBatch? (tables : Settlements) (now : DateTime) (row : SettlementInstruction) : Option SettlementBatch :=
  tables.batches.values.find? fun batch => batch.rail = row.rail && batch.cycleDate = dhakaDate now &&
    batch.session = engine.sessionFor now row && batch.status = .opened

def batchFor (now : DateTime) (row : SettlementInstruction) : SettlementBatch :=
  engine.newBatch row.rail (dhakaDate now) (engine.sessionFor now row) now

variable {engine}

variable {row : SettlementInstruction} {now : DateTime} {rest : List SettlementInstruction} {batch : SettlementBatch}

section

variable (found : tables.batches.get? batch.batchId = some batch)
  (present : tables.instructions.get? row.instructionId = some row)

include found present

theorem ends_fileRow :
    (fileRow now row batch).Ends around { tables with journal := tables.journal ++ [openEntry batch.batchId row] } returns
      raises ↔ returns () (tables.assigned now batch row) := by
  simp only [fileRow, ends_bind, ends_updateBatch, ends_updateInstruction, found, present, some.injEq, forall_eq',
    reduceCtorEq, false_implies, and_true, requireTwoEyes, ends_ite, ends_pure, get?_set_self, set_set]
  by_cases large : dispatchTwoEyesThresholdMinor < (batch.taking row).totalCreditMinor
  · have above := large
    simp only [taking] at above
    simp [above, assigned, watched, taking, joining]
  · have under := large
    simp only [taking] at under
    simp [under, assigned, watched, taking, joining]

/-- From the batch on: the transit account is looked up, the entry posted, the row filed. -/
theorem ends_assignIn :
    (engine.assignIn now row batch).Ends around tables returns raises ↔ (engine.transitConfigured row.rail = false →
        raises (.settlement "no in-transit account configured for rail") tables) ∧
      (¬ engine.transitConfigured row.rail = false →
        Stops (post around (openEntry batch.batchId row)) tables (fun _ _ => returns () (tables.assigned now batch row))
          raises) := by
  simp only [assignIn, ends_bind, ends_raiseIf, ends_postJournalEntry, stops_post, ends_fileRow found present]

end

/-- The open batch is found, or a new one is opened, unless that one is there already. -/
theorem ends_assignRow (clock : around.now = now) : (engine.assignRow now row).Ends around tables returns raises ↔
      (∀ batch, engine.openBatch? tables now row = some batch →
        (engine.assignIn now row batch).Ends around tables returns raises) ∧ (engine.openBatch? tables now row = none →
        (tables.batches.contains (engine.batchFor now row).batchId = true →
          raises (.settlement s!"duplicate batch_id {(engine.batchFor now row).batchId}") tables) ∧
        (¬ tables.batches.contains (engine.batchFor now row).batchId = true →
          (engine.assignIn now row (engine.batchFor now row)).Ends around (tables.setBatch (engine.batchFor now row))
            returns raises)) := by
  have looked : ∀ {returns : Option SettlementBatch → Settlements → Prop},
      (findOpenBatch row.rail (dhakaDate now) (engine.sessionFor now row)).Ends around tables returns raises ↔
        returns (engine.openBatch? tables now row) tables := ends_look
  simp only [assignRow, getOrCreateOpenBatch, ends_bind, looked]
  cases existing : engine.openBatch? tables now row with
  | some => simp [ends_pure]
  | none => simp [-bind_pure_comp, ends_bind, ends_clockNow, ends_insertBatch, ends_pure, clock, batchFor]

/-- The batch an instruction goes into, and the tables once it is open. -/
inductive Opens (engine : SettlementEngine) (now : DateTime) (row : SettlementInstruction) (tables : Settlements) :
    Settlements → SettlementBatch → Prop
  | found (batch : SettlementBatch) (existing : engine.openBatch? tables now row = some batch) :
      Opens engine now row tables tables batch
  | fresh (missing : engine.openBatch? tables now row = none)
      (absent : tables.batches.get? (engine.batchFor now row).batchId = none) :
      Opens engine now row tables (tables.setBatch (engine.batchFor now row)) (engine.batchFor now row)

namespace Opens

variable (opens : Opens engine now row tables opened batch)
include opens

theorem keyed (keyed : tables.Keyed) : opened.Keyed := by
  cases opens with
  | found => exact keyed
  | fresh => exact ⟨keyed.batches.set rfl, keyed.instructions⟩

theorem get? (keyed : tables.Keyed) : opened.batches.get? batch.batchId = some batch := by
  cases opens with
  | found _ existing => exact keyed.batches.get?_of_mem (List.mem_of_find?_eq_some existing)
  | fresh => exact get?_set_self _ _ _

theorem status : batch.status = .opened := by
  cases opens with
  | found _ existing =>
    have holds := List.find?_some existing
    simp only [Bool.and_eq_true, decide_eq_true_eq] at holds
    exact holds.2
  | fresh => rfl

theorem instructions : opened.instructions = tables.instructions := by
  cases opens <;> rfl

theorem journal : opened.journal = tables.journal := by
  cases opens <;> rfl

theorem batch_get? {batchId : String} (found : opened.batches.get? batchId = some other) :
    tables.batches.get? batchId = some other ∨
      tables.batches.get? batchId = none ∧ other = engine.batchFor now row := by
  cases opens with
  | found => exact .inl found
  | fresh _ absent =>
    by_cases same : batchId = (engine.batchFor now row).batchId
    · rw [same] at found ⊢
      simp only [setBatch, get?_set_self, some.injEq] at found
      exact .inr ⟨absent, found.symm⟩
    · simp only [setBatch, get?_set_of_ne same] at found
      exact .inl found

end Opens

/-- One assignment: it is refused at some point, or it goes through. -/
theorem ends_assignRow_of (keyed : tables.Keyed)
    (clock : around.now = now) (present : tables.instructions.get? row.instructionId = some row)
    (unopened : ∀ error, raises error tables)
    (refused : ∀ error opened batch, Opens engine now row tables opened batch → raises error opened)
    (done : ∀ opened batch, Opens engine now row tables opened batch → (openEntry batch.batchId row).wellFormed = true →
      (openEntry batch.batchId row).idempotencyKey ∉ tables.journal.map JournalEntry.idempotencyKey →
      returns () (opened.assigned now batch row)) : (engine.assignRow now row).Ends around tables returns raises := by
  have inside : ∀ opened batch, Opens engine now row tables opened batch →
      (engine.assignIn now row batch).Ends around opened returns raises := by
    intro opened batch opens
    have present' : opened.instructions.get? row.instructionId = some row := by rw [opens.instructions]; exact present
    rw [ends_assignIn (opens.get? keyed) present', stops_post]
    refine ⟨fun _ => refused _ _ _ opens, fun _ => ⟨fun _ => refused _ _ _ opens, fun formed => ?_⟩⟩
    refine ⟨fun _ => refused _ _ _ opens, fun fresh => ⟨fun _ => refused _ _ _ opens, fun _ => ?_⟩⟩
    exact done opened batch opens (by simpa using formed) (by rwa [opens.journal] at fresh)
  rw [ends_assignRow clock]
  refine ⟨fun batch existing => inside _ _ (.found batch existing),
    fun missing => ⟨fun _ => unopened _, fun absent => ?_⟩⟩
  exact inside _ _ (.fresh missing (contains_eq_false_iff.mp (by simpa using absent)))

/-- The rows that are neither in a batch nor past the queue. -/
def unassigned (tables : Settlements) : List SettlementInstruction :=
  tables.instructions.values.filter fun row => row.status = .queued && row.batchId = none

/-- The rows the loop has still to look at are as they were listed. -/
structure Pending (rest : List SettlementInstruction) (tables : Settlements) : Prop where
  keyed : tables.Keyed
  present : ∀ row ∈ rest, tables.instructions.get? row.instructionId = some row
  distinct : (rest.map instructionId).Nodup

theorem pending_unassigned (keyed : tables.Keyed) : Pending (unassigned tables) tables :=
  ⟨keyed, keyed.present, keyed.distinct⟩

theorem Pending.tail (pending : Pending (row :: rest) tables) : Pending rest tables :=
  ⟨pending.keyed, fun other member => pending.present other (List.mem_cons_of_mem _ member),
    (List.nodup_cons.mp pending.distinct).2⟩

theorem keyed_assigned (keyed : tables.Keyed) : (tables.assigned now batch row).Keyed :=
  ⟨keyed.batches.set (watched_batchId _), keyed.instructions.set rfl⟩

theorem Pending.assigned (pending : Pending (row :: rest) tables)
    (opens : Opens engine now row tables opened batch) : Pending rest (opened.assigned now batch row) := by
  obtain ⟨apart, distinct⟩ := List.nodup_cons.mp pending.distinct
  have present : opened.instructions.get? row.instructionId = some row := by
    rw [opens.instructions]
    exact pending.present row List.mem_cons_self
  refine ⟨keyed_assigned (opens.keyed pending.keyed), ?_, distinct⟩
  intro other member
  have different : other.instructionId ≠ row.instructionId := fun same => apart (same ▸ List.mem_map_of_mem member)
  simp only [Settlements.assigned, get?_set_of_ne different, opens.instructions]
  exact pending.present other (List.mem_cons_of_mem _ member)

/-- What opening a batch and assigning a releasable row keep, an assignment run keeps. -/
theorem ends_assignDueInstructions_of (inv : Settlements → Prop) (keyed : tables.Keyed) (start : inv tables)
    (opening : ∀ {row tables opened batch}, inv tables → Opens engine around.now row tables opened batch → inv opened)
    (assigning : ∀ {row tables opened batch}, row ∈ unassigned tables → releasable row around.now = true →
      tables.Keyed → inv tables → inv opened → Opens engine around.now row tables opened batch →
      (openEntry batch.batchId row).wellFormed = true →
      (openEntry batch.batchId row).idempotencyKey ∉ tables.journal.map JournalEntry.idempotencyKey →
      inv (opened.assigned around.now batch row)) : engine.assignDueInstructions.EndsIn around tables inv := by
  simp only [assignDueInstructions, ends_bind, ends_clockNow]
  rw [ends_look]
  refine ends_forEach (fun rest tables => Pending rest tables ∧ inv tables) ⟨pending_unassigned keyed, start⟩
    (fun row rest state ready position => ?_) fun _ ready => ready.2
  obtain ⟨pending, holds⟩ := ready
  rw [ends_ite]
  refine ⟨fun due => ?_, fun _ => ends_pure.mpr ⟨pending.tail, holds⟩⟩
  refine ends_assignRow_of pending.keyed rfl (pending.present row List.mem_cons_self) (fun _ => holds)
    (fun _ _ _ opens => opening holds opens) fun opened batch opens formed fresh => ⟨pending.assigned opens, ?_⟩
  refine assigning ?_ due pending.keyed holds (opening holds opens) opens formed fresh
  have listed := mem_values_of_get? (pending.present row List.mem_cons_self)
  obtain ⟨done, split⟩ := position
  have open_ := (List.mem_filter.mp (split ▸ List.mem_append_right done List.mem_cons_self :
    row ∈ tables.instructions.values.filter fun row => row.status = .queued && row.batchId = none)).2
  exact List.mem_filter.mpr ⟨listed, open_⟩

end SettlementEngine

end BdPay.Ledger.Settlement
