import BdPay.Data.Outcome
import BdPay.Data.Rows
import BdPay.Ledger.Settlement.Engine

namespace BdPay.Ledger.Settlement

open Data Effect Process List

/-! What each access to the stores does, as rules for the operations built from them. -/

variable {α : Type} {around : Surroundings} {tables : Settlements} {raises : SettlementError → Settlements → Prop}
  {change : SettlementInstruction → SettlementInstruction}

theorem ends_look {look : Surroundings → Settlements → α} :
    (Process.act (fun around => do pure (look around (← get))) : SettlementP α).Ends around tables returns raises ↔
      returns (look around tables) tables := by
  rw [ends_act, stops_bind, stops_get, stops_pure]

theorem ends_clockNow : clockNow.Ends around tables returns raises ↔ returns around.now tables := by
  rw [clockNow, ends_act, stops_pure]

theorem ends_tcsaGate : tcsaGate.Ends around tables returns raises ↔ returns around.gate tables := by
  rw [tcsaGate, ends_act, stops_pure]

theorem ends_listMembers :
    (listMembers batchId status).Ends around tables returns raises ↔ returns (tables.members batchId status) tables :=
  ends_look

theorem ends_listEntries : (listEntries batchId entryType).Ends around tables returns raises ↔
      returns (tables.entries batchId entryType) tables :=
  ends_look

/-- The batches that have a status, oldest first. -/
def Settlements.batchesIn (tables : Settlements) (status : BatchStatus) : List SettlementBatch :=
  (tables.batches.values.filter fun row => row.status = status).mergeSort batchBefore

theorem ends_listBatches :
    (listBatches status).Ends around tables returns raises ↔ returns (tables.batchesIn status) tables :=
  ends_look

theorem ends_requireBatch : (requireBatch batchId).Ends around tables returns raises ↔
      (∀ batch, tables.batches.get? batchId = some batch → returns batch tables) ∧
        (tables.batches.get? batchId = none → raises (.settlement s!"unknown batch {batchId}") tables) := by
  rw [requireBatch, ends_act, stops_bind, stops_get]
  cases tables.batches.get? batchId <;> simp [stops_pure, stops_throw]

theorem ends_requireInstruction : (requireInstruction instructionId).Ends around tables returns raises ↔
      (∀ row, tables.instructions.get? instructionId = some row → returns row tables) ∧
        (tables.instructions.get? instructionId = none →
          raises (.settlement s!"unknown instruction {instructionId}") tables) := by
  rw [requireInstruction, ends_act, stops_bind, stops_get]
  cases tables.instructions.get? instructionId <;> simp [stops_pure, stops_throw]

theorem ends_updateBatch {change : SettlementBatch → SettlementBatch} :
    (updateBatch batchId change).Ends around tables returns raises ↔
      (∀ batch, tables.batches.get? batchId = some batch →
        returns (change batch) { tables with batches := tables.batches.set batchId (change batch) }) ∧
        (tables.batches.get? batchId = none → raises (.settlement s!"unknown batch {batchId}") tables) := by
  rw [updateBatch, ends_act, stops_bind, stops_get]
  cases tables.batches.get? batchId <;> simp [-bind_pure_comp, stops_bind, stops_set, stops_pure, stops_throw]

theorem ends_setBatch {change : SettlementBatch → SettlementBatch} (found : tables.batches.get? batchId = some batch) :
    (updateBatch batchId change).Ends around tables returns raises ↔
      returns (change batch) { tables with batches := tables.batches.set batchId (change batch) } := by
  simp [ends_updateBatch, found]

theorem ends_updateInstruction : (updateInstruction instructionId change).Ends around tables returns raises ↔
      (∀ row, tables.instructions.get? instructionId = some row →
        returns (change row) { tables with instructions := tables.instructions.set instructionId (change row) }) ∧
        (tables.instructions.get? instructionId = none →
          raises (.settlement s!"unknown instruction {instructionId}") tables) := by
  rw [updateInstruction, ends_act, stops_bind, stops_get]
  cases tables.instructions.get? instructionId <;> simp [-bind_pure_comp, stops_bind, stops_set, stops_pure, stops_throw]

variable {returns : Unit → Settlements → Prop} {body : SettlementInstruction → SettlementP Unit}

theorem ends_insertBatch : (insertBatch row).Ends around tables returns raises ↔
      (tables.batches.contains row.batchId = true → raises (.settlement s!"duplicate batch_id {row.batchId}") tables) ∧
        (¬ tables.batches.contains row.batchId = true → returns () (tables.setBatch row)) := by
  rw [insertBatch, ends_act, stops_bind, stops_get, stops_bind, stops_raiseIf, stops_set]

theorem stops_post : Stops (post around entry) tables returns raises ↔
      (entry.wellFormed = false → raises .ledger tables) ∧ (¬ entry.wellFormed = false →
        (entry.idempotencyKey ∈ tables.journal.map JournalEntry.idempotencyKey →
          raises (.ledgerDuplicate entry.idempotencyKey) tables) ∧
        (¬ entry.idempotencyKey ∈ tables.journal.map JournalEntry.idempotencyKey →
          (around.takes entry = false → raises .ledger tables) ∧ (¬ around.takes entry = false →
            returns () { tables with journal := tables.journal ++ [entry] }))) := by
  simp only [post, stops_bind, stops_get, stops_raiseIf, stops_set]

theorem ends_denyBatch : (denyBatch batch trigger target).Ends around tables returns raises ↔
      (target ∉ batchTransitions batch.status trigger →
        raises (.batchDenied batch.batchId batch.status trigger target) tables) ∧
        (target ∈ batchTransitions batch.status trigger → returns () tables) := by
  rw [denyBatch, ends_raiseIf, not_not]

theorem ends_denyInstruction : (denyInstruction row trigger target).Ends around tables returns raises ↔
      (target ∉ instructionTransitions row.status trigger →
        raises (.instructionDenied row.instructionId row.status trigger target) tables) ∧
        (target ∈ instructionTransitions row.status trigger → returns () tables) := by
  rw [denyInstruction, ends_raiseIf, not_not]

theorem ends_postJournalEntry :
    (postJournalEntry entry).Ends around tables returns raises ↔ Stops (post around entry) tables returns raises := by
  rw [postJournalEntry, ends_act]

/-! Tables keep their rows under their identifiers. -/

structure Settlements.Keyed (tables : Settlements) : Prop where
  batches : tables.batches.Keyed SettlementBatch.batchId
  instructions : tables.instructions.Keyed SettlementInstruction.instructionId

/-- The rows that satisfy a condition become something else. -/
def Settlements.rewrite (tables : Settlements) (which : SettlementInstruction → Bool)
    (change : SettlementInstruction → SettlementInstruction) : Settlements :=
  { tables with instructions := tables.instructions.mapValues fun row => if which row then change row else row }

/-- A loop over rows that are there, each replaced in its turn. -/
theorem ends_forEach_set (distinct : (rows.map SettlementInstruction.instructionId).Nodup)
    (present : ∀ row ∈ rows, tables.instructions.get? row.instructionId = some row)
    (each : ∀ row ∈ rows, ∀ {tables : Settlements} {returns : Unit → Settlements → Prop},
      tables.instructions.get? row.instructionId = some row → ((body row).Ends around tables returns raises ↔
        returns () { tables with instructions := tables.instructions.set row.instructionId (change row) })) :
    (Process.forEach rows body).Ends around tables returns raises ↔ returns () { tables with
        instructions := rows.foldl (fun table row => table.set row.instructionId (change row)) tables.instructions } := by
  induction rows generalizing tables with
  | nil => exact ends_pure
  | cons row rest ih =>
    obtain ⟨apart, distinct⟩ := nodup_cons.mp distinct
    have first : (Process.forEach (row :: rest) body).Ends around tables returns raises ↔ _ := ends_bind
    rw [first, each row mem_cons_self (present row mem_cons_self)]
    refine ih distinct ?_ fun other member => each other (mem_cons_of_mem _ member)
    intro other member
    have different : other.instructionId ≠ row.instructionId := fun same => apart (same ▸ mem_map_of_mem member)
    rw [Dict.get?_set_of_ne different]
    exact present other (mem_cons_of_mem _ member)

section

variable (keyed : tables.Keyed)

include keyed

/-- The rows that satisfy a condition, each replaced in its turn. -/
theorem foldl_rewrite (change : SettlementInstruction → SettlementInstruction)
    (same : ∀ row, (change row).instructionId = row.instructionId) : ({ tables with
        instructions := (tables.instructions.values.filter which).foldl
          (fun table row => table.set row.instructionId (change row)) tables.instructions } : Settlements) =
      tables.rewrite which change := by
  have listed : ∀ row ∈ tables.instructions.values.filter which, row ∈ tables.instructions.values :=
    fun row member => (mem_filter.mp member).1
  rw [Settlements.rewrite, keyed.instructions.foldl_set listed (fun row _ => same row)
    (keyed.instructions.nodup_values.filter _)]
  congr 1
  apply Dict.mapValues_congr
  intro row member
  simp [mem_filter, member]

theorem Settlements.Keyed.present :
    ∀ row ∈ tables.instructions.values.filter which, tables.instructions.get? row.instructionId = some row :=
  fun _ member => keyed.instructions.get?_of_mem (mem_filter.mp member).1

theorem Settlements.Keyed.distinct :
    ((tables.instructions.values.filter which).map SettlementInstruction.instructionId).Nodup := by
  have all := tables.instructions.nodup_keys
  rw [← keyed.instructions.keys_eq] at all
  exact all.sublist (filter_sublist.map _)

/-- A loop over all the rows that satisfy a condition. -/
theorem ends_forEach_rewrite {which : SettlementInstruction → Bool}
    (change : SettlementInstruction → SettlementInstruction)
    (same : ∀ row, (change row).instructionId = row.instructionId)
    (each : ∀ row, which row = true → ∀ {tables : Settlements} {returns : Unit → Settlements → Prop},
      tables.instructions.get? row.instructionId = some row → ((body row).Ends around tables returns raises ↔
        returns () { tables with instructions := tables.instructions.set row.instructionId (change row) })) :
    (Process.forEach (tables.instructions.values.filter which) body).Ends around tables returns raises ↔
      returns () (tables.rewrite which change) := by
  rw [ends_forEach_set keyed.distinct keyed.present fun row member => each row (mem_filter.mp member).2,
    foldl_rewrite keyed change same]

end

end BdPay.Ledger.Settlement
