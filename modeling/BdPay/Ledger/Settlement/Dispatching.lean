import BdPay.Ledger.Settlement.Writes

namespace BdPay.Ledger.Settlement

open Platform Data Effect Process Settlements SettlementInstruction List

/-! What a dispatch does. -/

variable {around : Surroundings} {tables : Settlements} {batchId : String} {row : SettlementInstruction}

/-- Whether a dispatch of the batch gets past its guards and the TCSA gate. -/
def Settlements.goesOut (tables : Settlements) (around : Surroundings) (batchId : String) : Bool :=
  around.gate.clear && (tables.batches.get? batchId).any fun batch =>
    batch.status = .pendingDispatch && !batch.twoEyesRequired

def queuedIn (batchId : String) (row : SettlementInstruction) : Bool :=
  row.batchId = some batchId && row.status = .queued

theorem queuedIn_iff : queuedIn batchId row = true ↔ row.batchId = some batchId ∧ row.status = .queued := by
  simp [queuedIn]

def submitted (now : DateTime) (row : SettlementInstruction) : SettlementInstruction :=
  { row with status := .submitted, submittedAt := some now }

def dispatchedBatch (now : DateTime) (batchId : String) (batch : SettlementBatch) : SettlementBatch :=
  { batch with status := .dispatched, dispatchedAt := some now, connectorRef := some batchId }

/-- The tables once the batch is dispatched. -/
def Settlements.dispatched (tables : Settlements) (now : DateTime) (batchId : String) (batch : SettlementBatch) :
    Settlements :=
  { tables with batches := tables.batches.set batchId (dispatchedBatch now batchId batch) }.rewrite (queuedIn batchId)
    (submitted now)

variable {rows : List SettlementInstruction} {now : DateTime}

theorem ends_submitRows (distinct : (rows.map instructionId).Nodup)
    (present : ∀ row ∈ rows, tables.instructions.get? row.instructionId = some row)
    (queued : ∀ row ∈ rows, row.status = .queued) : (submitRows now rows).Ends around tables returns raises ↔
      returns (rows.map (submitted now)) { tables with
        instructions := rows.foldl (fun table row => table.set row.instructionId (submitted now row))
          tables.instructions } := by
  induction rows generalizing tables returns with
  | nil => exact ends_pure
  | cons row rest ih =>
    obtain ⟨apart, distinct⟩ := nodup_cons.mp distinct
    have here := present row mem_cons_self
    have allowed : InstructionStatus.submitted ∈ instructionTransitions row.status .batchDispatched := by
      rw [queued row mem_cons_self]
      decide
    have later : ∀ other ∈ rest, ({ tables with
        instructions := tables.instructions.set row.instructionId (submitted now row) } : Settlements).instructions.get?
          other.instructionId = some other := by
      intro other member
      have different : other.instructionId ≠ row.instructionId := fun same => apart (same ▸ mem_map_of_mem member)
      simp only [Dict.get?_set_of_ne different]
      exact present other (mem_cons_of_mem _ member)
    have others := fun other member => queued other (mem_cons_of_mem row member)
    simp only [submitRows, ends_bind, ends_denyInstruction, ends_updateInstruction, ends_requireInstruction, here,
      Option.some.injEq, forall_eq', reduceCtorEq, false_implies, and_true, allowed, not_true_eq_false, true_and,
      true_implies, Dict.get?_set_self, ends_pure]
    exact ih distinct later others

/-- The rows that a dispatch hands over: the queued members as they stand once submitted. -/
def Settlements.submittedRows (tables : Settlements) (now : DateTime) (batchId : String) : List SettlementInstruction :=
  (tables.members batchId .queued).map (submitted now)

theorem ends_dispatchNow (keyed : tables.Keyed) (found : tables.batches.get? batchId = some batch) :
    (dispatchNow batchId now).Ends around tables returns raises ↔
      (handOff (dispatchedBatch now batchId batch) (tables.submittedRows now batchId)).Ends around
        (tables.dispatched now batchId batch) returns raises := by
  let updated : Settlements :=
    { tables with batches := tables.batches.set batchId (dispatchedBatch now batchId batch) }
  have keyed' : updated.Keyed :=
    (@Wrote.batch (.tryDispatch batchId) tables batchId batch (dispatchedBatch now batchId batch) found
      (.of_same rfl fun _ => .inr rfl)).keyed keyed
  have queued : ∀ row ∈ updated.instructions.values.filter (queuedIn batchId), row.status = .queued := by
    intro row member
    exact (queuedIn_iff.mp (mem_filter.mp member).2).2
  have first : (dispatchNow batchId now).Ends around tables returns raises ↔
      (submitRows now (updated.instructions.values.filter (queuedIn batchId))).Ends around updated
        (fun rows middle => (handOff (dispatchedBatch now batchId batch) rows).Ends around middle returns raises) raises := by
    simp only [dispatchNow, ends_bind, ends_setBatch found, ends_listMembers]
    rfl
  rw [first, ends_submitRows keyed'.distinct keyed'.present queued, foldl_rewrite keyed' (submitted now) fun _ => rfl]
  rfl

/-- Either nothing happens to the instructions, or the batch goes out. -/
theorem ends_tryDispatch (keyed : tables.Keyed)
    (denied : ∀ error, tables.goesOut around batchId = false → raises error tables)
    (held : ∀ batch gate, tables.goesOut around batchId = false → tables.batches.get? batchId = some batch →
      batch.status = .pendingDispatch → returns none { tables with batches := tables.batches.set batchId { batch with
        status := .held, heldAt := some around.now, heldTcsaSnapshotId := gate } })
    (out : ∀ batch, tables.goesOut around batchId = true → tables.batches.get? batchId = some batch →
      (handOff (dispatchedBatch around.now batchId batch) (tables.submittedRows around.now batchId)).Ends around
        (tables.dispatched around.now batchId batch) returns raises) :
    (tryDispatch batchId).Ends around tables returns raises := by
  simp only [tryDispatch, ends_bind, ends_requireBatch, ends_clockNow, ends_raiseIf, ends_denyBatch, ends_tcsaGate,
    ends_ite]
  refine ⟨fun batch found => ?_, fun absent => denied _ (by simp [goesOut, absent])⟩
  refine ⟨fun required => denied _ (by simp [goesOut, found, required]),
    fun approved => ⟨fun refused => ?_, fun allowed => ?_⟩⟩
  · refine denied _ ?_
    have elsewhere : batch.status ≠ .pendingDispatch := by
      intro pending
      rw [pending] at refused
      exact refused (by decide)
    simp [goesOut, found, elsewhere]
  · have pending : batch.status = .pendingDispatch := by
      revert allowed
      cases batch.status <;> decide
    refine ⟨fun clear => ?_, fun shut => ?_⟩
    · exact (ends_dispatchNow keyed found).mpr (out batch (by simp [goesOut, found, pending, approved, clear]) found)
    · have waits : tables.goesOut around batchId = false := by simp [goesOut, shut]
      have own : batch.batchId = batchId := keyed.batches.key_of_get? found
      subst own
      simp only [holdBack, ends_bind, ends_denyBatch, ends_updateBatch, ends_pure, found, Option.some.injEq, forall_eq',
        reduceCtorEq, false_implies, and_true]
      exact ⟨fun refused => absurd (by rw [pending]; decide) refused, fun _ => held batch _ waits found pending⟩

theorem ends_handOff : (handOff batch rows).Ends around tables returns raises ↔
      (batch.rail = .beftnBatchV2 → (∀ handoff, buildHandoff batch rows = .ok handoff → returns (some handoff) tables) ∧
        ∀ error, buildHandoff batch rows = .error error → raises error tables) ∧
      (¬ batch.rail = .beftnBatchV2 → returns none tables) := by
  simp only [handOff, ends_ite, ends_bind, ends_attempt, ends_pure]

theorem entryRef_of_beftnEntry (built : beftnEntry row position = .ok entry) : entry.entryRef = row.instructionId := by
  obtain ⟨_, _, rfl⟩ := map_eq_ok.mp built
  rfl

theorem entryRefs_of_numbered {entries : List BeftnEntry}
    (listed : (rows.zipIdx start).map (fun numbered => beftnEntry numbered.1 numbered.2) = entries.map .ok) :
    entries.map BeftnEntry.entryRef = rows.map instructionId := by
  induction rows generalizing start entries with
  | nil =>
    have none : entries = [] := by simpa using listed.symm
    simp [none]
  | cons _ _ ih =>
    cases entries with
    | nil => simp at listed
    | cons =>
      simp only [zipIdx_cons, map_cons, cons.injEq] at listed
      rw [map_cons, map_cons, ih listed.2, entryRef_of_beftnEntry listed.1]

/-- A hand-off lists the rows it was built from, in order. -/
theorem entryRefs_of_buildHandoff {batch : SettlementBatch} (built : buildHandoff batch rows = .ok handoff) :
    handoff.entries.map BeftnEntry.entryRef = rows.map instructionId := by
  unfold buildHandoff at built
  cases session : batch.session with
  | none => simp [session] at built
  | some session =>
    simp only [session] at built
    obtain ⟨entries, listed, rfl⟩ := map_eq_ok.mp built
    exact entryRefs_of_numbered (sequence_eq_ok.mp listed)

end BdPay.Ledger.Settlement
