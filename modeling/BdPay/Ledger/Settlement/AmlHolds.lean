import BdPay.Ledger.Settlement.Dispatching

namespace BdPay.Ledger.Settlement

open Data Process SettlementInstruction BeftnEntry Settlements

/-! Instructions under an AML hold and the rail.

A hold keeps an instruction out of a batch.  One that is placed after the instruction
was assigned is not looked at again: the dispatch takes every queued member.
-/

variable {engine : SettlementEngine} {tables : Settlements} {step : Step}
  {handoff : BeftnBatchHandoff} {instructionId : String}

/-- The step moves the instruction to `SUBMITTED`, or hands it over to the rail. -/
def SettlementEngine.Releases (engine : SettlementEngine) (tables : Settlements) (step : Step)
    (instructionId : String) : Prop :=
  ((tables.instructions.get? instructionId).map status ≠ some .submitted ∧
    ((engine.after tables step).instructions.get? instructionId).map status = some .submitted) ∨
  ∃ handoff, engine.handoff? tables step = some handoff ∧ instructionId ∈ handoff.entries.map entryRef

/-- No queued member of a batch that goes out is under a hold. -/
def NoHeldMember (tables : Settlements) (step : Step) : Prop :=
  ∀ batchId, step.operation = .tryDispatch batchId → tables.goesOut step.around batchId = true →
    ∀ row ∈ tables.members batchId .queued, row.amlHold = false

theorem status_foldl_recordTxid (noted : List (String × String)) (instructions : Dict String SettlementInstruction)
    (instructionId : String) : ((noted.foldl recordTxid instructions).get? instructionId).map status =
      (instructions.get? instructionId).map status := by
  induction noted generalizing instructions with
  | nil => rfl
  | cons evidence _ ih =>
    rw [List.foldl_cons, ih, recordTxid]
    cases found : instructions.get? evidence.1 with
    | none => rfl
    | some =>
      dsimp only
      split_ifs
      · by_cases same : instructionId = evidence.1
        · simp [same, found]
        · rw [Dict.get?_set_of_ne same]
      · rfl

/-- No write but a dispatch's submits an instruction. -/
theorem Wrote.status_submitted (wrote : Wrote operation tables later)
    (other : ∀ batchId, operation ≠ .tryDispatch batchId)
    (now : (later.instructions.get? instructionId).map status = some .submitted) :
    (tables.instructions.get? instructionId).map status = some .submitted := by
  cases wrote with
  | nothing | newBatch | batch | posted => exact now
  | evidence _ _ _ _ _ noted => exact (status_foldl_recordTxid noted _ _).symm.trans now
  | newInstruction row queued =>
    by_cases same : instructionId = row.instructionId
    · simp [setInstruction, same, queued] at now
    · simpa only [setInstruction, Dict.get?_set_of_ne same] using now
  | instruction key _ _ found change =>
    by_cases same : instructionId = key
    · simp only [same, Dict.get?_set_self, Option.map_some, Option.some.injEq] at now
      rcases change.submitted now with before | ⟨batchId, dispatch⟩
      · simp [same, found, before]
      · exact absurd dispatch (other batchId)
    · simpa only [Dict.get?_set_of_ne same] using now

theorem status_after (other : ∀ batchId, step.operation ≠ .tryDispatch batchId)
    (now : ((engine.after tables step).instructions.get? instructionId).map status = some .submitted) :
    (tables.instructions.get? instructionId).map status = some .submitted := by
  have kept := @SettlementEngine.after_keeps engine
    (fun before later => (later.instructions.get? instructionId).map status = some .submitted →
      (before.instructions.get? instructionId).map status = some .submitted) step
    (fun wrote => wrote.status_submitted other) (fun first second now => first (second now)) tables
  exact kept now

theorem operation_of_handoff (handed : engine.handoff? tables step = some handoff) :
    ∃ batchId, step.operation = .tryDispatch batchId := by
  by_contra other
  have nothing : (engine.perform step.operation).Ends step.around tables (fun value _ => value = none)
      fun _ _ => True := by
    cases operation : step.operation with
    | tryDispatch batchId => exact absurd ⟨batchId, operation⟩ other
    | _ => exact ends_bind.mpr (ends_of_forall (fun _ _ => ends_pure.mpr rfl) fun _ _ => trivial)
  cases nothing.value (Option.join_eq_some_iff.mp handed)

section Dispatch

variable {batchId : String}

/-- The instructions once a dispatch is over, whether or not it raises. -/
def Settlements.instructionsAfterDispatch (tables : Settlements) (around : Surroundings) (batchId : String) :
    Dict String SettlementInstruction :=
  if tables.goesOut around batchId then
    tables.instructions.mapValues fun row => if queuedIn batchId row then submitted around.now row else row
  else tables.instructions

section

variable (keyed : tables.Keyed) (dispatching : step.operation = .tryDispatch batchId)

include keyed dispatching

theorem instructions_after_tryDispatch :
    (engine.after tables step).instructions = tables.instructionsAfterDispatch step.around batchId := by
  have ends : (tryDispatch batchId).Ends step.around tables
      (fun _ later => later.instructions = tables.instructionsAfterDispatch step.around batchId)
      fun _ later => later.instructions = tables.instructionsAfterDispatch step.around batchId := by
    refine ends_tryDispatch keyed ?_ ?_ ?_
    · intro error stays
      simp [instructionsAfterDispatch, stays]
    · intro batch gate stays found pending
      simp [instructionsAfterDispatch, stays]
    · intro batch goes found
      have out : (tables.dispatched step.around.now batchId batch).instructions =
          tables.instructionsAfterDispatch step.around batchId := by
        rw [instructionsAfterDispatch, if_pos goes]
        rfl
      exact ends_handOff.mpr ⟨fun _ => ⟨fun _ _ => out, fun _ _ => out⟩, fun _ => out⟩
  rw [SettlementEngine.after, dispatching]
  exact ends_iff_leaves.mp ends

/-- What is handed over are the queued members of a batch that goes out. -/
theorem entryRefs_of_handoff (handed : engine.handoff? tables step = some handoff) :
    tables.goesOut step.around batchId = true ∧ handoff.entries.map BeftnEntry.entryRef =
        (tables.members batchId .queued).map SettlementInstruction.instructionId := by
  have ends : (tryDispatch batchId).Ends step.around tables
      (fun value _ => ∀ handoff, value = some handoff → tables.goesOut step.around batchId = true ∧
        handoff.entries.map entryRef =
          (tables.members batchId .queued).map instructionId) fun _ _ => True := by
    refine ends_tryDispatch keyed (fun _ _ => trivial) (fun _ _ _ _ _ handoff none => by cases none) ?_
    intro batch goes found
    refine ends_handOff.mpr ⟨fun _ => ⟨fun built written handoff same => ⟨goes, ?_⟩, fun _ _ => trivial⟩,
      fun _ handoff none => by cases none⟩
    cases same
    rw [entryRefs_of_buildHandoff written, submittedRows, List.map_map]
    rfl
  have returned := Option.join_eq_some_iff.mp handed
  rw [dispatching] at returned
  exact ends.value returned handoff rfl

end

end Dispatch

theorem no_held_released_step_iff (keyed : tables.Keyed) :
    (∀ row ∈ tables.instructions.values, row.amlHold = true → ¬ engine.Releases tables step row.instructionId) ↔
      NoHeldMember tables step := by
  constructor
  · intro kept batchId dispatching goes row member
    obtain ⟨listed, queued⟩ := List.mem_filter.mp member
    by_contra held
    refine kept row listed (by simpa using held) (.inl ⟨?_, ?_⟩)
    · have waiting := (queuedIn_iff.mp queued).2
      simp [keyed.instructions.get?_of_mem listed, waiting]
    · rw [instructions_after_tryDispatch keyed dispatching, Settlements.instructionsAfterDispatch, if_pos goes,
        Dict.get?_mapValues, keyed.instructions.get?_of_mem listed]
      simp [show queuedIn batchId row = true from queued, submitted]
  · intro free row listed held released
    have found := keyed.instructions.get?_of_mem listed
    rcases released with ⟨before, now⟩ | ⟨handoff, handed, named⟩
    · by_cases dispatch : ∃ batchId, step.operation = .tryDispatch batchId
      · obtain ⟨batchId, dispatching⟩ := dispatch
        rw [instructions_after_tryDispatch keyed dispatching, Settlements.instructionsAfterDispatch] at now
        by_cases goes : tables.goesOut step.around batchId = true
        · rw [if_pos goes, Dict.get?_mapValues, found] at now
          by_cases queued : queuedIn batchId row = true
          · have clear := free batchId dispatching goes row (List.mem_filter.mpr ⟨listed, queued⟩)
            rw [held] at clear
            cases clear
          · simp only [queued, Option.map_some] at now
            exact before (by simpa [found] using now)
        · rw [if_neg goes] at now
          exact before now
      · exact before (status_after (fun batchId same => dispatch ⟨batchId, same⟩) now)
    · obtain ⟨batchId, dispatching⟩ := operation_of_handoff handed
      obtain ⟨goes, refs⟩ := entryRefs_of_handoff keyed dispatching handed
      rw [refs] at named
      obtain ⟨other, member, same⟩ := List.mem_map.mp named
      have equal := keyed.instructions.inj (List.mem_filter.mp member).1 listed same
      subst equal
      have clear := free batchId dispatching goes other member
      rw [held] at clear
      cases clear

/-- In a run no instruction is released while it is under a hold exactly if no batch ever
goes out with a queued member that is under one. -/
theorem no_held_released_iff (engine : SettlementEngine) (steps : List Step) :
    (∀ earlier step, earlier ++ [step] <+: steps → ∀ row ∈ (engine.run earlier).instructions.values, row.amlHold = true →
        ¬ engine.Releases (engine.run earlier) step row.instructionId) ↔
      ∀ earlier step, earlier ++ [step] <+: steps → NoHeldMember (engine.run earlier) step := by
  constructor
  · intro kept earlier step reached
    exact (no_held_released_step_iff (engine.run_keyed earlier)).mp (kept earlier step reached)
  · intro free earlier step reached
    exact (no_held_released_step_iff (engine.run_keyed earlier)).mpr (free earlier step reached)

section Sample

set_option maxRecDepth 20000

/-- The hold arrives when the instruction is in its batch already. -/
def holdAfterAssignment : List Step :=
  [⟨sampleAround, .registerSucceededPayment (samplePayment "pi_1" .beftnBatchV2 50000)⟩, ⟨sampleAround, .assignDueInstructions⟩,
    ⟨sampleAround, .setAmlHold "pi_1" true⟩, ⟨sampleAround, .cutoff "sbatch_1"⟩]

/-- The instruction is under a hold, and the dispatch submits it and hands it over. -/
theorem held_instruction_released :
    (((sampleEngine.run holdAfterAssignment).instructions.get? "pi_1").map SettlementInstruction.amlHold = some true) ∧
      (((sampleEngine.run (holdAfterAssignment ++ [⟨sampleAround, .tryDispatch "sbatch_1"⟩])).instructions.get?
        "pi_1").map SettlementInstruction.status = some .submitted) ∧
      ((sampleEngine.handoff? (sampleEngine.run holdAfterAssignment) ⟨sampleAround, .tryDispatch "sbatch_1"⟩).map
        fun handoff => handoff.entries.map BeftnEntry.entryRef) = some ["pi_1"] := by
  decide +kernel

end Sample

end BdPay.Ledger.Settlement
