import BdPay.Ledger.Settlement.Assigning
import BdPay.Ledger.Settlement.Dispatching

namespace BdPay.Ledger.Settlement

open Data Process Settlements SettlementBatch SettlementEngine

/-! Dual control: who looked at a batch before it went out. -/

variable {engine : SettlementEngine} {tables : Settlements} {step : Step} {batchId : String} {operation : Operation}

def Settlements.needsApproval (tables : Settlements) (batchId : String) : Bool :=
  (tables.batches.get? batchId).any twoEyesRequired

/-- What the totals of a batch say. -/
def SettlementBatch.counted (batch : SettlementBatch) : Nat × Int := (batch.instructionCount, batch.totalCreditMinor)

/-- The step makes approval required: it adds to a batch that is then over the threshold, or
it retries a failed batch that is over the threshold for retries. -/
def SettlementEngine.Requires (engine : SettlementEngine) (tables : Settlements) (step : Step) (batchId : String) :
    Prop :=
  match step.operation with
  | .assignDueInstructions =>
    ∃ batch, (engine.after tables step).batches.get? batchId = some batch ∧
      dispatchTwoEyesThresholdMinor < batch.totalCreditMinor ∧
      (tables.batches.get? batchId).map counted ≠ some batch.counted
  | .manualRetry retried operatorApproved =>
    retried = batchId ∧ operatorApproved = true ∧ ∃ batch, tables.batches.get? batchId = some batch ∧
      batch.status = .failed ∧ batch.retryCount < maxRetries batch.rail ∧
      retryTwoEyesThresholdMinor < batch.totalCreditMinor
  | _ => False

/-- The step grants an approval on the batch. -/
def Grants (tables : Settlements) (step : Step) (batchId : String) : Prop :=
  ∃ approval batch, step.operation = .grantApproval batchId approval ∧ tables.batches.get? batchId = some batch ∧
    batch.status = .pendingDispatch

/-- The step dispatches the batch. -/
def SettlementEngine.Dispatches (engine : SettlementEngine) (tables : Settlements) (step : Step) (batchId : String) :
    Prop :=
  (tables.batches.get? batchId).map status ≠ some .dispatched ∧
    ((engine.after tables step).batches.get? batchId).map status = some .dispatched

/-! What is required stays required until it is granted. -/

theorem Wrote.needsApproval (wrote : Wrote operation tables later)
    (other : ∀ approval, operation ≠ .grantApproval batchId approval) (needs : tables.needsApproval batchId = true) :
    later.needsApproval batchId = true := by
  rw [Settlements.needsApproval] at needs ⊢
  rcases wrote.batch_cases batchId with same | ⟨old, new, found, there, change⟩ | ⟨_, -, -, fresh, -⟩
  · rwa [same]
  · rw [found] at needs
    rw [there]
    rcases change.eyes needs with required | ⟨approval, grant⟩
    · exact required
    · exact absurd grant (other approval)
  · simp [fresh] at needs

theorem after_grantApproval (granting : step.operation = .grantApproval batchId approval)
    (denied : ¬ Grants tables step batchId) : engine.after tables step = tables := by
  have ends : (grantApproval batchId approval).Ends step.around tables (fun _ later => later = tables)
      fun _ later => later = tables := by
    simp only [grantApproval, ends_bind, ends_requireBatch, ends_denyBatch]
    refine ⟨fun batch found => ⟨fun _ => trivial, fun allowed => ?_⟩, fun _ => trivial⟩
    have pending : batch.status = .pendingDispatch := by
      revert allowed
      cases batch.status <;> decide
    exact absurd ⟨approval, batch, granting, found, pending⟩ denied
  rw [after, granting]
  exact ends_iff_leaves.mp (ends_bind.mpr (ends.mono (fun _ _ same => ends_pure.mpr same) fun _ _ same => same))

theorem needsApproval_after (needs : tables.needsApproval batchId = true) :
    Grants tables step batchId ∨ (engine.after tables step).needsApproval batchId = true := by
  by_cases granted : Grants tables step batchId
  · exact .inl granted
  · right
    by_cases granting : ∃ approval, step.operation = .grantApproval batchId approval
    · obtain ⟨approval, operation⟩ := granting
      rw [after_grantApproval operation granted]
      exact needs
    · exact engine.after_keeps
        (fun wrote needs => wrote.needsApproval (fun approval same => granting ⟨approval, same⟩) needs)
        (fun first second needs => second (first needs)) tables needs

theorem granted_or_needsApproval {steps : List Step} (needs : tables.needsApproval batchId = true) :
    (∃ between grant rest, steps = between ++ grant :: rest ∧
        Grants (between.foldl engine.after tables) grant batchId) ∨
      (steps.foldl engine.after tables).needsApproval batchId = true := by
  induction steps generalizing tables with
  | nil => exact .inr needs
  | cons step rest ih =>
    rcases @needsApproval_after engine tables step batchId needs with granted | needs
    · exact .inl ⟨[], step, rest, rfl, granted⟩
    · rcases ih needs with ⟨between, grant, last, rfl, granted⟩ | needs
      · exact .inl ⟨step :: between, grant, last, rfl, granted⟩
      · exact .inr needs

/-! A dispatch finds that nothing is required. -/

theorem Wrote.dispatched (wrote : Wrote operation tables later) (other : operation ≠ .tryDispatch batchId)
    (now : (later.batches.get? batchId).map status = some .dispatched) :
    (tables.batches.get? batchId).map status = some .dispatched := by
  rcases wrote.batch_cases batchId with same | ⟨old, new, found, there, change⟩ | ⟨row, -, opened, -, there⟩
  · rwa [same] at now
  · rw [there, Option.map_some, Option.some.injEq] at now
    rcases change.dispatched now with before | dispatch
    · simp [found, before]
    · exact absurd dispatch other
  · simp [there, opened] at now

theorem goesOut_of_dispatches (keyed : tables.Keyed) (dispatches : engine.Dispatches tables step batchId) :
    tables.goesOut step.around batchId = true := by
  obtain ⟨before, now⟩ := dispatches
  by_cases dispatching : step.operation = .tryDispatch batchId
  · by_contra stays
    have stays : tables.goesOut step.around batchId = false := by simpa using stays
    have ends : (tryDispatch batchId).Ends step.around tables
        (fun _ later => (later.batches.get? batchId).map status ≠ some .dispatched)
        fun _ later => (later.batches.get? batchId).map status ≠ some .dispatched := by
      refine ends_tryDispatch keyed (fun _ _ => before) (fun batch gate _ found _ => ?_) fun batch goes found => ?_
      · simp
      · rw [stays] at goes
        cases goes
    rw [after, dispatching] at now
    exact ends_iff_leaves.mp ends now
  · have kept := @SettlementEngine.after_keeps engine
      (fun before later => (later.batches.get? batchId).map status = some .dispatched →
        (before.batches.get? batchId).map status = some .dispatched) step
      (fun wrote => wrote.dispatched dispatching) (fun first second now => first (second now)) tables
    exact absurd (kept now) before

theorem needsApproval_of_goesOut (goes : tables.goesOut around batchId = true) :
    tables.needsApproval batchId = false := by
  simp only [goesOut, Bool.and_eq_true] at goes
  cases found : tables.batches.get? batchId with
  | none => simp [needsApproval, found]
  | some =>
    have passes := goes.2
    simp only [found, Option.any_some, Bool.and_eq_true, Bool.not_eq_true'] at passes
    simp [needsApproval, found, passes.2]

/-! A step that makes approval required leaves the batch so. -/

/-- Every batch over the threshold whose totals have moved needs approval. -/
def Watched (before tables : Settlements) : Prop :=
  ∀ batchId batch, tables.batches.get? batchId = some batch →
    dispatchTwoEyesThresholdMinor < batch.totalCreditMinor →
    (before.batches.get? batchId).map counted ≠ some batch.counted → batch.twoEyesRequired = true

variable {batch : SettlementBatch}

theorem Watched.opens
    (watched : Watched before tables) (opens : SettlementEngine.Opens engine now row tables opened batch) :
    Watched before opened := by
  intro batchId other found above moved
  rcases opens.batch_get? found with old | ⟨_, rfl⟩
  · exact watched batchId other old above moved
  · exact absurd above (show ¬ dispatchTwoEyesThresholdMinor < 0 by decide)

theorem Watched.assigned (watched : Watched before tables) : Watched before (tables.assigned now batch row) := by
  intro batchId other found above moved
  simp only [Settlements.assigned] at found
  by_cases same : batchId = batch.batchId
  · rw [same, Dict.get?_set_self, Option.some.injEq] at found
    subst found
    rw [SettlementBatch.watched] at above ⊢
    split_ifs at above ⊢ with large
    · rfl
    · exact absurd above large
  · rw [Dict.get?_set_of_ne same] at found
    exact watched batchId other found above moved

theorem watched_after (keyed : tables.Keyed) (assigning : step.operation = .assignDueInstructions) :
    Watched tables (engine.after tables step) := by
  have ends : engine.assignDueInstructions.EndsIn step.around tables (Watched tables) := by
    refine ends_assignDueInstructions_of (Watched tables) keyed ?_ ?_ ?_
    · intro batchId batch found _ moved
      exact absurd (by rw [found]; rfl) moved
    · intro _ _ _ _ watched opens
      exact watched.opens opens
    · intro _ _ _ _ _ _ _ _ watched _ _ _
      exact watched.assigned
  rw [after, assigning]
  exact ends_iff_leaves.mp (ends_bind.mpr (ends.mono (fun _ _ holds => ends_pure.mpr holds) fun _ _ holds => holds))

theorem needsApproval_after_manualRetry (keyed : tables.Keyed)
    (retrying : step.operation = .manualRetry batchId true) (found : tables.batches.get? batchId = some batch)
    (failed : batch.status = .failed) (again : batch.retryCount < maxRetries batch.rail)
    (above : retryTwoEyesThresholdMinor < batch.totalCreditMinor) :
    (engine.after tables step).needsApproval batchId = true := by
  have own : batch.batchId = batchId := keyed.batches.key_of_get? found
  subst own
  have allowed : BatchStatus.pendingDispatch ∈ batchTransitions batch.status .manualRetryApproved := by
    rw [failed]
    decide
  have requeued : ∀ {tables : Settlements} {rows}, tables.needsApproval batch.batchId = true →
      (Process.forEach rows requeueRow).Ends step.around tables
        (fun _ later => later.needsApproval batch.batchId = true) fun _ later => later.needsApproval batch.batchId = true := by
    intro tables rows needs
    have kept : (Process.forEach rows requeueRow).Keeps fun before later =>
        before.needsApproval batch.batchId = true → later.needsApproval batch.batchId = true :=
      .mono (keeps_forEach fun _ => requeueRow_writes) fun _ _ (wrote : Wrote step.operation _ _) =>
        wrote.needsApproval (by simp [retrying])
    exact (kept.ends (fun _ => id) fun first second needs => second (first needs)).mono (fun _ _ stays => stays needs)
      fun _ _ stays => stays needs
  have ends : (manualRetry batch.batchId true).Ends step.around tables
      (fun _ later => later.needsApproval batch.batchId = true) fun _ later => later.needsApproval batch.batchId = true := by
    simp only [manualRetry, retryBatch, requireFreshEyes, if_pos above, if_neg (Nat.not_le.mpr again), ends_bind,
      ends_requireBatch, ends_clockNow, ends_raiseIf, ends_updateBatch, ends_pure, ends_denyBatch, ends_listMembers, found,
      allowed, Option.some.injEq, forall_eq', reduceCtorEq, false_implies, and_true, not_true_eq_false, true_and,
      not_false_eq_true, true_implies, Bool.true_eq_false, Dict.get?_set_self]
    exact requeued (by simp [needsApproval])
  rw [after, retrying]
  exact ends_iff_leaves.mp (ends_bind.mpr (ends.mono (fun _ _ holds => ends_pure.mpr holds) fun _ _ holds => holds))

theorem needsApproval_of_requires (keyed : tables.Keyed) (requires : engine.Requires tables step batchId) :
    (engine.after tables step).needsApproval batchId = true := by
  unfold SettlementEngine.Requires at requires
  split at requires
  case h_1 assigning =>
    obtain ⟨batch, found, above, moved⟩ := requires
    have required := watched_after keyed assigning batchId batch found above moved
    simp [needsApproval, found, required]
  case h_2 retried approved retrying =>
    obtain ⟨rfl, rfl, batch, found, failed, again, above⟩ := requires
    exact needsApproval_after_manualRetry keyed retrying found failed again above
  case h_3 => exact absurd requires id

/-! A batch over the threshold has been over it since some assignment. -/

theorem Wrote.counted (wrote : Wrote operation tables later)
    (other : operation ≠ .assignDueInstructions) (batchId : String) :
    (later.batches.get? batchId).map counted = (tables.batches.get? batchId).map counted := by
  rcases wrote.batch_cases batchId with same | ⟨old, new, found, there, change⟩ | ⟨_, assigning, -⟩
  · rw [same]
  · rcases change.totals with ⟨credit, count⟩ | assigning
    · simp [found, there, SettlementBatch.counted, credit, count]
    · exact absurd assigning other
  · exact absurd assigning other

/-- If the totals of a batch move past the threshold, the step makes approval required. -/
theorem requires_of_moved (found : (engine.after tables step).batches.get? batchId = some batch)
    (above : dispatchTwoEyesThresholdMinor < batch.totalCreditMinor)
    (moved : (tables.batches.get? batchId).map counted ≠ some batch.counted) : engine.Requires tables step batchId := by
  by_cases assigning : step.operation = .assignDueInstructions
  · simp only [SettlementEngine.Requires, assigning]
    exact ⟨batch, found, above, moved⟩
  · have kept := @SettlementEngine.after_keeps engine
      (fun before later => (later.batches.get? batchId).map counted =
        (before.batches.get? batchId).map counted) step
      (fun wrote => wrote.counted assigning batchId) (fun first second => second.trans first) tables
    rw [found, Option.map_some] at kept
    exact absurd kept.symm moved

theorem required_before (engine : SettlementEngine) (steps : List Step)
    (found : (engine.run steps).batches.get? batchId = some batch)
    (above : dispatchTwoEyesThresholdMinor < batch.totalCreditMinor) :
    ∃ before required after, steps = before ++ required :: after ∧ engine.Requires (engine.run before) required batchId := by
  induction steps using List.reverseRecOn generalizing batch with
  | nil => simp [run, empty] at found
  | append_singleton earlier step ih =>
    rw [run, List.foldl_append] at found
    by_cases moved : ((engine.run earlier).batches.get? batchId).map counted = some batch.counted
    · obtain ⟨old, present, same⟩ := Option.map_eq_some_iff.mp moved
      simp only [counted, Prod.mk.injEq] at same
      obtain ⟨before, required, after, rfl, requires⟩ := ih present (by rw [same.2]; exact above)
      exact ⟨before, required, after ++ [step], by simp, requires⟩
    · exact ⟨earlier, step, [], rfl, requires_of_moved found above moved⟩

section Sample

set_option maxRecDepth 20000

/-- A large batch that fails once: it is approved, and after the retry approved again. -/
def twiceApproved : List Step :=
  [⟨sampleAround, .registerSucceededPayment (samplePayment "pi_1" .npsbIso8583V28 600000000)⟩,
   ⟨sampleAround, .assignDueInstructions⟩,
    ⟨sampleAround, .cutoff "sbatch_1"⟩, ⟨sampleAround, .grantApproval "sbatch_1" "apr_1"⟩,
    ⟨sampleAround, .tryDispatch "sbatch_1"⟩, ⟨sampleAround, .reject "sbatch_1" "R01"⟩,
    ⟨sampleAround, .manualRetry "sbatch_1" true⟩, ⟨sampleAround, .grantApproval "sbatch_1" "apr_2"⟩]

end Sample

end BdPay.Ledger.Settlement
