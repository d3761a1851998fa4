import BdPay.Ledger.Settlement.Assigning
import BdPay.Ledger.Settlement.Failing

namespace BdPay.Ledger.Settlement

open Platform Data Effect Process SettlementBatch Settlements Dict Option List

/-! Operations that are refused, and what they leave behind. -/

section Mild

variable {α β : Type} {condition : Prop}

/-- The process raises no refusal, wherever it starts. -/
def Mild (process : SettlementP α) : Prop :=
  ∀ around tables, process.Ends around tables (fun _ _ => True) fun error _ => error.refusal = false

theorem mild_pure : Mild (pure value) := fun _ _ => ends_pure.mpr trivial

theorem Mild.bind {process : SettlementP α} {next : α → SettlementP β} (first : Mild process)
    (rest : ∀ value, Mild (next value)) : Mild (process >>= next) := fun around tables =>
  ends_bind.mpr ((first around tables).mono (fun value _ _ => rest value around _) fun _ _ mild => mild)

theorem mild_ite [Decidable condition] (first : Mild left)
    (second : Mild right) : Mild (if condition then left else right) := by
  split_ifs
  · exact first
  · exact second

theorem mild_forEach (each : ∀ item, Mild (body item)) : Mild (Process.forEach items body) := by
  induction items with
  | nil => exact mild_pure
  | cons item _ ih => exact (each item).bind fun _ => ih

theorem mild_look {look : Surroundings → Settlements → α} :
    Mild (Process.act fun around => do pure (look around (← get))) := fun _ _ => ends_look.mpr trivial

theorem mild_clockNow : Mild clockNow := fun _ _ => ends_clockNow.mpr trivial

theorem mild_raiseIf [Decidable condition] (mild : error.refusal = false) :
    Mild (Process.raiseIf condition error) := fun _ _ => ends_raiseIf.mpr ⟨fun _ => mild, fun _ => trivial⟩

theorem mild_updateBatch {batchId : String} {change : SettlementBatch → SettlementBatch} :
    Mild (updateBatch batchId change) := fun _ _ => ends_updateBatch.mpr ⟨fun _ _ => trivial, fun _ => rfl⟩

theorem mild_updateInstruction :
    Mild (updateInstruction instructionId change) := fun _ _ =>
  ends_updateInstruction.mpr ⟨fun _ _ => trivial, fun _ => rfl⟩

theorem mild_known : Mild (known named message) := by
  cases named with
  | none => exact fun _ _ => ends_raised.mpr rfl
  | some => exact mild_pure

theorem mild_postJournalEntry : Mild (postJournalEntry entry) := fun _ _ =>
  ends_postJournalEntry.mpr (stops_post.mpr
    ⟨fun _ => rfl, fun _ => ⟨fun _ => rfl, fun _ => ⟨fun _ => rfl, fun _ => trivial⟩⟩⟩)

end Mild

namespace SettlementEngine

variable (engine : SettlementEngine)

theorem mild_registerSucceededPayment {payment : SucceededPayment} :
    Mild (engine.registerSucceededPayment payment) := by
  refine mild_known.bind fun rail => mild_known.bind fun direction => mild_known.bind fun mccCategory => ?_
  refine (mild_raiseIf rfl).bind fun _ => mild_clockNow.bind fun now => Mild.bind mild_look fun existing => ?_
  cases existing with
  | some => exact mild_pure
  | none =>
    intro around tables
    simp only [insertInstruction, ends_act, stops_bind, stops_get, stops_raiseIf, stops_set]
    exact ⟨fun _ => rfl, fun _ => ⟨fun _ => rfl, fun _ => ⟨fun _ => rfl, fun _ => trivial⟩⟩⟩

theorem mild_setAmlHold {hold : Bool} : Mild (setAmlHold intentId hold) :=
  Mild.bind mild_look fun _ => mild_forEach fun _ => mild_updateInstruction.bind fun _ => mild_pure

theorem mild_confirmDelivery {confirmedAt : DateTime} : Mild (engine.confirmDelivery intentId confirmedAt) :=
  Mild.bind mild_look fun _ => mild_forEach fun _ => mild_updateInstruction.bind fun _ => mild_pure

theorem mild_assignRow : Mild (engine.assignRow now row) := by
  refine Mild.bind (Mild.bind mild_look fun existing => ?_) fun batch => ?_
  · cases existing with
    | some => exact mild_pure
    | none =>
      refine mild_clockNow.bind fun now => Mild.bind (fun _ _ => ?_) fun _ => mild_pure
      exact ends_insertBatch.mpr ⟨fun _ => rfl, fun _ => trivial⟩
  · refine (mild_raiseIf rfl).bind fun _ => mild_postJournalEntry.bind fun _ => ?_
    refine mild_updateBatch.bind fun updated => mild_updateInstruction.bind fun _ => mild_ite ?_ mild_pure
    exact mild_updateBatch.bind fun _ => mild_pure

theorem mild_assignDueInstructions : Mild engine.assignDueInstructions :=
  mild_clockNow.bind fun _ => Mild.bind mild_look fun _ => mild_forEach fun _ => mild_ite engine.mild_assignRow mild_pure

end SettlementEngine

/-! What a refused operation leaves. -/

variable {engine : SettlementEngine} {around : Surroundings} {tables : Settlements} {batchId : String} {step : Step}
  {approved : Bool} {later : Settlements}

/-- If the operation is refused, the tables are as they were. -/
def Clean (tables : Settlements) (error : SettlementError) (later : Settlements) : Prop :=
  error.refusal = true → later = tables

theorem Mild.clean (mild : Mild process) : process.Ends around tables (fun _ _ => True) (Clean tables) :=
  (mild around tables).mono (fun _ _ holds => holds) fun _ _ mild severe => by rw [mild] at severe; cases severe

theorem clean_here : Clean tables error tables := fun _ => rfl

theorem clean_mild (mild : error.refusal = false) :
    Clean tables error later := fun severe => by rw [mild] at severe; cases severe

theorem clean_cutoff : (cutoff batchId).Ends around tables (fun _ _ => True) (Clean tables) := by
  simp only [cutoff, ends_bind, ends_pure, ends_requireBatch, ends_clockNow, ends_ite, ends_denyBatch]
  refine ⟨fun batch found => ⟨fun _ => ⟨fun _ => clean_here, fun _ => ?_⟩, fun _ => ⟨fun _ => clean_here, fun _ => ?_⟩⟩,
    fun _ => clean_here⟩
  · exact mild_updateBatch.clean
  · exact mild_updateBatch.clean

theorem clean_grantApproval : (grantApproval batchId approval).Ends around tables (fun _ _ => True) (Clean tables) := by
  simp only [grantApproval, ends_bind, ends_pure, ends_requireBatch, ends_denyBatch]
  refine ⟨fun batch found => ⟨fun _ => clean_here, fun _ => ?_⟩, fun _ => clean_here⟩
  exact mild_updateBatch.clean

theorem clean_releaseHeld : (releaseHeld batchId).Ends around tables (fun _ _ => True) (Clean tables) := by
  simp only [releaseHeld, ends_bind, ends_pure, ends_requireBatch, ends_denyBatch, ends_tcsaGate, ends_raiseIf]
  refine ⟨fun batch found => ⟨fun _ => clean_here, fun _ => ⟨fun _ => clean_here, fun _ => ?_⟩⟩, fun _ => clean_here⟩
  exact mild_updateBatch.clean

theorem clean_onRail :
    (onRail trigger instructionId target change).Ends around tables (fun _ _ => True) (Clean tables) := by
  simp only [onRail, ends_bind, ends_pure, ends_requireInstruction, ends_clockNow, ends_denyInstruction]
  refine ⟨fun row found => ⟨fun _ => clean_here, fun _ => ?_⟩, fun _ => clean_here⟩
  exact mild_updateInstruction.clean

theorem clean_confirm (keyed : tables.Keyed) :
    (confirm batchId bankRef txids).Ends around tables (fun _ _ => True) (Clean tables) := by
  refine ends_confirm keyed (fun _ _ => clean_here) (fun _ _ _ => trivial) fun batch resolved found dispatched ref => ?_
  refine ends_confirmFresh_of keyed found rfl rfl (fun _ => rfl) (fun _ => clean_here) ?_ (fun _ => trivial)
    (fun _ _ => trivial) fun _ _ => trivial
  rintro _ (rfl | rfl)
  · exact clean_mild rfl
  · exact clean_mild rfl

theorem clean_failBatch (keyed : tables.Keyed)
    (failing : ∀ status, .failed ∈ batchTransitions status trigger ↔ status = .dispatched) :
    (failBatch batchId trigger reasonCode).Ends around tables (fun _ _ => True) (Clean tables) :=
  ends_failBatch keyed failing (fun _ _ => clean_here) fun _ _ _ _ => trivial

theorem clean_cancel (keyed : tables.Keyed) :
    (cancel batchId approved).Ends around tables (fun _ _ => True) (Clean tables) :=
  ends_cancel keyed (fun _ => clean_here) (fun _ _ _ _ _ _ mild => clean_mild mild) fun _ _ _ => trivial

/-! Operations that go through a list of batches: none of them is refused. -/

/-- The batches still to be looked at have the status they were listed with. -/
structure Standing (status : BatchStatus) (rest : List SettlementBatch) (tables : Settlements) : Prop where
  keyed : tables.Keyed
  distinct : (rest.map SettlementBatch.batchId).Nodup
  standing : ∀ batch ∈ rest, ∃ row, tables.batches.get? batch.batchId = some row ∧ row.status = status

theorem standing_batchesIn (keyed : tables.Keyed) (status : BatchStatus) :
    Standing status (tables.batchesIn status) tables := by
  have listed : (tables.batchesIn status).Perm (tables.batches.values.filter fun row => row.status = status) :=
    mergeSort_perm _ _
  refine ⟨keyed, ?_, ?_⟩
  · rw [(listed.map _).nodup_iff]
    have all := tables.batches.nodup_keys
    rw [← keyed.batches.keys_eq] at all
    exact all.sublist (filter_sublist.map _)
  · intro batch member
    obtain ⟨inside, has⟩ := mem_filter.mp (listed.mem_iff.mp member)
    exact ⟨batch, keyed.batches.get?_of_mem inside, by simpa using has⟩

/-- The rows of all other batches are left alone. -/
def Frame (batchId : String) (tables later : Settlements) : Prop :=
  ∀ other, other ≠ batchId → later.batches.get? other = tables.batches.get? other

variable {batch : SettlementBatch}

theorem Standing.tail {status : BatchStatus} {rest : List SettlementBatch}
    (standing : Standing status (batch :: rest) tables) (frame : Frame batch.batchId tables later)
    (keyed : later.Keyed) :
    Standing status rest later := by
  obtain ⟨apart, distinct⟩ := nodup_cons.mp standing.distinct
  refine ⟨keyed, distinct, fun other member => ?_⟩
  have different : other.batchId ≠ batch.batchId := fun same => apart (same ▸ mem_map_of_mem member)
  rw [frame other.batchId different]
  exact standing.standing other (mem_cons_of_mem _ member)

theorem frame_confirm (keyed : tables.Keyed) {bankRef : Option String} {txids : Dict String String}
    (standing : ∃ batch, tables.batches.get? batchId = some batch ∧
      (batch.status = .dispatched ∨ batch.status = .confirmed)) :
    (confirm batchId bankRef txids).Ends around tables (fun _ later => Frame batchId tables later)
      fun error _ => error.refusal = false := by
  refine ends_confirm keyed ?_ (fun _ _ _ _ _ => rfl) fun batch resolved found dispatched ref => ?_
  · intro error severe
    by_contra refused
    exact severe (by simpa using refused) standing
  · have framed : ∀ {posted : Settlements} {journal},
        posted = { tables.evidenced batchId batch resolved txids with journal } →
        Frame batchId tables
          (posted.confirmed around.now batchId { batch with sponsorBankRef := resolved } resolved txids) := by
      rintro _ journal rfl other different
      simp only [confirmed, rewrite, evidenced, get?_set_of_ne different]
    refine ends_confirmFresh_of keyed found rfl rfl (fun _ => rfl) (fun _ => rfl) ?_ (fun _ => framed rfl)
      (fun _ _ => framed rfl) fun _ _ => framed rfl
    rintro _ (rfl | rfl)
    · rfl
    · rfl

theorem mild_resumeConfirmations (keyed : tables.Keyed) :
    resumeConfirmations.Ends around tables (fun _ _ => True) fun error _ => error.refusal = false := by
  have confirms : ∀ {status batch rest state ref}, status = .dispatched ∨ status = .confirmed →
      Standing status (batch :: rest) state →
      (confirm batch.batchId ref .empty).Ends around state (fun _ later => Standing status rest later)
        fun error _ => error.refusal = false := by
    intro status batch rest state ref allowed standing
    obtain ⟨row, found, has⟩ := standing.standing batch mem_cons_self
    have framed := (@frame_confirm around _ _ standing.keyed ref .empty ⟨row, found, has ▸ allowed⟩).and
      (keyed_of_writes (@confirm_writes .resumeConfirmations batch.batchId .empty ref) standing.keyed)
    exact framed.mono (fun _ _ both => standing.tail both.1 both.2) fun _ _ both => both.1
  have skips : ∀ {status batch rest state}, Standing status (batch :: rest) state → Standing status rest state :=
    fun standing => standing.tail (fun _ _ => rfl) standing.keyed
  simp only [resumeConfirmations, ends_bind, ends_listBatches]
  refine ends_forEach (Standing .confirmed) (standing_batchesIn keyed .confirmed)
    (fun batch rest state standing _ => ?_) ?_
  · simp only [resumeConfirmed, ends_bind, ends_listMembers, ends_ite, ends_pure]
    exact ⟨fun _ => skips standing, fun _ => confirms (.inr rfl) standing⟩
  · intro state standing
    refine ends_forEach (Standing .dispatched) (standing_batchesIn standing.keyed .dispatched)
      (fun batch rest state standing _ => ?_) fun _ _ => trivial
    simp only [resumeDispatched, ends_ite, ends_pure]
    exact ⟨fun _ => confirms (.inl rfl) standing, fun _ => skips standing⟩

theorem failed_of_timeout (status : BatchStatus) :
    .failed ∈ batchTransitions status .connectorTimeout ↔ status = .dispatched := by
  cases status <;> decide

theorem failed_of_rejection (status : BatchStatus) :
    .failed ∈ batchTransitions status .sponsorBankRejected ↔ status = .dispatched := by
  cases status <;> decide

theorem mild_timeoutCheck (keyed : tables.Keyed) :
    timeoutCheck.Ends around tables (fun _ _ => True) fun error _ => error.refusal = false := by
  simp only [timeoutCheck, ends_bind, ends_clockNow, ends_listBatches]
  refine ends_forEach (Standing .dispatched) (standing_batchesIn keyed .dispatched)
    (fun batch rest state standing _ => ?_) fun _ _ => trivial
  rw [ends_ite]
  refine ⟨fun _ => ?_, fun _ => ends_pure.mpr (standing.tail (fun _ _ => rfl) standing.keyed)⟩
  have framed : (failBatch batch.batchId .connectorTimeout "TIMEOUT_EXHAUSTED").Ends around state
      (fun _ later => Frame batch.batchId state later) fun error _ => error.refusal = false := by
    refine ends_failBatch standing.keyed failed_of_timeout ?_ ?_
    · intro error severe
      by_contra refused
      exact severe (by simpa using refused) (standing.standing batch mem_cons_self)
    · intro row found dispatched unmarked other different
      simp only [Settlements.failed, Settlements.rewrite, get?_set_of_ne different]
  exact (framed.and (keyed_of_writes (@failBatch_writes .timeoutCheck batch.batchId _ _) standing.keyed)).mono
    (fun _ _ both => standing.tail both.1 both.2) fun _ _ both => both.1

/-! The two operations that write before they are refused. -/

theorem refusal_of_beftnAmountField (wrong : beftnAmountField amount = .error error) : error.refusal = true := by
  unfold beftnAmountField at wrong
  split_ifs at wrong
  all_goals
    cases wrong
    rfl

/-- Whether an amount fits the amount field of a BEFTN entry. -/
def fitsBeftn (row : SettlementInstruction) : Prop := 0 < row.netPayoutMinor ∧ row.netPayoutMinor ≤ maxAmountMinor

theorem beftnAmountField_ok_iff :
    (∃ field, beftnAmountField amount = .ok field) ↔ 0 < amount ∧ amount ≤ maxAmountMinor := by
  unfold beftnAmountField
  split_ifs with small large
  · simp
    omega
  · simp
    omega
  · simp
    omega

theorem beftnEntry_error
    (wrong : beftnEntry row position = .error error) : beftnAmountField row.netPayoutMinor = .error error := by
  cases field : beftnAmountField row.netPayoutMinor with
  | ok => simp [beftnEntry, field, Except.map] at wrong
  | error =>
    simp only [beftnEntry, field, Except.map, Except.error.injEq] at wrong
    rw [wrong]

variable {rows : List SettlementInstruction}

theorem buildHandoff_ok (session : batch.session.isSome)
    (fits : ∀ row ∈ rows, fitsBeftn row) : ∃ handoff, buildHandoff batch rows = .ok handoff := by
  obtain ⟨session, known⟩ := isSome_iff_exists.mp session
  simp only [buildHandoff, known]
  cases built : buildBeftnEntries rows with
  | ok => exact ⟨_, rfl⟩
  | error =>
    obtain ⟨⟨row, position⟩, member, wrong⟩ := mem_map.mp (mem_of_sequence_error built)
    obtain ⟨field, fine⟩ := beftnAmountField_ok_iff.mpr (fits row (fst_mem_of_mem_zipIdx member))
    rw [beftnEntry_error wrong] at fine
    cases fine

theorem buildHandoff_refused (unfit : batch.session.isSome → ¬ ∀ row ∈ rows, fitsBeftn row) :
    ∃ error, buildHandoff batch rows = .error error ∧ error.refusal = true := by
  cases known : batch.session with
  | none => exact ⟨.beftnFormat s!"batch {batch.batchId} has no BEFTN session", by simp [buildHandoff, known], rfl⟩
  | some =>
    simp only [buildHandoff, known]
    cases built : buildBeftnEntries rows with
    | error error =>
      obtain ⟨⟨row, position⟩, member, wrong⟩ := mem_map.mp (mem_of_sequence_error built)
      exact ⟨error, rfl, refusal_of_beftnAmountField (beftnEntry_error wrong)⟩
    | ok entries =>
      refine absurd (fun row member => ?_) (unfit (by simp [known]))
      rw [← zipIdx_map_fst 1 rows] at member
      obtain ⟨⟨row, position⟩, numbered, rfl⟩ := mem_map.mp member
      have listed : beftnEntry row position ∈ entries.map .ok :=
        sequence_eq_ok.mp built ▸ mem_map.mpr ⟨_, numbered, rfl⟩
      obtain ⟨entry, _, fine⟩ := mem_map.mp listed
      obtain ⟨field, written, _⟩ := map_eq_ok.mp fine.symm
      exact beftnAmountField_ok_iff.mp ⟨field, written⟩

/-- Before it writes anything, the operation can tell that it will not be refused after. -/
def Unrefused (tables : Settlements) (step : Step) : Prop :=
  match step.operation with
  | .tryDispatch batchId =>
    tables.goesOut step.around batchId = true → ∀ batch, tables.batches.get? batchId = some batch →
      batch.rail = .beftnBatchV2 →
      batch.session.isSome ∧ ∀ row ∈ tables.members batchId .queued, fitsBeftn row
  | .manualRetry batchId operatorApproved =>
    operatorApproved = true → ∀ batch, tables.batches.get? batchId = some batch →
      batch.retryCount < maxRetries batch.rail → retryTwoEyesThresholdMinor < batch.totalCreditMinor →
      batch.status = .failed ∨ batch.twoEyesRequired = true
  | _ => True

theorem fits_submittedRows :
    (∀ row ∈ tables.submittedRows now batchId, fitsBeftn row) ↔ ∀ row ∈ tables.members batchId .queued, fitsBeftn row := by
  simp only [submittedRows, List.forall_mem_map]
  rfl

theorem dispatched_ne (found : tables.batches.get? batchId = some batch)
    (pending : batch.status = .pendingDispatch) : tables.dispatched now batchId batch ≠ tables := by
  intro same
  have now_ : (tables.dispatched now batchId batch).batches.get? batchId = some (dispatchedBatch now batchId batch) :=
    get?_set_self _ _ _
  rw [same, found, some.injEq] at now_
  rw [now_] at pending
  cases pending

theorem clean_tryDispatch_iff (keyed : tables.Keyed) (dispatching : step.operation = .tryDispatch batchId) :
    (tryDispatch batchId).Ends step.around tables (fun _ _ => True) (Clean tables) ↔ Unrefused tables step := by
  simp only [Unrefused, dispatching]
  constructor
  · intro clean goes batch found beftn
    by_contra unfit
    have refused : (tryDispatch batchId).Ends step.around tables (fun _ _ => False) fun error later =>
        error.refusal = true ∧ later = tables.dispatched step.around.now batchId batch := by
      refine ends_tryDispatch keyed ?_ ?_ ?_
      · intro error stays
        rw [goes] at stays
        cases stays
      · intro _ _ stays
        rw [goes] at stays
        cases stays
      · intro other _ same
        rw [found, some.injEq] at same
        subst same
        obtain ⟨error, wrong, severe⟩ := @buildHandoff_refused (dispatchedBatch step.around.now batchId batch)
          (tables.submittedRows step.around.now batchId) fun session fits => unfit ⟨session, fits_submittedRows.mp fits⟩
        refine ends_handOff.mpr ⟨fun _ => ⟨fun handoff built => ?_, fun other raised => ?_⟩,
          fun elsewhere => absurd beftn elsewhere⟩
        · rw [wrong] at built
          cases built
        · rw [wrong, Except.error.injEq] at raised
          exact ⟨raised ▸ severe, rfl⟩
    obtain ⟨error, later, ran, severe, rfl⟩ := refused.raised
    have same := ends_raising_iff.mp clean error _ ran severe
    have pending : batch.status = .pendingDispatch := by
      simp only [goesOut, found, any_some, Bool.and_eq_true, decide_eq_true_eq] at goes
      exact goes.2.1
    exact dispatched_ne found pending same
  · intro fits
    refine ends_tryDispatch keyed (fun _ _ => clean_here) (fun _ _ _ _ _ => trivial) fun batch goes found => ?_
    refine ends_handOff.mpr ⟨fun beftn => ⟨fun _ _ => trivial, fun error wrong => ?_⟩, fun _ => trivial⟩
    obtain ⟨session, fit⟩ := fits goes batch found beftn
    obtain ⟨handoff, built⟩ := @buildHandoff_ok (dispatchedBatch step.around.now batchId batch)
      (tables.submittedRows step.around.now batchId) session (fits_submittedRows.mpr fit)
    rw [built] at wrong
    cases wrong

theorem rewatched_eq_iff :
    batch.rewatched = batch ↔ (retryTwoEyesThresholdMinor < batch.totalCreditMinor → batch.twoEyesRequired = true) := by
  rw [rewatched]
  split_ifs with above
  · constructor
    · intro same _
      rw [← same]
    · intro required
      have flag := required above
      cases batch
      simp_all
  · simp [above]

theorem clean_manualRetry_iff (keyed : tables.Keyed)
    (retrying : step.operation = .manualRetry batchId operatorApproved) :
    (manualRetry batchId operatorApproved).Ends step.around tables (fun _ _ => True) (Clean tables) ↔
      Unrefused tables step := by
  simp only [Unrefused, retrying]
  constructor
  · intro clean approved batch found again above
    by_contra unready
    rw [not_or] at unready
    have refused : (manualRetry batchId operatorApproved).Ends step.around tables (fun _ _ => False) fun error later =>
        error.refusal = true ∧ later = { tables with batches := tables.batches.set batchId batch.rewatched } := by
      have only : ∀ {other}, tables.batches.get? batchId = some other → other = batch := by
        intro other same
        rw [found, some.injEq] at same
        exact same.symm
      refine ends_manualRetry keyed ?_ ?_ ?_ ?_ ?_
      · intro error unapproved
        rw [unapproved batch found again] at approved
        cases approved
      · intro other _ _ same failed
        exact absurd (only same ▸ failed) unready.1
      · intro other same failed
        exact absurd (only same ▸ failed) unready.1
      · intro other same _ _ _
        rw [only same]
        exact ⟨rfl, rfl⟩
      · intro other same failed
        exact absurd (only same ▸ failed) unready.1
    obtain ⟨error, later, ran, severe, rfl⟩ := refused.raised
    have same := congrArg batches (ends_raising_iff.mp clean error _ ran severe)
    have now_ : (tables.batches.set batchId batch.rewatched).get? batchId = some batch.rewatched := get?_set_self _ _ _
    rw [show tables.batches.set batchId batch.rewatched = tables.batches from same, found, some.injEq] at now_
    exact unready.2 (rewatched_eq_iff.mp now_.symm above)
  · intro ready
    refine ends_manualRetry keyed (fun _ _ => clean_here) (fun _ _ _ _ _ _ _ mild => clean_mild mild)
      (fun _ _ _ _ => trivial) (fun batch found unfailed again approved => ?_) fun _ _ _ _ _ => trivial
    have same : batch.rewatched = batch := rewatched_eq_iff.mpr fun above =>
      (ready approved batch found again above).resolve_left unfailed
    rw [same, set_of_get? found]
    exact clean_here

theorem ends_then_pure {α β : Type} {process : SettlementP α} {value : β} :
    (do let _ ← process; pure value : SettlementP β).Ends around tables (fun _ _ => True) raises ↔
      process.Ends around tables (fun _ _ => True) raises := by
  simp only [ends_bind, ends_pure]

/-- No other operation is refused after it has written. -/
theorem clean_perform (keyed : tables.Keyed) (operation : Operation)
    (dispatch : ∀ batchId, operation ≠ .tryDispatch batchId)
    (retry : ∀ batchId approved, operation ≠ .manualRetry batchId approved) :
    (engine.perform operation).Ends around tables (fun _ _ => True) (Clean tables) := by
  cases operation with
  | tryDispatch batchId => exact absurd rfl (dispatch batchId)
  | manualRetry batchId operatorApproved => exact absurd rfl (retry batchId operatorApproved)
  | registerSucceededPayment => exact ends_then_pure.mpr engine.mild_registerSucceededPayment.clean
  | setAmlHold => exact ends_then_pure.mpr SettlementEngine.mild_setAmlHold.clean
  | confirmDelivery => exact ends_then_pure.mpr engine.mild_confirmDelivery.clean
  | assignDueInstructions => exact ends_then_pure.mpr engine.mild_assignDueInstructions.clean
  | cutoff => exact ends_then_pure.mpr clean_cutoff
  | grantApproval => exact ends_then_pure.mpr clean_grantApproval
  | releaseHeld => exact ends_then_pure.mpr clean_releaseHeld
  | confirm => exact ends_then_pure.mpr (clean_confirm keyed)
  | reject => exact ends_then_pure.mpr (clean_failBatch keyed failed_of_rejection)
  | cancel => exact ends_then_pure.mpr (clean_cancel keyed)
  | resumeConfirmations =>
    exact ends_then_pure.mpr ((mild_resumeConfirmations keyed).mono (fun _ _ _ => trivial)
      fun _ _ mild => clean_mild mild)
  | timeoutCheck =>
    exact ends_then_pure.mpr ((mild_timeoutCheck keyed).mono (fun _ _ _ => trivial) fun _ _ mild => clean_mild mild)
  | onRailConfirmed | onRailReturned | onRailRejected => exact ends_then_pure.mpr clean_onRail

/-- Whether a refused operation leaves everything as it was can be told beforehand: a dispatch
must not go out with an amount that has no place in the file, and a batch to be retried over the
threshold must have failed, or need approval already. -/
theorem refused_unchanged_iff (engine : SettlementEngine) (tables : Settlements) (step : Step) (keyed : tables.Keyed) :
    (∀ error later, (engine.perform step.operation).atomic step.around tables = .error error later →
      error.refusal = true → later = tables) ↔ Unrefused tables step := by
  refine Iff.trans
    (@ends_raising_iff _ _ _ _ step.around tables (Clean tables) (engine.perform step.operation)).symm ?_
  by_cases dispatch : ∃ batchId, step.operation = .tryDispatch batchId
  · obtain ⟨batchId, dispatching⟩ := dispatch
    rw [dispatching]
    exact clean_tryDispatch_iff keyed dispatching
  by_cases retry : ∃ batchId approved, step.operation = .manualRetry batchId approved
  · obtain ⟨batchId, operatorApproved, retrying⟩ := retry
    rw [retrying]
    exact ends_then_pure.trans (clean_manualRetry_iff keyed retrying)
  · have neither : Unrefused tables step := by
      unfold Unrefused
      split
      case h_1 batchId dispatching => exact absurd ⟨batchId, dispatching⟩ dispatch
      case h_2 batchId operatorApproved retrying => exact absurd ⟨batchId, operatorApproved, retrying⟩ retry
      case h_3 => trivial
    refine iff_of_true (clean_perform keyed step.operation ?_ ?_) neither
    · exact fun batchId same => dispatch ⟨batchId, same⟩
    · exact fun batchId approved same => retry ⟨batchId, approved, same⟩

section Sample

set_option maxRecDepth 20000

/-- One payment so large that its amount has no place in the BEFTN file. -/
def oversized : List Step :=
  [⟨sampleAround, .registerSucceededPayment (samplePayment "pi_1" .beftnBatchV2 10000000100)⟩,
    ⟨sampleAround, .assignDueInstructions⟩, ⟨sampleAround, .cutoff "sbatch_1"⟩,
    ⟨sampleAround, .grantApproval "sbatch_1" "apr_1"⟩]

/-- The dispatch raises a format error, and the batch is dispatched. -/
theorem refused_dispatch_left_dispatched :
    (match ((sampleEngine.perform (.tryDispatch "sbatch_1")).atomic sampleAround) (sampleEngine.run oversized) with
      | .error error later => error.refusal &&
          (later.batches.get? "sbatch_1").map SettlementBatch.status = some .dispatched &&
          (later.instructions.get? "pi_1").map SettlementInstruction.status = some .submitted
      | .ok _ _ => false) = true ∧
    ((sampleEngine.run oversized).batches.get? "sbatch_1").map SettlementBatch.status = some .pendingDispatch := by
  decide +kernel

/-- A batch that is not held cannot be released, and the attempt changes nothing. -/
theorem refused_release_unchanged :
    (∀ error later, (sampleEngine.perform (.releaseHeld "sbatch_1")).atomic sampleAround (sampleEngine.run oversized) =
      .error error later → error.refusal = true → later = sampleEngine.run oversized) ∧
    (match (sampleEngine.perform (.releaseHeld "sbatch_1")).atomic sampleAround (sampleEngine.run oversized) with
      | .error error _ => error.refusal
      | .ok _ _ => false) = true :=
  ⟨(refused_unchanged_iff sampleEngine (sampleEngine.run oversized) ⟨sampleAround, .releaseHeld "sbatch_1"⟩
    (sampleEngine.run_keyed oversized)).mpr trivial, by decide +kernel⟩

end Sample

end BdPay.Ledger.Settlement
