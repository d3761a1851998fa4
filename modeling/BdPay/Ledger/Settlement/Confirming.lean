import BdPay.Ledger.Settlement.Dispatching

namespace BdPay.Ledger.Settlement

open Platform Data Effect Process

/-! What a confirmation does. -/

variable {around : Surroundings} {tables : Settlements} {batchId : String}
  {raises : SettlementError → Settlements → Prop} {row : SettlementInstruction} {status : InstructionStatus}

/-- A denied transition, a guard that does not hold, or a file that cannot be written. -/
def SettlementError.refusal : SettlementError → Bool
  | .batchDenied .. => true
  | .instructionDenied .. => true
  | .guard _ => true
  | .beftnFormat _ => true
  | _ => false

def inBatch (batchId : String) (status : InstructionStatus) (row : SettlementInstruction) : Bool :=
  row.batchId = some batchId && row.status = status

theorem inBatch_iff : inBatch batchId status row = true ↔ row.batchId = some batchId ∧ row.status = status := by
  simp [inBatch]

theorem mem_members : row ∈ tables.members batchId status ↔
      row ∈ tables.instructions.values ∧ row.batchId = some batchId ∧ row.status = status := by
  simp [Settlements.members]

variable {returns : Unit → Settlements → Prop}

/-- A row that is allowed to move. -/
theorem ends_moveRow
    (allowed : target ∈ instructionTransitions row.status trigger)
    (present : tables.instructions.get? row.instructionId = some row) :
    (do
      denyInstruction row trigger target
      let _ ← updateInstruction row.instructionId change : SettlementP Unit).Ends around tables returns raises ↔
      returns () { tables with instructions := tables.instructions.set row.instructionId (change row) } := by
  simp only [ends_bind, ends_denyInstruction, ends_updateInstruction, ends_pure, present, allowed, Option.some.injEq,
    forall_eq', reduceCtorEq, false_implies, and_true, not_true_eq_false, true_and, true_implies]

def settled (now : DateTime) (railTransactionIds : Dict String String) (row : SettlementInstruction) :
    SettlementInstruction :=
  { row with
    status := .settled, settledAt := some now
    railTransactionId := (row.railTransactionId.filter (· ≠ "")).or (railTransactionIds.get? row.instructionId) }

variable {txids : Dict String String} {now : DateTime}

theorem ends_settleRow (waiting : row.status = .submitted)
    (present : tables.instructions.get? row.instructionId = some row) :
    (settleRow now txids row).Ends around tables returns raises ↔ returns () { tables with
        instructions := tables.instructions.set row.instructionId (settled now txids row) } :=
  ends_moveRow (by rw [waiting]; decide) present

theorem ends_settleRows (keyed : tables.Keyed) {now : DateTime} :
    (Process.forEach (tables.members batchId .submitted) (settleRow now txids)).Ends around tables returns
      raises ↔ returns () (tables.rewrite (inBatch batchId .submitted) (settled now txids)) :=
  ends_forEach_rewrite keyed (settled now txids) (fun _ => rfl) fun _ which _ _ present =>
    ends_settleRow (inBatch_iff.mp which).2 present

/-- The evidence of a confirmation, kept before any money moves. -/
def Settlements.evidenced (tables : Settlements) (batchId : String) (batch : SettlementBatch)
    (sponsorBankRef : Option String) (railTransactionIds : Dict String String) : Settlements :=
  { tables with
    batches := tables.batches.set batchId { batch with sponsorBankRef }
    instructions := railTransactionIds.entries.foldl recordTxid tables.instructions }

variable {batch : SettlementBatch} {sponsorBankRef : Option String}

theorem ends_persistConfirmationEvidence (found : tables.batches.get? batchId = some batch) :
    (persistConfirmationEvidence batchId sponsorBankRef txids).Ends around tables returns raises ↔
      (batch.sponsorBankRef.isSome ∧ batch.sponsorBankRef ≠ sponsorBankRef →
        raises (.settlement "sponsor_bank_ref cannot overwrite already-durable confirmation evidence") tables) ∧
      (¬ (batch.sponsorBankRef.isSome ∧ batch.sponsorBankRef ≠ sponsorBankRef) →
        ((∃ instructionId ∈ txids.keys, evidenceFits tables batchId instructionId = false) →
          raises (.settlement "instruction is not a SUBMITTED member of the batch") tables) ∧
        (¬ (∃ instructionId ∈ txids.keys, evidenceFits tables batchId instructionId = false) →
          returns () (tables.evidenced batchId batch sponsorBankRef txids))) := by
  rw [persistConfirmationEvidence, ends_act, stops_bind, stops_get]
  simp only [found, stops_bind, stops_raiseIf, stops_set]
  rfl

theorem keyed_evidenced (keyed : tables.Keyed) (found : tables.batches.get? batchId = some batch)
    (sponsorBankRef : Option String)
    (txids : Dict String String) : (tables.evidenced batchId batch sponsorBankRef txids).Keyed :=
  (@Wrote.evidence .resumeConfirmations tables batchId batch { batch with sponsorBankRef } found
    (.of_same rfl .inl) txids.entries).keyed keyed

/-- Phases 2 and 3: the batch is confirmed and its submitted members are settled. -/
def Settlements.confirmed (tables : Settlements) (now : DateTime) (batchId : String) (batch : SettlementBatch)
    (sponsorBankRef : Option String) (railTransactionIds : Dict String String) : Settlements :=
  { tables with batches := tables.batches.set batchId { batch with
      status := .confirmed, confirmedAt := some now, sponsorBankRef } }.rewrite (inBatch batchId .submitted)
    (settled now railTransactionIds)

variable {rows : List SettlementInstruction} {final : Settlements → Settlements}

theorem ends_postClose :
    (postClose batchId rows).Ends around tables returns raises ↔
      (rows = [] → returns () tables) ∧ (¬ rows = [] →
        Stops (post around (closeEntry batchId rows)) tables returns fun error later =>
          if isDuplicate error then
            (later.entries batchId .settlementBatchClose = [] → raises (.ledgerDuplicate (.batchClose batchId)) later) ∧
              (¬ later.entries batchId .settlementBatchClose = [] → returns () later)
          else raises error later) := by
  simp only [postClose, ends_ite, ends_pure, ends_act, stops_catchWhen, stops_bind, stops_get, stops_raiseIf]

theorem ends_settleBatch {posted : Settlements} (keyed : posted.Keyed)
    (found : posted.batches.get? batchId = some batch) {now : DateTime}
    (listed : rows = posted.members batchId .submitted) :
    (settleBatch batchId now sponsorBankRef txids rows).Ends around posted returns raises ↔
      returns () (posted.confirmed now batchId batch sponsorBankRef txids) := by
  subst listed
  simp only [settleBatch, ends_bind, ends_setBatch found]
  refine .trans (@ends_settleRows around { posted with batches := posted.batches.set batchId { batch with
    status := .confirmed, confirmedAt := some now, sponsorBankRef } } batchId raises _ _ ?_ _) Iff.rfl
  exact (@Wrote.batch .resumeConfirmations posted batchId batch { batch with
    status := .confirmed, confirmedAt := some now, sponsorBankRef } found (.of_same rfl (by simp))).keyed keyed

section

variable (keyed : tables.Keyed) (found : tables.batches.get? batchId = some batch)
  (kept : evidenced = tables.evidenced batchId batch sponsorBankRef txids)
  (listed : rows = evidenced.members batchId .submitted)
  (finally_ : ∀ posted, final posted = posted.confirmed now batchId { batch with sponsorBankRef } sponsorBankRef txids)
include keyed found kept listed finally_

/-- A fresh confirmation, once its evidence is kept: the close entry is posted, or was there, and the
batch is settled. -/
theorem ends_confirmFresh :
    (confirmFresh batchId now sponsorBankRef txids).Ends around tables returns raises ↔
      (persistConfirmationEvidence batchId sponsorBankRef txids).Ends around tables
        (fun _ _ => (rows = [] → returns () (final evidenced)) ∧ (¬ rows = [] →
          Stops (post around (closeEntry batchId rows)) evidenced
            (fun _ _ => returns () (final { evidenced with journal := evidenced.journal ++ [closeEntry batchId rows] }))
            fun error _ =>
              if isDuplicate error then
                (evidenced.entries batchId .settlementBatchClose = [] →
                  raises (.ledgerDuplicate (.batchClose batchId)) evidenced) ∧
                (¬ evidenced.entries batchId .settlementBatchClose = [] → returns () (final evidenced))
              else raises error evidenced)) raises := by
  subst kept listed
  have keyed' := keyed_evidenced keyed found sponsorBankRef txids
  have there : (tables.evidenced batchId batch sponsorBankRef txids).batches.get? batchId =
      some { batch with sponsorBankRef } := Dict.get?_set_self _ _ _
  have posted := fun journal => @ends_settleBatch around batchId raises returns txids _ sponsorBankRef _
    { tables.evidenced batchId batch sponsorBankRef txids with journal } ⟨keyed'.batches, keyed'.instructions⟩
    there now rfl
  simp only [finally_, confirmFresh, ends_bind, ends_persistConfirmationEvidence found, ends_listMembers,
    ends_postClose,
    stops_post, isDuplicate, if_true, Bool.false_eq_true, if_false, ends_settleBatch keyed' there rfl]
  exact iff_of_eq (by simp only [posted _ |>.symm]; rfl)

/-- A fresh confirmation, by what may stop it. -/
theorem ends_confirmFresh_of (unkept : ∀ message, raises (.settlement message) tables)
    (unposted : ∀ error, error = .ledger ∨ error = .ledgerDuplicate (.batchClose batchId) → raises error evidenced)
    (empty : rows = [] → returns () (final evidenced))
    (posted : rows ≠ [] → .batchClose batchId ∉ evidenced.journal.map JournalEntry.idempotencyKey →
      returns () (final { evidenced with journal := evidenced.journal ++ [closeEntry batchId rows] }))
    (already : rows ≠ [] → evidenced.entries batchId .settlementBatchClose ≠ [] → returns () (final evidenced)) :
    (confirmFresh batchId now sponsorBankRef txids).Ends around tables returns raises := by
  rw [ends_confirmFresh keyed found kept listed finally_, ends_persistConfirmationEvidence found]
  refine ⟨fun _ => unkept _, fun _ => ⟨fun _ => unkept _, fun _ => ⟨empty, fun some => ?_⟩⟩⟩
  simp only [stops_post, isDuplicate, if_true, Bool.false_eq_true, if_false]
  refine ⟨fun _ => unposted _ (.inl rfl),
    fun _ => ⟨fun _ => ⟨fun _ => unposted _ (.inr rfl), already some⟩, fun fresh => ?_⟩⟩
  exact ⟨fun _ => unposted _ (.inl rfl), fun _ => posted some fresh⟩

end

theorem refusal_of_sponsorRef (wrong : sponsorRef batch given = .error error) : error.refusal = false := by
  unfold sponsorRef at wrong
  dsimp only at wrong
  split_ifs at wrong
  all_goals
    cases wrong
    rfl

theorem ends_confirm (keyed : tables.Keyed)
    (refused : ∀ error, (error.refusal = true → ¬ ∃ batch, tables.batches.get? batchId = some batch ∧
      (batch.status = .dispatched ∨ batch.status = .confirmed)) → raises error tables)
    (resumed : ∀ batch, tables.batches.get? batchId = some batch → batch.status = .confirmed →
      returns () (tables.rewrite (inBatch batchId .submitted) (settled around.now txids)))
    (fresh : ∀ batch resolved, tables.batches.get? batchId = some batch → batch.status = .dispatched →
      sponsorRef batch sponsorBankRef = .ok resolved →
      (confirmFresh batchId around.now resolved txids).Ends around tables returns raises) :
    (confirm batchId sponsorBankRef txids).Ends around tables returns raises := by
  simp only [confirm, ends_bind, ends_requireBatch, ends_clockNow, ends_attempt, ends_denyBatch, ends_ite]
  refine ⟨fun batch found => ⟨fun resolved ref => ⟨fun denied => refused _ fun _ standing => ?_,
    fun allowed => ⟨fun done => ?_, fun running => ?_⟩⟩, fun error wrong => refused error fun severe => ?_⟩,
    fun _ => refused _ fun severe => absurd severe (by simp [SettlementError.refusal])⟩
  · obtain ⟨_, same, standing⟩ := standing
    rw [found, Option.some.injEq] at same
    subst same
    rcases standing with status | status
    · exact absurd (by rw [status]; decide) denied
    · exact absurd (by rw [status]; decide) denied
  · simp only [finishConfirm, ends_bind, ends_listMembers]
    exact (ends_settleRows keyed).mpr (resumed batch found done)
  · have dispatched : batch.status = .dispatched := by
      revert allowed running
      cases batch.status <;> decide
    exact fresh batch resolved found dispatched ref
  · rw [refusal_of_sponsorRef wrong] at severe
    cases severe

end BdPay.Ledger.Settlement
