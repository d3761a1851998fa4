import BdPay.Ledger.Honest

namespace BdPay.Ledger

open Data Platform Effect MemoryStore Call

/-! The write gate: once verification has found tampering, no money moves. -/

variable {service : LedgerService} {store : MemoryStore}

theorem gateState_engaged (rows : List GateRow) :
    (gateState rows).engaged = rows.any fun row => row.clearedAt = none := by
  induction rows with
  | nil => rfl
  | cons row _ ih =>
    by_cases uncleared : row.clearedAt = none
    · simp [gateState, uncleared]
    · simp [gateState, uncleared, ih]

theorem engageWriteGate_engaged (store : MemoryStore) (reason : String) (now : DateTime) :
    (store.engageWriteGate reason now).writeGateState.engaged = true := by
  simp [writeGateState, engageWriteGate, gateState_engaged]

namespace Call

/-- No call of the service clears the gate. -/
theorem after_engaged (engaged : store.writeGateState.engaged = true) (step : DateTime × Call) :
    (after service store step).writeGateState.engaged = true := by
  rcases after_writes step with writes | ⟨-, reason, gated⟩
  · rw [writeGateState, writes.gateRows_eq]
    exact engaged
  · rw [gated]
    exact engageWriteGate_engaged store reason step.1

theorem run_engaged (engaged : store.writeGateState.engaged = true) (steps : List (DateTime × Call)) :
    (run service steps store).writeGateState.engaged = true :=
  run_induction (motive := fun reached => reached.writeGateState.engaged = true) steps engaged
    fun _ step before => after_engaged before step

end Call

/-- What the three calls that move money do behind an engaged gate.  Nothing is written; a call
that returns has only found that its work was done before. -/
structure Halted (service : LedgerService) (store : MemoryStore) : Prop where
  engaged : store.writeGateState.engaged = true
  posts : ∀ spec now, ∃ error, service.postJournalEntry spec now store = .error error store
  opens : ∀ request now,
    (∃ error, service.openHold request now store = .error error store) ∨
    ∃ existing, store.getOpenAccountHoldByReference request.referenceId = some existing ∧
      service.openHold request now store = .ok existing.holdId store
  releases : ∀ holdId outcome amountMinor now,
    (∃ error, service.releaseHold holdId outcome amountMinor now store = .error error store) ∨
    ∃ hold, store.holds.get? holdId = some hold ∧ hold.status ≠ "OPEN" ∧ hold.status = outcome ∧
      service.releaseHold holdId outcome amountMinor now store = .ok () store

/-- A bundle is never posted through an engaged gate. -/
theorem LedgerService.Posts.not_engaged (posts : service.Posts store spec producedAt bundle) :
    ¬ store.writeGateState.engaged = true := by
  rw [posts.gateOpen]
  decide

theorem halted_of_engaged (engaged : store.writeGateState.engaged = true) : Halted service store where
  engaged := engaged
  posts := by
    intro spec now
    have commits := @LedgerService.commits_postJournalEntry service store now spec
    cases performed : service.postJournalEntry spec now store with
    | error reason after => exact ⟨reason, commits.raisesClean reason after performed ▸ rfl⟩
    | ok =>
      obtain ⟨bundle, posts, -⟩ := commits.of_ok performed
      exact absurd engaged posts.not_engaged
  opens := by
    intro request now
    have commits := @LedgerService.commits_openHold service store now request
    cases performed : service.openHold request now store with
    | error reason after => exact .inl ⟨reason, commits.raisesClean reason after performed ▸ rfl⟩
    | ok =>
      rcases commits.of_ok performed with ⟨existing, found, rfl, rfl⟩ | ⟨opening, opens, -⟩
      · exact .inr ⟨existing, found, rfl⟩
      · exact absurd engaged opens.posts.not_engaged
  releases := by
    intro holdId outcome amount now
    have commits := @LedgerService.commits_releaseHold service store now holdId outcome amount
    cases performed : service.releaseHold holdId outcome amount now store with
    | error reason after => exact .inl ⟨reason, commits.raisesClean reason after performed ▸ rfl⟩
    | ok =>
      rcases commits.of_ok performed with ⟨hold, found, closed, same, rfl⟩ | ⟨closing, closes, -⟩
      · exact .inr ⟨hold, found, closed, same, rfl⟩
      · exact absurd engaged closes.posts.not_engaged

/-! Which verifications fail without an objection -/

namespace LedgerService

variable {request : VerifyRequest}

/-- Everything in the range is in order up to a malformed row, which is linked to what stands before it. -/
def MeetsMalformed (service : LedgerService) (store : MemoryStore) (request : VerifyRequest) : Prop :=
  ∃ anchor, anchorHash store request = some anchor ∧ service.Stuck store request request.fromIndex anchor
    (store.iterChain request.chainDomain request.fromIndex request.toIndex)

theorem verifyEmpty_ne_failedError : (verifyEmpty store request).status ≠ .failedError := by
  simp only [verifyEmpty]
  repeat' split
  all_goals simp [broken]

theorem verifySummary_ne_failedError : (service.verifySummary store request walk).status ≠ .failedError := by
  rw [verifySummary]
  cases found : (store.listCheckpoints request.chainDomain).findSome? (service.crossCheck store request walk) with
  | some =>
    obtain ⟨_, -, checked⟩ := List.exists_of_findSome?_eq_some found
    exact (crossCheck_objects checked).ne.2
  | none =>
    dsimp only
    split_ifs <;> simp [broken]

theorem verifyChainStatus_failedError_iff :
    (service.verifyChainStatus store request).status = .failedError ↔ service.MeetsMalformed store request := by
  rw [verifyChainStatus, verifyChainInner]
  cases anchored : anchorHash store request with
  | none => simp [MeetsMalformed, anchored, broken]
  | some anchor =>
    simp only [MeetsMalformed, anchored, Option.some.injEq, exists_eq_left']
    cases store.iterChain request.chainDomain request.fromIndex request.toIndex with
    | nil => exact iff_of_false verifyEmpty_ne_failedError (by simp [Stuck])
    | cons first others =>
      have pass := pass_verifyRows service store request ⟨anchor, request.fromIndex, 0, 0⟩ (first :: others)
      dsimp only
      generalize service.verifyRows store request (first :: others) _ = outcome at pass
      cases pass with
      | raised stuck => exact iff_of_true rfl stuck
      | objected objects notStuck => exact iff_of_false objects.ne.2 notStuck
      | passed clear => exact iff_of_false verifySummary_ne_failedError clear.not_stuck

/-- A verification that does not complete leaves a store in which no later call moves money. -/
def FailsClosed (service : LedgerService) (store : MemoryStore) (request : VerifyRequest) (now : DateTime) : Prop :=
  ∀ result after, service.verifyChain request now store = .ok result after → result.status ≠ .completed →
    ∀ later, Halted service (Call.run service later after)

end LedgerService

/-- A chain that starts at index 1, next to a hold that is open. -/
def brokenStore : MemoryStore where
  chains := Dict.empty.set moneyDomain
    (Dict.empty.set 1 { sampleService.genesisRow moneyDomain newYear "" with chainIndex := 1 })
  holds := Dict.empty.set "hold_1" {
    holdId := "hold_1"
    accountId := "acct_1"
    holdReserveAccountId := "acct_2"
    sourceAccountId := "acct_1"
    referenceId := "pi_1"
    amountMinor := 500
    holdReason := "payment"
    status := "OPEN"
    holdOpenedAt := newYear
    holdExpiresAt := newYear
    holdClosedAt := none
    openJeId := "je_1"
    closeJeId := none }

theorem brokenStore_status : (sampleService.verifyChainStatus brokenStore {}).status = .failedBrokenChain := by
  decide +kernel

/-- A genesis row without a pointer, whose hash cannot be computed. -/
def malformedStore : MemoryStore where
  chains := Dict.empty.set moneyDomain
    (Dict.empty.set 0 { sampleService.genesisRow moneyDomain newYear "" with payloadPointer := "" })

/-- Asks for the hold that the broken store has open already. -/
def heldRequest : LedgerService.HoldRequest where
  accountId := "acct_1"
  amountMinor := 500
  holdReason := "payment"
  referenceId := "pi_1"

end BdPay.Ledger
