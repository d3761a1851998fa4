import BdPay.Ledger.Honest

namespace BdPay.Ledger

open Data Platform

/-! The balance of an account, replayed from the money chain. -/

inductive ReplayError where
  | unknownAccount (accountId : String)
  | unparseable (chainIndex : Int)
  | missing (entryId : String) (chainIndex : Int)
  | ledger (error : LedgerError)

/-- The entry that a chain row seals, and its postings. -/
def MemoryStore.sealedEntry (store : MemoryStore) (row : ChainEntryRow) :
    Except ReplayError (ChainEntryRow × JournalEntryRow × List PostingRow) :=
  match entryIdFromPointer row.payloadPointer with
  | none => .error (.unparseable row.chainIndex)
  | some entryId =>
    match store.journal.get? entryId with
    | none => .error (.missing entryId row.chainIndex)
    | some entry => .ok (row, entry, store.getPostingsForEntry entryId)

/-- In the order of the chain.  The genesis row seals no entry. -/
def enumerateMoneyEntries (store : MemoryStore) :
    Except ReplayError (List (ChainEntryRow × JournalEntryRow × List PostingRow)) :=
  ((store.iterChain moneyDomain 0 none).filter fun row => row.chainIndex ≠ 0).mapM store.sealedEntry

structure BalanceMismatch where
  accountId : String
  (derivedMinor maintainedMinor : Int)

structure BalanceReplay where
  accountId : String
  asOf : Option DateTime
  (entriesReplayed postingsReplayed : Nat)
  balanceAtEndMinor : Int
  chainHashesValid : Bool
  discrepancies : List BalanceMismatch

/-- What a posting adds to the balance of its account. -/
def replayedMinor (debitPositive : Bool) (posting : PostingRow) : Int :=
  (if decide (posting.side = "DEBIT") = debitPositive then 1 else -1) * posting.amountMinor

/-- The report on an account, from the entries that were enumerated. -/
def balanceReplay (store : MemoryStore) (accountId : String) (debitPositive : Bool) (asOf : Option DateTime)
    (entries : List (ChainEntryRow × JournalEntryRow × List PostingRow)) (chainHashesValid : Bool) : BalanceReplay :=
  let touched := entries.map fun entry => entry.2.2.filter fun posting =>
    posting.accountId = accountId ∧ ∀ moment ∈ asOf, posting.producedAt ≤ moment
  let balance := (touched.flatten.map (replayedMinor debitPositive)).sum
  let maintained := store.getBalance accountId
  { accountId, asOf, chainHashesValid
    entriesReplayed := touched.countP (· ≠ [])
    postingsReplayed := touched.flatten.length
    balanceAtEndMinor := balance
    discrepancies := if asOf = none ∧ maintained ≠ balance then [⟨accountId, balance, maintained⟩] else [] }

def replayAccountBalance (service : LedgerService) (accountId : String) (asOf : Option DateTime) (now : DateTime) :
    EStateM ReplayError MemoryStore BalanceReplay := do
  let store ← get
  let some account := store.accounts.get? accountId | throw (.unknownAccount accountId)
  let entries ← Effect.attempt (enumerateMoneyEntries store)
  let verify ← EStateM.adaptExcept .ledger (service.verifyChain {} now)
  return balanceReplay store accountId (debitNormal account.accountType) asOf entries (verify.status = .completed)

variable {service : LedgerService} {store : MemoryStore} {genesis : Option ChainEntryRow} {log : List (Posted service)}

theorem replayedMinor_eq {accountType : String} {posting : PostingRow} (side : posting.side ∈ sides) :
    replayedMinor (debitNormal accountType) posting = normalBalanceDelta accountType posting.side posting.amountMinor := by
  simp only [sides, List.mem_cons, List.not_mem_nil, or_false] at side
  rcases side with side | side <;> cases normal : debitNormal accountType <;>
    simp [replayedMinor, normalBalanceDelta, side, normal]

theorem sum_replayedMinor {postings : List PostingRow}
    (sided : ∀ posting ∈ postings, posting.side ∈ sides) :
    ((postings.filter fun posting => posting.accountId = accountId).map (replayedMinor (debitNormal accountType))).sum =
      (postings.map fun posting => if posting.accountId = accountId then
        normalBalanceDelta accountType posting.side posting.amountMinor else 0).sum := by
  induction postings with
  | nil => rfl
  | cons posting rest ih =>
    have tail := ih fun other member => sided other (List.mem_cons_of_mem _ member)
    have here := @replayedMinor_eq accountType posting (sided posting List.mem_cons_self)
    by_cases same : posting.accountId = accountId <;> simp [same, here, tail]

namespace Represents

variable (represents : Represents service store genesis log)
include represents

/-- The chain is walked entry by entry, as they were posted. -/
theorem enumerateMoneyEntries_eq :
    enumerateMoneyEntries store = .ok (log.map fun posted => (posted.row, posted.entry, posted.postings)) := by
  have rows : ((store.iterChain moneyDomain 0 none).filter fun row => row.chainIndex ≠ 0) = log.map Posted.row := by
    have linked := represents.money.linked
    rw [represents.money.iterChain_whole]
    cases made : genesis with
    | none =>
      obtain rfl := represents.started made
      rfl
    | some first =>
      have zero : first.chainIndex = 0 := by rw [represents.genesisRow first made]; rfl
      rw [made] at linked
      obtain ⟨-, -, tail⟩ := linked
      rw [moneyRows, Option.toList_some, List.singleton_append, List.filter_cons_of_neg (by simp [zero]),
        List.filter_eq_self]
      intro row member
      have bounds := tail.index_mem member
      simp only [decide_eq_true_eq]
      omega
  have each : ∀ posted ∈ log, store.sealedEntry posted.row = .ok (posted.row, posted.entry, posted.postings) := by
    intro posted member
    rw [MemoryStore.sealedEntry, posted.pointer,
      entryIdFromPointer_payloadPointerFor posted.entryId_ne_empty (posted.not_mem_entryId (by decide))]
    simp only [represents.journal_get? member, represents.getPostingsForEntry_eq member]
  rw [enumerateMoneyEntries, rows, List.mapM_map]
  clear rows represents
  induction log with
  | nil => rfl
  | cons posted rest ih =>
    rw [List.mapM_cons, Function.comp_apply, each posted List.mem_cons_self,
      ih fun other member => each other (List.mem_cons_of_mem _ member)]
    rfl

variable {account : AccountRow} {accountId : String}

theorem replayed_eq (found : store.accounts.get? accountId = some account) :
    (((log.map fun posted => posted.postings.filter fun posting => posting.accountId = accountId).flatten).map
      (replayedMinor (debitNormal account.accountType))).sum = store.getBalance accountId := by
  rw [represents.getBalance_eq found, represents.values]
  clear represents
  induction log with
  | nil => rfl
  | cons posted rest ih =>
    rw [List.map_cons, List.flatten_cons, List.map_append, List.sum_append, ih, List.flatMap_cons, List.map_append,
      List.sum_append]
    exact congrArg (· + _) (sum_replayedMinor posted.sided)

/-- What a replay of the whole chain comes to, whatever balances the store maintains. -/
theorem replayAccountBalance_eq (found : store.accounts.get? accountId = some account)
    (now : DateTime) (balances : Dict String Int) :
    ∃ result after, replayAccountBalance service accountId none now { store with balances } = .ok result after ∧
      result.balanceAtEndMinor = store.getBalance accountId ∧
      result.discrepancies = if (balances.get? accountId).getD 0 ≠ store.getBalance accountId
        then [⟨accountId, store.getBalance accountId, (balances.get? accountId).getD 0⟩] else [] := by
  have listed : enumerateMoneyEntries { store with balances } = _ := represents.enumerateMoneyEntries_eq
  have replayed := represents.replayed_eq found
  obtain ⟨verify, after, verified⟩ : ∃ verify after,
    service.verifyChain {} now { store with balances } = .ok verify after := by
    unfold LedgerService.verifyChain
    simp only [bind, EStateM.bind, get, getThe, MonadStateOf.get, EStateM.get]
    split_ifs <;> exact ⟨_, _, rfl⟩
  refine ⟨balanceReplay { store with balances } accountId (debitNormal account.accountType) none
    (log.map fun posted => (posted.row, posted.entry, posted.postings)) (verify.status = .completed), after, ?_, ?_⟩
  · simp only [replayAccountBalance, bind, EStateM.bind, get, getThe, MonadStateOf.get, EStateM.get, found, listed,
      Effect.attempt, pure, EStateM.pure, EStateM.adaptExcept, verified]
  · simp only [balanceReplay, List.map_map, Function.comp_def, Option.not_mem_none, false_implies, implies_true,
      and_true, true_and, replayed]
    rfl

end Represents

/-- After every sequence of calls the replayed balance of an account is the maintained one, and any other balance that is
put in its place is reported. -/
theorem replay_of_run (service : LedgerService) (steps : List (DateTime × Call)) {accountId : String}
    {account : AccountRow}
    (found : (Call.run service steps {}).accounts.get? accountId = some account) (now : DateTime) :
    let store := Call.run service steps {}
    (∃ result after, replayAccountBalance service accountId none now store = .ok result after ∧
      result.balanceAtEndMinor = store.getBalance accountId ∧ result.discrepancies = []) ∧
    ∀ amount, amount ≠ store.getBalance accountId → ∃ result after, replayAccountBalance service accountId none now
        { store with balances := store.balances.set accountId amount } = .ok result after ∧
      result.discrepancies = [⟨accountId, store.getBalance accountId, amount⟩] := by
  obtain ⟨genesis, log, represents⟩ := Call.run_represents service steps
  refine ⟨?_, fun amount altered => ?_⟩
  · obtain ⟨result, after, returned, balance, reported⟩ := represents.replayAccountBalance_eq found now _
    exact ⟨result, after, returned, balance, reported.trans (if_neg (not_not_intro rfl))⟩
  · obtain ⟨result, after, returned, -, reported⟩ := represents.replayAccountBalance_eq found now
      ((Call.run service steps {}).balances.set accountId amount)
    rw [Dict.get?_set_self, Option.getD_some, if_pos altered] at reported
    exact ⟨result, after, returned, reported⟩

theorem replay_of_sampleSteps :
    ∃ result after, replayAccountBalance sampleService debitRow.accountId none newYear sampleStore = .ok result after ∧
      result.discrepancies = [] := by
  obtain ⟨account, found, -⟩ := Option.map_eq_some_iff.mp sampleStore_postings.2.2
  obtain ⟨⟨result, after, returned, -, reported⟩, -⟩ := replay_of_run sampleService sampleSteps found newYear
  exact ⟨result, after, returned, reported⟩

end BdPay.Ledger
