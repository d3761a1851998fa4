import BdPay.Ledger.Tamper

namespace BdPay.Ledger

open Data Platform MemoryStore PostingRow Call List Dict

/-! What the seal of an entry does not cover, and by how much it can move a balance.

Balances are summed over the raw postings table.  The seal covers the postings
an entry lists, but neither the date of a posting nor a row that no entry lists.
-/

variable {service : LedgerService} {store : MemoryStore}

/-- What a posting counts for an account as of an instant, if it is taken to be dated `dated`. -/
def postingWeight (accounts : Dict String AccountRow) (accountId : String) (asOf dated : DateTime)
    (posting : SealedPosting) : Int :=
  if posting.accountId = accountId ∧ dated ≤ asOf then
    match accounts.get? accountId with
    | none => 0
    | some account => normalBalanceDelta account.accountType posting.side posting.amountMinor
  else 0

theorem getBalanceAsOf_eq (store : MemoryStore) (accountId : String) (asOf : DateTime) :
    store.getBalanceAsOf accountId asOf = (store.postings.values.map fun posting =>
      postingWeight store.accounts accountId asOf posting.producedAt posting.sealed).sum := by
  cases found : store.accounts.get? accountId with
  | none => simp [getBalanceAsOf, postingWeight, found]
  | some => simp [getBalanceAsOf, postingWeight, found, sealed]

/-- `other` is the store with its journal and its postings rewritten, their indexes included. -/
def MemoryStore.DiffersInEntries (store other : MemoryStore) : Prop :=
  other = { store with
    journal := other.journal, journalByIdem := other.journalByIdem,
    postings := other.postings, postingsByEntry := other.postingsByEntry }

/-- The date the store gave to the posting that a row of `other` shows.  A row that `other`
lists under none of the entries of the store has none. -/
def MemoryStore.sealedDate (store other : MemoryStore) (entry : String × PostingRow) : Option DateTime :=
  if ∃ entryId ∈ store.journal.keys, entry.1 ∈ (other.postingsByEntry.get? entryId).getD [] then
    (store.postings.get? entry.2.postingId).map producedAt
  else none

/-- The rows no seal covers as they are: listed under no entry, or dated differently. -/
def MemoryStore.strays (store other : MemoryStore) : List (String × PostingRow) :=
  other.postings.entries.filter fun entry => store.sealedDate other entry ≠ some entry.2.producedAt

/-- The rows of `other` that are listed under no entry of the store. -/
def MemoryStore.unlisted (store other : MemoryStore) : List PostingRow :=
  (other.postings.entries.filter fun entry => store.sealedDate other entry = none).map Prod.snd

/-- What the strays do to a balance: each counts by its own date, less what it counts by the date it had. -/
def MemoryStore.strayNet (store other : MemoryStore) (accountId : String) (asOf : DateTime) : Int :=
  ((store.strays other).map fun entry =>
    postingWeight store.accounts accountId asOf entry.2.producedAt entry.2.sealed -
      ((store.sealedDate other entry).map fun dated =>
        postingWeight store.accounts accountId asOf dated entry.2.sealed).getD 0).sum

/-- The rows no seal covers cancel out. -/
structure StraysCancel (store other : MemoryStore) : Prop where
  net : ∀ accountId asOf, store.strayNet other accountId asOf = 0
  debits : debitTotal (store.unlisted other) = 0
  credits : creditTotal (store.unlisted other) = 0

namespace Represents

variable {log : List (Posted service)} {other : MemoryStore} {posted : Posted service}

/-- A rewriting that verification accepts agrees with the log on everything sealed. -/
theorem agreeOnSeals_of_differs (represents : Represents service store genesis log)
    (injective : Function.Injective service.sha256) (differs : store.DiffersInEntries other)
    (completed : (service.verifyChainStatus other {}).status = .completed) : AgreeOnSeals store other := by
  obtain ⟨linked, verified, count⟩ := LedgerService.verifyChainStatus_sound completed
  have chains : other.chains = store.chains := by rw [differs]
  have iterated : other.iterChain moneyDomain 0 none = moneyRows genesis log := by
    rw [← represents.money.iterChain_whole]
    simp only [iterChain, chain, chains]
  rw [iterated] at linked verified count
  cases made : genesis with
  | some =>
    rw [made] at linked verified count
    rw [made] at represents
    exact represents.agreeOnSeals_of_payloads injective rfl rfl linked verified count
  | none =>
    obtain rfl := represents.started made
    refine represents.agreeOnSeals (by simp) ?_
    rw [made] at count
    simpa [countJournalEntries, moneyRows] using count

theorem postings_get? (represents : Represents service store genesis log)
    (member : posted ∈ log) (inside : own ∈ posted.postings) : store.postings.get? own.postingId = some own := by
  apply get?_of_mem
  rw [represents.postings]
  exact mem_map.mpr ⟨own, mem_flatMap.mpr ⟨posted, member, inside⟩, rfl⟩

/-- The posting ids `other` lists under an entry and has a row for. -/
def foundUnder (other : MemoryStore) (entryId : String) : List String :=
  ((other.postingsByEntry.get? entryId).getD []).filter fun postingId => (other.postings.get? postingId).isSome

theorem getPostingsForEntry_eq_found (other : MemoryStore) (entryId : String) :
    other.getPostingsForEntry entryId = (foundUnder other entryId).filterMap other.postings.get? := by
  rw [getPostingsForEntry, foundUnder, filterMap_filter]
  apply filterMap_congr
  intro postingId _
  cases other.postings.get? postingId <;> rfl

variable (represents : Represents service store genesis log) (agrees : AgreeOnSeals store other)
include represents agrees

theorem sealed_perm (member : posted ∈ log) : (posted.postings.map sealed).Perm
      ((other.getPostingsForEntry posted.entry.entryId).map sealed) := by
  rw [← represents.getPostingsForEntry_eq member]
  exact agrees.postings _ (by simp [represents.journal_get? member])

/-- The rows under the entries show every posting once, so no row is listed twice. -/
theorem found_nodup : (log.flatMap fun posted => foundUnder other posted.entry.entryId).Nodup := by
  apply List.Nodup.of_map fun postingId => (other.postings.get? postingId).map PostingRow.postingId
  have shown : ∀ posted ∈ log, (posted.postings.map fun own => some own.postingId).Perm
      ((foundUnder other posted.entry.entryId).map fun postingId =>
        (other.postings.get? postingId).map PostingRow.postingId) := by
    intro posted member
    have ids := (represents.sealed_perm agrees member).map fun posting => some posting.postingId
    simp only [map_map, getPostingsForEntry_eq_found, map_filterMap, Option.map_map] at ids
    have total : (foundUnder other posted.entry.entryId).filterMap (fun postingId =>
        (other.postings.get? postingId).map ((fun posting => some posting.postingId) ∘ sealed)) =
        (foundUnder other posted.entry.entryId).map fun postingId =>
          (other.postings.get? postingId).map PostingRow.postingId := by
      rw [← filterMap_eq_map]
      apply filterMap_congr
      intro postingId inside
      obtain ⟨row, found⟩ := Option.isSome_iff_exists.mp (mem_filter.mp inside).2
      simp [found, sealed]
    rw [total] at ids
    exact ids
  rw [map_flatMap, ← (List.Perm.flatMap_left log shown).nodup_iff]
  have keys := store.postings.nodup_keys
  rw [Dict.keys, represents.postings, keyedPostings_keys, map_flatMap] at keys
  have wrapped := keys.map (Option.some_injective String)
  simpa [map_flatMap, map_map, Function.comp_def] using wrapped

/-- The rows found under an entry weigh, at the dates of the store, what its postings weigh. -/
theorem sum_entry (weight : DateTime → SealedPosting → Int) (member : posted ∈ log) :
    ((foundUnder other posted.entry.entryId).map fun postingId => ((other.postings.get? postingId).map fun row =>
      ((store.sealedDate other (postingId, row)).map fun dated => weight dated row.sealed).getD 0).getD 0).sum =
    (posted.postings.map fun own => weight own.producedAt own.sealed).sum := by
  have permuted := represents.sealed_perm agrees member
  have dated : ∀ postingId row, postingId ∈ foundUnder other posted.entry.entryId →
      other.postings.get? postingId = some row →
      store.sealedDate other (postingId, row) = some posted.entry.producedAt := by
    intro postingId row inside found
    have read : row ∈ other.getPostingsForEntry posted.entry.entryId := by
      rw [getPostingsForEntry_eq_found]
      exact mem_filterMap.mpr ⟨postingId, inside, found⟩
    obtain ⟨own, stored, same⟩ := mem_map.mp (permuted.mem_iff.mpr (mem_map_of_mem read))
    have sameId : own.postingId = row.postingId := congrArg SealedPosting.postingId same
    have listed : ∃ entryId ∈ store.journal.keys, postingId ∈ (other.postingsByEntry.get? entryId).getD [] := by
      refine ⟨posted.entry.entryId, ?_, (mem_filter.mp inside).1⟩
      by_contra absent
      rw [← get?_eq_none_iff, represents.journal_get? member] at absent
      cases absent
    rw [sealedDate, if_pos listed, ← sameId, represents.postings_get? member stored, Option.map_some,
      posted.dated own stored]
  calc
    _ = (((other.getPostingsForEntry posted.entry.entryId).map sealed).map
          (weight posted.entry.producedAt)).sum := by
        rw [getPostingsForEntry_eq_found]
        have each : ∀ ids : List String, (∀ postingId ∈ ids, postingId ∈ foundUnder other posted.entry.entryId) →
            (ids.map fun postingId => ((other.postings.get? postingId).map fun row =>
              ((store.sealedDate other (postingId, row)).map fun dated => weight dated row.sealed).getD 0).getD 0).sum =
            (((ids.filterMap other.postings.get?).map sealed).map
              (weight posted.entry.producedAt)).sum := by
          intro ids inside
          induction ids with
          | nil => rfl
          | cons postingId _ ih =>
            have tail := ih fun later member => inside later (by simp [member])
            cases found : other.postings.get? postingId with
            | none => simpa [found] using tail
            | some row => simp [found, tail, dated postingId row (inside postingId (by simp)) found]
        exact each _ fun _ inside => inside
    _ = ((posted.postings.map sealed).map (weight posted.entry.producedAt)).sum :=
        (permuted.map (weight posted.entry.producedAt)).sum_eq.symm
    _ = (posted.postings.map fun own => weight own.producedAt own.sealed).sum := by
        rw [map_map]
        congr 1
        apply map_congr_left
        intro own inside
        simp [posted.dated own inside]

/-- Counted by the dates of the store, the listed rows of `other` sum up to what the store holds. -/
theorem sum_sealedDate (weight : DateTime → SealedPosting → Int) : (other.postings.entries.map fun entry =>
      ((store.sealedDate other entry).map fun dated => weight dated entry.2.sealed).getD 0).sum =
    (store.postings.values.map fun own => weight own.producedAt own.sealed).sum := by
  rw [sum_entries other.postings (represents.found_nodup agrees)
    (fun postingId row => ((store.sealedDate other (postingId, row)).map fun dated => weight dated row.sealed).getD 0)]
  · rw [represents.values, map_flatMap, map_flatMap, flatMap_def, flatMap_def, sum_flatten,
      sum_flatten, map_map, map_map]
    congr 1
    apply map_congr_left
    intro posted member
    exact represents.sum_entry agrees weight member
  · -- a row outside stands under no entry, and so has no sealed date
    intro postingId row stored absent
    have unlisted : ¬ ∃ entryId ∈ store.journal.keys, postingId ∈ (other.postingsByEntry.get? entryId).getD [] := by
      intro listed
      obtain ⟨entryId, known, inside⟩ := listed
      rw [Dict.keys, represents.journal, map_map] at known
      obtain ⟨posted, member, rfl⟩ := mem_map.mp known
      apply absent
      refine mem_flatMap.mpr ⟨posted, member, mem_filter.mpr ⟨inside, ?_⟩⟩
      rw [get?_of_mem stored]
      rfl
    rw [sealedDate, if_neg unlisted]
    rfl

/-- The exact error of a balance that verification lets pass. -/
theorem getBalanceAsOf_eq_add_strayNet (differs : store.DiffersInEntries other) (accountId : String) (asOf : DateTime) :
    other.getBalanceAsOf accountId asOf = store.getBalanceAsOf accountId asOf + store.strayNet other accountId asOf := by
  have accounts : other.accounts = store.accounts := by rw [differs]
  have covered : ∀ entry ∈ other.postings.entries,
      decide (store.sealedDate other entry ≠ some entry.2.producedAt) = false →
      postingWeight store.accounts accountId asOf entry.2.producedAt entry.2.sealed -
        ((store.sealedDate other entry).map fun dated =>
          postingWeight store.accounts accountId asOf dated entry.2.sealed).getD 0 = 0 := by
    intro entry _ same
    simp only [ne_eq, decide_not, Bool.not_eq_false', decide_eq_true_eq] at same
    simp [same]
  rw [strayNet, strays, ← sum_map_filter_of_zero covered, getBalanceAsOf_eq store,
    ← represents.sum_sealedDate agrees (postingWeight store.accounts accountId asOf), ← sum_map_add,
    getBalanceAsOf_eq, accounts, Dict.values, map_map]
  congr 1
  apply map_congr_left
  intro entry _
  simp only [Function.comp_apply]
  omega

/-- What a total over the postings table is off by. -/
theorem total_eq_add_unlisted (weight : SealedPosting → Int) :
    (other.postings.values.map fun row => weight row.sealed).sum =
      (store.postings.values.map fun row => weight row.sealed).sum +
        ((store.unlisted other).map fun row => weight row.sealed).sum := by
  have known := represents.sum_sealedDate agrees fun _ => weight
  have split : ∀ entries : List (String × PostingRow), (entries.map fun entry => weight entry.2.sealed).sum =
      (entries.map fun entry => ((store.sealedDate other entry).map fun _ => weight entry.2.sealed).getD 0).sum +
        ((entries.filter fun entry => store.sealedDate other entry = none).map fun entry =>
          weight entry.2.sealed).sum := by
    intro entries
    induction entries with
    | nil => rfl
    | cons entry =>
      cases date : store.sealedDate other entry with
      | none =>
        simp only [map_cons, sum_cons, date, Option.map_none, Option.getD_none, decide_true,
          filter_cons_of_pos]
        omega
      | some =>
        simp only [map_cons, sum_cons, date, Option.map_some, Option.getD_some, reduceCtorEq,
          decide_false, Bool.false_eq_true, not_false_eq_true, filter_cons_of_neg]
        omega
  rw [unlisted, map_map, Dict.values, map_map, ← known]
  exact split _

theorem trialBalance_eq_iff : other.trialBalance = store.trialBalance ↔
      debitTotal (store.unlisted other) = 0 ∧ creditTotal (store.unlisted other) = 0 := by
  have debits : debitTotal other.postings.values =
      debitTotal store.postings.values + debitTotal (store.unlisted other) :=
    represents.total_eq_add_unlisted agrees fun posting => if posting.side = "DEBIT" then posting.amountMinor else 0
  have credits : creditTotal other.postings.values =
      creditTotal store.postings.values + creditTotal (store.unlisted other) :=
    represents.total_eq_add_unlisted agrees fun posting => if posting.side = "DEBIT" then 0 else posting.amountMinor
  rw [trialBalance, trialBalance, TrialBalance.mk.injEq]
  omega

end Represents

/-- Behind a verification that completes, all balances and the trial balance are those of
the history exactly when the rows no seal covers cancel out. -/
theorem balances_eq_iff_straysCancel (service : LedgerService) (injective : Function.Injective service.sha256)
    (steps : List (DateTime × Call)) (other after : MemoryStore) (result : ChainVerificationResult) (now : DateTime)
    (differs : (Call.run service steps {}).DiffersInEntries other)
    (verified : service.verifyChain {} now other = .ok result after) (completed : result.status = .completed) :
    ((∀ accountId asOf,
        other.getBalanceAsOf accountId asOf = (Call.run service steps {}).getBalanceAsOf accountId asOf) ∧
      other.trialBalance = (Call.run service steps {}).trialBalance) ↔
    StraysCancel (Call.run service steps {}) other := by
  obtain ⟨genesis, log, represents⟩ := Call.run_represents service steps
  obtain ⟨reached, status, -⟩ := service.verifyChain_eq other {} now
  rw [status] at verified
  cases verified
  have agrees := represents.agreeOnSeals_of_differs injective differs completed
  rw [represents.trialBalance_eq_iff agrees]
  constructor
  · intro same
    refine ⟨?_, same.2.1, same.2.2⟩
    intro accountId asOf
    have balance := represents.getBalanceAsOf_eq_add_strayNet agrees differs accountId asOf
    have kept := same.1 accountId asOf
    omega
  · intro cancels
    refine ⟨?_, cancels.debits, cancels.credits⟩
    intro accountId asOf
    rw [represents.getBalanceAsOf_eq_add_strayNet agrees differs, cancels.net]
    omega

theorem sampleStore_getBalanceAsOf : sampleStore.getBalanceAsOf debitRow.accountId newYear = 500 := by
  obtain ⟨account, found, accountType⟩ := Option.map_eq_some_iff.mp sampleStore_postings.2.2
  rw [getBalanceAsOf, found, values, sampleStore_postings.1]
  simp only [accountType]
  decide

theorem movedStore_getBalanceAsOf : movedStore.getBalanceAsOf debitRow.accountId newYear = 0 := by
  obtain ⟨account, found, accountType⟩ := Option.map_eq_some_iff.mp sampleStore_postings.2.2
  have moved : ∀ store : MemoryStore, store.postings.entries = LedgerService.keyedPostings [debitRow, creditRow] →
      store.accounts.get? debitRow.accountId = some account →
      getBalanceAsOf
        { store with postings := store.postings.set debitRow.postingId { debitRow with producedAt := nextDay } }
        debitRow.accountId newYear = 0 := by
    intro store entries known
    have present : debitRow.postingId ∈ store.postings.keys := by
      rw [Dict.keys, entries]
      decide
    rw [getBalanceAsOf]
    simp only [known, accountType, Dict.values, Dict.set, dif_pos present, entries]
    decide
  exact moved sampleStore sampleStore_postings.1 found

theorem movedStore_differs : (run sampleService sampleSteps {}).DiffersInEntries movedStore := by
  have kept : ∀ (store : MemoryStore) (postings : Dict String PostingRow),
      store.DiffersInEntries { store with postings := postings } := fun _ _ => rfl
  exact kept _ _

/-- Moved to the next day, a posting leaves the balance of its day, and verification completes. -/
theorem movedStore_verified_other_balance :
    Function.Injective sampleService.sha256 ∧
      (Call.run sampleService sampleSteps {}).DiffersInEntries movedStore ∧
      (∃ result, sampleService.verifyChain {} newYear movedStore = .ok result movedStore ∧
        result.status = .completed) ∧
      movedStore.getBalanceAsOf debitRow.accountId newYear ≠
        (Call.run sampleService sampleSteps {}).getBalanceAsOf debitRow.accountId newYear := by
  refine ⟨knownDigest_injective (by decide), movedStore_differs,
    ⟨_, verifyChain_of_completed movedStore_completed newYear, movedStore_completed⟩, ?_⟩
  rw [movedStore_getBalanceAsOf, ← sampleStore, sampleStore_getBalanceAsOf]
  decide

theorem not_straysCancel_movedStore : ¬ StraysCancel (Call.run sampleService sampleSteps {}) movedStore := by
  rw [← balances_eq_iff_straysCancel sampleService (knownDigest_injective (by decide)) sampleSteps movedStore movedStore _
    newYear movedStore_differs (verifyChain_of_completed movedStore_completed newYear) movedStore_completed]
  intro same
  have balance := same.1 debitRow.accountId newYear
  rw [movedStore_getBalanceAsOf, ← sampleStore, sampleStore_getBalanceAsOf] at balance
  cases balance

end BdPay.Ledger
