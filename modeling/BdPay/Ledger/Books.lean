import BdPay.Ledger.Journal

namespace BdPay.Ledger

open Data Platform MemoryStore Posted Call List

/-! The books of every run: entries balance, balances are sums of postings, the
money chain has one row per entry, and a call that raises changes nothing. -/

variable {service : LedgerService} {store : MemoryStore}

def PostingRow.sideAmount (entryId side : String) (posting : PostingRow) : Int :=
  if posting.entryId = entryId ∧ posting.side = side then posting.amountMinor else 0

/-- The sum of the stored postings of one side of an entry. -/
def MemoryStore.sideTotal (store : MemoryStore) (entryId side : String) : Int :=
  (store.postings.values.map (·.sideAmount entryId side)).sum

/-- The chain row that was appended for a journal entry. -/
def SealsEntry (entry : JournalEntryRow) (row : ChainEntryRow) : Prop :=
  row.payloadPointer = payloadPointerFor entry.entryId entry.producedAt ∧ row.entryType = entry.entryType ∧
    row.producedAt = entry.producedAt

/-- The money chain is empty, with nothing posted, or the genesis row and one row per entry. -/
def LedgerService.MoneySealed (service : LedgerService) (store : MemoryStore) : Prop :=
  ∃ rows, (store.chain moneyDomain).entries = rows.map (fun row => (row.chainIndex, row)) ∧ LinkedRows rows ∧
    (rows = [] ∧ store.journal.entries = [] ∨ ∃ first seals, rows = first :: seals ∧
      first = service.genesisRow moneyDomain first.producedAt first.chainHash ∧
      List.Forall₂ SealsEntry store.journal.values seals)

/-- Two sums over the postings of a log agree when they agree on every entry. -/
theorem sum_flatMap_congr {log : List (Posted service)} {left right : PostingRow → Int}
    (same : ∀ posted ∈ log, (posted.postings.map left).sum = (posted.postings.map right).sum) :
    ((log.flatMap postings).map left).sum = ((log.flatMap postings).map right).sum := by
  induction log with
  | nil => rfl
  | cons posted _ ih =>
    simp only [flatMap_cons, map_append, sum_append]
    rw [same posted (by simp), ih fun other member => same other (by simp [member])]

/-- The two sides of an entry, asked for by an entry id. -/
theorem Posted.sides_sum (posted : Posted service) (entryId : String) :
    (posted.postings.map (·.sideAmount entryId "DEBIT")).sum = (posted.postings.map (·.sideAmount entryId "CREDIT")).sum := by
  by_cases same : posted.entry.entryId = entryId
  · have debit : posted.postings.map (·.sideAmount entryId "DEBIT") =
        posted.postings.map fun posting => if posting.side = "DEBIT" then posting.amountMinor else 0 := by
      apply map_congr_left
      intro posting member
      simp [PostingRow.sideAmount, posted.owned posting member, same]
    have credit : posted.postings.map (·.sideAmount entryId "CREDIT") =
        posted.postings.map fun posting => if posting.side = "DEBIT" then 0 else posting.amountMinor := by
      apply map_congr_left
      intro posting member
      have side := posted.sided posting member
      simp only [sides, mem_cons, not_mem_nil, or_false] at side
      rcases side with side | side <;> simp [PostingRow.sideAmount, posted.owned posting member, same, side]
    rw [debit, credit]
    exact posted.balanced
  · have foreign : ∀ posting ∈ posted.postings, posting.entryId ≠ entryId := by
      intro posting member
      rw [posted.owned posting member]
      exact same
    congr 1
    apply map_congr_left
    intro posting member
    simp [PostingRow.sideAmount, foreign posting member]

namespace Represents

variable {log : List (Posted service)}

variable (represents : Represents service store genesis log)
include represents

theorem sideTotal_eq (entryId : String) : store.sideTotal entryId "DEBIT" = store.sideTotal entryId "CREDIT" := by
  rw [sideTotal, sideTotal, represents.values]
  exact sum_flatMap_congr fun posted _ => posted.sides_sum entryId

theorem trialBalance_balanced : store.trialBalance.balanced = true := by
  have totals : debitTotal store.postings.values = creditTotal store.postings.values := by
    rw [represents.values]
    exact sum_flatMap_congr fun posted _ => posted.balanced
  simpa [trialBalance, TrialBalance.balanced] using totals

theorem getBalance_eq {account : AccountRow} (found : store.accounts.get? accountId = some account) :
    store.getBalance accountId = (store.postings.values.map fun posting =>
      if posting.accountId = accountId then
        normalBalanceDelta account.accountType posting.side posting.amountMinor
      else 0).sum := by
  rw [represents.balances, signedSum]
  congr 1
  apply map_congr_left
  intro posting _
  by_cases same : posting.accountId = accountId
  · simp [postingDelta, same, found]
  · simp [same]

theorem moneyChain : service.MoneySealed store := by
  refine ⟨moneyRows genesis log, represents.money.entries, represents.money.linked, ?_⟩
  cases made : genesis with
  | none =>
    obtain rfl := represents.started made
    exact .inl ⟨rfl, represents.journal⟩
  | some first =>
    refine .inr ⟨first, log.map row, rfl, represents.genesisRow first made, ?_⟩
    have entries : store.journal.values = log.map entry := by
      rw [Dict.values, represents.journal, map_map]
      rfl
    rw [entries, forall₂_map_left_iff, forall₂_map_right_iff, forall₂_same]
    exact fun posted _ => ⟨posted.pointer, posted.sealedType, posted.sealedAt⟩

theorem unchanged_of_raise {call : Call} {after : MemoryStore}
    (raised : call.perform service now store = .error error after) : after = store := by
  rcases perform_raises raised with rfl | ⟨violated, -⟩
  · rfl
  · rw [represents.trialBalance_balanced] at violated
    cases violated

end Represents

/-- What the books of a store satisfy. -/
structure KeepsBooks (service : LedgerService) (store : MemoryStore) : Prop where
  entriesBalance : ∀ entryId entry, store.journal.get? entryId = some entry →
    store.sideTotal entryId "DEBIT" = store.sideTotal entryId "CREDIT"
  trialBalance : store.trialBalance.balanced = true
  balances : ∀ accountId account, store.accounts.get? accountId = some account →
    store.getBalance accountId = (store.postings.values.map fun posting =>
      if posting.accountId = accountId then
        normalBalanceDelta account.accountType posting.side posting.amountMinor
      else 0).sum
  moneyChain : service.MoneySealed store
  raises : ∀ now call error after, perform service now call store = .error error after → after = store

/-- The books are in order after every sequence of calls. -/
theorem run_keepsBooks (service : LedgerService) (steps : List (DateTime × Call)) :
    KeepsBooks service (Call.run service steps {}) := by
  obtain ⟨genesis, log, represents⟩ := Call.run_represents service steps
  exact {
    entriesBalance := fun entryId _ _ => represents.sideTotal_eq entryId
    trialBalance := represents.trialBalance_balanced
    balances := fun _ _ => represents.getBalance_eq
    moneyChain := represents.moneyChain
    raises := fun _ _ _ _ => represents.unchanged_of_raise }

/-! A service with an injective stand-in for SHA-256, and short histories of it. -/

section

set_option maxRecDepth 20000

/-- 1 January 2026, UTC. -/
def newYear : DateTime := ⟨739616 * 86400000000, DateTime.year2026_inRange⟩

/-- What the genesis row of the money chain is hashed from. -/
def genesisPreimage : Preimage where
  prevHash := genesisPrevHash
  chainIndex := 0
  chainDomain := "MONEY"
  entryType := "genesis"
  payloadHash := spelledOut "genesis"
  payloadPointer := "genesis://bdpay/MONEY"
  amountMinorSum := 0
  producer := producerName
  producedAt := toCanonicalTs newYear

/-- The texts behind the identifiers of the sample history, and the genesis row. -/
def sampleTexts : List String :=
  ["\x7b\"account_subtype\":\"IN_TRANSIT\",\"currency\":\"BDT\",\"owner_id\":null,\"purpose_tag\":null\x7d",
    "\x7b\"account_subtype\":\"CUSTOMER_FLOAT\",\"currency\":\"BDT\",\"owner_id\":null,\"purpose_tag\":null\x7d",
    "\x7b\"entry_type\":\"payment_captured\",\"idempotency_key\":\"capture-1\",\"reference_id\":\"pi_1\"\x7d",
    "\x7b\"account_id\":\"acct_000000010000000000000000\",\"amount_minor\":500," ++
      "\"entry_id\":\"je_000000030000000000000000\",\"ordinal\":0,\"side\":\"DEBIT\"\x7d",
    "\x7b\"account_id\":\"acct_000000020000000000000000\",\"amount_minor\":500," ++
      "\"entry_id\":\"je_000000030000000000000000\",\"ordinal\":1,\"side\":\"CREDIT\"\x7d",
    genesisPreimage.text]

def sampleService : LedgerService where
  sha256 := knownDigest sampleTexts
  hexDigest := hex_knownDigest
  redact := id
  repr := fun text => "'" ++ text ++ "'"
  producer := producerName
  checkpointInterval := 1000
  intervalPositive := by decide
  sign := fun chainHash => (chainHash, "key")
  verifyCheckpoint := fun chainHash signature publicKey => signature == chainHash && publicKey == "key"
  trustedKeys := ["key"]

def openTransit : DateTime × Call :=
  (newYear, .createAccount { accountType := "ASSET", accountSubtype := "IN_TRANSIT" })

def openFloat : DateTime × Call :=
  (newYear, .createAccount { accountType := "LIABILITY", accountSubtype := "CUSTOMER_FLOAT" })

def captureSpec : JournalEntrySpec where
  referenceId := "pi_1"
  referenceType := "PAYMENT"
  entryType := "payment_captured"
  description := "capture"
  producedBy := "kernel"
  idempotencyKey := "capture-1"
  postings := [
    { accountId := "acct_000000010000000000000000", side := "DEBIT", amountMinor := 500 },
    { accountId := "acct_000000020000000000000000", side := "CREDIT", amountMinor := 500 }]

def sampleSteps : List (DateTime × Call) := [openTransit, openFloat, (newYear, .postJournalEntry captureSpec)]

def sampleStore : MemoryStore := run sampleService sampleSteps {}

def debitRow : PostingRow where
  postingId := "post_000000040000000000000000"
  entryId := "je_000000030000000000000000"
  accountId := "acct_000000010000000000000000"
  side := "DEBIT"
  amountMinor := 500
  currency := "BDT"
  producedAt := newYear

def creditRow : PostingRow where
  postingId := "post_000000050000000000000000"
  entryId := "je_000000030000000000000000"
  accountId := "acct_000000020000000000000000"
  side := "CREDIT"
  amountMinor := 500
  currency := "BDT"
  producedAt := newYear

theorem sampleStore_postings : sampleStore.postings.entries = LedgerService.keyedPostings [debitRow, creditRow] ∧
      sampleStore.postingsByEntry.entries =
        [("je_000000030000000000000000", [debitRow.postingId, creditRow.postingId])] ∧
      (sampleStore.accounts.get? debitRow.accountId).map AccountRow.accountType = some "ASSET" := by
  decide +kernel

/-- Before the first entry the money chain has no genesis row yet. -/
theorem moneyChain_without_genesis :
    ¬ ∃ genesis seals, ((Call.run sampleService [openTransit] {}).chain moneyDomain).entries =
      (genesis :: seals).map fun row => (row.chainIndex, row) := by
  have empty : ((Call.run sampleService [openTransit] {}).chain moneyDomain).entries = [] := by decide +kernel
  rw [empty]
  simp

end

end BdPay.Ledger
