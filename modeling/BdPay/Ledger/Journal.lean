import BdPay.Ledger.Sealing

namespace BdPay.Ledger

open Data Platform MemoryStore PostingRow LedgerService List Dict

/-! The ledger as a log.

What the ledger is for is said by a list of posted entries, oldest first; an
entry is balanced by construction.  `Represents` says what the tables of a store
hold when a log was posted to it, and every write either keeps the log or
appends one entry to it.
-/

/-- A journal entry with its postings and the chain row that seals them. -/
structure Posted (service : LedgerService) where
  entry : JournalEntryRow
  postings : List PostingRow
  row : ChainEntryRow
  minted : ∃ spec, service.entryIdFor spec = .ok entry.entryId
  typed : entry.entryType ∈ entryTypes
  enough : 2 ≤ postings.length
  balanced : debitTotal postings = creditTotal postings
  distinct : (postings.map postingId).Nodup
  owned : ∀ posting ∈ postings, posting.entryId = entry.entryId
  dated : ∀ posting ∈ postings, posting.producedAt = entry.producedAt
  sided : ∀ posting ∈ postings, posting.side ∈ sides
  positive : ∀ posting ∈ postings, 0 < posting.amountMinor
  payload : journalEntryPayloadHash service.sha256 entry postings = .ok row.payloadHash
  pointer : row.payloadPointer = payloadPointerFor entry.entryId entry.producedAt
  sealedType : row.entryType = entry.entryType
  sealedSum : row.amountMinorSum = amountSum postings
  sealedAt : row.producedAt = entry.producedAt

variable {service : LedgerService} {store after : MemoryStore}
  {entryId : String} {listed : Dict String (List String)} {postings : List PostingRow}

namespace LedgerService

variable {spec : JournalEntrySpec} {producedAt : DateTime} {bundle : Bundle}

theorem rowOf_fields (rowOf : List.Forall₂ (RowOf entryId producedAt) specs rows) :
    ∀ row ∈ rows, row.entryId = entryId ∧ row.producedAt = producedAt := by
  induction rowOf with
  | nil => simp
  | cons first _ ih =>
    intro row member
    rcases mem_cons.mp member with rfl | inside
    · rw [first]
      exact ⟨rfl, rfl⟩
    · exact ih row inside

/-- The entry that a bundle posts. -/
def Posts.posted (posts : service.Posts store spec producedAt bundle) : Posted service where
  entry := bundle.entry
  postings := bundle.postings
  row := bundle.chain.row
  minted := ⟨spec, posts.entryId⟩
  typed := by
    rw [posts.entry]
    exact posts.typed
  enough := posts.postings.rowOf.length_eq ▸ posts.enough
  balanced := posts.balanced
  distinct := posts.postings.distinct
  owned := fun posting member => (rowOf_fields posts.postings.rowOf posting member).1
  dated := by
    intro posting member
    rw [(rowOf_fields posts.postings.rowOf posting member).2, posts.entry]
    rfl
  sided := fun posting member => (posts.postings.allowed posting member).side
  positive := fun posting member => (posts.postings.allowed posting member).positive
  payload := posts.payload
  pointer := by
    rw [posts.chain.row]
    rfl
  sealedType := by
    rw [posts.chain.row]
    rfl
  sealedSum := by
    rw [posts.chain.row]
    rfl
  sealedAt := by
    rw [posts.chain.row]
    rfl

end LedgerService

/-! The tables a log leaves in a store -/

/-- The rows of the money chain: the genesis row, then one row per entry. -/
def moneyRows (genesis : Option ChainEntryRow) (log : List (Posted service)) : List ChainEntryRow :=
  genesis.toList ++ log.map Posted.row

/-- The signed sum of the stored postings of an account. -/
def MemoryStore.signedSum (store : MemoryStore) (accountId : String) : Int :=
  (store.postings.values.map fun posting =>
    if posting.accountId = accountId then postingDelta store.accounts posting else 0).sum

structure Represents (service : LedgerService) (store : MemoryStore) (genesis : Option ChainEntryRow)
    (log : List (Posted service)) : Prop where
  journal : store.journal.entries = log.map fun posted => (posted.entry.entryId, posted.entry)
  postings : store.postings.entries = keyedPostings (log.flatMap Posted.postings)
  listed : store.postingsByEntry.entries =
    log.map fun posted => (posted.entry.entryId, posted.postings.map postingId)
  accounts : ∀ posting ∈ store.postings.values, store.accounts.get? posting.accountId ≠ none
  balances : ∀ accountId, store.getBalance accountId = store.signedSum accountId
  money : service.Chained store moneyDomain (moneyRows genesis log)
  started : genesis = none → log = []
  genesisRow : ∀ row ∈ genesis, row = service.genesisRow moneyDomain row.producedAt row.chainHash
  audit : ∃ rows, service.Chained store auditDomain rows

theorem represents_empty : Represents service {} none [] where
  journal := rfl
  postings := rfl
  listed := rfl
  accounts := by simp
  balances := fun _ => rfl
  money := ⟨rfl, trivial, by simp [moneyRows], by simp [checkpointsOf]⟩
  started := fun _ => rfl
  genesisRow := by simp
  audit := ⟨[], rfl, trivial, by simp, by simp [checkpointsOf]⟩

/-! How postings reach the balances and the listing of their entry -/

theorem getD_addToBalance (accounts : Dict String AccountRow) (balances : Dict String Int) (posting : PostingRow)
    (accountId : String) :
    ((addToBalance accounts balances posting).get? accountId).getD 0 = (balances.get? accountId).getD 0 +
      if posting.accountId = accountId then postingDelta accounts posting else 0 := by
  by_cases same : posting.accountId = accountId
  · subst same
    simp [addToBalance]
  · simp [addToBalance, same, get?_set_of_ne (Ne.symm same)]

theorem getD_foldl_addToBalance (accounts : Dict String AccountRow) (balances : Dict String Int)
    (postings : List PostingRow) (accountId : String) :
    ((postings.foldl (addToBalance accounts) balances).get? accountId).getD 0 =
      (balances.get? accountId).getD 0 + (postings.map fun posting =>
        if posting.accountId = accountId then postingDelta accounts posting else 0).sum := by
  induction postings generalizing balances with
  | nil => simp
  | cons _ _ ih =>
    rw [foldl_cons, ih, getD_addToBalance, map_cons, sum_cons, Int.add_assoc]

theorem foldl_listPosting_set (owned : ∀ posting ∈ postings, posting.entryId = entryId) :
    postings.foldl listPosting (listed.set entryId ids) = listed.set entryId (ids ++ postings.map postingId) := by
  induction postings generalizing ids with
  | nil => simp
  | cons posting _ ih =>
    have step : listPosting (listed.set entryId ids) posting = listed.set entryId (ids ++ [posting.postingId]) := by
      rw [listPosting, owned posting (by simp), Dict.get?_set_self, Dict.set_set]
      rfl
    rw [foldl_cons, step, ih fun other member => owned other (by simp [member])]
    simp

/-- The first postings of an entry are listed under it, in order. -/
theorem entries_foldl_listPosting (nonempty : postings ≠ [])
    (owned : ∀ posting ∈ postings, posting.entryId = entryId) (fresh : listed.get? entryId = none) :
    (postings.foldl listPosting listed).entries = listed.entries ++ [(entryId, postings.map postingId)] := by
  cases postings with
  | nil => exact absurd rfl nonempty
  | cons posting =>
    have first : listPosting listed posting = listed.set entryId [posting.postingId] := by
      rw [listPosting, owned posting (by simp), fresh]
      rfl
    rw [foldl_cons, first, foldl_listPosting_set fun other member => owned other (by simp [member]),
      entries_set_of_fresh fresh]
    rfl

/-! One step -/

namespace Represents

variable {log : List (Posted service)}

section

variable (represents : Represents service store genesis log)
include represents

/-- Tables outside the log are free to change. -/
theorem frame (accounts : after.accounts = store.accounts)
    (journal : after.journal = store.journal) (postings : after.postings = store.postings)
    (listed : after.postingsByEntry = store.postingsByEntry) (balances : after.balances = store.balances)
    (chains : after.chains = store.chains) (checkpoints : after.checkpoints = store.checkpoints) :
    Represents service after genesis log := by
  have chain : ∀ domain, after.chain domain = store.chain domain := by simp [chain, chains]
  have summaries : ∀ domain, after.checkpointsOf domain = store.checkpointsOf domain := by
    simp [checkpointsOf, checkpoints]
  obtain ⟨auditRows, audit⟩ := represents.audit
  exact {
    journal := journal ▸ represents.journal
    postings := postings ▸ represents.postings
    listed := listed ▸ represents.listed
    accounts := by rw [accounts, postings]; exact represents.accounts
    balances := by
      intro accountId
      rw [getBalance, signedSum, balances, postings, accounts]
      exact represents.balances accountId
    money := represents.money.congr (chain _) (summaries _)
    started := represents.started
    genesisRow := represents.genesisRow
    audit := ⟨auditRows, audit.congr (chain _) (summaries _)⟩ }

theorem account (fresh : store.accounts.get? row.accountId = none) :
    Represents service { store with accounts := store.accounts.set row.accountId row } genesis log := by
  -- No stored posting belongs to an account that was not there yet.
  have known : ∀ posting ∈ store.postings.values,
      (store.accounts.set row.accountId row).get? posting.accountId = store.accounts.get? posting.accountId := by
    intro posting member
    apply get?_set_of_ne
    intro same
    exact represents.accounts posting member (same ▸ fresh)
  obtain ⟨auditRows, audit⟩ := represents.audit
  exact { represents with
    accounts := by
      intro posting member
      rw [known posting member]
      exact represents.accounts posting member
    balances := by
      intro accountId
      refine (represents.balances accountId).trans ?_
      rw [signedSum, signedSum]
      congr 1
      apply map_congr_left
      intro posting member
      simp only [postingDelta, known posting member]
    money := represents.money.congr rfl rfl
    audit := ⟨auditRows, audit.congr rfl rfl⟩ }

theorem get?_journal : store.journal.get? entryId = none ↔ ∀ posted ∈ log, posted.entry.entryId ≠ entryId := by
  rw [get?_eq_none_iff, Dict.keys, represents.journal, map_map]
  simp

theorem get?_listed : store.postingsByEntry.get? entryId = none ↔ ∀ posted ∈ log, posted.entry.entryId ≠ entryId := by
  rw [get?_eq_none_iff, Dict.keys, represents.listed, map_map]
  simp

theorem values : store.postings.values = log.flatMap Posted.postings := by
  rw [Dict.values, represents.postings, keyedPostings_values]

end

section

variable {producedAt : DateTime}

variable (represents : Represents service store genesis log) (posts : service.Posts store spec producedAt bundle)
include represents posts

theorem moneyRows_append : moneyRows genesis log ++ bundle.chain.rows =
      moneyRows (genesis.or bundle.chain.genesis) (log ++ [posts.posted]) := by
  have tipOf := posts.chain.tipOf
  have last : bundle.chain.row = posts.posted.row := rfl
  cases written : bundle.chain.genesis with
  | none => simp [moneyRows, ChainWrite.rows, written, last]
  | some =>
    simp only [LedgerService.TipOf, written] at tipOf
    have empty := represents.money.tip_none tipOf.1
    simp only [moneyRows, append_eq_nil_iff, Option.toList_eq_nil_iff, map_eq_nil_iff] at empty
    obtain ⟨rfl, rfl⟩ := empty
    simp [moneyRows, ChainWrite.rows, written, last]

theorem genesis_ne_none : genesis.or bundle.chain.genesis ≠ none := by
  intro absent
  obtain ⟨noGenesis, notWritten⟩ := Option.or_eq_none_iff.mp absent
  have tipOf := posts.chain.tipOf
  simp only [LedgerService.TipOf, notWritten] at tipOf
  obtain ⟨nonempty, -, -⟩ := represents.money.tip_some tipOf
  rw [noGenesis, represents.started noGenesis] at nonempty
  exact nonempty rfl

theorem posted : Represents service (store.post bundle) (genesis.or bundle.chain.genesis) (log ++ [posts.posted]) := by
  have allNew : ∀ entry ∈ keyedPostings bundle.postings, store.postings.get? entry.1 = none := by
    intro entry member
    obtain ⟨posting, inside, rfl⟩ := mem_map.mp member
    exact posts.postings.unstored posting inside
  have postings : (store.post bundle).postings.entries =
      keyedPostings ((log ++ [posts.posted]).flatMap Posted.postings) := by
    have stored : (store.post bundle).postings.entries =
        store.postings.entries ++ keyedPostings bundle.postings :=
      entries_setAll_of_fresh (by rw [keyedPostings_keys]; exact posts.postings.distinct) allNew
    rw [stored, represents.postings]
    simp [keyedPostings]
    rfl
  have values : (store.post bundle).postings.values = store.postings.values ++ bundle.postings := by
    rw [Dict.values, postings, keyedPostings_values, represents.values]
    simp
    rfl
  have money := represents.money.seal posts.chain rfl
  obtain ⟨auditRows, audit⟩ := represents.audit
  exact {
    journal := by
      have stored : (store.post bundle).journal.entries =
          store.journal.entries ++ [(bundle.entry.entryId, bundle.entry)] :=
        entries_set_of_fresh posts.freshEntry
      rw [stored, represents.journal, map_append]
      rfl
    postings := postings
    listed := by
      have fresh := represents.get?_listed.mpr (represents.get?_journal.mp posts.freshEntry)
      have nonempty : bundle.postings ≠ [] := by
        have := posts.posted.enough
        intro none
        simp [LedgerService.Posts.posted, none] at this
      have stored : (store.post bundle).postingsByEntry.entries = store.postingsByEntry.entries ++
          [(bundle.entry.entryId, bundle.postings.map postingId)] :=
        entries_foldl_listPosting nonempty posts.posted.owned fresh
      rw [stored, represents.listed, map_append]
      rfl
    accounts := by
      intro posting member
      rw [values] at member
      rcases mem_append.mp member with earlier | new
      · exact represents.accounts posting earlier
      · exact (posts.postings.allowed posting new).account
    balances := by
      intro accountId
      have added : (store.post bundle).getBalance accountId = store.getBalance accountId + (bundle.postings.map
          fun posting => if posting.accountId = accountId then postingDelta store.accounts posting else 0).sum :=
        getD_foldl_addToBalance store.accounts store.balances bundle.postings accountId
      rw [added, represents.balances, signedSum, signedSum, values]
      simp
      rfl
    money := by
      rw [← represents.moneyRows_append posts]
      exact money.congr rfl rfl
    started := fun absent => absurd absent (represents.genesis_ne_none posts)
    genesisRow := by
      intro row member
      rcases Option.or_eq_some_iff.mp member with earlier | ⟨-, written⟩
      · exact represents.genesisRow row earlier
      · exact posts.chain.genesisRow written
    audit := ⟨auditRows, (audit.seal_other posts.chain (show auditDomain ≠ moneyDomain by decide)).congr rfl rfl⟩ }

end

theorem audited (represents : Represents service store genesis log)
    {write : ChainWrite} (domain : request.chainDomain = auditDomain)
    (appends : service.Appends (store.chainTip auditDomain) request write) :
    Represents service (store.seal write) genesis log := by
  obtain ⟨auditRows, audit⟩ := represents.audit
  exact { represents with
    money := represents.money.seal_other appends (by rw [domain]; decide)
    audit := ⟨_, audit.seal appends domain⟩ }

/-- Initializing a domain gives it its genesis row. -/
theorem initialized (represents : Represents service store genesis log) {producedAt : DateTime}
    (domain : chainDomain ∈ chainDomains) (empty : store.chainTip chainDomain = none)
    (shape : row = service.genesisRow chainDomain producedAt row.chainHash) (sealed : service.IsSealed row) :
    ∃ started, Represents service (store.addChainRow row) started log := by
  obtain ⟨auditRows, audit⟩ := represents.audit
  have wellSealed := wellSealed_genesisRow shape sealed
  have index : row.chainIndex = 0 := by rw [shape]; rfl
  have prev : row.prevChainHash = genesisPrevHash := by rw [shape]; rfl
  have rowDomain := wellSealed.domain
  simp only [chainDomains, mem_cons, not_mem_nil, or_false] at domain
  rcases domain with rfl | rfl
  · have none := represents.money.tip_none empty
    simp only [moneyRows, append_eq_nil_iff, Option.toList_eq_nil_iff, map_eq_nil_iff] at none
    obtain ⟨rfl, rfl⟩ := none
    exact ⟨some row, { represents with
      money := represents.money.addChainRow wellSealed index prev
      started := by
        intro same
        cases same
      genesisRow := by
        intro other member
        obtain rfl := Option.some.inj member
        exact genesisRow_producedAt shape
      audit := ⟨auditRows, audit.addChainRow_other (by rw [rowDomain]; decide)⟩ }⟩
  · obtain rfl := audit.tip_none empty
    exact ⟨genesis, { represents with
      money := represents.money.addChainRow_other (by rw [rowDomain]; decide)
      audit := ⟨_, audit.addChainRow wellSealed index prev⟩ }⟩

end Represents

/-- Every write keeps the log or appends one entry to it. -/
theorem Writes.represents {genesis : Option ChainEntryRow}
    (writes : Writes service store after) (represents : Represents service store genesis log) :
    ∃ genesis' log', Represents service after genesis' log' ∧ (log' = log ∨ ∃ posted, log' = log ++ [posted]) := by
  cases writes with
  | nothing => exact ⟨genesis, log, represents, .inl rfl⟩
  | account fresh => exact ⟨genesis, log, represents.account fresh, .inl rfl⟩
  | posted posts => exact ⟨_, _, represents.posted posts, .inr ⟨_, rfl⟩⟩
  | opened opens =>
    exact ⟨_, _, (represents.posted opens.posts).frame rfl rfl rfl rfl rfl rfl rfl, .inr ⟨_, rfl⟩⟩
  | closed closes =>
    exact ⟨_, _, (represents.posted closes.posts).frame rfl rfl rfl rfl rfl rfl rfl, .inr ⟨_, rfl⟩⟩
  | audited domain appends =>
    exact ⟨genesis, log, (represents.audited domain appends).frame rfl rfl rfl rfl rfl rfl rfl, .inl rfl⟩
  | emitted => exact ⟨genesis, log, represents.frame rfl rfl rfl rfl rfl rfl rfl, .inl rfl⟩
  | genesis domain empty shape sealed =>
    obtain ⟨started, kept⟩ := represents.initialized domain empty shape sealed
    exact ⟨started, log, kept, .inl rfl⟩

namespace Call

theorem run_induction {motive : MemoryStore → Prop} (steps : List (DateTime × Call)) (start : motive store)
    (step : ∀ before step, motive before → motive (Call.after service before step)) :
    motive (run service steps store) := by
  induction steps generalizing store with
  | nil => exact start
  | cons first _ ih => exact ih (step store first start)

theorem after_represents (represents : Represents service store genesis log) (step : DateTime × Call) :
    ∃ genesis' log', Represents service (Call.after service store step) genesis' log' ∧ log <+: log' := by
  rcases after_writes step with writes | ⟨-, reason, gated⟩
  · obtain ⟨genesis', log', kept, rfl | ⟨posted, rfl⟩⟩ := writes.represents represents
    · exact ⟨genesis', log', kept, List.prefix_rfl⟩
    · exact ⟨genesis', _, kept, List.prefix_append ..⟩
  · rw [gated]
    exact ⟨genesis, log, represents.frame rfl rfl rfl rfl rfl rfl rfl, List.prefix_rfl⟩

theorem run_extends (represents : Represents service store genesis log) (steps : List (DateTime × Call)) :
    ∃ genesis' log', Represents service (run service steps store) genesis' log' ∧ log <+: log' := by
  induction steps generalizing store genesis log with
  | nil => exact ⟨genesis, log, represents, List.prefix_rfl⟩
  | cons step _ ih =>
    obtain ⟨_, _, kept, begins⟩ := after_represents represents step
    obtain ⟨genesis', log', grown, continues⟩ := ih kept
    exact ⟨genesis', log', grown, begins.trans continues⟩

theorem run_represents (service : LedgerService) (steps : List (DateTime × Call)) :
    ∃ genesis log, Represents service (run service steps {}) genesis log := by
  obtain ⟨genesis, log, represents, -⟩ := run_extends represents_empty steps
  exact ⟨genesis, log, represents⟩

/-- The ledger is append-only: no later calls change or remove an entry or a posting. -/
theorem run_appends (service : LedgerService) (steps later : List (DateTime × Call)) :
    (run service steps {}).journal.entries <+: (run service later (run service steps {})).journal.entries ∧
      (run service steps {}).postings.entries <+: (run service later (run service steps {})).postings.entries := by
  obtain ⟨genesis, log, represents⟩ := run_represents service steps
  obtain ⟨genesis', -, grown, rest, rfl⟩ := run_extends represents later
  rw [represents.journal, represents.postings, grown.journal, grown.postings, keyedPostings, keyedPostings,
    List.flatMap_append, List.map_append, List.map_append]
  exact ⟨List.prefix_append .., List.prefix_append ..⟩

end Call

end BdPay.Ledger
