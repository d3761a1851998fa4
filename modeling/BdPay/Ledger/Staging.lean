import BdPay.Ledger.Verify

namespace BdPay.Ledger

open Data Effect Platform MemoryStore MemTx

/-! What the operations of a transaction stage when they do not raise. -/

namespace MemTx

variable {repr : String → String} {tx : MemTx} {row : AccountHoldRow}

/-! One lemma per mutation: its constraints held, and one table gained one row. -/

theorem insertAccount_eq_ok {row : AccountRow} :
    insertAccount row tx = .ok done after ↔ tx.getAccount row.accountId = none ∧
      after = { tx with accounts := tx.accounts.set row.accountId row } := by
  simp only [insertAccount, get_bind, raiseIf_bind_eq_ok, set_eq_ok, Option.not_isSome_iff_eq_none]

theorem insertJournalEntry_eq_ok {row : JournalEntryRow} :
    insertJournalEntry row tx = .ok index after ↔ tx.journalEntryExists row.entryId = false ∧
      tx.findEntryIdByIdempotencyKey row.idempotencyKey = none ∧ tx.nextEntryIndex = index ∧
      { tx with
        nextEntryIndex := tx.nextEntryIndex + 1
        journal := tx.journal.set row.entryId { row with entryIndex := tx.nextEntryIndex }
        journalByIdem := tx.journalByIdem.set row.idempotencyKey row.entryId } = after := by
  simp only [insertJournalEntry, get_bind, raiseIf_bind_eq_ok, set_bind, pure_eq_ok, Bool.not_eq_true,
    Option.isSome_eq_false_iff, Option.isNone_iff_eq_none]

/-- The row constraints of a posting that do not depend on what is staged. -/
structure PostingAllowed (tx : MemTx) (row : PostingRow) : Prop where
  side : row.side ∈ sides
  positive : 0 < row.amountMinor
  account : tx.getAccount row.accountId ≠ none

theorem insertPosting_ok {row : PostingRow} (inserted : insertPosting repr row tx = .ok done after) :
    tx.postings.get? row.postingId = none ∧ tx.store.postings.get? row.postingId = none ∧
      tx.PostingAllowed row ∧ after = { tx with postings := tx.postings.set row.postingId row } := by
  simp only [insertPosting, get_bind, raiseIf_bind_eq_ok, set_eq_ok, not_or, Bool.not_eq_true, not_not,
    Dict.contains_eq_false_iff, not_le] at inserted
  obtain ⟨⟨staged, stored⟩, side, positive, -, account, -, rfl⟩ := inserted
  exact ⟨staged, stored, ⟨side, positive, account⟩, rfl⟩

theorem insertChainEntry_ok {row : ChainEntryRow} (inserted : insertChainEntry repr row tx = .ok done after) :
    tx.chain.get? (row.chainDomain, row.chainIndex) = none ∧
      (tx.store.chain row.chainDomain).get? row.chainIndex = none ∧ row.chainDomain ∈ chainDomains ∧
      after = { tx with chain := tx.chain.set (row.chainDomain, row.chainIndex) row } := by
  simp only [insertChainEntry, get_bind, raiseIf_bind_eq_ok, set_eq_ok, not_or, Bool.not_eq_true, not_not,
    Dict.contains_eq_false_iff] at inserted
  obtain ⟨⟨staged, stored⟩, domain, -, -, rfl⟩ := inserted
  exact ⟨staged, stored, domain, rfl⟩

theorem insertCheckpoint_ok {row : CheckpointRow} (inserted : insertCheckpoint row tx = .ok done after) :
    after = { tx with checkpoints := tx.checkpoints ++ [row] } := by
  simp only [insertCheckpoint, get_bind, raiseIf_bind_eq_ok, set_eq_ok] at inserted
  exact inserted.2.2

theorem insertOutbox_eq_ok {row : OutboxRow} : insertOutbox row tx = .ok done after ↔
      (tx.outbox.get? row.eventId = none ∧ tx.store.outbox.get? row.eventId = none) ∧
      after = { tx with outbox := tx.outbox.set row.eventId row } := by
  simp only [insertOutbox, get_bind, raiseIf_bind_eq_ok, set_eq_ok, not_or, Bool.not_eq_true,
    Dict.contains_eq_false_iff]

theorem insertAuditEvent_eq_ok {row : AuditEventRow} :
    insertAuditEvent row tx = .ok index after ↔
      (tx.audit.get? row.eventId = none ∧ tx.store.audit.get? row.eventId = none) ∧ tx.nextAuditIndex = index ∧
      { tx with
        nextAuditIndex := tx.nextAuditIndex + 1
        audit := tx.audit.set row.eventId { row with entryIndex := tx.nextAuditIndex } } = after := by
  simp only [insertAuditEvent, get_bind, raiseIf_bind_eq_ok, set_bind, pure_eq_ok, not_or, Bool.not_eq_true,
    Dict.contains_eq_false_iff]

theorem insertAccountHold_ok (inserted : insertAccountHold repr row tx = .ok done after) :
    tx.getAccountHold row.holdId = none ∧ 0 < row.amountMinor ∧
      after = { tx with holds := tx.holds.set row.holdId row } := by
  simp only [insertAccountHold, get_bind, raiseIf_bind_eq_ok, set_eq_ok, Option.not_isSome_iff_eq_none,
    not_le] at inserted
  obtain ⟨fresh, -, -, -, -, -, positive, rfl⟩ := inserted
  exact ⟨fresh, positive, rfl⟩

theorem updateAccountHold_ok (updated : updateAccountHold repr row tx = .ok done after) :
    after = { tx with holds := tx.holds.set row.holdId row } := by
  simp only [updateAccountHold, get_bind, raiseIf_bind_eq_ok, set_eq_ok] at updated
  exact updated.2.2.2

/-- The keys and rows of a list of chain rows. -/
def keyed (rows : List ChainEntryRow) : List ((String × Int) × ChainEntryRow) :=
  rows.map fun row => ((row.chainDomain, row.chainIndex), row)

end MemTx

/-- The tip of a committed chain domain. -/
def MemoryStore.chainTip (store : MemoryStore) (chainDomain : String) : Option ChainTip :=
  match (store.chain chainDomain).keys.max? with
  | none => none
  | some best => ((store.chain chainDomain).get? best).map fun row => ⟨row.chainIndex, row.chainHash⟩

theorem MemTx.lockChainTip_of_empty {tx : MemTx} (nothing : tx.chain = .empty) (chainDomain : String) :
    tx.lockChainTip chainDomain = tx.store.chainTip chainDomain := by
  simp only [lockChainTip, chainTip, nothing, Dict.get?_empty, Option.none_or]
  rfl

/-- What an append stages: the genesis row of a domain that had none, the row
sealed behind the tip, and its checkpoint summary. -/
structure ChainWrite where
  genesis : Option ChainEntryRow
  tip : ChainTip
  row : ChainEntryRow
  checkpoint : Option CheckpointRow

def ChainWrite.rows (write : ChainWrite) : List ChainEntryRow := write.genesis.toList ++ [write.row]

/-- The stored hash is the one recomputed from the row's own fields. -/
def LedgerService.IsSealed (service : LedgerService) (row : ChainEntryRow) : Prop :=
  computeEntryHash service.sha256 service.repr (row.preimage row.prevChainHash) = .ok row.chainHash

namespace LedgerService

variable {service : LedgerService} {tx : MemTx} {specs : List PostingSpec} {rows : List PostingRow}

/-- The tip a write builds on is the committed one, or that of the genesis row it creates. -/
def TipOf (service : LedgerService) (committed : Option ChainTip) (request : ChainAppend) (write : ChainWrite) :
    Prop :=
  match write.genesis with
  | none => committed = some write.tip
  | some genesis => committed = none ∧ write.tip = ⟨0, genesis.chainHash⟩ ∧ service.IsSealed genesis ∧
      genesis = service.genesisRow request.chainDomain request.producedAt genesis.chainHash

/-- A write that `_append_chain_entry` makes for a request. -/
structure Appends (service : LedgerService) (committed : Option ChainTip) (request : ChainAppend)
    (write : ChainWrite) : Prop where
  domain : request.chainDomain ∈ chainDomains
  tipOf : service.TipOf committed request write
  row : write.row = service.chainRow request write.tip write.row.chainHash
  sealed : service.IsSealed write.row
  checkpoint : ∃ checkpointId, write.checkpoint =
    if service.isCheckpointIndex write.row.chainIndex then
      some (service.checkpointRow request checkpointId write.row.chainIndex write.row.chainHash)
    else none

variable {producedAt : DateTime} {entryId : String} {spec : JournalEntrySpec}

theorem insertGenesis_ok (inserted : service.insertGenesis chainDomain producedAt tx = .ok row after) :
    row = service.genesisRow chainDomain producedAt row.chainHash ∧ service.IsSealed row ∧ chainDomain ∈ chainDomains ∧
      after = { tx with chain := tx.chain.set (row.chainDomain, row.chainIndex) row } := by
  simp only [insertGenesis, bind_eq_ok, attempt_eq_ok, pure_eq_ok] at inserted
  obtain ⟨chainHash, _, ⟨computed, rfl⟩, _, middle, staged, rfl, rfl⟩ := inserted
  obtain ⟨-, -, domain, rfl⟩ := insertChainEntry_ok staged
  exact ⟨rfl, computed, domain, rfl⟩

theorem lockOrCreateTip_ok (nothing : tx.chain = .empty)
    (locked : service.lockOrCreateTip request.chainDomain request.producedAt tx = .ok tip after) :
    ∃ genesis : Option ChainEntryRow,
      (∀ row checkpoint, service.TipOf (tx.store.chainTip request.chainDomain) request ⟨genesis, tip, row, checkpoint⟩) ∧
      after = { tx with chain := tx.chain.setAll (keyed genesis.toList) } := by
  simp only [lockOrCreateTip, get_bind, lockChainTip_of_empty nothing] at locked
  cases committed : tx.store.chainTip request.chainDomain with
  | some =>
    simp only [committed, pure_eq_ok] at locked
    obtain ⟨rfl, rfl⟩ := locked
    exact ⟨none, fun _ _ => rfl, rfl⟩
  | none =>
    simp only [committed, bind_eq_ok, pure_eq_ok] at locked
    obtain ⟨genesis, middle, inserted, rfl, rfl⟩ := locked
    obtain ⟨shape, sealed, -, rfl⟩ := insertGenesis_ok inserted
    refine ⟨some genesis, fun _ _ => ⟨rfl, ?_, sealed, shape⟩, rfl⟩
    rw [shape]
    rfl

/-- An append to a transaction that staged no chain row yet. -/
theorem appendChainEntry_ok
    (nothing : tx.chain = .empty) (appended : service.appendChainEntry request tx = .ok answer after) :
    ∃ write : ChainWrite, service.Appends (tx.store.chainTip request.chainDomain) request write ∧
      answer = (write.row.chainIndex, write.row.chainHash, write.row.prevChainHash) ∧
      after = { tx with
        chain := tx.chain.setAll (keyed write.rows)
        checkpoints := tx.checkpoints ++ write.checkpoint.toList } := by
  simp only [appendChainEntry, bind_eq_ok, attempt_eq_ok] at appended
  obtain ⟨tip, locked, tipFound, chainHash, _, ⟨computed, rfl⟩, _, inserted, rowInserted, rest⟩ := appended
  obtain ⟨genesis, tipOf, rfl⟩ := lockOrCreateTip_ok nothing tipFound
  obtain ⟨-, -, domain, rfl⟩ := insertChainEntry_ok rowInserted
  have rows : ∀ (row : ChainEntryRow) (checkpoint : Option CheckpointRow),
      tx.chain.setAll (keyed (ChainWrite.mk genesis tip row checkpoint).rows) =
        (tx.chain.setAll (keyed genesis.toList)).set (row.chainDomain, row.chainIndex) row := by
    intro row checkpoint
    simp [keyed, ChainWrite.rows, Dict.setAll]
  by_cases placed : service.isCheckpointIndex (tip.chainIndex + 1) = true
  · simp only [placed, if_true, bind_eq_ok, attempt_eq_ok, pure_eq_ok] at rest
    obtain ⟨checkpointId, _, ⟨-, rfl⟩, _, summarised, checkpointInserted, rfl, rfl⟩ := rest
    obtain rfl := insertCheckpoint_ok checkpointInserted
    refine ⟨⟨genesis, tip, service.chainRow request tip chainHash,
      some (service.checkpointRow request checkpointId (tip.chainIndex + 1) chainHash)⟩,
      ⟨domain, tipOf _ _, rfl, computed, checkpointId, ?_⟩, rfl, ?_⟩
    · exact (if_pos placed).symm
    · simp [rows]
  · rw [if_neg placed, pure_eq_ok] at rest
    obtain ⟨rfl, rfl⟩ := rest
    refine ⟨⟨genesis, tip, service.chainRow request tip chainHash, none⟩,
      ⟨domain, tipOf _ _, rfl, computed, "", ?_⟩, rfl, ?_⟩
    · exact (if_neg placed).symm
    · simp [rows]

/-! Posting an entry -/

/-- The row that a posting spec becomes, up to the id it is given. -/
def RowOf (entryId : String) (producedAt : DateTime) (spec : PostingSpec) (row : PostingRow) : Prop :=
  row = postingRow entryId row.postingId producedAt spec

/-- The rows an entry's posting specs become in a transaction. -/
structure PostingsOf (tx : MemTx) (entryId : String) (producedAt : DateTime) (specs : List PostingSpec)
    (rows : List PostingRow) : Prop where
  rowOf : List.Forall₂ (RowOf entryId producedAt) specs rows
  allowed : ∀ row ∈ rows, tx.PostingAllowed row
  unstaged : ∀ row ∈ rows, tx.postings.get? row.postingId = none
  unstored : ∀ row ∈ rows, tx.store.postings.get? row.postingId = none
  distinct : (rows.map PostingRow.postingId).Nodup

def keyedPostings (rows : List PostingRow) : List (String × PostingRow) :=
  rows.map fun row => (row.postingId, row)

theorem insertPostings_ok (inserted : service.insertPostings entryId producedAt ordinal specs tx = .ok rows after) :
    PostingsOf tx entryId producedAt specs rows ∧
      after = { tx with postings := tx.postings.setAll (keyedPostings rows) } := by
  induction specs generalizing ordinal rows tx with
  | nil =>
    simp only [insertPostings, pure_eq_ok] at inserted
    obtain ⟨rfl, rfl⟩ := inserted
    exact ⟨⟨.nil, by simp, by simp, by simp, by simp⟩, rfl⟩
  | cons _ _ ih =>
    simp only [insertPostings, bind_eq_ok, attempt_eq_ok, pure_eq_ok] at inserted
    obtain ⟨postingId, _, ⟨-, rfl⟩, _, middle, first, others, _, tail, rfl, rfl⟩ := inserted
    obtain ⟨unstaged, unstored, allowed, rfl⟩ := insertPosting_ok first
    obtain ⟨restOf, rfl⟩ := ih tail
    -- The first row is staged when the others are checked, so their ids differ from its id.
    have apart : ∀ row ∈ others, row.postingId ≠ postingId := by
      intro row member same
      have absent := restOf.unstaged row member
      rw [same] at absent
      exact absurd absent (by simp [postingRow])
    refine ⟨⟨.cons rfl restOf.rowOf, ?_, ?_, ?_, ?_⟩, rfl⟩
    · intro row member
      rcases List.mem_cons.mp member with rfl | inside
      · exact allowed
      · exact ⟨(restOf.allowed row inside).side, (restOf.allowed row inside).positive,
          (restOf.allowed row inside).account⟩
    · intro row member
      rcases List.mem_cons.mp member with rfl | inside
      · exact unstaged
      · have absent : (tx.postings.set postingId _).get? row.postingId = none := restOf.unstaged row inside
        rwa [Dict.get?_set_of_ne (apart row inside)] at absent
    · intro row member
      rcases List.mem_cons.mp member with rfl | inside
      · exact unstored
      · exact restOf.unstored row inside
    · rw [List.map_cons, List.nodup_cons]
      refine ⟨?_, restOf.distinct⟩
      intro repeated
      obtain ⟨row, member, same⟩ := List.mem_map.mp repeated
      exact apart row member same

/-- The sums that validation runs are those of the rows the specs become. -/
theorem validatePostings_ok (validated : service.validatePostings debit credit specs = .ok totals)
    (rowOf : List.Forall₂ (RowOf entryId producedAt) specs rows) :
    totals = (debit + debitTotal rows, credit + creditTotal rows) := by
  induction rowOf generalizing debit credit with
  | nil =>
    cases validated
    simp [debitTotal, creditTotal]
  | @cons spec row rest rows first others ih =>
    have amount : row.amountMinor = spec.amountMinor := by rw [first]; rfl
    have side : row.side = spec.side := by rw [first]; rfl
    simp only [validatePostings, requireAmountMinor] at validated
    split_ifs at validated with badSide noAccount foreign negative debitSide
    · rw [ih validated]
      simp [debitTotal, creditTotal, amount, side, debitSide, Int.add_assoc]
    · rw [ih validated]
      simp [debitTotal, creditTotal, amount, side, debitSide, Int.add_assoc]

theorem validateEntrySpec_ok (validated : service.validateEntrySpec spec = .ok ()) :
    2 ≤ spec.postings.length ∧ spec.entryType ∈ entryTypes ∧
      ∃ debit, service.validatePostings 0 0 spec.postings = .ok (debit, debit) := by
  simp only [validateEntrySpec] at validated
  split_ifs at validated with reference referenceType entryType description producedBy key short
  cases summed : service.validatePostings 0 0 spec.postings with
  | error => simp [summed] at validated
  | ok totals =>
    obtain ⟨debit, credit⟩ := totals
    simp only [summed] at validated
    split_ifs at validated with imbalance
    obtain rfl := not_not.mp imbalance
    exact ⟨by omega, entryType, debit, rfl⟩

/-- Everything one entry adds to the ledger. -/
structure Bundle where
  entry : JournalEntryRow
  postings : List PostingRow
  chain : ChainWrite
  event : OutboxRow

/-- What a posted bundle asks to have sealed. -/
def Bundle.request (bundle : Bundle) (payloadHash : String) : ChainAppend where
  chainDomain := moneyDomain
  entryType := bundle.entry.entryType
  payloadHash := payloadHash
  payloadPointer := payloadPointerFor bundle.entry.entryId bundle.entry.producedAt
  amountMinorSum := amountSum bundle.postings
  producedAt := bundle.entry.producedAt

/-- A bundle that an entry spec becomes on a store. -/
structure Posts (service : LedgerService) (store : MemoryStore) (spec : JournalEntrySpec) (producedAt : DateTime)
    (bundle : Bundle) : Prop where
  gateOpen : store.writeGateState.engaged = false
  enough : 2 ≤ spec.postings.length
  typed : spec.entryType ∈ entryTypes
  entryId : service.entryIdFor spec = .ok bundle.entry.entryId
  entry : bundle.entry = entryRow spec bundle.entry.entryId (store.entryIndexSeq + 1) producedAt
  freshEntry : store.journal.get? bundle.entry.entryId = none
  freshKey : store.journalByIdem.get? spec.idempotencyKey = none
  postings : PostingsOf (start store) bundle.entry.entryId producedAt spec.postings bundle.postings
  balanced : debitTotal bundle.postings = creditTotal bundle.postings
  payload : journalEntryPayloadHash service.sha256 bundle.entry bundle.postings = .ok bundle.chain.row.payloadHash
  chain : service.Appends (store.chainTip moneyDomain) (bundle.request bundle.chain.row.payloadHash) bundle.chain
  freshEvent : store.outbox.get? bundle.event.eventId = none

end LedgerService

/-- The transaction after a bundle was staged in it. -/
def MemTx.stage (tx : MemTx) (bundle : LedgerService.Bundle) : MemTx := { tx with
  nextEntryIndex := tx.nextEntryIndex + 1
  journal := tx.journal.set bundle.entry.entryId bundle.entry
  journalByIdem := tx.journalByIdem.set bundle.entry.idempotencyKey bundle.entry.entryId
  postings := tx.postings.setAll (LedgerService.keyedPostings bundle.postings)
  chain := tx.chain.setAll (keyed bundle.chain.rows)
  checkpoints := tx.checkpoints ++ bundle.chain.checkpoint.toList
  outbox := tx.outbox.set bundle.event.eventId bundle.event }

namespace LedgerService

variable {store : MemoryStore}

theorem requirePostingAccount_eq_ok (accountId : String) (after : MemTx) :
    requirePostingAccount accountId tx = .ok () after ↔ isOpen (tx.getAccount accountId) = true ∧ tx = after := by
  simp [requirePostingAccount, get_bind, raiseIf_eq_ok]

theorem appendJournalEntry_ok {service : LedgerService} {after : MemTx}
    (appended : service.appendJournalEntry spec producedAt (start store) = .ok entryId after) :
    ∃ bundle, service.Posts store spec producedAt bundle ∧ entryId = bundle.entry.entryId ∧
      after = (start store).stage bundle := by
  simp only [appendJournalEntry, bind_eq_ok, attempt_eq_ok, get_eq_ok, raiseIf_eq_ok, pure_eq_ok,
    forEach_reads requirePostingAccount_eq_ok] at appended
  obtain ⟨_, _, ⟨validated, rfl⟩, entryId, _, ⟨entryMade, rfl⟩, _, _, ⟨rfl, rfl⟩, _, _, ⟨gateOpen, rfl⟩, _, _,
    ⟨-, rfl⟩, _, _, ⟨-, rfl⟩, entryIndex, _, entryInserted, postings, _, postingsInserted, payloadHash, _,
    ⟨payload, rfl⟩, sealed, _, chainAppended, eventId, _, ⟨-, rfl⟩, payloadJson, _, ⟨-, rfl⟩, _, _,
    eventInserted, rfl, rfl⟩ := appended
  obtain ⟨enough, typed, debit, summed⟩ := validateEntrySpec_ok validated
  obtain ⟨freshEntry, freshKey, rfl, rfl⟩ := insertJournalEntry_eq_ok.mp entryInserted
  obtain ⟨postingsOf, rfl⟩ := insertPostings_ok postingsInserted
  obtain ⟨write, appends, -, rfl⟩ := appendChainEntry_ok rfl chainAppended
  obtain ⟨⟨-, freshEvent⟩, rfl⟩ := insertOutbox_eq_ok.mp eventInserted
  have sealedHash : write.row.payloadHash = payloadHash := by rw [appends.row]; rfl
  have totals := validatePostings_ok summed postingsOf.rowOf
  simp only [Int.zero_add, Prod.mk.injEq] at totals
  refine ⟨⟨entryRow spec entryId (store.entryIndexSeq + 1) producedAt, postings, write, _⟩, ?_, rfl, rfl⟩
  exact {
    gateOpen := by simpa [MemTx.writeGateState, MemTx.start, MemoryStore.gateState] using gateOpen
    enough := enough
    typed := typed
    entryId := entryMade
    entry := rfl
    freshEntry := by
      simpa [journalEntryExists, start, Dict.contains, entryRow] using freshEntry
    freshKey := by
      simpa [findEntryIdByIdempotencyKey, start, orText, entryRow] using freshKey
    postings := ⟨postingsOf.rowOf, fun row member => ⟨(postingsOf.allowed row member).side,
      (postingsOf.allowed row member).positive, (postingsOf.allowed row member).account⟩,
      fun _ _ => rfl, postingsOf.unstored, postingsOf.distinct⟩
    balanced := totals.1.symm.trans totals.2
    payload := sealedHash ▸ payload
    chain := sealedHash ▸ appends
    freshEvent := freshEvent }

end LedgerService

end BdPay.Ledger
