import BdPay.Data.Stops
import BdPay.Ledger.Staging

namespace BdPay.Ledger

open Data Effect Platform MemTx LedgerService MemoryStore

/-! What a commit does to the store, and what each call of the service leaves behind.

`Writes` lists every store a call can end in.  All invariants of the ledger are
read off it; none of them looks into a call again.
-/

variable {service : LedgerService} {store : MemoryStore}
  {tx : MemTx} {producedAt : DateTime} {write : ChainWrite} {α : Type}

/-- The posting ids listed under each entry, after one more posting. -/
def listPosting (listed : Dict String (List String)) (posting : PostingRow) : Dict String (List String) :=
  listed.set posting.entryId ((listed.get? posting.entryId).getD [] ++ [posting.postingId])

/-- What a posting adds to the balance of its account. -/
def postingDelta (accounts : Dict String AccountRow) (posting : PostingRow) : Int :=
  match accounts.get? posting.accountId with
  | none => 0
  | some account => normalBalanceDelta account.accountType posting.side posting.amountMinor

def addToBalance (accounts : Dict String AccountRow) (balances : Dict String Int) (posting : PostingRow) :
    Dict String Int :=
  balances.set posting.accountId ((balances.get? posting.accountId).getD 0 + postingDelta accounts posting)

/-- The store after a list of postings was applied to it. -/
def MemoryStore.addPostings (store : MemoryStore) (postings : List PostingRow) : MemoryStore := { store with
  postings := store.postings.setAll (keyedPostings postings)
  postingsByEntry := postings.foldl listPosting store.postingsByEntry
  balances := postings.foldl (addToBalance store.accounts) store.balances }

theorem MemTx.applyPosting_eq (found : store.accounts.get? posting.accountId = some account) :
    applyPosting posting store = .ok () (store.addPostings [posting]) := by
  simp only [applyPosting, get_bind, set_bind, found]
  simp [addPostings, keyedPostings, listPosting, addToBalance, postingDelta, found,
    getBalance]
  rfl

/-- No posting can fail to find its account once the accounts of all are there. -/
theorem MemTx.applyPostings_eq {postings : List PostingRow}
    (accounts : ∀ posting ∈ postings, store.accounts.get? posting.accountId ≠ none) :
    forEach postings applyPosting store = .ok () (store.addPostings postings) := by
  induction postings generalizing store with
  | nil => rfl
  | cons posting _ ih =>
    obtain ⟨account, found⟩ := Option.ne_none_iff_exists'.mp (accounts posting (by simp))
    rw [forEach_eq_ok_cons]
    refine ⟨store.addPostings [posting], applyPosting_eq found, ?_⟩
    exact ih fun other member => accounts other (by simp [member])

/-- The store after the staged rows of a transaction were applied to it. -/
def MemTx.committed (tx : MemTx) (store : MemoryStore) : MemoryStore :=
  tx.applyRest (MemoryStore.addPostings { store with
    accounts := store.accounts.update tx.accounts
    journal := store.journal.update tx.journal
    journalByIdem := store.journalByIdem.update tx.journalByIdem } tx.postings.values)

theorem MemTx.apply_eq (accounts : ∀ posting ∈ tx.postings.values,
    (store.accounts.update tx.accounts).get? posting.accountId ≠ none) :
    tx.apply store = .ok () (tx.committed store) := by
  simp only [apply, get_bind, set_bind]
  rw [bind_eq_ok]
  exact ⟨(), _, applyPostings_eq accounts, rfl⟩

/-- A transaction whose rows can be applied writes them all, or it raises and writes nothing. -/
theorem commits_transaction {post : α → MemoryStore → Prop} (applies : ∀ value tx, body (start store) = .ok value tx →
      ∃ applied, tx.apply store = .ok () applied ∧ post value applied) : Commits (transaction body) store post := by
  simp only [Commits, Stops, transaction]
  cases ran : body (start store) with
  | error => rfl
  | ok value tx =>
    obtain ⟨applied, appliedOk, reached⟩ := applies value tx ran
    cases checked : tx.deferredBalanceCheck with
    | error => simp only [checked]
    | ok => simpa only [checked, appliedOk] using reached

/-! The stores that bundles, seals and genesis rows lead to -/

/-- The store with the rows of a chain write added. -/
def MemoryStore.seal (store : MemoryStore) (write : ChainWrite) : MemoryStore := { store with
  chains := (keyed write.rows).foldl applyChainRow store.chains
  checkpoints := write.checkpoint.toList.foldl applyCheckpoint store.checkpoints }

/-- The store with a posted bundle added. -/
def MemoryStore.post (store : MemoryStore) (bundle : LedgerService.Bundle) : MemoryStore :=
  let booked := { store with
    journal := store.journal.set bundle.entry.entryId bundle.entry
    journalByIdem := store.journalByIdem.set bundle.entry.idempotencyKey bundle.entry.entryId
    outbox := store.outbox.set bundle.event.eventId bundle.event
    entryIndexSeq := store.entryIndexSeq + 1 }
  (booked.addPostings bundle.postings).seal bundle.chain

theorem keyedPostings_keys (rows : List PostingRow) :
    (keyedPostings rows).map Prod.fst = rows.map PostingRow.postingId := by
  simp [keyedPostings, Function.comp_def]

theorem keyedPostings_values (rows : List PostingRow) : (keyedPostings rows).map Prod.snd = rows := by
  simp [keyedPostings, Function.comp_def]

/-- The rows of a write have distinct keys: a genesis row has index 0, the row behind it index 1. -/
theorem LedgerService.Appends.keys_nodup {committed : Option ChainTip}
    (appends : service.Appends committed request write) : ((keyed write.rows).map Prod.fst).Nodup := by
  have tipOf := appends.tipOf
  cases genesis : write.genesis with
  | none => simp [keyed, ChainWrite.rows, genesis]
  | some row =>
    simp only [LedgerService.TipOf, genesis] at tipOf
    obtain ⟨-, tip, -, shape⟩ := tipOf
    have first : row.chainIndex = 0 := by rw [shape]; rfl
    have second : write.row.chainIndex = 1 := by
      rw [appends.row, chainRow, tip]
      rfl
    simp [keyed, ChainWrite.rows, genesis, first, second]

/-- Committing a staged bundle posts it. -/
theorem MemTx.apply_stage (posts : service.Posts store spec producedAt bundle) (holds : Dict String AccountHoldRow) :
    MemTx.apply { (MemTx.start store).stage bundle with holds := holds } store =
      .ok () { store.post bundle with holds := store.holds.update holds } := by
  have stagedPostings : ((MemTx.start store).stage bundle).postings.values = bundle.postings := by
    have entries : ((start store).stage bundle).postings.entries =
        keyedPostings bundle.postings :=
      Dict.entries_setAll_of_fresh (by rw [keyedPostings_keys]; exact posts.postings.distinct) fun _ _ => rfl
    rw [Dict.values, entries, keyedPostings_values]
  have stagedChain : ((start store).stage bundle).chain.entries = keyed bundle.chain.rows :=
    Dict.entries_setAll_of_fresh posts.chain.keys_nodup fun _ _ => rfl
  have accounts : ∀ posting ∈ bundle.postings, store.accounts.get? posting.accountId ≠ none :=
    fun posting member => (posts.postings.allowed posting member).account
  rw [MemTx.apply_eq]
  · simp only [MemTx.committed, applyRest, stagedPostings, stagedChain]
    congr 1
    simp [MemTx.stage, MemTx.start, MemoryStore.post, MemoryStore.seal, MemoryStore.addPostings,
      Dict.update_singleton]
  · intro posting member
    rw [show ({ (start store).stage bundle with holds := holds } : MemTx).postings.values =
      bundle.postings from stagedPostings] at member
    exact accounts posting member

/-- A hold request that `open_hold` turned into a hold, and the bundle it posted. -/
structure Opening where
  request : LedgerService.HoldRequest
  (openedAt expiresAt : DateTime)
  (holdId idempotencyKey : String)
  bundle : LedgerService.Bundle

def Opening.row (opening : Opening) : AccountHoldRow :=
  openHoldRow opening.request opening.holdId opening.bundle.entry.entryId opening.openedAt
    opening.expiresAt

structure Opens (service : LedgerService) (store : MemoryStore) (opening : Opening) : Prop where
  minted : service.holdIdFor opening.request opening.openedAt = .ok opening.holdId
  unheld : store.getOpenAccountHoldByReference opening.request.referenceId = none
  fresh : store.holds.get? opening.holdId = none
  positive : 0 < opening.request.amountMinor
  posts : service.Posts store (service.openSpec opening.request opening.idempotencyKey) opening.openedAt
    opening.bundle

/-- A hold that `release_hold` closed, and the bundle it posted. -/
structure Closing where
  holdId : String
  hold : AccountHoldRow
  (outcome entryType : String)
  amountMinor : Option Int
  capture : Int
  closedAt : DateTime
  idempotencyKey : String
  postings : List PostingSpec
  bundle : LedgerService.Bundle

def Closing.row (closing : Closing) : AccountHoldRow :=
  closedHoldRow closing.hold closing.outcome closing.bundle.entry.entryId closing.closedAt

structure Closes (service : LedgerService) (store : MemoryStore) (closing : Closing) : Prop where
  found : store.holds.get? closing.holdId = some closing.hold
  wasOpen : closing.hold.status = "OPEN"
  typed : closingEntryType closing.outcome = some closing.entryType
  captured : captureAmount closing.hold closing.amountMinor = .ok closing.capture
  within : closing.capture ≤ closing.hold.amountMinor
  booked : closingPostings closing.hold closing.outcome closing.amountMinor closing.capture =
    .ok closing.postings
  posts : service.Posts store (service.closeSpec closing.hold closing.outcome closing.entryType
    closing.idempotencyKey closing.postings) closing.closedAt closing.bundle

abbrev MemoryStore.holdOpened (store : MemoryStore) (opening : Opening) : MemoryStore :=
  { store.post opening.bundle with holds := store.holds.set opening.holdId opening.row }

abbrev MemoryStore.holdClosed (store : MemoryStore) (closing : Closing) : MemoryStore :=
  { store.post closing.bundle with holds := store.holds.set closing.hold.holdId closing.row }

/-- Every store a call of the service can leave behind, the gate apart. -/
inductive Writes (service : LedgerService) (store : MemoryStore) : MemoryStore → Prop where
  | nothing : Writes service store store
  | account {row : AccountRow} (fresh : store.accounts.get? row.accountId = none) :
      Writes service store { store with accounts := store.accounts.set row.accountId row }
  | posted {spec : JournalEntrySpec} {producedAt : DateTime} {bundle : LedgerService.Bundle}
      (posts : service.Posts store spec producedAt bundle) : Writes service store (store.post bundle)
  | opened {opening : Opening} (opens : Opens service store opening) :
      Writes service store (store.holdOpened opening)
  | closed {closing : Closing} (closes : Closes service store closing) :
      Writes service store (store.holdClosed closing)
  | audited {request : LedgerService.ChainAppend} {write : ChainWrite} {row : AuditEventRow}
      (domain : request.chainDomain = auditDomain)
      (appends : service.Appends (store.chainTip auditDomain) request write)
      (fresh : store.audit.get? row.eventId = none) :
      Writes service store { store.seal write with
        audit := store.audit.set row.eventId row
        auditIndexSeq := store.auditIndexSeq + 1 }
  | emitted {row : OutboxRow} (fresh : store.outbox.get? row.eventId = none) :
      Writes service store { store with outbox := store.outbox.set row.eventId row }
  | genesis {chainDomain : String} {producedAt : DateTime} {row : ChainEntryRow}
      (domain : chainDomain ∈ chainDomains) (empty : store.chainTip chainDomain = none)
      (shape : row = service.genesisRow chainDomain producedAt row.chainHash) (sealed : service.IsSealed row) :
      Writes service store { store with
        chains := applyChainRow store.chains ((row.chainDomain, row.chainIndex), row) }

/-- What makes a call engage the write gate. -/
inductive Gates (service : LedgerService) (store : MemoryStore) : Call → Prop where
  | tampered {request : VerifyRequest}
      (found : (service.verifyChainStatus store request).status = .failedBrokenChain ∨
        (service.verifyChainStatus store request).status = .failedInvalidCheckpointSig) :
      Gates service store (.verifyChain request)
  | violated (found : store.trialBalance.balanced = false) : Gates service store .trialBalanceAssertion

theorem MemTx.apply_of_no_postings (nothing : tx.postings = .empty) : tx.apply store = .ok () (tx.committed store) :=
  apply_eq (by simp [nothing])

theorem MemTx.apply_start : (start store).apply store = .ok () store := by
  rw [apply_of_no_postings rfl]
  simp [committed, applyRest, start, addPostings, keyedPostings]

namespace LedgerService

variable {after : MemoryStore}

theorem addAccount_ok {spec : AccountSpec}
    (ran : addAccount spec accountId now (start store) = .ok answer tx) : store.accounts.get? accountId = none ∧
      tx = { start store with accounts := Dict.empty.set accountId (accountRow spec accountId now) } := by
  simp only [addAccount, bind_eq_ok, get_eq_ok, raiseIf_eq_ok, insertAccount_eq_ok, pure_eq_ok] at ran
  obtain ⟨_, _, ⟨rfl, rfl⟩, _, _, ⟨-, rfl⟩, _, _, ⟨-, rfl⟩, _, _, ⟨fresh, rfl⟩, -, rfl⟩ := ran
  exact ⟨by simpa [getAccount, start, accountRow] using fresh, rfl⟩

theorem commits_createAccount (spec : AccountSpec) :
    Commits (service.createAccount spec now) store fun _ after => Writes service store after := by
  refine commits_raiseIf_bind (commits_raiseIf_bind (commits_raiseIf_bind (commits_raiseIf_bind
    (commits_attempt_bind fun accountId _ => commits_transaction ?_))))
  intro answer tx staged
  obtain ⟨fresh, rfl⟩ := addAccount_ok staged
  refine ⟨_, apply_of_no_postings rfl, ?_⟩
  simp [committed, applyRest, start, addPostings, keyedPostings, Dict.update_singleton]
  exact Writes.account (show store.accounts.get? (accountRow spec accountId now).accountId = none from fresh)

theorem apply_stage_alone {spec : JournalEntrySpec} (posts : service.Posts store spec producedAt bundle) :
    ((start store).stage bundle).apply store = .ok () (store.post bundle) :=
  apply_stage posts .empty

theorem commits_postJournalEntry (spec : JournalEntrySpec) :
    Commits (service.postJournalEntry spec now) store fun _ after =>
      ∃ bundle, service.Posts store spec now bundle ∧ after = store.post bundle := by
  refine commits_attempt_bind fun _ _ => commits_transaction ?_
  intro answer tx staged
  obtain ⟨bundle, posts, -, rfl⟩ := appendJournalEntry_ok staged
  exact ⟨_, apply_stage_alone posts, bundle, posts, rfl⟩

theorem requireHoldAccount_eq_ok (named : String × String) (after : MemTx) :
    requireHoldAccount named tx = .ok () after ↔ isOpen (tx.getAccount named.2) = true ∧ tx = after := by
  simp [requireHoldAccount, get_bind, raiseIf_eq_ok]

/-- The body of `open_hold` either finds an open hold or stages a new one with its bundle. -/
theorem findOrOpenHold_ok (minted : service.holdIdFor request now = .ok holdId)
    (ran : service.findOrOpenHold request holdId now expiresAt (start store) = .ok answer tx) :
    (∃ existing, store.getOpenAccountHoldByReference request.referenceId = some existing ∧
      answer = existing.holdId ∧ tx = start store) ∨ ∃ opening : Opening, Opens service store opening ∧
      tx = { (start store).stage opening.bundle with holds := Dict.empty.set opening.holdId opening.row } := by
  simp only [findOrOpenHold, get_bind] at ran
  have staged : (MemTx.start store).getOpenAccountHoldByReference request.referenceId =
      store.getOpenAccountHoldByReference request.referenceId := by
    simp [MemTx.getOpenAccountHoldByReference, MemoryStore.getOpenAccountHoldByReference, MemTx.start]
  rw [staged] at ran
  cases found : store.getOpenAccountHoldByReference request.referenceId with
  | some existing =>
    simp only [found, pure_eq_ok] at ran
    obtain ⟨rfl, rfl⟩ := ran
    exact .inl ⟨existing, rfl, rfl, rfl⟩
  | none =>
    simp only [found, openNewHold, bind_eq_ok, attempt_eq_ok, forEach_reads requireHoldAccount_eq_ok,
      pure_eq_ok] at ran
    obtain ⟨_, _, ⟨-, rfl⟩, key, _, ⟨-, rfl⟩, openJeId, _, appended, _, _, inserted, rfl, rfl⟩ := ran
    obtain ⟨bundle, posts, rfl, rfl⟩ := appendJournalEntry_ok appended
    obtain ⟨fresh, positive, rfl⟩ := insertAccountHold_ok inserted
    refine .inr ⟨⟨request, now, expiresAt, holdId, key, bundle⟩, ⟨minted, found, ?_, positive, posts⟩, rfl⟩
    simpa [getAccountHold, stage, start, openHoldRow] using fresh

theorem commits_openHold (request : HoldRequest) : Commits (service.openHold request now) store fun answer after =>
      (∃ existing, store.getOpenAccountHoldByReference request.referenceId = some existing ∧
        answer = existing.holdId ∧ after = store) ∨ ∃ opening : Opening, Opens service store opening ∧
        after = store.holdOpened opening := by
  refine commits_attempt_bind fun _ _ => commits_raiseIf_bind (commits_attempt_bind fun expiresAt _ =>
    commits_attempt_bind fun holdId minted => commits_transaction ?_)
  intro answer tx staged
  rcases findOrOpenHold_ok minted staged with ⟨existing, found, same, rfl⟩ | ⟨opening, opens, rfl⟩
  · exact ⟨_, apply_start, .inl ⟨existing, found, same, rfl⟩⟩
  · exact ⟨_, apply_stage opens.posts _, .inr ⟨opening, opens, rfl⟩⟩

/-- The body of `release_hold` either finds the hold closed with the same outcome or
stages its closing. -/
theorem findAndCloseHold_ok {answer : Unit} (typed : closingEntryType outcome = some entryType)
    (ran : service.findAndCloseHold holdId outcome entryType amount now (start store) = .ok answer tx) :
    (∃ hold, store.holds.get? holdId = some hold ∧ hold.status ≠ "OPEN" ∧ hold.status = outcome ∧ tx = start store) ∨
    ∃ closing : Closing, Closes service store closing ∧ closing.holdId = holdId ∧ closing.outcome = outcome ∧
      closing.amountMinor = amount ∧ tx = { (start store).stage closing.bundle with
        holds := Dict.empty.set closing.hold.holdId closing.row } := by
  simp only [findAndCloseHold, get_bind] at ran
  have staged : (start store).getAccountHold holdId = store.holds.get? holdId := by
    simp [getAccountHold, start]
  rw [staged] at ran
  cases found : store.holds.get? holdId with
  | none => simp [found, throw_eq_ok] at ran
  | some hold =>
    simp only [found] at ran
    split_ifs at ran with closed same
    · simp only [pure_eq_ok] at ran
      exact .inl ⟨hold, rfl, closed, same, ran.2.symm⟩
    · simp [throw_eq_ok] at ran
    · simp only [closeHold, bind_eq_ok, attempt_eq_ok, raiseIf_eq_ok] at ran
      obtain ⟨capture, _, ⟨captured, rfl⟩, _, _, ⟨within, rfl⟩, postings, _, ⟨booked, rfl⟩, key, _, ⟨-, rfl⟩,
        closeJeId, _, appended, updated⟩ := ran
      obtain ⟨bundle, posts, rfl, rfl⟩ := appendJournalEntry_ok appended
      obtain rfl := updateAccountHold_ok updated
      exact .inr ⟨⟨holdId, hold, outcome, entryType, amount, capture, now, key, postings, bundle⟩,
        ⟨found, not_not.mp closed, typed, captured, not_lt.mp within, booked, posts⟩, rfl, rfl, rfl, rfl⟩

theorem commits_releaseHold (holdId outcome : String) (amount : Option Int) :
    Commits (service.releaseHold holdId outcome amount now) store fun _ after =>
      (∃ hold, store.holds.get? holdId = some hold ∧ hold.status ≠ "OPEN" ∧ hold.status = outcome ∧ after = store) ∨
      ∃ closing : Closing, Closes service store closing ∧ closing.holdId = holdId ∧ closing.outcome = outcome ∧
        closing.amountMinor = amount ∧
        after = store.holdClosed closing := by
  unfold releaseHold
  cases typed : closingEntryType outcome with
  | none => exact commits_throw
  | some =>
    refine commits_transaction ?_
    intro answer tx staged
    rcases findAndCloseHold_ok typed staged with ⟨hold, found, closed, same, rfl⟩ |
      ⟨closing, closes, sameId, sameOutcome, sameAmount, rfl⟩
    · exact ⟨_, apply_start, .inl ⟨hold, found, closed, same, rfl⟩⟩
    · exact ⟨_, apply_stage closes.posts _, .inr ⟨closing, closes, sameId, sameOutcome, sameAmount, rfl⟩⟩

/-- What the body of `write_audit_event` stages: a sealed row of the audit chain and the event. -/
theorem insertAudit_ok
    (ran : service.insertAudit spec actorId eventId payloadHash redacted occurredAt (start store) =
      .ok answer tx) :
    ∃ (request : ChainAppend) (write : ChainWrite) (row : AuditEventRow), request.chainDomain = auditDomain ∧
      service.Appends (store.chainTip auditDomain) request write ∧ store.audit.get? row.eventId = none ∧
      tx = { start store with
        chain := Dict.empty.setAll (keyed write.rows)
        checkpoints := write.checkpoint.toList
        audit := Dict.empty.set row.eventId row
        nextAuditIndex := store.auditIndexSeq + 2 } := by
  simp only [insertAudit, bind_eq_ok, attempt_eq_ok, pure_eq_ok] at ran
  obtain ⟨payloadJson, _, ⟨-, rfl⟩, envelopeHash, _, ⟨-, rfl⟩, sealed, _, appended, index, _, inserted, rfl, rfl⟩ :=
    ran
  obtain ⟨write, appends, -, rfl⟩ := appendChainEntry_ok rfl appended
  obtain ⟨⟨-, fresh⟩, rfl, rfl⟩ := insertAuditEvent_eq_ok.mp inserted
  refine ⟨_, write, { auditRow spec actorId eventId payloadHash payloadJson occurredAt with
    entryIndex := store.auditIndexSeq + 1, prevChainHash := sealed.2.2, chainHash := sealed.2.1 },
    rfl, appends, fresh, ?_⟩
  simp [start, add_assoc]

theorem apply_audit {request : ChainAppend} {row : AuditEventRow}
    (appends : service.Appends (store.chainTip auditDomain) request write) :
    apply { start store with
      chain := Dict.empty.setAll (keyed write.rows)
      checkpoints := write.checkpoint.toList
      audit := Dict.empty.set row.eventId row
      nextAuditIndex := store.auditIndexSeq + 2 } store =
    .ok () { store.seal write with
      audit := store.audit.set row.eventId row
      auditIndexSeq := store.auditIndexSeq + 1 } := by
  have stagedChain : (Dict.empty.setAll (MemTx.keyed write.rows)).entries = MemTx.keyed write.rows :=
    Dict.entries_setAll_of_fresh appends.keys_nodup fun _ _ => rfl
  rw [apply_of_no_postings rfl]
  simp only [MemTx.committed, applyRest, stagedChain]
  simp [MemTx.start, MemoryStore.seal, MemoryStore.addPostings, keyedPostings, Dict.update_singleton]
  omega

theorem commits_insertAudit {actorId eventId : String} :
    Commits (transaction (service.insertAudit spec actorId eventId payloadHash redacted occurredAt)) store
      fun _ after => Writes service store after := by
  refine commits_transaction ?_
  intro answer tx staged
  obtain ⟨request, write, row, domain, appends, fresh, rfl⟩ := insertAudit_ok staged
  exact ⟨_, apply_audit appends, .audited domain appends fresh⟩

theorem commits_writeAuditEvent (spec : AuditEventSpec) (occurredAt : Option DateTime) :
    Commits (service.writeAuditEvent spec occurredAt now) store fun _ after => Writes service store after := by
  refine commits_raiseIf_bind (commits_raiseIf_bind (commits_raiseIf_bind (commits_raiseIf_bind
    (commits_raiseIf_bind (commits_raiseIf_bind (commits_attempt_bind fun payloadHash _ =>
    commits_attempt_bind fun eventId _ => stops_bind.mpr (stops_get.mpr ?_)))))))
  cases stored : store.audit.get? eventId with
  | some => exact stops_attempt.mpr ⟨fun _ _ => .nothing, fun _ _ => rfl⟩
  | none =>
    refine commits_catchWhen commits_insertAudit (stops_bind.mpr (stops_get.mpr ?_))
    simp only [stored]
    exact commits_throw

theorem insertEvent_ok (ran : insertEvent row (start store) = .ok answer tx) : store.outbox.get? row.eventId = none ∧
      tx = { start store with outbox := Dict.empty.set row.eventId row } := by
  simp only [insertEvent, bind_eq_ok, insertOutbox_eq_ok, pure_eq_ok] at ran
  obtain ⟨_, _, ⟨⟨-, fresh⟩, rfl⟩, -, rfl⟩ := ran
  exact ⟨fresh, rfl⟩

theorem commits_insertEvent :
    Commits (transaction (insertEvent row)) store fun _ after => Writes service store after := by
  refine commits_transaction ?_
  intro answer tx staged
  obtain ⟨fresh, rfl⟩ := insertEvent_ok staged
  refine ⟨_, apply_of_no_postings rfl, ?_⟩
  simpa [committed, applyRest, start, addPostings, keyedPostings, Dict.update_singleton] using
    Writes.emitted fresh

theorem commits_emitEvent (request : EventRequest) :
    Commits (service.emitEvent request now) store fun _ after => Writes service store after := by
  refine commits_raiseIf_bind (commits_raiseIf_bind (commits_attempt_bind fun payloadHash _ =>
    commits_attempt_bind fun eventId _ => commits_attempt_bind fun envelopeJson _ => stops_bind.mpr (stops_get.mpr ?_)))
  cases stored : store.outbox.get? eventId with
  | some => exact stops_attempt.mpr ⟨fun _ _ => .nothing, fun _ _ => rfl⟩
  | none =>
    refine commits_catchWhen commits_insertEvent (stops_bind.mpr (stops_get.mpr ?_))
    simp only [stored]
    exact commits_throw

theorem ensureGenesis_ok {answer : Unit} (ran : service.ensureGenesis chainDomain now (start store) = .ok answer tx) :
    tx = start store ∨ ∃ row, chainDomain ∈ chainDomains ∧ store.chainTip chainDomain = none ∧
      row = service.genesisRow chainDomain now row.chainHash ∧ service.IsSealed row ∧
      tx = { start store with chain := Dict.empty.set (row.chainDomain, row.chainIndex) row } := by
  have tipOf : (start store).lockChainTip chainDomain = store.chainTip chainDomain :=
    lockChainTip_of_empty rfl chainDomain
  simp only [ensureGenesis, get_bind, tipOf] at ran
  cases tip : store.chainTip chainDomain with
  | some =>
    simp only [tip, pure_eq_ok] at ran
    exact .inl ran.2.symm
  | none =>
    simp only [tip, bind_eq_ok, pure_eq_ok] at ran
    obtain ⟨row, _, inserted, -, rfl⟩ := ran
    obtain ⟨shape, sealed, domain, rfl⟩ := insertGenesis_ok inserted
    exact .inr ⟨row, domain, rfl, shape, sealed, rfl⟩

theorem commits_initializeChain (domain : String) :
    Commits (service.initializeChain domain now) store fun _ after => Writes service store after := by
  refine commits_transaction ?_
  intro answer tx staged
  rcases ensureGenesis_ok staged with rfl | ⟨row, domain, empty, shape, sealed, rfl⟩
  · exact ⟨_, apply_start, .nothing⟩
  · refine ⟨_, apply_of_no_postings rfl, ?_⟩
    simpa [committed, applyRest, start, addPostings, keyedPostings,
      Dict.entries_set_of_fresh (Dict.get?_empty _)] using Writes.genesis domain empty shape sealed

theorem verifyChain_eq (service : LedgerService) (store : MemoryStore) (request : VerifyRequest) (now : DateTime) :
    ∃ after, service.verifyChain request now store = .ok (service.verifyChainStatus store request) after ∧
      (after = store ∨
        Gates service store (.verifyChain request) ∧ ∃ reason, after = store.engageWriteGate reason now) := by
  simp only [verifyChain, get_bind]
  split_ifs with found
  · exact ⟨_, rfl, .inr ⟨.tampered found, _, rfl⟩⟩
  · exact ⟨store, rfl, .inl rfl⟩

theorem trialBalanceAssertion_cases (store : MemoryStore) (now : DateTime) :
    trialBalanceAssertion now store = .ok () store ∨
      ∃ error reason, trialBalanceAssertion now store = .error error (store.engageWriteGate reason now) ∧
        store.trialBalance.balanced = false := by
  simp only [trialBalanceAssertion, get_bind]
  split_ifs with violated
  · exact .inr ⟨_, _, rfl, violated⟩
  · exact .inl rfl

end LedgerService

namespace Call

variable {after : MemoryStore}

/-- A call makes one of the listed writes or engages the gate.  Only the assertion of the trial
balance raises and writes. -/
theorem commits_perform (other : call ≠ .trialBalanceAssertion) :
    Commits (call.perform service now) store fun _ after => Writes service store after ∨
      Gates service store call ∧ ∃ reason, after = store.engageWriteGate reason now := by
  cases call with
  | createAccount spec => exact stops_map.mpr ((service.commits_createAccount spec).mono (fun _ _ => .inl) fun _ _ => id)
  | postJournalEntry spec =>
    refine stops_map.mpr ((service.commits_postJournalEntry spec).mono ?_ fun _ _ => id)
    rintro _ _ ⟨bundle, posts, rfl⟩
    exact .inl (.posted posts)
  | openHold request =>
    refine stops_map.mpr ((service.commits_openHold request).mono ?_ fun _ _ => id)
    rintro _ _ (⟨_, -, -, rfl⟩ | ⟨opening, opens, rfl⟩)
    · exact .inl .nothing
    · exact .inl (.opened opens)
  | releaseHold holdId outcome amount =>
    refine stops_map.mpr ((service.commits_releaseHold holdId outcome amount).mono ?_ fun _ _ => id)
    rintro _ _ (⟨_, -, -, -, rfl⟩ | ⟨closing, closes, -, -, -, rfl⟩)
    · exact .inl .nothing
    · exact .inl (.closed closes)
  | writeAuditEvent spec occurredAt =>
    exact stops_map.mpr ((service.commits_writeAuditEvent spec occurredAt).mono (fun _ _ => .inl) fun _ _ => id)
  | emitEvent request => exact stops_map.mpr ((service.commits_emitEvent request).mono (fun _ _ => .inl) fun _ _ => id)
  | initializeChain domain => exact stops_map.mpr ((service.commits_initializeChain domain).mono (fun _ _ => .inl) fun _ _ => id)
  | verifyChain request =>
    obtain ⟨reached, verified, left⟩ := service.verifyChain_eq store request now
    refine stops_map.mpr ((stops_iff_of_ok verified).mpr ?_)
    rcases left with rfl | gated
    · exact .inl .nothing
    · exact .inr gated
  | trialBalanceAssertion => exact absurd rfl other

/-- A call that raises has written nothing, except that a violated trial balance engages the gate. -/
theorem perform_raises (raised : call.perform service now store = .error error after) :
    after = store ∨ store.trialBalance.balanced = false ∧
      Gates service store call ∧ ∃ reason, after = store.engageWriteGate reason now := by
  rcases eq_or_ne call .trialBalanceAssertion with rfl | other
  · rcases trialBalanceAssertion_cases store now with kept | ⟨_, reason, violated, found⟩
    · simp [perform, Functor.map, EStateM.map, kept] at raised
    · simp only [perform, Functor.map, EStateM.map, violated, EStateM.Result.error.injEq] at raised
      exact .inr ⟨found, .violated found, reason, raised.2.symm⟩
  · exact .inl ((commits_perform other).raisesClean error after raised)

theorem after_writes (step : DateTime × Call) : Writes service store (Call.after service store step) ∨
      Gates service store step.2 ∧ ∃ reason, Call.after service store step = store.engageWriteGate reason step.1 := by
  obtain ⟨now, call⟩ := step
  simp only [Call.after]
  cases performed : call.perform service now store with
  | ok =>
    rcases eq_or_ne call .trialBalanceAssertion with rfl | other
    · rcases trialBalanceAssertion_cases store now with kept | ⟨_, _, raised, -⟩
      · simp only [perform, Functor.map, EStateM.map, kept] at performed
        cases performed
        exact .inl .nothing
      · simp [perform, Functor.map, EStateM.map, raised] at performed
    · exact (commits_perform other).of_ok performed
  | error =>
    rcases perform_raises performed with rfl | ⟨-, gated⟩
    · exact .inl .nothing
    · exact .inr gated

end Call

end BdPay.Ledger
