import BdPay.Data.Dict
import BdPay.Ledger.Types

namespace BdPay.Ledger

open Data Effect Platform

/-! The in-memory ledger store and its staged transactions. -/

structure GateRow where
  reason : String
  engagedAt : DateTime
  clearedAt : Option DateTime := none

def debitNormal (accountType : String) : Bool := accountType == "ASSET" || accountType == "EXPENSE"

def normalBalanceDelta (accountType side : String) (amountMinor : Int) : Int :=
  if debitNormal accountType then (if side = "DEBIT" then amountMinor else -amountMinor)
  else (if side = "CREDIT" then amountMinor else -amountMinor)

structure MemoryStore where
  accounts : Dict String AccountRow := .empty
  journal : Dict String JournalEntryRow := .empty
  journalByIdem : Dict String String := .empty
  postings : Dict String PostingRow := .empty
  postingsByEntry : Dict String (List String) := .empty
  chains : Dict String (Dict Int ChainEntryRow) := .empty
  checkpoints : Dict String (List CheckpointRow) := .empty
  outbox : Dict String OutboxRow := .empty
  audit : Dict String AuditEventRow := .empty
  holds : Dict String AccountHoldRow := .empty
  balances : Dict String Int := .empty
  gateRows : List GateRow := []
  entryIndexSeq : Int := 0
  auditIndexSeq : Int := 0

/-- `min(rows, key=lambda row: (row.hold_opened_at, row.hold_id), default=None)`. -/
def earliestHold : List AccountHoldRow → Option AccountHoldRow
  | [] => none
  | first :: rest => some (rest.foldl (fun best row =>
    if row.holdOpenedAt.micros < best.holdOpenedAt.micros ∨
        row.holdOpenedAt = best.holdOpenedAt ∧ row.holdId < best.holdId then row else best) first)

namespace MemoryStore

variable (store : MemoryStore)

variable (chainDomain : String)

/-- The committed rows of one chain domain, by index. -/
def chain : Dict Int ChainEntryRow :=
  (store.chains.get? chainDomain).getD .empty

def getBalance (accountId : String) : Int := (store.balances.get? accountId).getD 0

def getBalanceAsOf (accountId : String) (asOf : DateTime) : Int :=
  match store.accounts.get? accountId with
  | none => 0
  | some account => (store.postings.values.map fun posting =>
    if posting.accountId = accountId ∧ posting.producedAt ≤ asOf then
      normalBalanceDelta account.accountType posting.side posting.amountMinor
    else 0).sum

/-- The sum of the debit postings of a list. -/
def debitTotal (postings : List PostingRow) : Int :=
  (postings.map fun posting => if posting.side = "DEBIT" then posting.amountMinor else 0).sum

/-- The sum of the postings of a list that are not debits. -/
def creditTotal (postings : List PostingRow) : Int :=
  (postings.map fun posting => if posting.side = "DEBIT" then 0 else posting.amountMinor).sum

def trialBalance : TrialBalance :=
  ⟨debitTotal store.postings.values, creditTotal store.postings.values⟩

def getPostingsForEntry (entryId : String) : List PostingRow :=
  ((store.postingsByEntry.get? entryId).getD []).filterMap store.postings.get?

def countJournalEntries : Int := store.journal.size

def getOpenAccountHoldByReference (referenceId : String) : Option AccountHoldRow :=
  earliestHold (store.holds.values.filter fun row => row.referenceId = referenceId ∧ row.status = "OPEN")

def iterChain (fromIndex : Int) (toIndex : Option Int) :
    List ChainEntryRow :=
  let indexes := (store.chain chainDomain).keys.filter fun index =>
    fromIndex ≤ index ∧ ∀ bound ∈ toIndex, index ≤ bound
  (indexes.insertionSort (· ≤ ·)).filterMap (store.chain chainDomain).get?

def getChainEntry (chainIndex : Int) : Option ChainEntryRow :=
  (store.chain chainDomain).get? chainIndex

def maxChainIndex : Option Int :=
  (store.chain chainDomain).keys.max?

def listCheckpoints : List CheckpointRow :=
  ((store.checkpoints.get? chainDomain).getD []).insertionSort
    (fun left right => left.checkpointSequenceInDomain ≤ right.checkpointSequenceInDomain)

/-- The first row that was never cleared decides. -/
def gateState : List GateRow → WriteGateState
  | [] => ⟨false, none, none⟩
  | row :: rest => if row.clearedAt = none then ⟨true, some row.reason, some row.engagedAt⟩ else gateState rest

def writeGateState : WriteGateState := gateState store.gateRows

def engageWriteGate (reason : String) (engagedAt : DateTime) : MemoryStore :=
  { store with gateRows := store.gateRows ++ [⟨reason, engagedAt, none⟩] }

end MemoryStore

/-- A unit of work staged over a store. -/
structure MemTx where
  store : MemoryStore
  accounts : Dict String AccountRow
  journal : Dict String JournalEntryRow
  journalByIdem : Dict String String
  postings : Dict String PostingRow
  chain : Dict (String × Int) ChainEntryRow
  checkpoints : List CheckpointRow
  outbox : Dict String OutboxRow
  audit : Dict String AuditEventRow
  holds : Dict String AccountHoldRow
  gateRows : List GateRow
  (nextEntryIndex nextAuditIndex : Int)

abbrev TxM := EStateM LedgerError MemTx

abbrev StoreM := EStateM LedgerError MemoryStore

/-- `left or right` of two optional strings: an empty one does not count. -/
def orText : Option String → Option String → Option String
  | some text, other => if text = "" then other else some text
  | none, other => other

namespace MemTx

def start (store : MemoryStore) : MemTx where
  store := store
  accounts := .empty
  journal := .empty
  journalByIdem := .empty
  postings := .empty
  chain := .empty
  checkpoints := []
  outbox := .empty
  audit := .empty
  holds := .empty
  gateRows := []
  nextEntryIndex := store.entryIndexSeq + 1
  nextAuditIndex := store.auditIndexSeq + 1

/-! Reads see what is staged first. -/

variable (tx : MemTx)

def getAccount (accountId : String) : Option AccountRow :=
  (tx.accounts.get? accountId).or (tx.store.accounts.get? accountId)

def findEntryIdByIdempotencyKey (idempotencyKey : String) : Option String :=
  orText (tx.journalByIdem.get? idempotencyKey) (tx.store.journalByIdem.get? idempotencyKey)

def journalEntryExists (entryId : String) : Bool :=
  tx.journal.contains entryId || tx.store.journal.contains entryId

def lockChainTip (chainDomain : String) : Option ChainTip :=
  let staged := (tx.chain.keys.filter fun key => key.1 = chainDomain).map Prod.snd
  let committed := tx.store.chain chainDomain
  match (staged ++ committed.keys).max? with
  | none => none
  | some best =>
    ((tx.chain.get? (chainDomain, best)).or (committed.get? best)).map fun row =>
      ⟨row.chainIndex, row.chainHash⟩

def writeGateState (tx : MemTx) : WriteGateState :=
  let staged := MemoryStore.gateState tx.gateRows
  if staged.engaged then staged else tx.store.writeGateState

def getAccountHold (holdId : String) : Option AccountHoldRow :=
  (tx.holds.get? holdId).or (tx.store.holds.get? holdId)

def getOpenAccountHoldByReference (referenceId : String) : Option AccountHoldRow :=
  earliestHold ((tx.store.holds.values ++ tx.holds.values).filter fun row =>
    row.referenceId = referenceId ∧ row.status = "OPEN")

/-! Mutations mirror the table constraints and write to the staged tables only. -/

def insertAccount (row : AccountRow) : TxM Unit := do
  let tx ← get
  raiseIf ((tx.getAccount row.accountId).isSome = true)
    (.memoryConstraint s!"duplicate account_id {row.accountId}")
  set { tx with accounts := tx.accounts.set row.accountId row }

/-- The index of the entry is assigned here, whatever the row says. -/
def insertJournalEntry (row : JournalEntryRow) : TxM Int := do
  let tx ← get
  raiseIf (tx.journalEntryExists row.entryId = true) (.memoryConstraint s!"duplicate entry_id {row.entryId}")
  raiseIf ((tx.findEntryIdByIdempotencyKey row.idempotencyKey).isSome = true)
    (.memoryConstraint s!"duplicate idempotency_key {row.idempotencyKey}")
  set { tx with
    nextEntryIndex := tx.nextEntryIndex + 1
    journal := tx.journal.set row.entryId { row with entryIndex := tx.nextEntryIndex }
    journalByIdem := tx.journalByIdem.set row.idempotencyKey row.entryId }
  return tx.nextEntryIndex

variable (repr : String → String)

def insertPosting (row : PostingRow) : TxM Unit := do
  let tx ← get
  raiseIf (tx.postings.contains row.postingId = true ∨ tx.store.postings.contains row.postingId = true)
    (.memoryConstraint s!"duplicate posting_id {row.postingId}")
  raiseIf (row.side ∉ sides) (.memoryConstraint s!"postings_side_check: {repr row.side}")
  raiseIf (row.amountMinor ≤ 0) (.memoryConstraint "postings_amount_positive: amount_minor must be > 0")
  raiseIf (row.currency ≠ "BDT") (.memoryConstraint s!"postings_currency_check: {repr row.currency}")
  raiseIf (tx.getAccount row.accountId = none)
    (.memoryConstraint s!"FK violation: account {row.accountId} absent")
  raiseIf (tx.journalEntryExists row.entryId = false)
    (.memoryConstraint s!"FK violation: journal entry {row.entryId} absent")
  set { tx with postings := tx.postings.set row.postingId row }

def insertChainEntry (row : ChainEntryRow) : TxM Unit := do
  let tx ← get
  raiseIf (tx.chain.contains (row.chainDomain, row.chainIndex) = true ∨
      (tx.store.chain row.chainDomain).contains row.chainIndex = true)
    (.memoryConstraint s!"duplicate chain entry ({repr row.chainDomain}, {row.chainIndex})")
  raiseIf (row.chainDomain ∉ ["MONEY", "AUDIT"]) (.memoryConstraint s!"chain_domain_check: {repr row.chainDomain}")
  raiseIf (row.isCheckpoint = true ∧ (row.checkpointSig = none ∨ row.checkpointPublicKeyB64 = none ∨
      row.checkpointSequenceInDomain = none))
    (.memoryConstraint "checkpoint rows require sig + public key + sequence")
  raiseIf (row.isCheckpoint = false ∧ (row.checkpointSig ≠ none ∨ row.checkpointPublicKeyB64 ≠ none ∨
      row.checkpointSequenceInDomain ≠ none))
    (.memoryConstraint "non-checkpoint rows must not carry checkpoint fields")
  set { tx with chain := tx.chain.set (row.chainDomain, row.chainIndex) row }

def insertCheckpoint (row : CheckpointRow) : TxM Unit := do
  let tx ← get
  let existing := ((tx.store.checkpoints.get? row.chainDomain).getD [] ++ tx.checkpoints).filter fun other =>
    other.chainDomain = row.chainDomain ∧
      other.checkpointSequenceInDomain = row.checkpointSequenceInDomain
  raiseIf (existing ≠ [])
    (.memoryConstraint s!"duplicate checkpoint sequence {row.checkpointSequenceInDomain}")
  raiseIf (row.entriesInSegment ≤ 0) (.memoryConstraint "checkpoints_entries_positive")
  set { tx with checkpoints := tx.checkpoints ++ [row] }

def insertOutbox (row : OutboxRow) : TxM Unit := do
  let tx ← get
  raiseIf (tx.outbox.contains row.eventId = true ∨ tx.store.outbox.contains row.eventId = true)
    (.duplicateEvent row.eventId)
  set { tx with outbox := tx.outbox.set row.eventId row }

def insertAuditEvent (row : AuditEventRow) : TxM Int := do
  let tx ← get
  raiseIf (tx.audit.contains row.eventId = true ∨ tx.store.audit.contains row.eventId = true)
    (.duplicateEvent row.eventId)
  set { tx with
    nextAuditIndex := tx.nextAuditIndex + 1
    audit := tx.audit.set row.eventId { row with entryIndex := tx.nextAuditIndex } }
  return tx.nextAuditIndex

def insertAccountHold (row : AccountHoldRow) : TxM Unit := do
  let tx ← get
  raiseIf ((tx.getAccountHold row.holdId).isSome = true) (.memoryConstraint s!"duplicate hold_id {row.holdId}")
  raiseIf (tx.getAccount row.accountId = none)
    (.memoryConstraint s!"FK violation: hold account {row.accountId} absent")
  raiseIf (tx.getAccount row.holdReserveAccountId = none)
    (.memoryConstraint s!"FK violation: hold reserve {row.holdReserveAccountId} absent")
  raiseIf (tx.getAccount row.sourceAccountId = none)
    (.memoryConstraint s!"FK violation: hold source {row.sourceAccountId} absent")
  raiseIf (tx.journalEntryExists row.openJeId = false)
    (.memoryConstraint s!"FK violation: open journal {row.openJeId} absent")
  raiseIf (row.status ∉ holdStatuses) (.memoryConstraint s!"holds_status_check: {repr row.status}")
  raiseIf (row.amountMinor ≤ 0) (.memoryConstraint "holds_amount_positive: amount_minor must be > 0")
  set { tx with holds := tx.holds.set row.holdId row }

def updateAccountHold (row : AccountHoldRow) : TxM Unit := do
  let tx ← get
  raiseIf (tx.getAccountHold row.holdId = none) (.memoryConstraint s!"unknown hold_id {row.holdId}")
  raiseIf (row.status ∉ holdStatuses) (.memoryConstraint s!"holds_status_check: {repr row.status}")
  raiseIf (∃ closeJeId ∈ row.closeJeId, tx.journalEntryExists closeJeId = false)
    (.memoryConstraint s!"FK violation: close journal {row.closeJeId.getD default} absent")
  set { tx with holds := tx.holds.set row.holdId row }

/-! Commit: re-validate the balance of every touched entry, then apply the staged rows. -/

def allPostingsForEntry (entryId : String) : List PostingRow :=
  (tx.store.postings.values ++ tx.postings.values).filter fun posting => posting.entryId = entryId

def entryImbalance (entryId : String) : Option LedgerError :=
  let debit := MemoryStore.debitTotal (tx.allPostingsForEntry entryId)
  let credit := MemoryStore.creditTotal (tx.allPostingsForEntry entryId)
  if debit = credit then none
  else some (.memoryConstraint s!"Ledger imbalance for entry_id={entryId}: debit={debit} credit={credit}")

def deferredBalanceCheck : Except LedgerError Unit :=
  match (tx.postings.values.map PostingRow.entryId).dedup.findSome? tx.entryImbalance with
  | some error => .error error
  | none => .ok ()

/-- One posting of `_apply`.  The posting is stored before its account is looked
up, so a missing account would leave it behind. -/
def applyPosting (posting : PostingRow) : StoreM Unit := do
  let store ← get
  let stored := { store with
    postings := store.postings.set posting.postingId posting
    postingsByEntry := store.postingsByEntry.set posting.entryId
      ((store.postingsByEntry.get? posting.entryId).getD [] ++ [posting.postingId]) }
  set stored
  match stored.accounts.get? posting.accountId with
  | none => throw (.keyError posting.accountId)
  | some account =>
    set { stored with
      balances := stored.balances.set posting.accountId (stored.getBalance posting.accountId +
        normalBalanceDelta account.accountType posting.side posting.amountMinor) }

def applyChainRow (chains : Dict String (Dict Int ChainEntryRow)) :
    (String × Int) × ChainEntryRow → Dict String (Dict Int ChainEntryRow)
  | ((domain, index), row) => chains.set domain (((chains.get? domain).getD .empty).set index row)

def applyCheckpoint (checkpoints : Dict String (List CheckpointRow)) (row : CheckpointRow) :
    Dict String (List CheckpointRow) :=
  checkpoints.set row.chainDomain ((checkpoints.get? row.chainDomain).getD [] ++ [row])

/-- What is applied behind the postings. -/
def applyRest (store : MemoryStore) : MemoryStore := { store with
  chains := tx.chain.entries.foldl applyChainRow store.chains
  checkpoints := tx.checkpoints.foldl applyCheckpoint store.checkpoints
  outbox := store.outbox.update tx.outbox
  audit := store.audit.update tx.audit
  holds := store.holds.update tx.holds
  gateRows := store.gateRows ++ tx.gateRows
  entryIndexSeq := tx.nextEntryIndex - 1
  auditIndexSeq := tx.nextAuditIndex - 1 }

def apply : StoreM Unit := do
  let store ← get
  set { store with
    accounts := store.accounts.update tx.accounts
    journal := store.journal.update tx.journal
    journalByIdem := store.journalByIdem.update tx.journalByIdem }
  forEach tx.postings.values applyPosting
  let store ← get
  set (tx.applyRest store)

end MemTx

/-- `with store.transaction() as tx: body`.  An error of the body, or of the
balance check at commit, discards what was staged. -/
def transaction {α : Type} (body : TxM α) : StoreM α := fun store =>
  match body (MemTx.start store) with
  | .error error _ => .error error store
  | .ok value tx =>
    match tx.deferredBalanceCheck with
    | .error error => .error error store
    | .ok () =>
      match tx.apply store with
      | .error error applied => .error error applied
      | .ok () applied => .ok value applied

end BdPay.Ledger
