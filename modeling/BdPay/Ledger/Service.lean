import BdPay.Ledger.HashChain
import BdPay.Ledger.MemoryStore
import BdPay.Platform.Digest

namespace BdPay.Ledger

open Data Effect Platform MemTx

/-! The ledger service: the one writer of accounts, journal entries, postings,
holds, chain rows, audit events and outbox rows. -/

def moneyDomain : String := "MONEY"

def auditDomain : String := "AUDIT"

/-- A configured service.  The cryptography, the PII patterns and Python's `repr`
of a string come from outside the ledger; `sha256` stands for the hex digest. -/
structure LedgerService where
  sha256 : String → String
  hexDigest : ∀ text, ∀ digit ∈ (sha256 text).toList, isHexDigit digit = true
  (redact repr : String → String)
  producer : String
  checkpointInterval : Int
  intervalPositive : 0 < checkpointInterval
  sign : String → String × String
  verifyCheckpoint : (chainHash signature publicKey : String) → Bool
  trustedKeys : List String

def holdTtlDays : Nat := 7

/-- The prefixes only the ledger mints under. -/
def ledgerInternalPrefixes : List String := ["hold", "lckp", "rply", "frule"]

def requireAmountMinor (value : Int) : Except LedgerError Int :=
  if value ≤ 0 then .error (.amount s!"amount_minor must be > 0, got {value}") else .ok value

/-- A text value, or `None`. -/
def optionalText (text : Option String) : PyValue := (text.map PyValue.str).getD .none

namespace LedgerService

variable (service : LedgerService)

def makeId (label : String) (payload : List (String × PyValue)) : Except LedgerError String :=
  raiseId (Platform.makeId service.sha256 label payload)

def makeLedgerId (label : String) (payload : List (String × PyValue)) : Except LedgerError String :=
  if label ∈ idPrefixes then service.makeId label payload
  else if label ∈ ledgerInternalPrefixes then raiseId (mintId service.sha256 label payload)
  else .error (.idPrefix label)

mutual

/-- Redaction at write: every string but the values of identifier keys. -/
def redactPayload (key : Option String) : PyValue → PyValue
  | .str value => if key.any isOpaqueIdentifierKey then .str value else .str (service.redact value)
  | .dict fields => .dict (redactFields fields)
  | .list items => .list (redactItems items)
  | .none => .none
  | .bool value => .bool value
  | .int value => .int value
  | .float => .float
  | .datetime value => .datetime value
  | .set => .set
  | .other typeName => .other typeName

def redactItems : List PyValue → List PyValue
  | [] => []
  | item :: rest => redactPayload none item :: redactItems rest

def redactFields : List (String × PyValue) → List (String × PyValue)
  | [] => []
  | (key, value) :: rest => (key, redactPayload (some key) value) :: redactFields rest

end

/-! Accounts -/

def resolveAccountId (accountSubtype : String) (purposeTag ownerId : Option String) (currency : String) :
    Except LedgerError String :=
  service.makeId "acct" [
    ("owner_id", optionalText ownerId),
    ("account_subtype", .str accountSubtype),
    ("currency", .str currency),
    ("purpose_tag", optionalText purposeTag)]

def accountRow (spec : AccountSpec) (accountId : String) (createdAt : DateTime) : AccountRow where
  accountId := accountId
  accountType := spec.accountType
  accountSubtype := spec.accountSubtype
  currency := spec.currency
  ownerId := spec.ownerId
  ownerType := spec.ownerType
  parentId := spec.parentId
  purposeTag := spec.purposeTag
  isSystem := spec.isSystem
  createdAt := createdAt

/-- The body of the transaction of `create_account`. -/
def addAccount (spec : AccountSpec) (accountId : String) (createdAt : DateTime) : TxM String := do
  let tx ← get
  raiseIf ((tx.getAccount accountId).isSome = true) (.validation s!"account {accountId} already exists")
  raiseIf (∃ parentId ∈ spec.parentId, tx.getAccount parentId = none)
    (.accountNotFound s!"parent account {spec.parentId.getD default} not found")
  insertAccount (accountRow spec accountId createdAt)
  return accountId

def createAccount (spec : AccountSpec) (now : DateTime) : StoreM String := do
  raiseIf (spec.accountType ∉ accountTypes) (.validation s!"unknown account_type {service.repr spec.accountType}")
  raiseIf (spec.accountSubtype ∉ accountSubtypes)
    (.validation s!"unknown account_subtype {service.repr spec.accountSubtype}")
  raiseIf (∃ ownerType ∈ spec.ownerType, ownerType ∉ ownerTypes)
    (.validation s!"unknown owner_type {service.repr (spec.ownerType.getD default)}")
  raiseIf (spec.currency ≠ "BDT") (.validation "currency must be 'BDT' in v1")
  let accountId ← attempt
    (service.resolveAccountId spec.accountSubtype spec.purposeTag spec.ownerId spec.currency)
  transaction (addAccount spec accountId now)

/-! Validation of an entry -/

/-- The running debit and credit sums of a list of posting specs. -/
def validatePostings (debit credit : Int) : List PostingSpec → Except LedgerError (Int × Int)
  | [] => .ok (debit, credit)
  | posting :: rest =>
    if posting.side ∉ sides then
      .error (.validation s!"posting side must be DEBIT|CREDIT, got {service.repr posting.side}")
    else if posting.accountId = "" then .error (.validation "posting account_id is required")
    else if posting.currency ≠ "BDT" then
      .error (.validation s!"posting currency must be 'BDT', got {service.repr posting.currency}")
    else
      match requireAmountMinor posting.amountMinor with
      | .error error => .error error
      | .ok amount =>
        if posting.side = "DEBIT" then validatePostings (debit + amount) credit rest
        else validatePostings debit (credit + amount) rest

variable (spec : JournalEntrySpec)

def validateEntrySpec : Except LedgerError Unit :=
  if spec.referenceId = "" then .error (.validation "reference_id is required")
  else if spec.referenceType ∉ referenceTypes then
    .error (.validation s!"unknown reference_type {service.repr spec.referenceType}")
  else if spec.entryType ∉ entryTypes then
    .error (.validation s!"unknown entry_type {service.repr spec.entryType}")
  else if spec.description = "" then .error (.validation "description is required (PII-free)")
  else if spec.producedBy = "" then .error (.validation "produced_by is required")
  else if spec.idempotencyKey = "" then .error (.validation "idempotency_key is required")
  else if spec.postings.length < 2 then
    .error (.validation "a journal entry requires at least 2 postings")
  else
    match service.validatePostings 0 0 spec.postings with
    | .error error => .error error
    | .ok (debit, credit) =>
      if debit ≠ credit then
        .error (.imbalance s!"postings do not sum to zero: debit={debit} credit={credit}")
      else .ok ()

/-! Chain mechanics -/

def genesisPayloadHash : String := service.sha256 "genesis"

variable (chainDomain : String)

def genesisPointer : String := "genesis://bdpay/" ++ chainDomain

variable (producedAt : DateTime)

/-- The genesis row of a domain, given its hash. -/
def genesisRow (chainHash : String) : ChainEntryRow where
  chainDomain := chainDomain
  chainIndex := 0
  entryType := genesisEntryType
  payloadHash := service.genesisPayloadHash
  payloadPointer := genesisPointer chainDomain
  prevChainHash := genesisPrevHash
  amountMinorSum := 0
  chainHash := chainHash
  isCheckpoint := false
  checkpointSequenceInDomain := none
  checkpointSig := none
  checkpointPublicKeyB64 := none
  producer := service.producer
  producedAt := producedAt

def insertGenesis : TxM ChainEntryRow := do
  let chainHash ← attempt (computeEntryHash service.sha256 service.repr {
    prevHash := genesisPrevHash
    chainIndex := 0
    chainDomain := chainDomain
    entryType := genesisEntryType
    payloadHash := service.genesisPayloadHash
    payloadPointer := genesisPointer chainDomain
    amountMinorSum := 0
    producer := service.producer
    producedAt := toCanonicalTs producedAt })
  insertChainEntry service.repr (service.genesisRow chainDomain producedAt chainHash)
  return service.genesisRow chainDomain producedAt chainHash

/-- The tip to append behind; a domain without rows gets its genesis row first. -/
def lockOrCreateTip : TxM ChainTip := do
  let tx ← get
  match tx.lockChainTip chainDomain with
  | some tip => return tip
  | none => do
      let genesis ← service.insertGenesis chainDomain producedAt
      return ⟨genesis.chainIndex, genesis.chainHash⟩

/-- What `_append_chain_entry` is asked to seal. -/
structure ChainAppend where
  (chainDomain entryType payloadHash payloadPointer : String)
  amountMinorSum : Int
  producedAt : DateTime

def isCheckpointIndex (index : Int) : Bool := index % service.checkpointInterval == 0

/-- The row sealed behind a tip, given its hash. -/
def chainRow (request : ChainAppend) (tip : ChainTip) (chainHash : String) : ChainEntryRow :=
  let nextIndex := tip.chainIndex + 1
  let isCheckpoint := service.isCheckpointIndex nextIndex
  { chainDomain := request.chainDomain
    chainIndex := nextIndex
    entryType := request.entryType
    payloadHash := request.payloadHash
    payloadPointer := request.payloadPointer
    prevChainHash := tip.chainHash
    amountMinorSum := request.amountMinorSum
    chainHash := chainHash
    isCheckpoint := isCheckpoint
    checkpointSequenceInDomain := if isCheckpoint then some (nextIndex / service.checkpointInterval) else none
    checkpointSig := if isCheckpoint then some (service.sign chainHash).1 else none
    checkpointPublicKeyB64 := if isCheckpoint then some (service.sign chainHash).2 else none
    producer := service.producer
    producedAt := request.producedAt }

def checkpointRow (request : ChainAppend) (checkpointId : String) (nextIndex : Int) (chainHash : String) :
    CheckpointRow where
  checkpointId := checkpointId
  chainDomain := request.chainDomain
  checkpointSequenceInDomain := nextIndex / service.checkpointInterval
  chainIndexFrom := nextIndex - service.checkpointInterval + 1
  chainIndexTo := nextIndex
  chainHashAtCheckpoint := chainHash
  checkpointSig := (service.sign chainHash).1
  checkpointPublicKeyB64 := (service.sign chainHash).2
  entriesInSegment := service.checkpointInterval
  signedAt := request.producedAt

/-- Returns the new index, its chain hash and the hash it is linked to. -/
def appendChainEntry (request : ChainAppend) : TxM (Int × String × String) := do
  let tip ← service.lockOrCreateTip request.chainDomain request.producedAt
  let nextIndex := tip.chainIndex + 1
  let chainHash ← attempt (computeEntryHash service.sha256 service.repr {
    prevHash := tip.chainHash
    chainIndex := nextIndex
    chainDomain := request.chainDomain
    entryType := request.entryType
    payloadHash := request.payloadHash
    payloadPointer := request.payloadPointer
    amountMinorSum := request.amountMinorSum
    producer := service.producer
    producedAt := toCanonicalTs request.producedAt })
  insertChainEntry service.repr (service.chainRow request tip chainHash)
  if service.isCheckpointIndex nextIndex then do
    let checkpointId ← attempt (service.makeLedgerId "lckp" [
      ("chain_domain", .str request.chainDomain),
      ("checkpoint_sequence_in_domain", .int (nextIndex / service.checkpointInterval)),
      ("chain_hash", .str chainHash)])
    insertCheckpoint (service.checkpointRow request checkpointId nextIndex chainHash)
    return (nextIndex, chainHash, tip.chainHash)
  else return (nextIndex, chainHash, tip.chainHash)

/-- The body of the transaction of `initialize_chain`. -/
def ensureGenesis : TxM Unit := do
  let tx ← get
  match tx.lockChainTip chainDomain with
  | some _ => return ()
  | none => do
      let _ ← service.insertGenesis chainDomain producedAt
      return ()

def initializeChain (now : DateTime) : StoreM Unit :=
  transaction (service.ensureGenesis chainDomain now)

/-! The atomic bundle -/

def entryIdFor : Except LedgerError String :=
  service.makeId "je" [
    ("reference_id", .str spec.referenceId),
    ("entry_type", .str spec.entryType),
    ("idempotency_key", .str spec.idempotencyKey)]

def postingIdFor (entryId : String) (posting : PostingSpec) (ordinal : Nat) : Except LedgerError String :=
  service.makeId "post" [
    ("entry_id", .str entryId),
    ("account_id", .str posting.accountId),
    ("side", .str posting.side),
    ("amount_minor", .int posting.amountMinor),
    ("ordinal", .int ordinal)]

def entryRow (entryId : String) (entryIndex : Int) (producedAt : DateTime) :
    JournalEntryRow where
  entryId := entryId
  entryIndex := entryIndex
  referenceId := spec.referenceId
  referenceType := spec.referenceType
  entryType := spec.entryType
  description := spec.description
  producedBy := spec.producedBy
  producedAt := producedAt
  idempotencyKey := spec.idempotencyKey

def postingRow (entryId postingId : String) (producedAt : DateTime) (posting : PostingSpec) : PostingRow where
  postingId := postingId
  entryId := entryId
  accountId := posting.accountId
  side := posting.side
  amountMinor := posting.amountMinor
  currency := posting.currency
  producedAt := producedAt

def insertPostings (entryId : String) (producedAt : DateTime) (ordinal : Nat) :
    List PostingSpec → TxM (List PostingRow)
  | [] => return []
  | posting :: rest => do
      let postingId ← attempt (service.postingIdFor entryId posting ordinal)
      let row := postingRow entryId postingId producedAt posting
      insertPosting service.repr row
      let rows ← insertPostings entryId producedAt (ordinal + 1) rest
      return row :: rows

/-- Whether an account can be posted to. -/
def isOpen (account : Option AccountRow) : Bool := account.any fun row => row.closedAt.isNone

def requirePostingAccount (accountId : String) : TxM Unit := do
  let tx ← get
  raiseIf (isOpen (tx.getAccount accountId) = false)
    (.accountNotFound s!"posting account {accountId} is absent or closed")

def postedEnvelope (entryId eventId : String) (amountMinorSum : Int)
    (producedAt : DateTime) : PyValue :=
  .dict [
    ("event_id", .str eventId),
    ("type", .str "journal_entry.posted"),
    ("occurred_at", .str (toCanonicalTs producedAt)),
    ("subject_type", .str "JournalEntry"),
    ("subject_id", .str entryId),
    ("schema_version", .int 1),
    ("producer", .str service.producer),
    ("payload", .dict [
      ("entry_id", .str entryId),
      ("entry_type", .str spec.entryType),
      ("reference_id", .str spec.referenceId),
      ("reference_type", .str spec.referenceType),
      ("amount_minor_sum", .int amountMinorSum)])]

def amountSum (postings : List PostingRow) : Int := (postings.map PostingRow.amountMinor).sum

def appendJournalEntry : TxM String := do
  attempt (service.validateEntrySpec spec)
  let entryId ← attempt (service.entryIdFor spec)
  let tx ← get
  raiseIf (tx.writeGateState.engaged = true)
    (.writeGateEngaged s!"write gate engaged ({tx.writeGateState.reason.getD default}); money movement is halted")
  raiseIf ((tx.findEntryIdByIdempotencyKey spec.idempotencyKey).isSome = true)
    (.duplicate spec.idempotencyKey ((tx.findEntryIdByIdempotencyKey spec.idempotencyKey).getD default))
  forEach (spec.postings.map PostingSpec.accountId).dedup requirePostingAccount
  let entryIndex ← insertJournalEntry (entryRow spec entryId 0 producedAt)
  let postings ← service.insertPostings entryId producedAt 0 spec.postings
  let payloadHash ← attempt
    (journalEntryPayloadHash service.sha256 (entryRow spec entryId entryIndex producedAt) postings)
  let _ ← service.appendChainEntry {
    chainDomain := moneyDomain
    entryType := spec.entryType
    payloadHash := payloadHash
    payloadPointer := payloadPointerFor entryId producedAt
    amountMinorSum := amountSum postings
    producedAt := producedAt }
  let eventId ← attempt (service.makeId "obx" [
    ("type", .str "journal_entry.posted"),
    ("subject_id", .str entryId)])
  let payloadJson ← attempt (raiseCanonical (canonicalJson
    (service.postedEnvelope spec entryId eventId (amountSum postings) producedAt)))
  insertOutbox {
    eventId := eventId
    topic := "payment.events"
    eventType := "journal_entry.posted"
    subjectType := "JournalEntry"
    subjectId := entryId
    payloadJson := payloadJson
    producer := service.producer
    occurredAt := producedAt }
  return entryId

def postJournalEntry (now : DateTime) : StoreM String := do
  attempt (service.validateEntrySpec spec)
  transaction (service.appendJournalEntry spec now)

/-! Holds -/

structure HoldRequest where
  accountId : String
  amountMinor : Int
  (holdReason referenceId : String)
  sourceAccountId : Option String := none
  holdReserveAccountId : Option String := none
  holdExpiresAt : Option DateTime := none

variable (request : HoldRequest)

def HoldRequest.sourceId : String :=
  (orText request.sourceAccountId (some request.accountId)).getD request.accountId

def HoldRequest.reserveId : String :=
  (orText request.holdReserveAccountId (some request.accountId)).getD request.accountId

def holdExpiry (openedAt : DateTime) : Except LedgerError DateTime :=
  match request.holdExpiresAt with
  | some expiresAt => .ok expiresAt
  | none =>
    match openedAt.addDays? holdTtlDays with
    | some expiresAt => .ok expiresAt
    | none => .error .overflow

def holdIdFor (openedAt : DateTime) : Except LedgerError String :=
  service.makeLedgerId "hold" [
    ("account_id", .str request.accountId),
    ("reference_id", .str request.referenceId),
    ("amount_minor", .int request.amountMinor),
    ("hold_opened_at", .str (toCanonicalTs openedAt))]

/-- One round of the loop over the account, the source and the reserve. -/
def requireHoldAccount (named : String × String) : TxM Unit := do
  let tx ← get
  raiseIf (isOpen (tx.getAccount named.2) = false)
    (.accountNotFound s!"{named.1} {named.2} is absent or closed")

def openSpec (idempotencyKey : String) : JournalEntrySpec where
  referenceId := request.referenceId
  referenceType := "HOLD"
  entryType := "hold_opened"
  description := "hold opened: " ++ request.holdReason
  producedBy := service.producer
  idempotencyKey := idempotencyKey
  postings := [
    { accountId := request.sourceId, side := "DEBIT", amountMinor := request.amountMinor },
    { accountId := request.reserveId, side := "CREDIT", amountMinor := request.amountMinor }]

def openHoldRow (holdId openJeId : String) (openedAt expiresAt : DateTime) :
    AccountHoldRow where
  holdId := holdId
  accountId := request.accountId
  holdReserveAccountId := request.reserveId
  sourceAccountId := request.sourceId
  referenceId := request.referenceId
  amountMinor := request.amountMinor
  holdReason := request.holdReason
  status := "OPEN"
  holdOpenedAt := openedAt
  holdExpiresAt := expiresAt
  holdClosedAt := none
  openJeId := openJeId
  closeJeId := none

/-- Opens a hold for a reference that has none open. -/
def openNewHold (holdId : String) (openedAt expiresAt : DateTime) : TxM String := do
  forEach [("account", request.accountId), ("source account", request.sourceId),
    ("hold reserve account", request.reserveId)] requireHoldAccount
  let idempotencyKey ← attempt (service.makeId "je" [
    ("hold_id", .str holdId),
    ("reference_id", .str request.referenceId),
    ("entry_type", .str "hold_opened")])
  let openJeId ← service.appendJournalEntry (service.openSpec request idempotencyKey) openedAt
  insertAccountHold service.repr (openHoldRow request holdId openJeId openedAt expiresAt)
  return holdId

/-- The body of the transaction of `open_hold`: a hold that is open already is returned. -/
def findOrOpenHold (holdId : String) (openedAt expiresAt : DateTime) : TxM String := do
  let tx ← get
  match tx.getOpenAccountHoldByReference request.referenceId with
  | some existing => return existing.holdId
  | none => service.openNewHold request holdId openedAt expiresAt

def openHold (now : DateTime) : StoreM String := do
  let _ ← attempt (requireAmountMinor request.amountMinor)
  raiseIf (request.accountId = "" ∨ request.referenceId = "" ∨ request.holdReason = "")
    (.validation "account_id, reference_id and hold_reason are required")
  let expiresAt ← attempt (holdExpiry request now)
  let holdId ← attempt (service.holdIdFor request now)
  transaction (service.findOrOpenHold request holdId now expiresAt)

/-- The outcomes of a hold and the entry type each one is journalled as. -/
def closingEntryType : String → Option String
  | "CAPTURED" => some "hold_captured"
  | "VOIDED" => some "hold_voided"
  | "EXPIRED" => some "hold_expired"
  | _ => none

variable (hold : AccountHoldRow)

def captureAmount (amountMinor : Option Int) : Except LedgerError Int :=
  match amountMinor with
  | none => .ok hold.amountMinor
  | some amount => requireAmountMinor amount

/-- The postings that close a hold: the whole reserve is debited; a capture credits
the captured part to the account and the rest, if any, to the source. -/
def closingPostings (outcome : String) (amountMinor : Option Int) (capture : Int) :
    Except LedgerError (List PostingSpec) :=
  if outcome = "CAPTURED" then
    .ok ([{ accountId := hold.holdReserveAccountId, side := "DEBIT", amountMinor := hold.amountMinor },
      { accountId := hold.accountId, side := "CREDIT", amountMinor := capture }] ++
      if 0 < hold.amountMinor - capture then
        [{ accountId := hold.sourceAccountId, side := "CREDIT", amountMinor := hold.amountMinor - capture }]
      else [])
  else if amountMinor ≠ none ∧ capture ≠ hold.amountMinor then
    .error (.amount "void/expiry must release the full hold amount")
  else
    .ok [{ accountId := hold.holdReserveAccountId, side := "DEBIT", amountMinor := hold.amountMinor },
      { accountId := hold.sourceAccountId, side := "CREDIT", amountMinor := hold.amountMinor }]

def closeSpec (outcome entryType idempotencyKey : String)
    (postings : List PostingSpec) : JournalEntrySpec where
  referenceId := hold.referenceId
  referenceType := "HOLD"
  entryType := entryType
  description := "hold " ++ String.ofList (outcome.toList.map Char.toLower)
  producedBy := service.producer
  idempotencyKey := idempotencyKey
  postings := postings

def closedHoldRow (outcome closeJeId : String) (closedAt : DateTime) : AccountHoldRow :=
  { hold with status := outcome, holdClosedAt := some closedAt, closeJeId := some closeJeId }

/-- Closes a hold that is open. -/
def closeHold (outcome entryType : String) (amountMinor : Option Int)
    (closedAt : DateTime) : TxM Unit := do
  let capture ← attempt (captureAmount hold amountMinor)
  raiseIf (hold.amountMinor < capture) (.amount "hold release amount must be <= the open hold amount")
  let postings ← attempt (closingPostings hold outcome amountMinor capture)
  let idempotencyKey ← attempt (service.makeId "je" [
    ("hold_id", .str hold.holdId),
    ("entry_type", .str entryType),
    ("amount_minor", .int capture)])
  let closeJeId ← service.appendJournalEntry
    (service.closeSpec hold outcome entryType idempotencyKey postings) closedAt
  updateAccountHold service.repr (closedHoldRow hold outcome closeJeId closedAt)

/-- The body of the transaction of `release_hold`: a hold closed with the same
outcome already is left as it is. -/
def findAndCloseHold (holdId outcome entryType : String) (amountMinor : Option Int) (closedAt : DateTime) :
    TxM Unit := do
  let tx ← get
  match tx.getAccountHold holdId with
  | none => throw (.validation s!"unknown hold {holdId}")
  | some hold =>
    if hold.status ≠ "OPEN" then
      if hold.status = outcome then return ()
      else throw (.validation s!"hold {holdId} is {hold.status}, cannot release as {outcome}")
    else service.closeHold hold outcome entryType amountMinor closedAt

def releaseHold (holdId outcome : String) (amountMinor : Option Int) (now : DateTime) : StoreM Unit :=
  match closingEntryType outcome with
  | none => throw (.validation "hold outcome must be one of CAPTURED, VOIDED or EXPIRED")
  | some entryType => transaction (service.findAndCloseHold holdId outcome entryType amountMinor now)

/-! Audit events -/

/-- `text or ""`. -/
def textOrEmpty (text : Option String) : String := text.getD ""

variable (spec : AuditEventSpec)

def auditEventIdFor (actorId : String) (occurredAt : DateTime) :
    Except LedgerError String :=
  service.makeId "aud" [
    ("actor_id", .str actorId),
    ("subject_type", .str spec.subjectType),
    ("subject_id", .str spec.subjectId),
    ("event_type", .str spec.eventType),
    ("from_state", .str (textOrEmpty spec.fromState)),
    ("to_state", .str (textOrEmpty spec.toState)),
    ("occurred_at", .str (toCanonicalTs occurredAt))]

/-- The fields on which a stored audit event can disagree with the one to write. -/
def auditDisagreement (existing : AuditEventRow) (spec : AuditEventSpec) (actorId : String)
    (occurredAt : DateTime) : Option String :=
  if existing.eventType ≠ spec.eventType then some "event_type"
  else if existing.actorId ≠ actorId then some "actor_id"
  else if existing.actorType ≠ spec.actorType then some "actor_type"
  else if existing.subjectType ≠ spec.subjectType then some "subject_type"
  else if existing.subjectId ≠ spec.subjectId then some "subject_id"
  else if textOrEmpty existing.fromState ≠ textOrEmpty spec.fromState then some "from_state"
  else if textOrEmpty existing.toState ≠ textOrEmpty spec.toState then some "to_state"
  else if toCanonicalTs existing.occurredAt ≠ toCanonicalTs occurredAt then some "occurred_at"
  else none

def assertAuditEventIdentity (existing : AuditEventRow) (spec : AuditEventSpec) (actorId : String)
    (occurredAt : DateTime) : Except LedgerError Unit :=
  match auditDisagreement existing spec actorId occurredAt with
  | some field => .error (.validation
      s!"audit event {service.repr existing.eventId} already exists with a different {field}")
  | none => .ok ()

/-- A replay of a stored audit event: accepted only when nothing differs. -/
def replayAuditEvent (existing : AuditEventRow) (spec : AuditEventSpec) (actorId eventId payloadHash : String)
    (occurredAt : DateTime) : Except LedgerError String :=
  match service.assertAuditEventIdentity existing spec actorId occurredAt with
  | .error error => .error error
  | .ok () =>
    if existing.payloadHash ≠ payloadHash then
      .error (.validation s!"audit event {service.repr eventId} already exists with a different payload")
    else .ok eventId

def auditRow (actorId eventId payloadHash payloadJson : String) (occurredAt : DateTime) :
    AuditEventRow where
  eventId := eventId
  entryIndex := 0
  eventType := spec.eventType
  actorId := actorId
  actorType := spec.actorType
  subjectType := spec.subjectType
  subjectId := spec.subjectId
  fromState := spec.fromState
  toState := spec.toState
  payloadHash := payloadHash
  payloadPointer := auditPayloadPointerFor eventId occurredAt
  payloadJson := payloadJson
  prevChainHash := ""
  chainHash := ""
  piiRedacted := true
  occurredAt := occurredAt

def insertAudit (actorId eventId payloadHash : String) (redacted : PyValue)
    (occurredAt : DateTime) : TxM String := do
  let payloadJson ← attempt (raiseCanonical (canonicalJson redacted))
  let row := auditRow spec actorId eventId payloadHash payloadJson occurredAt
  let envelopeHash ← attempt (raiseCanonical (sha256Canonical service.sha256 (auditEventPayload row)))
  let sealed ← service.appendChainEntry {
    chainDomain := auditDomain
    entryType := spec.eventType
    payloadHash := envelopeHash
    payloadPointer := row.payloadPointer
    amountMinorSum := 0
    producedAt := occurredAt }
  let _ ← insertAuditEvent { row with prevChainHash := sealed.2.2, chainHash := sealed.2.1 }
  return eventId

def isDuplicateEvent : LedgerError → Bool
  | .duplicateEvent _ => true
  | _ => false

def isDict : PyValue → Bool
  | .dict _ => true
  | _ => false

def writeAuditEvent (occurredAt? : Option DateTime) (now : DateTime) : StoreM String := do
  raiseIf (spec.eventType ∉ auditEventTypes)
    (.validation s!"unknown audit event_type {service.repr spec.eventType}")
  raiseIf (spec.actorType ∉ actorTypes) (.validation s!"unknown actor_type {service.repr spec.actorType}")
  raiseIf (spec.actorId = "") (.validation "actor_id is required")
  raiseIf (spec.subjectType = "") (.validation "subject_type is required")
  raiseIf (spec.subjectId = "") (.validation "subject_id is required")
  raiseIf (isDict spec.payload = false) (.validation "audit payload must be a dict")
  let occurredAt := occurredAt?.getD now
  let actorId := service.redact spec.actorId
  let redacted := service.redactPayload none spec.payload
  let payloadHash ← attempt (raiseCanonical (sha256Canonical service.sha256 redacted))
  let eventId ← attempt (service.auditEventIdFor spec actorId occurredAt)
  let store ← get
  match store.audit.get? eventId with
  | some existing => attempt (service.replayAuditEvent existing spec actorId eventId payloadHash occurredAt)
  | none =>
    catchWhen isDuplicateEvent
      (transaction (service.insertAudit spec actorId eventId payloadHash redacted occurredAt))
      do
        let store ← get
        match store.audit.get? eventId with
        | some existing => attempt (service.replayAuditEvent existing spec actorId eventId payloadHash occurredAt)
        | none => throw (.validation
            s!"audit event {service.repr eventId} already exists with a different payload")

/-! Outbox events outside the journal bundle -/

structure EventRequest where
  (eventType subjectType subjectId : String)
  payload : PyValue
  topic : String
  producer : Option String := none
  occurredAt : Option DateTime := none

def eventEnvelope (request : EventRequest) (eventId producer : String) (redacted : PyValue) (occurredAt : DateTime) :
    PyValue :=
  .dict [
    ("event_id", .str eventId),
    ("type", .str request.eventType),
    ("occurred_at", .str (toCanonicalTs occurredAt)),
    ("subject_type", .str request.subjectType),
    ("subject_id", .str request.subjectId),
    ("schema_version", .int 1),
    ("producer", .str producer),
    ("payload", redacted)]

def eventRow (request : EventRequest) (eventId envelopeJson producer : String) (occurredAt : DateTime) :
    OutboxRow where
  eventId := eventId
  topic := request.topic
  eventType := request.eventType
  subjectType := request.subjectType
  subjectId := request.subjectId
  payloadJson := envelopeJson
  producer := producer
  occurredAt := occurredAt

def insertEvent (row : OutboxRow) : TxM String := do
  insertOutbox row
  return row.eventId

/-- A replay of a stored outbox event. -/
def replayEvent (existing : OutboxRow) (request : EventRequest) (eventId envelopeJson : String) :
    Except LedgerError String :=
  if existing.payloadJson ≠ envelopeJson then
    .error (.validation s!"outbox event {service.repr eventId} already exists with a different payload")
  else if existing.topic ≠ request.topic then
    .error (.validation s!"outbox event {service.repr eventId} already exists with a different topic")
  else .ok eventId

def emitEvent (request : EventRequest) (now : DateTime) : StoreM String := do
  raiseIf (request.topic ∉ topics)
    (.validation s!"unknown topic {service.repr request.topic}; topics are a closed registry (spec 00 §5)")
  raiseIf (request.eventType = "" ∨ '.' ∉ request.eventType.toList)
    (.validation s!"event_type must be '<entity>.<past_tense_verb>', got {service.repr request.eventType}")
  let occurredAt := request.occurredAt.getD now
  let producer := (orText request.producer none).getD service.producer
  let redacted := service.redactPayload none request.payload
  let payloadHash ← attempt (raiseCanonical (sha256Canonical service.sha256 redacted))
  let eventId ← attempt (service.makeId "obx" [
    ("type", .str request.eventType),
    ("subject_type", .str request.subjectType),
    ("subject_id", .str request.subjectId),
    ("occurred_at", .str (toCanonicalTs occurredAt)),
    ("payload_hash", .str payloadHash)])
  let envelopeJson ← attempt
    (raiseCanonical (canonicalJson (eventEnvelope request eventId producer redacted occurredAt)))
  let store ← get
  match store.outbox.get? eventId with
  | some existing => attempt (service.replayEvent existing request eventId envelopeJson)
  | none =>
    catchWhen isDuplicateEvent
      (transaction (insertEvent (eventRow request eventId envelopeJson producer occurredAt)))
      do
        let store ← get
        match store.outbox.get? eventId with
        | some existing => attempt (service.replayEvent existing request eventId envelopeJson)
        | none => throw (.validation
            s!"outbox event {service.repr eventId} already exists with a different payload")

/-! Trial balance -/

def trialBalanceAssertion (now : DateTime) : StoreM Unit := do
  let store ← get
  let balance := store.trialBalance
  if balance.balanced = false then do
    set (store.engageWriteGate
      s!"trial balance violated: debit={balance.totalDebitMinor} credit={balance.totalCreditMinor}" now)
    throw (.trialBalanceViolation balance.totalDebitMinor balance.totalCreditMinor)
  else return ()

end LedgerService

end BdPay.Ledger
