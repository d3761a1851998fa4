import BdPay.Ledger.Service

namespace BdPay.Ledger

open Data Platform

/-! Chain verification: the walk over the rows, the checkpoint cross-check and the
deep check against journal and postings; then the calls of the service as one type. -/

/-- The range and depth a verification is asked for. -/
structure VerifyRequest where
  chainDomain : String := moneyDomain
  fromIndex : Int := 0
  toIndex : Option Int := none
  deep : Bool := true

/-- Where the walk stands. -/
structure Walk where
  prevHash : String
  (expectedIndex checked cpsVerified : Int)

/-- A check either ends the verification with a result or lets it go on. -/
inductive Verdict (α : Type) where
  | stop (result : ChainVerificationResult)
  | goOn (value : α)

def broken (index : Option Int) (detail : String) (checked cps : Int) : ChainVerificationResult where
  status := .failedBrokenChain
  entriesChecked := checked
  firstBrokenIndex := index
  checkpointsVerified := cps
  detail := some detail

def badSig (index : Int) (detail : String) (checked cps : Int) : ChainVerificationResult where
  status := .failedInvalidCheckpointSig
  entriesChecked := checked
  firstBrokenIndex := some index
  checkpointsVerified := cps
  detail := some detail

/-- What the seal of a stored row is recomputed from. -/
def ChainEntryRow.preimage (row : ChainEntryRow) (prevHash : String) : Preimage where
  prevHash := prevHash
  chainIndex := row.chainIndex
  chainDomain := row.chainDomain
  entryType := row.entryType
  payloadHash := row.payloadHash
  payloadPointer := row.payloadPointer
  amountMinorSum := row.amountMinorSum
  producer := row.producer
  producedAt := toCanonicalTs row.producedAt

namespace LedgerService

variable (service : LedgerService)

variable (store : MemoryStore)

/-- The deep check of one row: the complaint it raises, if any. -/
def deepVerifyMoneyRow (row : ChainEntryRow) : Except LedgerError (Option String) :=
  match entryIdFromPointer row.payloadPointer with
  | none => .ok (some "payload_pointer is not a parseable ledger pointer")
  | some entryId =>
    match store.journal.get? entryId with
    | none => .ok (some s!"journal entry {entryId} referenced by the chain is missing (row deleted)")
    | some entry =>
      let postings := store.getPostingsForEntry entryId
      let debit := ((postings.filter fun posting => posting.side = "DEBIT").map PostingRow.amountMinor).sum
      let credit := ((postings.filter fun posting => posting.side = "CREDIT").map PostingRow.amountMinor).sum
      if postings.length < 2 then
        .ok (some s!"journal entry {entryId} has {postings.length} postings (rows deleted)")
      else if debit ≠ credit then
        .ok (some s!"journal entry {entryId} is imbalanced: debit={debit} credit={credit}")
      else if debit + credit ≠ row.amountMinorSum then
        .ok (some (s!"amount_minor_sum mismatch for {entryId}: chain says {row.amountMinorSum}, " ++
          s!"postings sum to {debit + credit} (amounts mutated)"))
      else if entry.entryType ≠ row.entryType then
        .ok (some s!"entry_type mismatch for {entryId} (journal row mutated)")
      else if toCanonicalTs entry.producedAt ≠ toCanonicalTs row.producedAt then
        .ok (some s!"produced_at mismatch for {entryId} (journal row mutated)")
      else
        (journalEntryPayloadHash service.sha256 entry postings).map fun recomputed =>
          if recomputed ≠ row.payloadHash then
            some (s!"payload_hash mismatch for {entryId}: journal/posting content does not " ++
              "match the hash sealed into the chain")
          else none

/-- Signature, trust and sequence of a checkpoint row. -/
def verifyCheckpointRow (row : ChainEntryRow) (walk : Walk) : Verdict Walk :=
  match row.checkpointSig, row.checkpointPublicKeyB64 with
  | some sig, some publicKey =>
    if publicKey ∉ service.trustedKeys then
      .stop (badSig row.chainIndex "checkpoint signed with an UNTRUSTED public key (forged checkpoint)"
        walk.checked walk.cpsVerified)
    else if service.verifyCheckpoint row.chainHash sig publicKey = false then
      .stop (badSig row.chainIndex "Ed25519 checkpoint signature verification failed"
        walk.checked walk.cpsVerified)
    else if row.checkpointSequenceInDomain ≠ some (row.chainIndex / service.checkpointInterval) then
      .stop (broken (some row.chainIndex) "checkpoint_sequence_in_domain inconsistent with chain_index"
        walk.checked walk.cpsVerified)
    else .goOn { walk with cpsVerified := walk.cpsVerified + 1 }
  | _, _ =>
    .stop (badSig row.chainIndex "checkpoint row is missing signature or public key"
      walk.checked walk.cpsVerified)

/-- Placement of the checkpoint flag, then the checkpoint itself. -/
def verifyPlacement (row : ChainEntryRow) (walk : Walk) : Verdict Walk :=
  let shouldBeCheckpoint := decide (0 < row.chainIndex) && service.isCheckpointIndex row.chainIndex
  if shouldBeCheckpoint ≠ row.isCheckpoint then
    .stop (broken (some row.chainIndex) "checkpoint placement violated (is_checkpoint flag tampered)"
      walk.checked walk.cpsVerified)
  else if row.isCheckpoint then service.verifyCheckpointRow row walk
  else .goOn walk

variable (request : VerifyRequest)

/-- One round of the walk. -/
def verifyRow (row : ChainEntryRow) (walk : Walk) :
    Except LedgerError (Verdict Walk) :=
  if row.chainIndex ≠ walk.expectedIndex then
    .ok (.stop (broken (some row.chainIndex)
      (s!"chain gap: expected index {walk.expectedIndex}, found {row.chainIndex} " ++
        "(row deleted or reordered)") walk.checked walk.cpsVerified))
  else if row.prevChainHash ≠ walk.prevHash then
    .ok (.stop (broken (some row.chainIndex) "prev_chain_hash does not match the preceding row's chain_hash"
      walk.checked walk.cpsVerified))
  else
    match computeEntryHash service.sha256 service.repr (row.preimage walk.prevHash) with
    | .error error => .error error
    | .ok expectedHash =>
      if expectedHash ≠ row.chainHash then
        .ok (.stop (broken (some row.chainIndex) "recomputed chain_hash does not match the stored chain_hash"
          walk.checked walk.cpsVerified))
      else
        match service.verifyPlacement row walk with
        | .stop result => .ok (.stop result)
        | .goOn placed =>
          let next : Walk := {
            prevHash := row.chainHash
            expectedIndex := walk.expectedIndex + 1
            checked := walk.checked + 1
            cpsVerified := placed.cpsVerified }
          if request.deep = true ∧ request.chainDomain = moneyDomain ∧ 0 < row.chainIndex then
            (service.deepVerifyMoneyRow store row).map fun complaint =>
              match complaint with
              | some detail => .stop (broken (some row.chainIndex) detail walk.checked placed.cpsVerified)
              | none => .goOn next
          else .ok (.goOn next)

def verifyRows (store : MemoryStore) (request : VerifyRequest) :
    List ChainEntryRow → Walk → Except LedgerError (Verdict Walk)
  | [], walk => .ok (.goOn walk)
  | row :: rest, walk =>
    match service.verifyRow store request row walk with
    | .error error => .error error
    | .ok (.stop result) => .ok (.stop result)
    | .ok (.goOn next) => verifyRows store request rest next

/-- One row of the signed-checkpoint summary against the chain. -/
def crossCheck (walk : Walk) (cp : CheckpointRow) :
    Option ChainVerificationResult :=
  if (store.maxChainIndex request.chainDomain).all (fun maxIndex => decide (maxIndex < cp.chainIndexTo)) then
    some (broken (some cp.chainIndexTo) ("ledger_checkpoints references a chain index beyond the tip " ++
      "(chain truncated below a signed checkpoint)") walk.checked walk.cpsVerified)
  else
    match store.getChainEntry request.chainDomain cp.chainIndexTo with
    | none =>
      some (broken (some cp.chainIndexTo) "checkpoint summary row has no matching checkpoint chain row"
        walk.checked walk.cpsVerified)
    | some row =>
      if row.isCheckpoint = false then
        some (broken (some cp.chainIndexTo) "checkpoint summary row has no matching checkpoint chain row"
          walk.checked walk.cpsVerified)
      else if row.chainHash ≠ cp.chainHashAtCheckpoint ∨ row.checkpointSig ≠ some cp.checkpointSig then
        some (broken (some cp.chainIndexTo)
          "checkpoint summary row disagrees with the chain row (forged checkpoint)" walk.checked walk.cpsVerified)
      else if cp.checkpointPublicKeyB64 ∉ service.trustedKeys then
        some (badSig cp.chainIndexTo "checkpoint summary signed with an UNTRUSTED public key"
          walk.checked walk.cpsVerified)
      else if service.verifyCheckpoint cp.chainHashAtCheckpoint cp.checkpointSig cp.checkpointPublicKeyB64 = false then
        some (badSig cp.chainIndexTo "checkpoint summary Ed25519 signature verification failed"
          walk.checked walk.cpsVerified)
      else none

/-- After the walk: the checkpoint summary, then the count of a full deep pass. -/
def verifySummary (walk : Walk) : ChainVerificationResult :=
  match (store.listCheckpoints request.chainDomain).findSome? (service.crossCheck store request walk) with
  | some result => result
  | none =>
    if request.deep = true ∧ request.chainDomain = moneyDomain ∧ request.fromIndex = 0 ∧
        request.toIndex = none ∧ store.countJournalEntries ≠ walk.checked - 1 then
      broken none (s!"journal/chain count mismatch: {store.countJournalEntries} journal entries vs " ++
        s!"{walk.checked - 1} chain entries") walk.checked walk.cpsVerified
    else
      { status := .completed, entriesChecked := walk.checked, checkpointsVerified := walk.cpsVerified }

/-- The answer for a range without rows. -/
def verifyEmpty : ChainVerificationResult :=
  match store.listCheckpoints request.chainDomain, decide (request.fromIndex = 0) with
  | checkpoint :: _, true =>
    broken (some checkpoint.chainIndexTo)
      "signed checkpoints exist but the chain is empty (chain truncated)" 0 0
  | _, _ =>
    match request.toIndex with
    | some toIndex =>
      broken (some request.fromIndex) s!"requested range [{request.fromIndex},{toIndex}] is empty" 0 0
    | none =>
      if request.deep = true ∧ request.chainDomain = moneyDomain ∧ request.fromIndex = 0 ∧
          0 < store.countJournalEntries then
        broken (some 0) s!"{store.countJournalEntries} journal entries exist but the chain is empty" 0 0
      else { status := .completed, entriesChecked := 0 }

/-- The hash the first row of the range must be linked to. -/
def anchorHash : Option String :=
  if request.fromIndex = 0 then some genesisPrevHash
  else (store.getChainEntry request.chainDomain (request.fromIndex - 1)).map ChainEntryRow.chainHash

def verifyChainInner :
    Except LedgerError ChainVerificationResult :=
  match anchorHash store request with
  | none => .ok (broken (some (request.fromIndex - 1)) "anchor row before from_index is missing" 0 0)
  | some prevHash =>
    match store.iterChain request.chainDomain request.fromIndex request.toIndex with
    | [] => .ok (verifyEmpty store request)
    | rows =>
      match service.verifyRows store request rows ⟨prevHash, request.fromIndex, 0, 0⟩ with
      | .error error => .error error
      | .ok (.stop result) => .ok result
      | .ok (.goOn walk) => .ok (service.verifySummary store request walk)

/-- `verify_chain_status`: an unexpected exception is a failed result, never a pass. -/
def verifyChainStatus : ChainVerificationResult :=
  match service.verifyChainInner store request with
  | .ok result => result
  | .error error =>
    { status := .failedError
      detail := some (error.className ++ ": " ++ error.message service.repr) }

def showIndex : Option Int → String
  | some index => toString index
  | none => "None"

def verifyChain (now : DateTime) : StoreM ChainVerificationResult := do
  let store ← get
  let result := service.verifyChainStatus store request
  if result.status = .failedBrokenChain ∨ result.status = .failedInvalidCheckpointSig then do
    set (store.engageWriteGate (s!"CHAIN_TAMPER_DETECTED domain={request.chainDomain} " ++
      s!"first_broken_index={showIndex result.firstBrokenIndex} detail={result.detail.getD default}") now)
    return result
  else return result

end LedgerService

/-- The calls of the service that can write. -/
inductive Call where
  | createAccount (spec : AccountSpec)
  | postJournalEntry (spec : JournalEntrySpec)
  | openHold (request : LedgerService.HoldRequest)
  | releaseHold (holdId outcome : String) (amountMinor : Option Int)
  | writeAuditEvent (spec : AuditEventSpec) (occurredAt : Option DateTime)
  | emitEvent (request : LedgerService.EventRequest)
  | initializeChain (chainDomain : String)
  | verifyChain (request : VerifyRequest)
  | trialBalanceAssertion

namespace Call

/-- What a call returns. -/
inductive Answer where
  | id (text : String)
  | done
  | verified (result : ChainVerificationResult)

def perform (service : LedgerService) (now : DateTime) : Call → StoreM Answer
  | .createAccount spec => Answer.id <$> service.createAccount spec now
  | .postJournalEntry spec => Answer.id <$> service.postJournalEntry spec now
  | .openHold request => Answer.id <$> service.openHold request now
  | .releaseHold holdId outcome amountMinor =>
    (fun _ => Answer.done) <$> service.releaseHold holdId outcome amountMinor now
  | .writeAuditEvent spec occurredAt => Answer.id <$> service.writeAuditEvent spec occurredAt now
  | .emitEvent request => Answer.id <$> service.emitEvent request now
  | .initializeChain chainDomain => (fun _ => Answer.done) <$> service.initializeChain chainDomain now
  | .verifyChain request => Answer.verified <$> service.verifyChain request now
  | .trialBalanceAssertion => (fun _ => Answer.done) <$> LedgerService.trialBalanceAssertion now

/-- The store after a call, whether it returned or raised. -/
def after (service : LedgerService) (store : MemoryStore) (step : DateTime × Call) : MemoryStore :=
  match step.2.perform service step.1 store with
  | .ok _ store => store
  | .error _ store => store

/-- The store after a sequence of calls, each at its own clock reading. -/
def run (service : LedgerService) (steps : List (DateTime × Call)) (store : MemoryStore) : MemoryStore :=
  steps.foldl (after service) store

end Call

end BdPay.Ledger
