import BdPay.Ledger.Types
import BdPay.Platform.Ids

namespace BdPay.Ledger

open Data Text Platform PostingRow List

/-! The chain-hash preimage, the canonical payloads it seals and the pointers to them. -/

def genesisPrevHash : String := String.ofList (replicate 64 '0')

def chainDomains : List String := ["MONEY", "AUDIT"]

def toCanonicalTs (instant : DateTime) : String := String.ofList instant.isoMillis

/-- The keyword arguments of `compute_entry_hash`. -/
structure Preimage where
  prevHash : String
  chainIndex : Int
  (chainDomain entryType payloadHash payloadPointer : String)
  amountMinorSum : Int
  (producer producedAt : String)

def Preimage.fields (preimage : Preimage) : List (List Char) :=
  [preimage.prevHash.toList, decimal preimage.chainIndex, preimage.chainDomain.toList,
    preimage.entryType.toList, preimage.payloadHash.toList, preimage.payloadPointer.toList,
    decimal preimage.amountMinorSum, preimage.producer.toList, preimage.producedAt.toList]

def Preimage.text (preimage : Preimage) : String := String.ofList (delimited '|' preimage.fields)

section

variable (sha256 : String → String)

/-- Fails closed on malformed inputs; `repr` is Python's `repr` of a string. -/
def computeEntryHash (repr : String → String) (preimage : Preimage) : Except LedgerError String :=
  if preimage.chainDomain ∉ chainDomains then
    .error (.hashChain s!"chain_domain must be one of ('MONEY', 'AUDIT'), got {repr preimage.chainDomain}")
  else if preimage.payloadPointer = "" then
    .error (.hashChain "payload_pointer is mandatory in the hash preimage (doctrine §9.5)")
  else if preimage.prevHash = "" ∨ preimage.prevHash.length ≠ 64 then
    .error (.hashChain "prev_hash must be a 64-char hex digest (or the genesis sentinel)")
  else if preimage.chainIndex < 0 then
    .error (.hashChain s!"chain_index must be >= 0, got {preimage.chainIndex}")
  else if preimage.amountMinorSum < 0 then
    .error (.hashChain s!"amount_minor_sum must be a non-negative int, got {preimage.amountMinorSum}")
  else if endsWith preimage.producedAt.toList ['Z'] = false then
    .error (.hashChain "produced_at must be the canonical UTC ISO-8601 'Z' string")
  else .ok (sha256 preimage.text)

/-- `sorted(postings, key=lambda p: p.posting_id)`. -/
def sortPostings (postings : List PostingRow) : List PostingRow :=
  postings.insertionSort (fun left right => left.postingId ≤ right.postingId)

def postingPayload (posting : PostingRow) : PyValue :=
  .dict [
    ("posting_id", .str posting.postingId),
    ("account_id", .str posting.accountId),
    ("side", .str posting.side),
    ("amount_minor", .int posting.amountMinor),
    ("currency", .str posting.currency)]

def journalEntryPayload (entry : JournalEntryRow) (postings : List PostingRow) : PyValue :=
  .dict [
    ("entry_id", .str entry.entryId),
    ("reference_id", .str entry.referenceId),
    ("reference_type", .str entry.referenceType),
    ("entry_type", .str entry.entryType),
    ("description", .str entry.description),
    ("produced_by", .str entry.producedBy),
    ("produced_at", .str (toCanonicalTs entry.producedAt)),
    ("idempotency_key", .str entry.idempotencyKey),
    ("schema_version", .int entry.schemaVersion),
    ("postings", .list ((sortPostings postings).map postingPayload))]

/-- A pure computation of the platform, raised as the ledger sees it. -/
def raiseCanonical {α : Type} : Except CanonicalError α → Except LedgerError α
  | .ok value => .ok value
  | .error error => .error (.canonical error)

def raiseId {α : Type} : Except IdError α → Except LedgerError α
  | .ok value => .ok value
  | .error (.unknownPrefix text) => .error (.idPrefix text)
  | .error (.canonical error) => .error (.canonical error)

def journalEntryPayloadHash (entry : JournalEntryRow) (postings : List PostingRow) : Except LedgerError String :=
  raiseCanonical (sha256Canonical sha256 (journalEntryPayload entry postings))

end

def ledgerPointerStart : String := "s3://bd-pay-ledger"

def auditPointerStart : String := "s3://bd-pay-audit"

def pointerEnd : String := ".json.enc"

/-- `_pointer_for`: year, month and day are cut out of the canonical timestamp. -/
def pointerFor (start entityId : String) (instant : DateTime) : String :=
  let ts := (toCanonicalTs instant).toList
  String.ofList (start.toList ++ '/' :: (ts.take 4 ++ '/' :: ((ts.drop 5).take 2 ++ '/' ::
    ((ts.drop 8).take 2 ++ '/' :: (entityId.toList ++ pointerEnd.toList)))))

def payloadPointerFor (entryId : String) (producedAt : DateTime) : String :=
  pointerFor ledgerPointerStart entryId producedAt

def auditPayloadPointerFor (eventId : String) (occurredAt : DateTime) : String :=
  pointerFor auditPointerStart eventId occurredAt

def entryIdFromPointer (pointer : String) : Option String :=
  if beginsWith pointer.toList (ledgerPointerStart.toList ++ ['/']) = false ∨
      endsWith pointer.toList pointerEnd.toList = false then none
  else
    let entryId := Text.dropLast pointerEnd.toList.length (afterLast '/' pointer.toList)
    if entryId = [] then none else some (String.ofList entryId)

def auditEventPayload (row : AuditEventRow) : PyValue :=
  let optional : Option String → PyValue := fun text => (text.map PyValue.str).getD .none
  .dict [
    ("event_id", .str row.eventId),
    ("event_type", .str row.eventType),
    ("actor_id", .str row.actorId),
    ("actor_type", .str row.actorType),
    ("subject_type", .str row.subjectType),
    ("subject_id", .str row.subjectId),
    ("from_state", optional row.fromState),
    ("to_state", optional row.toState),
    ("payload_hash", .str row.payloadHash),
    ("occurred_at", .str (toCanonicalTs row.occurredAt)),
    ("schema_version", .int row.schemaVersion)]

theorem toCanonicalTs_eq_iff : toCanonicalTs left = toCanonicalTs right ↔ left.millis = right.millis := by
  rw [toCanonicalTs, toCanonicalTs, String.ofList_inj, DateTime.isoMillis_eq_iff]

/-- A pointer names its entry, as long as the entry's id contains no slash. -/
theorem entryIdFromPointer_payloadPointerFor {entryId : String} {producedAt : DateTime}
    (nonempty : entryId ≠ "") (noSlash : '/' ∉ entryId.toList) :
    entryIdFromPointer (payloadPointerFor entryId producedAt) = some entryId := by
  have split : ∃ middle, (payloadPointerFor entryId producedAt).toList =
      ledgerPointerStart.toList ++ '/' :: (middle ++ '/' :: (entryId.toList ++ pointerEnd.toList)) := by
    simp only [payloadPointerFor, pointerFor, String.toList_ofList]
    refine ⟨((toCanonicalTs producedAt).toList.take 4) ++ '/' ::
      (((toCanonicalTs producedAt).toList.drop 5).take 2 ++ '/' ::
      ((toCanonicalTs producedAt).toList.drop 8).take 2), ?_⟩
    simp
  obtain ⟨middle, split⟩ := split
  have starts : beginsWith (payloadPointerFor entryId producedAt).toList
      (ledgerPointerStart.toList ++ ['/']) = true := by
    rw [split, append_cons]
    exact beginsWith_append _ _
  have ends : endsWith (payloadPointerFor entryId producedAt).toList pointerEnd.toList = true := by
    rw [split, ← cons_append, ← append_assoc, ← cons_append, ← append_assoc]
    exact endsWith_append _ _
  have clear : '/' ∉ entryId.toList ++ pointerEnd.toList := by
    simp only [mem_append, not_or]
    exact ⟨noSlash, by decide⟩
  have basename : afterLast '/' (payloadPointerFor entryId producedAt).toList =
      entryId.toList ++ pointerEnd.toList := by
    rw [split, ← cons_append, ← append_assoc]
    exact afterLast_append clear
  have nonemptyList : entryId.toList ≠ [] := by simpa using nonempty
  simp [entryIdFromPointer, starts, ends, basename, nonemptyList]

variable {digest : String}

theorem computeEntryHash_eq_ok {sha256 repr : String → String}
    (computed : computeEntryHash sha256 repr preimage = .ok digest) : digest = sha256 preimage.text := by
  simp only [computeEntryHash] at computed
  split_ifs at computed
  exact (Except.ok.inj computed).symm

theorem Preimage.fields_injective : Function.Injective Preimage.fields := by
  intro left right same
  simp only [fields, cons.injEq, and_true, String.toList_inj] at same
  obtain ⟨prev, index, domain, type, hash, pointer, sum, producer, at_⟩ := same
  cases left
  cases right
  simp_all [decimal_injective.eq_iff]

/-- Equal hashes of a pipe-free preimage and of any other one come from equal preimages. -/
theorem preimage_eq_of_hash_eq {sha256 repr : String → String} (injective : Function.Injective sha256)
    (leftSeal : computeEntryHash sha256 repr left = .ok digest)
    (rightSeal : computeEntryHash sha256 repr right = .ok digest)
    (pipeFree : ∀ field ∈ left.fields, '|' ∉ field) : left = right := by
  have texts : left.text = right.text := injective <|
    (computeEntryHash_eq_ok leftSeal).symm.trans (computeEntryHash_eq_ok rightSeal)
  have joined : delimited '|' left.fields = delimited '|' right.fields := by
    simpa [Preimage.text] using congrArg String.toList texts
  exact Preimage.fields_injective (delimited_inj (cons_ne_nil _ _) pipeFree rfl joined)

/-- The fields of a journal entry that its seal covers; the timestamp in milliseconds. -/
structure SealedEntry where
  (entryId referenceId referenceType entryType description producedBy : String)
  producedAtMillis : Nat
  idempotencyKey : String
  schemaVersion : Int

/-- The fields of a posting that the seal of its entry covers. -/
structure SealedPosting where
  (postingId accountId side : String)
  amountMinor : Int
  currency : String

def JournalEntryRow.sealed (entry : JournalEntryRow) : SealedEntry where
  entryId := entry.entryId
  referenceId := entry.referenceId
  referenceType := entry.referenceType
  entryType := entry.entryType
  description := entry.description
  producedBy := entry.producedBy
  producedAtMillis := entry.producedAt.millis
  idempotencyKey := entry.idempotencyKey
  schemaVersion := entry.schemaVersion

def PostingRow.sealed (posting : PostingRow) : SealedPosting where
  postingId := posting.postingId
  accountId := posting.accountId
  side := posting.side
  amountMinor := posting.amountMinor
  currency := posting.currency

theorem postingPayload_inj
    (same : MeanSame (postingPayload left) (postingPayload right)) : left.sealed = right.sealed := by
  have keys : (["posting_id", "account_id", "side", "amount_minor", "currency"] : List String).Nodup := by decide
  have postingId : left.postingId = right.postingId := (same.field keys "posting_id" (by simp) (by simp)).str
  have accountId : left.accountId = right.accountId := (same.field keys "account_id" (by simp) (by simp)).str
  have side : left.side = right.side := (same.field keys "side" (by simp) (by simp)).str
  have amount : left.amountMinor = right.amountMinor := (same.field keys "amount_minor" (by simp) (by simp)).int
  have currency : left.currency = right.currency := (same.field keys "currency" (by simp) (by simp)).str
  simp only [sealed, postingId, accountId, side, amount, currency]

theorem sealed_perm_sortPostings (postings : List PostingRow) :
    ((sortPostings postings).map sealed).Perm (postings.map sealed) :=
  (perm_insertionSort _ postings).map _

/-- The canonical text of an entry with its postings determines every field it seals. -/
theorem journalEntryPayload_inj
    (same : MeanSame (journalEntryPayload left leftPostings) (journalEntryPayload right rightPostings)) :
    left.sealed = right.sealed ∧ (leftPostings.map sealed).Perm (rightPostings.map sealed) := by
  have keys : (["entry_id", "reference_id", "reference_type", "entry_type", "description", "produced_by",
      "produced_at", "idempotency_key", "schema_version", "postings"] : List String).Nodup := by decide
  have entryId : left.entryId = right.entryId := (same.field keys "entry_id" (by simp) (by simp)).str
  have referenceId : left.referenceId = right.referenceId :=
    (same.field keys "reference_id" (by simp) (by simp)).str
  have referenceType : left.referenceType = right.referenceType :=
    (same.field keys "reference_type" (by simp) (by simp)).str
  have entryType : left.entryType = right.entryType := (same.field keys "entry_type" (by simp) (by simp)).str
  have description : left.description = right.description :=
    (same.field keys "description" (by simp) (by simp)).str
  have producedBy : left.producedBy = right.producedBy := (same.field keys "produced_by" (by simp) (by simp)).str
  have producedAt : toCanonicalTs left.producedAt = toCanonicalTs right.producedAt :=
    (same.field keys "produced_at" (by simp) (by simp)).str
  have idempotencyKey : left.idempotencyKey = right.idempotencyKey :=
    (same.field keys "idempotency_key" (by simp) (by simp)).str
  have schemaVersion : left.schemaVersion = right.schemaVersion :=
    (same.field keys "schema_version" (by simp) (by simp)).int
  have postings : MeanSame (.list ((sortPostings leftPostings).map postingPayload))
      (.list ((sortPostings rightPostings).map postingPayload)) :=
    same.field keys "postings" (by simp) (by simp)
  have sorted : (sortPostings leftPostings).map sealed =
      (sortPostings rightPostings).map sealed := by
    have pairs := forall₂_map_left_iff.mp (forall₂_map_right_iff.mp postings.list)
    rw [← forall₂_eq_eq_eq, forall₂_map_left_iff, forall₂_map_right_iff]
    exact pairs.imp fun first second => postingPayload_inj
  refine ⟨?_, ?_⟩
  · simp only [JournalEntryRow.sealed, entryId, referenceId, referenceType, entryType, description, producedBy,
      toCanonicalTs_eq_iff.mp producedAt, idempotencyKey, schemaVersion]
  · exact (sealed_perm_sortPostings leftPostings).symm.trans (sorted ▸ sealed_perm_sortPostings rightPostings)

end BdPay.Ledger
