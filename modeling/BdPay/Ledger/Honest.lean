import BdPay.Ledger.Books
import BdPay.Ledger.Walk

namespace BdPay.Ledger

open Data Effect Platform LedgerService PostingRow MemoryStore ChainEntryRow Call List

/-! Verification of a store that only the service wrote: it completes, for either
domain, shallow or deep, over every range of rows that exist. -/

variable {service : LedgerService} {store : MemoryStore} {payload : List (String × PyValue)}

/-- The verifier accepts what the signer signs, under a key it trusts. -/
structure LedgerService.AcceptsOwnSignatures (service : LedgerService) : Prop where
  verifies : ∀ chainHash, service.verifyCheckpoint chainHash (service.sign chainHash).1 (service.sign chainHash).2 = true
  trusted : ∀ chainHash, (service.sign chainHash).2 ∈ service.trustedKeys

/-! Reading back what was posted -/

theorem raiseId_eq_ok (raised : raiseId result = .ok value) : result = .ok value := by
  cases result with
  | ok => exact congrArg _ (Except.ok.inj raised)
  | error reason => cases reason <;> cases raised

variable {minted : String}

theorem LedgerService.mem_makeId (made : service.makeId label payload = .ok minted) (member : char ∈ minted.toList) :
    char ∈ label.toList ∨ char = '_' ∨ isHexDigit char = true := by
  have inner := raiseId_eq_ok made
  simp only [Platform.makeId] at inner
  split_ifs at inner
  rcases mem_mintId inner member with inLabel | underscore | ⟨text, inDigest⟩
  · exact .inl inLabel
  · exact .inr (.inl underscore)
  · exact .inr (.inr (service.hexDigest text char inDigest))

theorem LedgerService.makeId_ne_empty (made : service.makeId label payload = .ok minted) : minted ≠ "" := by
  have inner := raiseId_eq_ok made
  simp only [Platform.makeId] at inner
  split_ifs at inner
  exact mintId_ne_empty inner

theorem sumOn_eq {postings : List PostingRow} (sided : ∀ posting ∈ postings, posting.side ∈ sides) :
    sumOn "DEBIT" postings = debitTotal postings ∧ sumOn "CREDIT" postings = creditTotal postings := by
  induction postings with
  | nil => exact ⟨rfl, rfl⟩
  | cons posting _ ih =>
    obtain ⟨debits, credits⟩ := ih fun other member => sided other (by simp [member])
    have side := sided posting (by simp)
    simp only [sides, mem_cons, not_mem_nil, or_false] at side
    simp only [sumOn, debitTotal, creditTotal] at debits credits ⊢
    rcases side with side | side <;> simp [side, debits, credits]

namespace Posted

variable (posted : Posted service)

theorem entryId_ne_empty : posted.entry.entryId ≠ "" := by
  obtain ⟨spec, minted⟩ := posted.minted
  exact makeId_ne_empty minted

theorem not_mem_entryId (unused : ¬ (char ∈ "je_".toList ∨ isHexDigit char = true)) :
    char ∉ posted.entry.entryId.toList := by
  obtain ⟨spec, minted⟩ := posted.minted
  intro member
  rcases mem_makeId minted member with inLabel | underscore | hex
  · exact unused (.inl (mem_append_left ['_'] inLabel))
  · exact unused (.inl (by simp [underscore]))
  · exact unused (.inr hex)

theorem total_eq : debitTotal posted.postings + creditTotal posted.postings = amountSum posted.postings := by
  simp only [debitTotal, creditTotal, amountSum]
  induction posted.postings with
  | nil => rfl
  | cons posting =>
    by_cases side : posting.side = "DEBIT" <;> simp [side] <;> omega

end Posted

namespace Represents

variable {genesis : Option ChainEntryRow} {log : List (Posted service)} {posted : Posted service}

variable (represents : Represents service store genesis log)
include represents

theorem journal_get? (member : posted ∈ log) : store.journal.get? posted.entry.entryId = some posted.entry := by
  apply Dict.get?_of_mem
  rw [represents.journal]
  exact mem_map.mpr ⟨posted, member, rfl⟩

theorem getPostingsForEntry_eq (member : posted ∈ log) :
    store.getPostingsForEntry posted.entry.entryId = posted.postings := by
  have listed : store.postingsByEntry.get? posted.entry.entryId = some (posted.postings.map postingId) := by
    apply Dict.get?_of_mem
    rw [represents.listed]
    exact mem_map.mpr ⟨posted, member, rfl⟩
  have stored : ∀ posting ∈ posted.postings, store.postings.get? posting.postingId = some posting := by
    intro posting inside
    apply Dict.get?_of_mem
    rw [represents.postings]
    exact mem_map.mpr ⟨posting, mem_flatMap.mpr ⟨posted, member, inside⟩, rfl⟩
  rw [getPostingsForEntry, listed, Option.getD_some, filterMap_map]
  calc
    posted.postings.filterMap (store.postings.get? ∘ postingId) = posted.postings.filterMap some :=
      filterMap_congr stored
    _ = posted.postings := filterMap_some

theorem deepVerified (member : posted ∈ log) :
    service.DeepVerified store posted.row posted.entry.entryId posted.entry := by
  obtain ⟨debits, credits⟩ := sumOn_eq posted.sided
  have postings := represents.getPostingsForEntry_eq member
  have enough := posted.enough
  refine ⟨?_, represents.journal_get? member, ?_, ?_, ?_, posted.sealedType.symm, posted.sealedAt ▸ rfl, ?_⟩
  · rw [posted.pointer]
    exact entryIdFromPointer_payloadPointerFor posted.entryId_ne_empty (posted.not_mem_entryId (by decide))
  · rw [postings]
    omega
  · rw [postings, debits, credits, posted.balanced]
  · rw [postings, debits, credits, posted.total_eq, posted.sealedSum]
  · rw [postings, posted.payload]

end Represents

/-- What the service seals passes, if it accepts its own signatures. -/
theorem LedgerService.WellSealed.passes {chainDomain : String} {row : ChainEntryRow} {request : VerifyRequest}
    (accepts : service.AcceptsOwnSignatures) (wellSealed : service.WellSealed chainDomain row)
    (deep : request.chainDomain = moneyDomain → 0 < row.chainIndex →
      ∃ entryId entry, service.DeepVerified store row entryId entry) : service.Passes store request row where
  sealed := wellSealed.sealed
  placed := wellSealed.placed.symm
  signed := by
    intro isCheckpoint
    obtain ⟨sig, publicKey, sequence⟩ := wellSealed.signed isCheckpoint
    exact ⟨_, _, sig, publicKey, accepts.trusted _, accepts.verifies _, sequence⟩
  deep := fun _ => deep

/-! The range -/

/-- The request asks for rows that exist, or for the whole of a chain. -/
def InRange (store : MemoryStore) (request : VerifyRequest) : Prop :=
  request.chainDomain ∈ chainDomains ∧
    (request.fromIndex = 0 ∧ request.toIndex = none ∨
      request.fromIndex ∈ (store.chain request.chainDomain).keys ∧
        ∀ toIndex ∈ request.toIndex, toIndex ∈ (store.chain request.chainDomain).keys ∧ request.fromIndex ≤ toIndex)

namespace LedgerService.Chained

variable {rows : List ChainEntryRow} {chainDomain : String}

variable (chained : service.Chained store chainDomain rows) {request : VerifyRequest}
include chained

/-- Iteration yields the rows of the range in chain order. -/
theorem iterChain_eq (fromIndex : Int) (toIndex : Option Int) : store.iterChain chainDomain fromIndex toIndex =
      rows.filter fun row => fromIndex ≤ row.chainIndex ∧ ∀ bound ∈ toIndex, row.chainIndex ≤ bound := by
  have indexes : (store.chain chainDomain).keys.filter
      (fun index => fromIndex ≤ index ∧ ∀ bound ∈ toIndex, index ≤ bound) =
      (rows.filter fun row => fromIndex ≤ row.chainIndex ∧ ∀ bound ∈ toIndex, row.chainIndex ≤ bound).map
        chainIndex := by
    rw [chained.keys, filter_map]
    rfl
  have sorted : ((rows.filter fun row => fromIndex ≤ row.chainIndex ∧
      ∀ bound ∈ toIndex, row.chainIndex ≤ bound).map chainIndex).Pairwise (· ≤ ·) := by
    rw [pairwise_map]
    exact (List.Pairwise.filter _ chained.linked.pairwise).imp fun less => Int.le_of_lt less
  simp only [iterChain]
  rw [indexes, sorted.insertionSort_eq, filterMap_map]
  calc
    _ = (rows.filter fun row => fromIndex ≤ row.chainIndex ∧
        ∀ bound ∈ toIndex, row.chainIndex ≤ bound).filterMap some :=
      filterMap_congr fun row member => chained.get? (mem_of_mem_filter member)
    _ = _ := filterMap_some

/-- The row a range is anchored at is the one in front of it. -/
theorem anchorHash_eq (domain : request.chainDomain = chainDomain) (nonneg : 0 ≤ request.fromIndex)
    (within : request.fromIndex ≤ rows.length) :
    anchorHash store request = some (tipHash (rows.take request.fromIndex.toNat)) := by
  by_cases first : request.fromIndex = 0
  · simp [anchorHash, first, tipHash, Chain.tip]
  · obtain ⟨position, position_eq⟩ : ∃ position : Nat, request.fromIndex.toNat = position + 1 :=
      ⟨request.fromIndex.toNat - 1, by omega⟩
    have inside : position < rows.length := by omega
    have numbered := chained.linked.index_getElem position inside
    have found := chained.get? (getElem_mem inside)
    rw [numbered, Int.zero_add] at found
    have before : request.fromIndex - 1 = position := by omega
    simp [anchorHash, first, domain, getChainEntry, before, found, position_eq, tipHash,
      Chain.tip_take_succ position inside]

/-- A range that exists is linked, from the hash the verifier anchors it at. -/
theorem linked_iterChain (nonneg : 0 ≤ request.fromIndex) (within : request.fromIndex ≤ rows.length) :
    Chain.Linked chainIndex prevChainHash chainHash request.fromIndex (tipHash (rows.take request.fromIndex.toNat))
      (store.iterChain chainDomain request.fromIndex request.toIndex) := by
  have dropped := chained.linked.drop request.fromIndex.toNat (by omega)
  have number : (0 : Int) + request.fromIndex.toNat = request.fromIndex := by omega
  rw [number] at dropped
  have lower : rows.filter (fun row => request.fromIndex ≤ row.chainIndex) = rows.drop request.fromIndex.toNat := by
    have filtered := chained.linked.filter_ge request.fromIndex
    rwa [Int.sub_zero] at filtered
  have both : store.iterChain chainDomain request.fromIndex request.toIndex =
      (rows.drop request.fromIndex.toNat).filter fun row => ∀ bound ∈ request.toIndex, row.chainIndex ≤ bound := by
    rw [chained.iterChain_eq, ← lower, filter_filter]
    congr 1
    funext row
    simp [Bool.and_comm]
  rw [both]
  cases request.toIndex with
  | none => simpa [tipHash] using dropped
  | some bound =>
    have upper := dropped.filter_le bound
    simp only [Option.mem_def, Option.some.injEq, forall_eq']
    rw [upper]
    exact dropped.take _

theorem inRange_bounds (domain : request.chainDomain = chainDomain) (inRange : InRange store request) :
    0 ≤ request.fromIndex ∧ request.fromIndex ≤ rows.length := by
  rcases inRange.2 with ⟨start, -⟩ | ⟨member, -⟩
  · omega
  · rw [domain, chained.keys] at member
    obtain ⟨row, inside, same⟩ := mem_map.mp member
    have bounds := chained.linked.index_mem inside
    omega

theorem iterChain_whole : store.iterChain chainDomain 0 none = rows := by
  rw [chained.iterChain_eq, filter_eq_self]
  intro row inside
  have bounds := chained.linked.index_mem inside
  simpa using bounds.1

theorem eq_nil_of_iterChain (domain : request.chainDomain = chainDomain) (inRange : InRange store request)
    (nothing : store.iterChain chainDomain request.fromIndex request.toIndex = []) :
    rows = [] ∧ request.fromIndex = 0 ∧ request.toIndex = none := by
  rcases inRange.2 with ⟨start, whole⟩ | ⟨member, upper⟩
  · rw [start, whole, chained.iterChain_whole] at nothing
    exact ⟨nothing, start, whole⟩
  · rw [chained.iterChain_eq] at nothing
    rw [domain, chained.keys] at member
    obtain ⟨row, inside, same⟩ := mem_map.mp member
    have kept := filter_eq_nil_iff.mp nothing row inside
    simp only [same, decide_eq_true_eq, not_and] at kept
    exact absurd (fun bound mem => (upper bound mem).2) (kept (Int.le_refl _))

end LedgerService.Chained

/-! After the walk -/

namespace LedgerService

variable {request : VerifyRequest} {rows : List ChainEntryRow}

theorem mem_listCheckpoints {chainDomain : String} :
    checkpoint ∈ store.listCheckpoints chainDomain ↔ checkpoint ∈ store.checkpointsOf chainDomain :=
  (perm_insertionSort _ _).mem_iff

section

variable (accepts : service.AcceptsOwnSignatures) (chained : service.Chained store request.chainDomain rows)

include accepts chained

theorem crossCheck_eq_none (walk : Walk) (listed : checkpoint ∈ store.listCheckpoints request.chainDomain) :
    service.crossCheck store request walk checkpoint = none := by
  obtain ⟨row, member, summarises⟩ := chained.summaries checkpoint (mem_listCheckpoints.mp listed)
  have found : store.getChainEntry request.chainDomain checkpoint.chainIndexTo = some row := by
    rw [summarises.index]
    exact chained.get? member
  have beyond : (store.maxChainIndex request.chainDomain).all
      (fun maxIndex => decide (maxIndex < checkpoint.chainIndexTo)) = false := by
    rcases eq_nil_or_concat' rows with rfl | ⟨front, last, rfl⟩
    · cases member
    · rw [maxChainIndex, chained.maxIndex_concat]
      have bounds := chained.linked.index_mem member
      have final := (linkedRows_concat.mp chained.linked).2.1
      simp only [length_append, length_singleton] at bounds
      simp only [Option.all_some, decide_eq_false_iff_not, summarises.index]
      omega
  have signed := ((chained.wellSealed row member).signed summarises.isCheckpoint).1
  simp [crossCheck, beyond, found, summarises.isCheckpoint, summarises.hash, summarises.signature,
    summarises.publicKey, signed, accepts.trusted, accepts.verifies]

theorem verifySummary_completed
    (counted : request.chainDomain = moneyDomain → request.fromIndex = 0 → request.toIndex = none →
      store.countJournalEntries = walk.checked - 1) :
    (service.verifySummary store request walk).status = .completed := by
  have clean : (store.listCheckpoints request.chainDomain).findSome? (service.crossCheck store request walk) = none :=
    findSome?_eq_none_iff.mpr fun checkpoint listed => crossCheck_eq_none accepts chained walk listed
  simp only [verifySummary, clean]
  split_ifs with mismatch
  · obtain ⟨-, money, start, whole, differs⟩ := mismatch
    exact absurd (counted money start whole) differs
  · rfl

end

theorem verifyEmpty_completed (chained : service.Chained store request.chainDomain [])
    (start : request.fromIndex = 0) (whole : request.toIndex = none)
    (counted : request.chainDomain = moneyDomain → store.countJournalEntries = 0) :
    (verifyEmpty store request).status = .completed := by
  have noCheckpoints : store.listCheckpoints request.chainDomain = [] := by
    apply eq_nil_iff_forall_not_mem.mpr
    intro checkpoint listed
    obtain ⟨row, member, -⟩ := chained.summaries checkpoint (mem_listCheckpoints.mp listed)
    cases member
  simp only [verifyEmpty, noCheckpoints, whole, start]
  split_ifs with orphaned
  · have none := counted orphaned.2.1
    omega
  · rfl

end LedgerService

namespace Represents

variable {genesis : Option ChainEntryRow} {log : List (Posted service)} {request : VerifyRequest}

variable (represents : Represents service store genesis log)
include represents

theorem countJournalEntries_eq : store.countJournalEntries = log.length := by
  simp [countJournalEntries, Dict.size, represents.journal]

/-- The chain of either domain, every row of which passes. -/
theorem chained (accepts : service.AcceptsOwnSignatures) (domain : request.chainDomain ∈ chainDomains) :
    ∃ rows, service.Chained store request.chainDomain rows ∧ (∀ row ∈ rows, service.Passes store request row) ∧
      (request.chainDomain = moneyDomain → rows = moneyRows genesis log) := by
  simp only [chainDomains, mem_cons, not_mem_nil, or_false] at domain
  rcases domain with money | audit
  · refine ⟨moneyRows genesis log, ?_, ?_, fun _ => rfl⟩
    · rw [money]
      exact represents.money
    · intro row member
      refine (represents.money.wellSealed row member).passes accepts fun _ positive => ?_
      simp only [moneyRows, mem_append, Option.mem_toList, mem_map] at member
      rcases member with first | ⟨posted, inside, rfl⟩
      · rw [represents.genesisRow row first] at positive
        exact absurd positive (Int.lt_irrefl 0)
      · exact ⟨_, _, represents.deepVerified inside⟩
  · obtain ⟨rows, chained⟩ := represents.audit
    refine ⟨rows, ?_, ?_, fun money => ?_⟩
    · rw [audit]
      exact chained
    · intro row member
      refine (chained.wellSealed row member).passes accepts fun money => ?_
      rw [audit] at money
      exact absurd money (by decide)
    · rw [audit] at money
      exact absurd money (by decide)

/-- Verification of a range that exists completes. -/
theorem verifyChainStatus_completed (accepts : service.AcceptsOwnSignatures) (inRange : InRange store request) :
    (service.verifyChainStatus store request).status = .completed := by
  obtain ⟨rows, chained, passes, money⟩ := represents.chained accepts inRange.1
  obtain ⟨nonneg, within⟩ := chained.inRange_bounds rfl inRange
  have anchor := chained.anchorHash_eq rfl nonneg within
  have linked := chained.linked_iterChain nonneg within
  have inside : ∀ row ∈ store.iterChain request.chainDomain request.fromIndex request.toIndex, row ∈ rows := by
    rw [chained.iterChain_eq]
    exact fun row member => mem_of_mem_filter member
  simp only [verifyChainStatus, verifyChainInner, anchor]
  cases iterated : store.iterChain request.chainDomain request.fromIndex request.toIndex with
  | nil =>
    obtain ⟨rfl, start, whole⟩ := chained.eq_nil_of_iterChain rfl inRange iterated
    refine verifyEmpty_completed chained start whole fun isMoney => ?_
    have none := money isMoney
    simp only [moneyRows, nil_eq, append_eq_nil_iff, map_eq_nil_iff] at none
    simp [represents.countJournalEntries_eq, none.2]
  | cons first others =>
    rw [iterated] at linked inside
    have clear : service.Clear store request request.fromIndex (tipHash (rows.take request.fromIndex.toNat))
        (first :: others) := ⟨linked, fun row member => passes row (inside row member)⟩
    obtain ⟨final, walked, checked⟩ :=
      Clear.verifyRows_eq ⟨tipHash (rows.take request.fromIndex.toNat), request.fromIndex, 0, 0⟩ clear
    simp only [walked]
    refine verifySummary_completed accepts chained fun isMoney start whole => ?_
    -- A full pass over the money chain saw the genesis row and one row per entry.
    have all : first :: others = moneyRows genesis log := by
      rw [start, whole, chained.iterChain_whole] at iterated
      exact iterated.symm.trans (money isMoney)
    rw [all] at checked
    cases made : genesis with
    | none =>
      rw [made, represents.started made] at all
      cases all
    | some =>
      rw [made] at checked
      simp only [moneyRows, Option.toList_some, length_append, length_cons, length_nil,
        length_map] at checked
      rw [represents.countJournalEntries_eq]
      omega

end Represents

/-! Whole runs -/

/-- Every verification in a sequence asks for rows that exist when it runs. -/
def AsksInRange (service : LedgerService) : List (DateTime × Call) → MemoryStore → Prop
  | [], _ => True
  | step :: rest, store =>
    (∀ request, step.2 = .verifyChain request → InRange store request) ∧
      AsksInRange service rest (after service store step)

theorem verifyChain_of_completed
    (completed : (service.verifyChainStatus store request).status = .completed) (now : DateTime) :
    service.verifyChain request now store = .ok (service.verifyChainStatus store request) store := by
  simp only [LedgerService.verifyChain, get_bind, completed]
  rfl

/-- Only the gate writes gate rows. -/
theorem Writes.gateRows_eq {after : MemoryStore} (writes : Writes service store after) :
    after.gateRows = store.gateRows := by
  cases writes <;> rfl

variable {genesis : Option ChainEntryRow} {log : List (Posted service)}

section

variable (represents : Represents service store genesis log) (accepts : service.AcceptsOwnSignatures)

include represents accepts

/-- A store that only the service wrote gives no call a reason to engage the gate. -/
theorem Represents.gateRows_after
    {step : DateTime × Call} (asks : ∀ request, step.2 = .verifyChain request → InRange store request) :
    (after service store step).gateRows = store.gateRows := by
  rcases after_writes step with writes | ⟨gates, -⟩
  · exact writes.gateRows_eq
  · obtain ⟨now, call⟩ := step
    cases gates with
    | tampered found =>
      have completed := represents.verifyChainStatus_completed accepts (asks _ rfl)
      simp [completed] at found
    | violated found =>
      rw [represents.trialBalance_balanced] at found
      cases found

theorem Represents.gateRows_run (asks : AsksInRange service steps store) :
    (run service steps store).gateRows = store.gateRows := by
  induction steps generalizing store genesis log with
  | nil => rfl
  | cons step _ ih =>
    obtain ⟨genesis', log', kept, -⟩ := after_represents represents step
    exact (ih kept asks.2).trans (represents.gateRows_after accepts asks.1)

end

/-- No false alarm: on the store of any run, verification over rows that exist completes
and changes nothing.  The gate is then open, unless an earlier verification in the run
asked for rows that did not exist. -/
theorem verifyChain_completed_of_run (service : LedgerService) (accepts : service.AcceptsOwnSignatures)
    (steps : List (DateTime × Call)) (request : VerifyRequest)
    (inRange : InRange (Call.run service steps {}) request) (now : DateTime) :
    ∃ result, service.verifyChain request now (Call.run service steps {}) =
        .ok result (Call.run service steps {}) ∧
      result.status = .completed ∧
      (AsksInRange service steps {} → (Call.run service steps {}).writeGateState.engaged = false) := by
  obtain ⟨genesis, log, represents⟩ := Call.run_represents service steps
  have completed := represents.verifyChainStatus_completed accepts inRange
  refine ⟨_, verifyChain_of_completed completed now, completed, fun asks => ?_⟩
  have noRows : (Call.run service steps {}).gateRows = [] := represents_empty.gateRows_run accepts asks
  rw [MemoryStore.writeGateState, noRows]
  rfl

theorem sampleService_accepts : sampleService.AcceptsOwnSignatures where
  verifies := by simp [sampleService]
  trusted := by simp [sampleService]

/-- The sample service, with a checkpoint after every row. -/
def checkpointingService : LedgerService :=
  { sampleService with checkpointInterval := 1, intervalPositive := by decide }

theorem checkpointingService_accepts : checkpointingService.AcceptsOwnSignatures := { sampleService_accepts with }

/-- The whole money chain after a posted entry, deep. -/
theorem verifyChain_completed_of_sampleSteps :
    ((Call.run checkpointingService sampleSteps {}).listCheckpoints moneyDomain).length = 1 ∧
    ∃ result, checkpointingService.verifyChain {} newYear (Call.run checkpointingService sampleSteps {}) =
        .ok result (Call.run checkpointingService sampleSteps {}) ∧
      result.status = .completed ∧ (Call.run checkpointingService sampleSteps {}).writeGateState.engaged = false := by
  have inRange : InRange (Call.run checkpointingService sampleSteps {}) {} := ⟨by decide, .inl ⟨rfl, rfl⟩⟩
  have asks : AsksInRange checkpointingService sampleSteps {} := ⟨nofun, nofun, nofun, trivial⟩
  obtain ⟨result, verified, completed, gate⟩ :=
    verifyChain_completed_of_run checkpointingService checkpointingService_accepts sampleSteps {} inRange newYear
  exact ⟨by decide +kernel, result, verified, completed, gate asks⟩

end BdPay.Ledger
