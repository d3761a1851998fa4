import BdPay.Ledger.Honest

namespace BdPay.Ledger

open Data Platform ChainEntryRow MemoryStore PostingRow Preimage LedgerService Call List Dict

/-! What a full deep verification that completes says about a store, whoever wrote it. -/

variable {service : LedgerService} {store : MemoryStore} {rows : List ChainEntryRow}

namespace LedgerService

theorem verifySummary_sound (completed : (service.verifySummary store {} walk).status = .completed) :
    store.countJournalEntries = walk.checked - 1 := by
  simp only [verifySummary] at completed
  cases found : (store.listCheckpoints moneyDomain).findSome? (service.crossCheck store {} walk) with
  | some =>
    obtain ⟨checkpoint, -, checked⟩ := exists_of_findSome?_eq_some found
    rw [found] at completed
    exact absurd completed (crossCheck_objects checked).ne.1
  | none =>
    simp only [found] at completed
    by_contra differs
    rw [if_pos ⟨trivial, trivial, trivial, trivial, differs⟩] at completed
    cases completed

theorem verifyEmpty_sound (completed : (verifyEmpty store {}).status = .completed) : store.countJournalEntries = 0 := by
  simp only [verifyEmpty] at completed
  cases listed : store.listCheckpoints moneyDomain with
  | cons => simp [listed, broken] at completed
  | nil =>
    simp only [listed] at completed
    have nonneg : 0 ≤ store.countJournalEntries := by simp [countJournalEntries]
    by_contra differs
    rw [if_pos ⟨trivial, trivial, trivial, by omega⟩] at completed
    cases completed

/-- A full deep verification of the money chain that completes. -/
theorem verifyChainStatus_sound (completed : (service.verifyChainStatus store {}).status = .completed) :
    LinkedRows (store.iterChain moneyDomain 0 none) ∧
      (∀ row ∈ store.iterChain moneyDomain 0 none, service.Passes store {} row) ∧
      store.countJournalEntries = (store.iterChain moneyDomain 0 none).tail.length := by
  have anchor : anchorHash store {} = some genesisPrevHash := rfl
  simp only [verifyChainStatus, verifyChainInner, anchor] at completed
  cases iterated : store.iterChain moneyDomain 0 none with
  | nil =>
    simp only [iterated] at completed
    exact ⟨trivial, by simp, verifyEmpty_sound completed⟩
  | cons first others =>
    simp only [iterated] at completed
    have pass := pass_verifyRows service store {} ⟨genesisPrevHash, 0, 0, 0⟩ (first :: others)
    generalize service.verifyRows store {} (first :: others) _ = outcome at pass completed
    cases pass with
    | raised => cases completed
    | objected objects => exact absurd completed objects.ne.1
    | passed clear checked =>
      refine ⟨clear.1, clear.2, ?_⟩
      rw [verifySummary_sound completed, checked]
      simp

end LedgerService

/-! The tip of a store that anyone may have written -/

theorem iterChain_of_chainTip_none (noTip : store.chainTip domain = none) : store.iterChain domain 0 none = [] := by
  have noKeys : (store.chain domain).keys = [] := by
    cases greatest : (store.chain domain).keys.max? with
    | none => exact max?_eq_none_iff.mp greatest
    | some best =>
      have bound := max?_mem greatest
      cases found : (store.chain domain).get? best with
      | none => exact absurd bound (get?_eq_none_iff.mp found)
      | some => simp [chainTip, greatest, found] at noTip
  simp [iterChain, noKeys]

/-- With a row at index 0, the tip is the last row that iteration yields. -/
theorem iterChain_of_chainTip_some
    (started : store.getChainEntry domain 0 = some first) (tipped : store.chainTip domain = some tip) :
    ∃ front last, store.iterChain domain 0 none = front ++ [last] ∧ tip = ⟨last.chainIndex, last.chainHash⟩ := by
  cases greatest : (store.chain domain).keys.max? with
  | none => simp [chainTip, greatest] at tipped
  | some best =>
    obtain ⟨bound, above⟩ := max?_eq_some_iff.mp greatest
    cases found : (store.chain domain).get? best with
    | none => exact absurd bound (get?_eq_none_iff.mp found)
    | some row =>
      simp only [chainTip, greatest, found, Option.map_some, Option.some.injEq] at tipped
      have zero : (0 : Int) ∈ (store.chain domain).keys := by
        by_contra absent
        rw [getChainEntry, get?_eq_none_iff.mpr absent] at started
        cases started
      have nonneg := above 0 zero
      let indexes := ((store.chain domain).keys.filter fun index =>
        (0 : Int) ≤ index ∧ ∀ limit ∈ (none : Option Int), index ≤ limit).insertionSort (· ≤ ·)
      have inside : best ∈ indexes := by
        rw [mem_insertionSort, mem_filter]
        exact ⟨bound, by simpa using nonneg⟩
      -- The greatest index is the last one of the sorted list.
      rcases eq_nil_or_concat' indexes with nothing | ⟨front, last, split⟩
      · rw [nothing] at inside
        cases inside
      · have sorted : (front ++ [last]).Pairwise (· ≤ ·) := split ▸ pairwise_insertionSort _ _
        have lastBound : last ≤ best := by
          have member : last ∈ indexes := by simp [split]
          rw [mem_insertionSort, mem_filter] at member
          exact above last member.1
        have greatestLast : best = last := by
          rw [split] at inside
          rcases mem_append.mp inside with earlier | same
          · have before := (pairwise_append.mp sorted).2.2 best earlier last (by simp)
            omega
          · exact mem_singleton.mp same
        refine ⟨front.filterMap (store.chain domain).get?, row, ?_, tipped.symm⟩
        have iterated : store.iterChain domain 0 none =
            indexes.filterMap (store.chain domain).get? := rfl
        rw [iterated, split, filterMap_append, ← greatestLast]
        simp [found]

/-! Tamper evidence -/

/-- No sealed field of the row contains the separator of the hash preimage. -/
def ChainEntryRow.PipeFree (row : ChainEntryRow) : Prop :=
  ∀ field ∈ (row.preimage row.prevChainHash).fields, '|' ∉ field

/-- Two stores hold the same entries with the same postings, as far as seals reach. -/
structure AgreeOnSeals (left right : MemoryStore) : Prop where
  entries : ∀ entryId, (left.journal.get? entryId).map JournalEntryRow.sealed =
    (right.journal.get? entryId).map JournalEntryRow.sealed
  postings : ∀ entryId, left.journal.get? entryId ≠ none →
    ((left.getPostingsForEntry entryId).map sealed).Perm
      ((right.getPostingsForEntry entryId).map sealed)

/-- One payload hash belongs to one entry and its postings. -/
theorem journalEntryPayloadHash_inj {sha256 : String → String} (injective : Function.Injective sha256)
    (leftHash : journalEntryPayloadHash sha256 left leftPostings = .ok digest)
    (rightHash : journalEntryPayloadHash sha256 right rightPostings = .ok digest) : left.sealed = right.sealed ∧
      (leftPostings.map sealed).Perm (rightPostings.map sealed) := by
  have opened : ∀ {entry : JournalEntryRow} {postings : List PostingRow},
      journalEntryPayloadHash sha256 entry postings = .ok digest →
      ∃ text, canonicalJson (journalEntryPayload entry postings) = .ok text ∧ sha256 text = digest := by
    intro entry postings hashed
    simp only [journalEntryPayloadHash, sha256Canonical] at hashed
    cases canonical : canonicalJson (journalEntryPayload entry postings) with
    | error => simp [canonical, Except.map, raiseCanonical] at hashed
    | ok text =>
      simp only [canonical, Except.map, raiseCanonical, Except.ok.injEq] at hashed
      exact ⟨text, rfl, hashed⟩
  obtain ⟨leftText, leftCanonical, leftDigest⟩ := opened leftHash
  obtain ⟨rightText, rightCanonical, rightDigest⟩ := opened rightHash
  obtain rfl := injective (leftDigest.trans rightDigest.symm)
  exact journalEntryPayload_inj (meanSame_of_canonicalJson_eq leftCanonical rightCanonical)

namespace Represents

variable {genesis : Option ChainEntryRow} {log : List (Posted service)}

/-- What a deep check of a row leads to: where it points and the payload it stands for. -/
def sealedPayload (row : ChainEntryRow) : String × String := (row.payloadPointer, row.payloadHash)

variable (represents : Represents service store genesis log)
include represents

/-- A chain that ends in the same tip seals the same payloads. -/
theorem payloads_eq (injective : Function.Injective service.sha256)
    (pipeFree : ∀ row ∈ moneyRows genesis log, row.PipeFree) (linked : LinkedRows rows)
    (sealed : ∀ row ∈ rows, service.IsSealed row) (length : (moneyRows genesis log).length = rows.length)
    (tips : tipHash (moneyRows genesis log) = tipHash rows) :
    (moneyRows genesis log).map sealedPayload = rows.map sealedPayload := by
  refine (Chain.view_eq_of_tip_eq represents.money.linked linked length ?_ tips).1
  intro first inLog second inRows same
  have firstSealed := (represents.money.wellSealed first inLog).sealed
  have secondSealed : computeEntryHash service.sha256 service.repr (second.preimage second.prevChainHash) =
      .ok first.chainHash := same ▸ sealed second inRows
  have preimages := preimage_eq_of_hash_eq injective firstSealed secondSealed (pipeFree first inLog)
  have pointers := congrArg Preimage.payloadPointer preimages
  have payloads := congrArg Preimage.payloadHash preimages
  have prevs := congrArg prevHash preimages
  exact ⟨Prod.ext pointers payloads, prevs⟩

/-- Every posted entry is found again behind the row that seals the same payload. -/
theorem entry_agrees (injective : Function.Injective service.sha256)
    {posted : Posted service} (member : posted ∈ log) {entryId : String}
    (same : sealedPayload posted.row = sealedPayload row) (deep : service.DeepVerified other row entryId entry) :
    other.journal.get? posted.entry.entryId = some entry ∧ posted.entry.sealed = entry.sealed ∧
      ((store.getPostingsForEntry posted.entry.entryId).map sealed).Perm
        ((other.getPostingsForEntry posted.entry.entryId).map sealed) := by
  have pointer : posted.row.payloadPointer = row.payloadPointer := congrArg Prod.fst same
  have payload : posted.row.payloadHash = row.payloadHash := congrArg Prod.snd same
  have named : entryId = posted.entry.entryId := by
    have read := deep.pointer
    rw [← pointer, posted.pointer, entryIdFromPointer_payloadPointerFor posted.entryId_ne_empty
      (posted.not_mem_entryId (by decide))] at read
    exact (Option.some.inj read).symm
  subst named
  obtain ⟨sealed, postings⟩ := journalEntryPayloadHash_inj injective posted.payload (payload ▸ deep.payload)
  refine ⟨deep.found, sealed, ?_⟩
  rw [represents.getPostingsForEntry_eq member]
  exact postings

/-- The entries of the log are in the other store, which has no further ones. -/
theorem agreeOnSeals (found : ∀ posted ∈ log, ∃ entry, other.journal.get? posted.entry.entryId = some entry ∧
      posted.entry.sealed = entry.sealed ∧ ((store.getPostingsForEntry posted.entry.entryId).map sealed).Perm
        ((other.getPostingsForEntry posted.entry.entryId).map sealed))
    (count : other.journal.size = log.length) : AgreeOnSeals store other := by
  have keys : store.journal.keys = log.map fun posted => posted.entry.entryId := by
    rw [Dict.keys, represents.journal, map_map]
    rfl
  have subset : store.journal.keys ⊆ other.journal.keys := by
    intro entryId member
    rw [keys] at member
    obtain ⟨posted, inside, rfl⟩ := mem_map.mp member
    obtain ⟨entry, read, -⟩ := found posted inside
    by_contra absent
    rw [get?_eq_none_iff.mpr absent] at read
    cases read
  have permuted : store.journal.keys.Perm other.journal.keys := by
    apply (subperm_of_subset store.journal.nodup_keys subset).perm_of_length_le
    rw [length_keys, count, keys, length_map]
  have stored : ∀ {entryId entry}, store.journal.get? entryId = some entry →
      ∃ posted ∈ log, posted.entry.entryId = entryId ∧ posted.entry = entry := by
    intro entryId entry read
    have member := mem_of_get? read
    rw [represents.journal] at member
    obtain ⟨posted, inside, same⟩ := mem_map.mp member
    exact ⟨posted, inside, congrArg Prod.fst same, congrArg Prod.snd same⟩
  refine ⟨?_, ?_⟩
  · intro entryId
    cases read : store.journal.get? entryId with
    | none =>
      have absent : other.journal.get? entryId = none := by
        rw [get?_eq_none_iff] at read ⊢
        exact fun member => read (permuted.mem_iff.mpr member)
      rw [absent]
    | some entry =>
      obtain ⟨posted, inside, rfl, rfl⟩ := stored read
      obtain ⟨entry, otherRead, sealed, -⟩ := found posted inside
      rw [otherRead]
      exact congrArg some sealed
  · intro entryId present
    obtain ⟨entry, read⟩ := Option.ne_none_iff_exists'.mp present
    obtain ⟨posted, inside, rfl, rfl⟩ := stored read
    obtain ⟨-, -, -, postings⟩ := found posted inside
    exact postings

theorem agreeOnSeals_of_payloads
    (injective : Function.Injective service.sha256) (made : genesis = some first)
    (payloads : (moneyRows genesis log).map sealedPayload = rows.map sealedPayload)
    (linked : LinkedRows rows) (passes : ∀ row ∈ rows, service.Passes other {} row)
    (count : other.countJournalEntries = rows.tail.length) : AgreeOnSeals store other := by
  subst made
  cases rows with
  | nil => simp [moneyRows] at payloads
  | cons _ rest =>
    simp only [moneyRows, Option.toList_some, singleton_append, map_cons, cons.injEq] at payloads
    obtain ⟨-, tails⟩ := payloads
    refine represents.agreeOnSeals ?_ ?_
    · intro posted member
      have shown : sealedPayload posted.row ∈ rest.map sealedPayload := by
        rw [← tails]
        exact mem_map_of_mem (mem_map_of_mem member)
      obtain ⟨row, inside, same⟩ := mem_map.mp shown
      have bounds := Chain.Linked.index_mem linked.2.2 inside
      obtain ⟨entryId, entry, deep⟩ := (passes row (by simp [inside])).deep rfl rfl (by omega)
      exact ⟨entry, represents.entry_agrees injective member same.symm deep⟩
    · have lengths := congrArg length tails
      simp only [length_map] at lengths
      simp only [countJournalEntries, tail_cons] at count
      omega

theorem agreeOnSeals_of_completed
    (injective : Function.Injective service.sha256) (pipeFree : ∀ row ∈ moneyRows genesis log, row.PipeFree)
    (sameGenesis : other.getChainEntry moneyDomain 0 = store.getChainEntry moneyDomain 0)
    (sameTip : other.chainTip moneyDomain = store.chainTip moneyDomain)
    (completed : (service.verifyChainStatus other {}).status = .completed) : AgreeOnSeals store other := by
  obtain ⟨linked, passes, count⟩ := verifyChainStatus_sound completed
  have money := represents.money
  cases made : genesis with
  | none =>
    -- Nothing was posted, so the other chain has no rows either.
    obtain rfl := represents.started made
    rw [made] at money
    have nothing := iterChain_of_chainTip_none (sameTip.trans money.chainTip_nil)
    rw [nothing] at count
    refine represents.agreeOnSeals (by simp) ?_
    simpa [countJournalEntries] using count
  | some first =>
    have zero : first.chainIndex = 0 := by rw [represents.genesisRow first made]; rfl
    have started : other.getChainEntry moneyDomain 0 = some first := by
      rw [sameGenesis, getChainEntry, ← zero]
      exact money.get? (by simp [moneyRows, made])
    cases tipped : store.chainTip moneyDomain with
    | none =>
      have empty := money.tip_none tipped
      simp [moneyRows, made] at empty
    | some =>
      obtain ⟨-, tipIndex, tipHashed⟩ := money.tip_some tipped
      obtain ⟨front, last, iterated, otherTip⟩ := iterChain_of_chainTip_some started (sameTip.trans tipped)
      rw [iterated] at linked passes count
      have final := (linkedRows_concat.mp linked).2.1
      have length : (moneyRows genesis log).length = (front ++ [last]).length := by
        rw [otherTip] at tipIndex
        simp only at tipIndex
        rw [length_append, length_singleton]
        omega
      have tips : tipHash (moneyRows genesis log) = tipHash (front ++ [last]) := by
        rw [← tipHashed, otherTip, tipHash, Chain.tip_concat]
      have payloads := represents.payloads_eq injective pipeFree linked
        (fun row member => (passes row member).sealed) length tips
      exact represents.agreeOnSeals_of_payloads injective made payloads linked passes count

end Represents

/-! What verification reads -/

/-- Two postings tables that show the verifier the same. -/
structure ReadsSame (left right : MemoryStore) : Prop where
  chains : left.chains = right.chains
  checkpoints : left.checkpoints = right.checkpoints
  journal : left.journal = right.journal
  postings : ∀ entryId, (left.getPostingsForEntry entryId).map sealed =
    (right.getPostingsForEntry entryId).map sealed

theorem sum_filter_of_sealed {left right : List PostingRow} (side : String)
    (same : left.map sealed = right.map sealed) :
    ((left.filter fun posting => posting.side = side).map amountMinor).sum =
      ((right.filter fun posting => posting.side = side).map amountMinor).sum := by
  have shown : ∀ postings : List PostingRow,
      (postings.filter fun posting => posting.side = side).map amountMinor =
        ((postings.map sealed).filter fun sealed => sealed.side = side).map SealedPosting.amountMinor := by
    intro postings
    rw [filter_map, map_map]
    rfl
  rw [shown, shown, same]

theorem sortPostings_sealed (postings : List PostingRow) : (sortPostings postings).map sealed =
      (postings.map sealed).insertionSort fun left right => left.postingId ≤ right.postingId := by
  apply map_insertionSort
  intro left _ right _
  rfl

/-- The sealed fields of its postings are all that the payload of an entry holds of them. -/
theorem journalEntryPayload_of_sealed (entry : JournalEntryRow)
    (same : left.map sealed = right.map sealed) : journalEntryPayload entry left = journalEntryPayload entry right := by
  have written : ∀ postings : List PostingRow, postings.map postingPayload =
      (postings.map sealed).map fun sealed => PyValue.dict [
        ("posting_id", .str sealed.postingId),
        ("account_id", .str sealed.accountId),
        ("side", .str sealed.side),
        ("amount_minor", .int sealed.amountMinor),
        ("currency", .str sealed.currency)] := by
    intro postings
    rw [map_map]
    rfl
  simp only [journalEntryPayload, written, sortPostings_sealed, same]

/-- Postings may differ outside their sealed fields, and rows that no entry lists may differ at will. -/
theorem readsSame_withPostings {postings : Dict String PostingRow}
    (lookup : ∀ entryId, ∀ postingId ∈ (store.postingsByEntry.get? entryId).getD [],
      (store.postings.get? postingId).map sealed = (postings.get? postingId).map sealed) :
    ReadsSame store { store with postings := postings } where
  chains := rfl
  checkpoints := rfl
  journal := rfl
  postings := by
    intro entryId
    rw [getPostingsForEntry, getPostingsForEntry, map_filterMap, map_filterMap]
    exact filterMap_congr (lookup entryId)

namespace ReadsSame

section

variable (same : ReadsSame store other)

include same

theorem deepVerifyMoneyRow_eq (row : ChainEntryRow) :
    service.deepVerifyMoneyRow store row = service.deepVerifyMoneyRow other row := by
  simp only [deepVerifyMoneyRow, same.journal]
  cases entryIdFromPointer row.payloadPointer with
  | none => rfl
  | some entryId =>
    have postings := same.postings entryId
    have lengths : (store.getPostingsForEntry entryId).length = (other.getPostingsForEntry entryId).length := by
      simpa using congrArg length postings
    simp only [lengths, sum_filter_of_sealed "DEBIT" postings, sum_filter_of_sealed "CREDIT" postings,
      journalEntryPayloadHash, journalEntryPayload_of_sealed _ postings]

theorem verifyRows_eq (rows : List ChainEntryRow) (walk : Walk) :
    service.verifyRows store request rows walk = service.verifyRows other request rows walk := by
  induction rows generalizing walk with
  | nil => rfl
  | cons row _ ih =>
    simp only [verifyRows, verifyRow, same.deepVerifyMoneyRow_eq row, ih]

/-- Verification cannot tell the two apart. -/
theorem verifyChainStatus_eq : service.verifyChainStatus store request = service.verifyChainStatus other request := by
  have chain : store.chain = other.chain := by
    funext domain
    simp only [chain, same.chains]
  have checkpoints : store.listCheckpoints = other.listCheckpoints := by
    funext domain
    simp only [listCheckpoints, same.checkpoints]
  have count : store.countJournalEntries = other.countJournalEntries := by
    simp only [countJournalEntries, same.journal]
  have crossed : service.crossCheck store = service.crossCheck other := by
    funext request walk checkpoint
    rw [crossCheck, crossCheck, maxChainIndex, maxChainIndex,
      getChainEntry, getChainEntry, chain]
  have iterated : store.iterChain = other.iterChain := by
    funext domain fromIndex toIndex
    simp only [iterChain, chain]
  simp only [verifyChainStatus, verifyChainInner, same.verifyRows_eq,
    verifySummary, verifyEmpty, anchorHash, getChainEntry,
    chain, checkpoints, count, crossed, iterated]

end

end ReadsSame

/-! Which runs are free of the separator -/

theorem pipe_not_mem_of_hex {digits : List Char} (hex : ∀ digit ∈ digits, isHexDigit digit = true) : '|' ∉ digits := by
  intro member
  exact absurd (hex '|' member) (by decide)

theorem pipe_not_mem_decimal (value : Int) : '|' ∉ Text.decimal value := by
  intro member
  rcases Text.mem_decimal member with digit | minus
  · exact absurd digit (by decide)
  · exact absurd minus (by decide)

theorem pipe_not_mem_toCanonicalTs (instant : DateTime) : '|' ∉ (toCanonicalTs instant).toList := by
  intro member
  rw [toCanonicalTs, String.toList_ofList] at member
  rcases DateTime.mem_isoMillis member with digit | mark
  · exact absurd digit (by decide)
  · exact absurd mark (by decide)

theorem pipe_not_mem_entryType {entryType : String} (typed : entryType ∈ entryTypes) : '|' ∉ entryType.toList := by
  have all : ∀ entryType ∈ entryTypes, '|' ∉ entryType.toList := by decide +kernel
  exact all entryType typed

namespace Posted

variable (posted : Posted service)

theorem pipe_not_mem_payloadHash : '|' ∉ posted.row.payloadHash.toList := by
  have hashed := posted.payload
  simp only [journalEntryPayloadHash, sha256Canonical] at hashed
  cases canonical : canonicalJson (journalEntryPayload posted.entry posted.postings) with
  | error => simp [canonical, Except.map, raiseCanonical] at hashed
  | ok text =>
    simp only [canonical, Except.map, raiseCanonical, Except.ok.injEq] at hashed
    rw [← hashed]
    exact pipe_not_mem_of_hex (service.hexDigest text)

theorem pipe_not_mem_payloadPointer : '|' ∉ posted.row.payloadPointer.toList := by
  have noPipe : '|' ∉ posted.entry.entryId.toList := posted.not_mem_entryId (by decide)
  have stamped := pipe_not_mem_toCanonicalTs posted.entry.producedAt
  have start : '|' ∉ ledgerPointerStart.toList := by decide
  have final : '|' ∉ pointerEnd.toList := by decide
  rw [posted.pointer, payloadPointerFor, pointerFor, String.toList_ofList]
  simp only [mem_append, mem_cons, not_or]
  exact ⟨start, by decide, fun member => stamped (mem_of_mem_take member), by decide,
    fun member => stamped (mem_of_mem_drop (mem_of_mem_take member)), by decide,
    fun member => stamped (mem_of_mem_drop (mem_of_mem_take member)), by decide, noPipe, final⟩

end Posted

/-- The service never seals the separator into a field, unless its own name contains it. -/
theorem Represents.pipeFree
    (represents : Represents service store genesis log) (producer : '|' ∉ service.producer.toList) :
    ∀ row ∈ moneyRows genesis log, row.PipeFree := by
  intro row member field inFields
  have wellSealed := represents.money.wellSealed row member
  have hashes : ∀ other ∈ moneyRows genesis log, '|' ∉ other.chainHash.toList := by
    intro other inside
    rw [computeEntryHash_eq_ok (represents.money.wellSealed other inside).sealed]
    exact pipe_not_mem_of_hex (service.hexDigest _)
  have prevHash : '|' ∉ row.prevChainHash.toList := by
    rcases Chain.Linked.prev_mem represents.money.linked member with start | ⟨other, inside, same⟩
    · rw [start]
      decide
    · rw [same]
      exact hashes other inside
  have sealed : '|' ∉ row.entryType.toList ∧ '|' ∉ row.payloadHash.toList ∧ '|' ∉ row.payloadPointer.toList := by
    simp only [moneyRows, mem_append, Option.mem_toList, mem_map] at member
    rcases member with first | ⟨posted, inside, rfl⟩
    · rw [represents.genesisRow row first]
      exact ⟨show '|' ∉ genesisEntryType.toList by decide, pipe_not_mem_of_hex (service.hexDigest _),
        show '|' ∉ (genesisPointer moneyDomain).toList by decide⟩
    · refine ⟨?_, posted.pipe_not_mem_payloadHash, posted.pipe_not_mem_payloadPointer⟩
      rw [posted.sealedType]
      exact pipe_not_mem_entryType posted.typed
  simp only [preimage, fields, mem_cons, not_mem_nil, or_false] at inFields
  rcases inFields with rfl | rfl | rfl | rfl | rfl | rfl | rfl | rfl | rfl
  · exact prevHash
  · exact pipe_not_mem_decimal _
  · rw [wellSealed.domain]
    decide
  · exact sealed.1
  · exact sealed.2.1
  · exact sealed.2.2
  · exact pipe_not_mem_decimal _
  · rw [wellSealed.producer]
    exact producer
  · exact pipe_not_mem_toCanonicalTs _

/-- Tamper evidence: whatever was done to a store behind the service, if it keeps the
genesis row and the tip and a full deep verification completes, then every entry and
every posting of an entry still shows what was sealed. -/
theorem agreeOnSeals_of_verifyChain (service : LedgerService) (injective : Function.Injective service.sha256)
    (steps : List (DateTime × Call)) (other after : MemoryStore) (result : ChainVerificationResult) (now : DateTime)
    (pipeFree : ∀ row ∈ ((Call.run service steps {}).chain moneyDomain).values, row.PipeFree)
    (sameGenesis : other.getChainEntry moneyDomain 0 = (Call.run service steps {}).getChainEntry moneyDomain 0)
    (sameTip : other.chainTip moneyDomain = (Call.run service steps {}).chainTip moneyDomain)
    (verified : service.verifyChain {} now other = .ok result after) (completed : result.status = .completed) :
    AgreeOnSeals (Call.run service steps {}) other := by
  obtain ⟨genesis, log, represents⟩ := Call.run_represents service steps
  obtain ⟨reached, status, -⟩ := service.verifyChain_eq other {} now
  rw [status] at verified
  cases verified
  refine represents.agreeOnSeals_of_completed injective ?_ sameGenesis sameTip completed
  intro row member
  apply pipeFree row
  rw [Dict.values, represents.money.entries, List.map_map]
  simpa [Function.comp_def] using member

/-- The day after the sample history. -/
def nextDay : DateTime := ⟨newYear.micros + 86400000000, by decide⟩

/-- The sample store with one posting moved to the next day. -/
def movedStore : MemoryStore :=
  { sampleStore with postings := sampleStore.postings.set debitRow.postingId { debitRow with producedAt := nextDay } }

theorem sampleStore_debitRow : sampleStore.postings.get? debitRow.postingId = some debitRow := by
  apply get?_of_mem
  rw [sampleStore_postings.1]
  simp [keyedPostings]

theorem movedStore_completed : (sampleService.verifyChainStatus movedStore {}).status = .completed := by
  have same : ReadsSame sampleStore movedStore := by
    refine readsSame_withPostings ?_
    intro _ postingId _
    rw [get?_set]
    by_cases moved : postingId = debitRow.postingId
    · rw [if_pos moved, moved, sampleStore_debitRow]
      rfl
    · rw [if_neg moved]
  obtain ⟨genesis, log, represents⟩ := run_represents sampleService sampleSteps
  rw [← same.verifyChainStatus_eq]
  exact represents.verifyChainStatus_completed sampleService_accepts ⟨by decide, .inl ⟨rfl, rfl⟩⟩

/-- The date of a posting is not sealed, so moving it leaves everything sealed as it was. -/
theorem agreeOnSeals_of_movedStore : AgreeOnSeals (Call.run sampleService sampleSteps {}) movedStore := by
  obtain ⟨genesis, log, represents⟩ := Call.run_represents sampleService sampleSteps
  have kept : ∀ (store : MemoryStore) (postings : Dict String PostingRow),
      MemoryStore.chain { store with postings := postings } = store.chain := fun _ _ => rfl
  have chain : movedStore.chain = (Call.run sampleService sampleSteps {}).chain := kept _ _
  refine agreeOnSeals_of_verifyChain sampleService
    (knownDigest_injective (by decide)) sampleSteps movedStore movedStore _
    newYear ?_ ?_ ?_ (verifyChain_of_completed movedStore_completed newYear) movedStore_completed
  · intro row member
    rw [Dict.values, represents.money.entries, List.map_map] at member
    exact represents.pipeFree (by decide) row (by simpa [Function.comp_def] using member)
  · rw [MemoryStore.getChainEntry, MemoryStore.getChainEntry, chain]
  · rw [MemoryStore.chainTip, MemoryStore.chainTip, chain]

end BdPay.Ledger
