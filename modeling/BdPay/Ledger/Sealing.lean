import BdPay.Data.Chain
import BdPay.Ledger.Commit

namespace BdPay.Ledger

open Data Platform MemoryStore ChainEntryRow MemTx List

/-! The chains that appends build: contiguous, linked, sealed, with a signed
checkpoint at every multiple of the interval. -/

variable {service : LedgerService} {store : MemoryStore} {chainDomain : String}

/-- A row as the service writes it into a domain. -/
structure LedgerService.WellSealed (service : LedgerService) (chainDomain : String) (row : ChainEntryRow) : Prop where
  domain : row.chainDomain = chainDomain
  sealed : service.IsSealed row
  producer : row.producer = service.producer
  placed : row.isCheckpoint = (decide (0 < row.chainIndex) && service.isCheckpointIndex row.chainIndex)
  signed : row.isCheckpoint = true → row.checkpointSig = some (service.sign row.chainHash).1 ∧
    row.checkpointPublicKeyB64 = some (service.sign row.chainHash).2 ∧
    row.checkpointSequenceInDomain = some (row.chainIndex / service.checkpointInterval)

/-- A row of the checkpoint summary that agrees with the chain row it is about. -/
structure LedgerService.Summarises (service : LedgerService) (checkpoint : CheckpointRow) (row : ChainEntryRow) :
    Prop where
  isCheckpoint : row.isCheckpoint = true
  index : checkpoint.chainIndexTo = row.chainIndex
  hash : checkpoint.chainHashAtCheckpoint = row.chainHash
  signature : checkpoint.checkpointSig = (service.sign row.chainHash).1
  publicKey : checkpoint.checkpointPublicKeyB64 = (service.sign row.chainHash).2

def MemoryStore.checkpointsOf (store : MemoryStore) (chainDomain : String) : List CheckpointRow :=
  (store.checkpoints.get? chainDomain).getD []

/-- Rows numbered from 0, each one linked to the hash in front of it. -/
def LinkedRows (rows : List ChainEntryRow) : Prop :=
  Chain.Linked chainIndex prevChainHash chainHash 0 genesisPrevHash rows

/-- The hash the next row has to be linked to. -/
def tipHash (rows : List ChainEntryRow) : String := Chain.tip chainHash genesisPrevHash rows

/-- The rows a domain holds, in order. -/
structure LedgerService.Chained (service : LedgerService) (store : MemoryStore) (chainDomain : String)
    (rows : List ChainEntryRow) : Prop where
  entries : (store.chain chainDomain).entries = rows.map fun row => (row.chainIndex, row)
  linked : LinkedRows rows
  wellSealed : ∀ row ∈ rows, service.WellSealed chainDomain row
  summaries : ∀ checkpoint ∈ store.checkpointsOf chainDomain, ∃ row ∈ rows, service.Summarises checkpoint row

theorem linkedRows_concat {row : ChainEntryRow} :
    LinkedRows (rows ++ [row]) ↔ LinkedRows rows ∧ row.chainIndex = rows.length ∧ row.prevChainHash = tipHash rows := by
  simp only [LinkedRows, tipHash, Chain.linked_append, Chain.Linked, Int.zero_add, and_true]

namespace LedgerService.Chained

theorem keys (chained : service.Chained store chainDomain rows) :
    (store.chain chainDomain).keys = rows.map chainIndex := by
  rw [Dict.keys, chained.entries, map_map]
  rfl

theorem get? (chained : service.Chained store chainDomain rows) (member : row ∈ rows) :
    (store.chain chainDomain).get? row.chainIndex = some row := by
  apply Dict.get?_of_mem
  rw [chained.entries]
  exact mem_map.mpr ⟨row, member, rfl⟩

theorem maxIndex_concat (chained : service.Chained store chainDomain (rows ++ [last])) :
    (store.chain chainDomain).keys.max? = some last.chainIndex := by
  rw [chained.keys, max?_eq_some_iff]
  refine ⟨by simp, ?_⟩
  intro index member
  obtain ⟨row, inside, rfl⟩ := mem_map.mp member
  have bounds := Chain.Linked.index_mem chained.linked inside
  have final := (linkedRows_concat.mp chained.linked).2.1
  simp only [length_append, length_singleton] at bounds
  omega

theorem chainTip_nil (chained : service.Chained store chainDomain []) : store.chainTip chainDomain = none := by
  simp [chainTip, chained.keys]

theorem chainTip_concat (chained : service.Chained store chainDomain (rows ++ [last])) :
    store.chainTip chainDomain = some ⟨last.chainIndex, last.chainHash⟩ := by
  have found := chained.get? (show last ∈ rows ++ [last] by simp)
  simp [chainTip, chained.maxIndex_concat, found]

variable (chained : service.Chained store chainDomain rows)
include chained

/-- A tip is the number of the last row together with the hash the next row is linked to. -/
theorem tip_some (committed : store.chainTip chainDomain = some tip) :
    rows ≠ [] ∧ tip.chainIndex + 1 = rows.length ∧ tip.chainHash = tipHash rows := by
  rcases eq_nil_or_concat' rows with rfl | ⟨front, last, rfl⟩
  · simp [chained.chainTip_nil] at committed
  · rw [chained.chainTip_concat] at committed
    obtain rfl := Option.some.inj committed
    have final := (linkedRows_concat.mp chained.linked).2.1
    refine ⟨by simp, ?_, ?_⟩
    · simp [final]
    · simp [tipHash, Chain.tip_concat]

theorem tip_none (committed : store.chainTip chainDomain = none) : rows = [] := by
  rcases eq_nil_or_concat' rows with rfl | ⟨front, last, rfl⟩
  · rfl
  · simp [chained.chainTip_concat] at committed

theorem congr {after : MemoryStore}
    (sameChain : after.chain chainDomain = store.chain chainDomain)
    (sameSummaries : after.checkpointsOf chainDomain = store.checkpointsOf chainDomain) :
    service.Chained after chainDomain rows where
  entries := sameChain ▸ chained.entries
  linked := chained.linked
  wellSealed := chained.wellSealed
  summaries := sameSummaries ▸ chained.summaries

end LedgerService.Chained

/-! Adding one row, or one checkpoint summary -/

def MemoryStore.addChainRow (store : MemoryStore) (row : ChainEntryRow) : MemoryStore :=
  { store with chains := applyChainRow store.chains ((row.chainDomain, row.chainIndex), row) }

def MemoryStore.addCheckpoint (store : MemoryStore) (checkpoint : CheckpointRow) : MemoryStore :=
  { store with checkpoints := applyCheckpoint store.checkpoints checkpoint }

theorem chain_addChainRow (row : ChainEntryRow) :
    (store.addChainRow row).chain chainDomain =
      if chainDomain = row.chainDomain then (store.chain chainDomain).set row.chainIndex row
      else store.chain chainDomain := by
  by_cases same : chainDomain = row.chainDomain
  · subst same
    simp [MemoryStore.chain, MemoryStore.addChainRow, MemTx.applyChainRow]
  · simp [MemoryStore.chain, MemoryStore.addChainRow, MemTx.applyChainRow, same, Dict.get?_set_of_ne same]

theorem checkpointsOf_addCheckpoint (checkpoint : CheckpointRow) :
    (store.addCheckpoint checkpoint).checkpointsOf chainDomain =
      if chainDomain = checkpoint.chainDomain then store.checkpointsOf chainDomain ++ [checkpoint]
      else store.checkpointsOf chainDomain := by
  by_cases same : chainDomain = checkpoint.chainDomain
  · subst same
    simp [checkpointsOf, addCheckpoint, applyCheckpoint]
  · simp [checkpointsOf, addCheckpoint, applyCheckpoint, same,
      Dict.get?_set_of_ne same]

theorem MemoryStore.seal_eq (store : MemoryStore) (write : ChainWrite) :
    store.seal write = write.checkpoint.toList.foldl MemoryStore.addCheckpoint
      (write.rows.foldl MemoryStore.addChainRow store) := by
  cases genesis : write.genesis <;> cases checkpoint : write.checkpoint <;>
    simp [MemoryStore.seal, ChainWrite.rows, MemTx.keyed, genesis, checkpoint, MemoryStore.addChainRow,
      MemoryStore.addCheckpoint]

namespace LedgerService.Chained

variable (chained : service.Chained store chainDomain rows)
include chained

theorem addChainRow (wellSealed : service.WellSealed chainDomain row) (index : row.chainIndex = rows.length)
    (prev : row.prevChainHash = tipHash rows) :
    service.Chained (store.addChainRow row) chainDomain (rows ++ [row]) where
  entries := by
    have fresh : (store.chain chainDomain).get? row.chainIndex = none := by
      rw [Dict.get?_eq_none_iff, chained.keys]
      intro member
      obtain ⟨other, inside, same⟩ := mem_map.mp member
      have bounds := Chain.Linked.index_mem chained.linked inside
      omega
    rw [chain_addChainRow, if_pos wellSealed.domain.symm, Dict.entries_set_of_fresh fresh, chained.entries]
    simp
  linked := linkedRows_concat.mpr ⟨chained.linked, index, prev⟩
  wellSealed := by
    intro other member
    rcases mem_append.mp member with inside | last
    · exact chained.wellSealed other inside
    · rw [mem_singleton.mp last]
      exact wellSealed
  summaries := by
    intro checkpoint member
    obtain ⟨other, inside, summarises⟩ := chained.summaries checkpoint member
    exact ⟨other, by simp [inside], summarises⟩

theorem addChainRow_other (other : chainDomain ≠ row.chainDomain) :
    service.Chained (store.addChainRow row) chainDomain rows :=
  chained.congr (by rw [chain_addChainRow, if_neg other]) rfl

theorem addCheckpoint (member : row ∈ rows) (summarises : service.Summarises checkpoint row) :
    service.Chained (store.addCheckpoint checkpoint) chainDomain rows where
  entries := chained.entries
  linked := chained.linked
  wellSealed := chained.wellSealed
  summaries := by
    intro other listed
    rw [checkpointsOf_addCheckpoint] at listed
    split_ifs at listed
    · rcases mem_append.mp listed with earlier | last
      · exact chained.summaries other earlier
      · rw [mem_singleton.mp last]
        exact ⟨row, member, summarises⟩
    · exact chained.summaries other listed

theorem addCheckpoint_other (other : chainDomain ≠ checkpoint.chainDomain) :
    service.Chained (store.addCheckpoint checkpoint) chainDomain rows :=
  chained.congr rfl (by rw [checkpointsOf_addCheckpoint, if_neg other])

end LedgerService.Chained

/-! What an append adds to its domain -/

namespace LedgerService

variable {write : ChainWrite} {committed : Option ChainTip} {producedAt : DateTime}

theorem wellSealed_genesisRow
    (shape : row = service.genesisRow chainDomain producedAt row.chainHash) (sealed : service.IsSealed row) :
    service.WellSealed chainDomain row where
  domain := by rw [shape]; rfl
  sealed := sealed
  producer := by rw [shape]; rfl
  placed := by rw [shape]; rfl
  signed := by
    intro checkpoint
    rw [shape] at checkpoint
    cases checkpoint

theorem wellSealed_chainRow (positive : 0 < tip.chainIndex + 1)
    (shape : row = service.chainRow request tip row.chainHash) (sealed : service.IsSealed row) :
    service.WellSealed request.chainDomain row where
  domain := by rw [shape]; rfl
  sealed := sealed
  producer := by rw [shape]; rfl
  placed := by
    rw [shape]
    simp [chainRow, positive]
  signed := by
    intro checkpoint
    rw [shape] at checkpoint ⊢
    simp only [chainRow] at checkpoint ⊢
    simp [checkpoint]

theorem genesisRow_producedAt (shape : row = service.genesisRow chainDomain producedAt row.chainHash) :
    row = service.genesisRow chainDomain row.producedAt row.chainHash := by
  have dated : row.producedAt = producedAt := by rw [shape]; rfl
  rw [dated]
  exact shape

theorem Appends.genesisRow {request : ChainAppend} {row : ChainEntryRow}
    (appends : service.Appends committed request write) (written : write.genesis = some row) :
    row = service.genesisRow request.chainDomain row.producedAt row.chainHash := by
  have tipOf := appends.tipOf
  simp only [TipOf, written] at tipOf
  exact genesisRow_producedAt tipOf.2.2.2

/-- The genesis row a write may start with. -/
theorem Chained.genesis (chained : service.Chained store request.chainDomain rows)
    (appends : service.Appends (store.chainTip request.chainDomain) request write) :
    service.Chained (write.genesis.toList.foldl MemoryStore.addChainRow store) request.chainDomain
        (rows ++ write.genesis.toList) ∧ rows ++ write.genesis.toList ≠ [] ∧
      write.tip.chainIndex + 1 = (rows ++ write.genesis.toList).length ∧
      write.tip.chainHash = tipHash (rows ++ write.genesis.toList) := by
  have tipOf := appends.tipOf
  cases genesis : write.genesis with
  | none =>
    simp only [TipOf, genesis] at tipOf
    simpa using ⟨chained, chained.tip_some tipOf⟩
  | some row =>
    simp only [TipOf, genesis] at tipOf
    obtain ⟨empty, tip, sealed, shape⟩ := tipOf
    obtain rfl := chained.tip_none empty
    have index : row.chainIndex = 0 := by rw [shape]; rfl
    have prev : row.prevChainHash = genesisPrevHash := by rw [shape]; rfl
    refine ⟨chained.addChainRow (wellSealed_genesisRow shape sealed) index prev, by simp, ?_, ?_⟩
    · simp [tip]
    · simp [tip, tipHash, Chain.tip]

theorem Chained.seal (chained : service.Chained store chainDomain rows)
    (appends : service.Appends (store.chainTip chainDomain) request write)
    (domain : request.chainDomain = chainDomain) :
    service.Chained (store.seal write) chainDomain (rows ++ write.rows) := by
  subst domain
  obtain ⟨started, nonempty, tipIndex, tipped⟩ := chained.genesis appends
  have shape := appends.row
  have index : write.row.chainIndex = write.tip.chainIndex + 1 := by rw [shape]; rfl
  have prev : write.row.prevChainHash = write.tip.chainHash := by rw [shape]; rfl
  have positive : 0 < write.tip.chainIndex + 1 := by
    have := length_pos_iff.mpr nonempty
    omega
  have grown := started.addChainRow (wellSealed_chainRow positive shape appends.sealed)
    (index.trans tipIndex) (prev.trans tipped)
  rw [seal_eq, ChainWrite.rows, foldl_append, ← append_assoc]
  obtain ⟨checkpointId, checkpoint⟩ := appends.checkpoint
  split_ifs at checkpoint with placed
  · rw [checkpoint]
    refine grown.addCheckpoint (show write.row ∈ rows ++ write.genesis.toList ++ [write.row] by simp) ?_
    have flagged : write.row.isCheckpoint = true := by
      rw [shape] at placed ⊢
      exact placed
    exact ⟨flagged, rfl, rfl, rfl, rfl⟩
  · rw [checkpoint]
    exact grown

theorem Chained.seal_other (chained : service.Chained store chainDomain rows)
    (appends : service.Appends committed request write) (other : chainDomain ≠ request.chainDomain) :
    service.Chained (store.seal write) chainDomain rows := by
  have rowDomain : chainDomain ≠ write.row.chainDomain := by
    rw [appends.row]
    exact other
  have started : service.Chained (write.genesis.toList.foldl MemoryStore.addChainRow store) chainDomain rows := by
    have tipOf := appends.tipOf
    cases genesis : write.genesis with
    | none => exact chained
    | some =>
      simp only [TipOf, genesis] at tipOf
      refine chained.addChainRow_other ?_
      rw [tipOf.2.2.2]
      exact other
  rw [seal_eq, ChainWrite.rows, foldl_append]
  obtain ⟨checkpointId, checkpoint⟩ := appends.checkpoint
  split_ifs at checkpoint with placed
  · rw [checkpoint]
    exact (started.addChainRow_other rowDomain).addCheckpoint_other other
  · rw [checkpoint]
    exact started.addChainRow_other rowDomain

end LedgerService

end BdPay.Ledger
