import BdPay.Data.Chain
import BdPay.Ledger.Staging
import BdPay.Platform.Forms

namespace BdPay.Ledger

open Data Platform ChainEntryRow MemoryStore LedgerService List

/-! The walk of the verifier over stored rows, whoever wrote them: it goes on through linked rows that
pass, raises at a malformed row, and objects to every other one. -/

variable {service : LedgerService} {store : MemoryStore} {request : VerifyRequest} {row : ChainEntryRow} {walk : Walk}

/-- One of the two results that engage the write gate. -/
def ChainVerificationResult.Objects (result : ChainVerificationResult) : Prop :=
  result.status = .failedBrokenChain ∨ result.status = .failedInvalidCheckpointSig

theorem ChainVerificationResult.Objects.ne {result : ChainVerificationResult} (objects : result.Objects) :
    result.status ≠ .completed ∧ result.status ≠ .failedError := by
  rcases objects with broken | badSig
  · simp [broken]
  · simp [badSig]

/-- A row that no seal can be computed for. -/
def ChainEntryRow.Malformed (row : ChainEntryRow) : Prop :=
  row.chainDomain ∉ chainDomains ∨ row.payloadPointer = "" ∨ row.prevChainHash.length ≠ 64 ∨
    row.chainIndex < 0 ∨ row.amountMinorSum < 0

theorem endsWith_toCanonicalTs (instant : DateTime) : Text.endsWith (toCanonicalTs instant).toList ['Z'] = true := by
  simp only [toCanonicalTs, String.toList_ofList, Text.endsWith, isSuffixOf_iff_suffix, DateTime.isoMillis]
  repeat
    first
    | exact suffix_append _ _
    | refine .trans ?_ (suffix_append _ _)
    | refine .trans ?_ (suffix_cons _ _)

/-- The hash of a row can be computed unless the row is malformed. -/
theorem not_malformed_iff (sha256 repr : String → String) : ¬ row.Malformed ↔
    ∃ digest, computeEntryHash sha256 repr (row.preimage row.prevChainHash) = .ok digest := by
  have noHash : row.prevChainHash = "" ∨ row.prevChainHash.length ≠ 64 ↔ row.prevChainHash.length ≠ 64 :=
    or_iff_right_of_imp fun empty => by simp [empty]
  simp only [Malformed, computeEntryHash, preimage, endsWith_toCanonicalTs, noHash]
  split_ifs <;> simp_all

def sumOn (side : String) (postings : List PostingRow) : Int :=
  ((postings.filter fun posting => posting.side = side).map PostingRow.amountMinor).sum

variable (service store request row walk)

/-- A sealed row whose entry and postings are the ones that were sealed. -/
@[mk_iff]
structure LedgerService.DeepVerified (entryId : String) (entry : JournalEntryRow) : Prop where
  pointer : entryIdFromPointer row.payloadPointer = some entryId
  found : store.journal.get? entryId = some entry
  enough : ¬ (store.getPostingsForEntry entryId).length < 2
  balanced : sumOn "DEBIT" (store.getPostingsForEntry entryId) =
    sumOn "CREDIT" (store.getPostingsForEntry entryId)
  total : sumOn "DEBIT" (store.getPostingsForEntry entryId) +
    sumOn "CREDIT" (store.getPostingsForEntry entryId) = row.amountMinorSum
  typed : entry.entryType = row.entryType
  dated : toCanonicalTs entry.producedAt = toCanonicalTs row.producedAt
  payload : journalEntryPayloadHash service.sha256 entry (store.getPostingsForEntry entryId) = .ok row.payloadHash

/-- A checkpoint under a trusted key, numbered as its place in the chain asks. -/
def LedgerService.Signed : Prop :=
  ∃ sig publicKey, row.checkpointSig = some sig ∧ row.checkpointPublicKeyB64 = some publicKey ∧
    publicKey ∈ service.trustedKeys ∧ service.verifyCheckpoint row.chainHash sig publicKey = true ∧
    row.checkpointSequenceInDomain = some (row.chainIndex / service.checkpointInterval)

/-- A row that the verifier has no objection to, once it stands where it is expected. -/
structure LedgerService.Passes : Prop where
  sealed : service.IsSealed row
  placed : (decide (0 < row.chainIndex) && service.isCheckpointIndex row.chainIndex) = row.isCheckpoint
  signed : row.isCheckpoint = true → service.Signed row
  deep : request.deep = true → request.chainDomain = moneyDomain → 0 < row.chainIndex →
    ∃ entryId entry, service.DeepVerified store row entryId entry

/-! One row -/

namespace LedgerService

theorem exists_journalEntryPayloadHash (sha256 : String → String) (entry : JournalEntryRow)
    (postings : List PostingRow) : ∃ digest, journalEntryPayloadHash sha256 entry postings = .ok digest := by
  have posting : ∀ posting, Plain (postingPayload posting) := fun posting =>
    .dict (by simp) (by simp [Plain.str, Plain.int])
  have plain : Plain (journalEntryPayload entry postings) := by
    refine .dict (by simp) ?_
    simp only [forall_mem_cons, Plain.str, Plain.int, not_mem_nil, IsEmpty.forall_iff, implies_true, true_and, and_true]
    exact .list (by simp [posting])
  obtain ⟨json, means⟩ := exists_meaning plain
  rw [journalEntryPayloadHash, sha256Canonical, canonicalJson_eq_ok.mpr ⟨json, means, rfl⟩]
  exact ⟨_, rfl⟩

/-- The deep check never raises; it has no complaint exactly where the row is verified. -/
theorem deepVerifyMoneyRow_spec :
    ∃ complaint, service.deepVerifyMoneyRow store row = .ok complaint ∧
      (complaint = none ↔ ∃ entryId entry, service.DeepVerified store row entryId entry) := by
  simp only [deepVerifyMoneyRow, deepVerified_iff]
  cases pointer : entryIdFromPointer row.payloadPointer with
  | none => exact ⟨_, rfl, by simp⟩
  | some entryId =>
    dsimp only
    cases found : store.journal.get? entryId with
    | none => exact ⟨_, rfl, by simp [found]⟩
    | some entry =>
      obtain ⟨digest, hashed⟩ := exists_journalEntryPayloadHash service.sha256 entry (store.getPostingsForEntry entryId)
      simp only [Option.some.injEq, exists_and_left, exists_eq_left', found, hashed, Except.map, Except.ok.injEq]
      split_ifs with few imbalanced unequal retyped redated rehashed
      · exact ⟨_, rfl, by simp [few]⟩
      · exact ⟨_, rfl, by simp [sumOn, imbalanced]⟩
      · exact ⟨_, rfl, by simp [sumOn, unequal]⟩
      · exact ⟨_, rfl, by simp [retyped]⟩
      · exact ⟨_, rfl, by simp [redated]⟩
      · exact ⟨_, rfl, by simp [rehashed]⟩
      · rw [not_not] at *
        exact ⟨_, rfl, iff_of_true rfl ⟨few, imbalanced, unequal, retyped, redated, rehashed⟩⟩

theorem verifyCheckpointRow_spec :
    match service.verifyCheckpointRow row walk with
    | .stop result => result.Objects ∧ ¬ service.Signed row
    | .goOn _ => service.Signed row := by
  rw [verifyCheckpointRow]
  cases sig : row.checkpointSig with
  | none => exact ⟨.inr rfl, by simp [Signed, sig]⟩
  | some =>
    cases publicKey : row.checkpointPublicKeyB64 with
    | none => exact ⟨.inr rfl, by simp [Signed, publicKey]⟩
    | some =>
      dsimp only
      split_ifs with trusted forged misnumbered
      · exact ⟨.inr rfl, by simp [Signed, sig, publicKey, forged]⟩
      · exact ⟨.inl rfl, by simp [Signed, misnumbered]⟩
      · exact ⟨_, _, sig, publicKey, trusted, Bool.eq_true_of_not_eq_false forged, not_not.mp misnumbered⟩
      · exact ⟨.inr rfl, by simp [Signed, publicKey, trusted]⟩

theorem verifyPlacement_spec :
    match service.verifyPlacement row walk with
    | .stop result => result.Objects ∧ ¬ service.Passes store request row
    | .goOn _ => (decide (0 < row.chainIndex) && service.isCheckpointIndex row.chainIndex) = row.isCheckpoint ∧
        (row.isCheckpoint = true → service.Signed row) := by
  simp only [verifyPlacement]
  split_ifs with misplaced flagged
  · exact ⟨.inl rfl, fun passes => misplaced passes.placed⟩
  · have signature := verifyCheckpointRow_spec service row walk
    cases checked : service.verifyCheckpointRow row walk with
    | stop =>
      rw [checked] at signature
      exact ⟨signature.1, fun passes => signature.2 (passes.signed flagged)⟩
    | goOn =>
      rw [checked] at signature
      exact ⟨not_not.mp misplaced, fun _ => signature⟩
  · exact ⟨not_not.mp misplaced, fun isCheckpoint => absurd isCheckpoint flagged⟩

/-- The row is the one the walk has to come to next. -/
def Expects : Prop :=
  row.chainIndex = walk.expectedIndex ∧ row.prevChainHash = walk.prevHash

/-- How a round of the walk ends. -/
inductive Round : Except LedgerError (Verdict Walk) → Prop where
  | raised (expected : Expects row walk) (malformed : row.Malformed) : Round (.error error)
  | objected (objects : result.Objects)
      (neither : Expects row walk → ¬ row.Malformed ∧ ¬ service.Passes store request row) :
      Round (.ok (.stop result))
  | passed (expected : Expects row walk) (passes : service.Passes store request row) :
      Round (.ok (.goOn ⟨row.chainHash, walk.expectedIndex + 1, walk.checked + 1, cps⟩))

theorem round_verifyRow : Round service store request row walk (service.verifyRow store request row walk) := by
  rw [verifyRow]
  by_cases index : row.chainIndex = walk.expectedIndex
  case neg =>
    rw [if_pos index]
    exact .objected (.inl rfl) fun expected => absurd expected.1 index
  by_cases prev : row.prevChainHash = walk.prevHash
  case neg =>
    rw [if_neg (not_not.mpr index), if_pos prev]
    exact .objected (.inl rfl) fun expected => absurd expected.2 prev
  rw [if_neg (not_not.mpr index), if_neg (not_not.mpr prev), ← prev]
  cases computed : computeEntryHash service.sha256 service.repr (row.preimage row.prevChainHash) with
  | error =>
    refine .raised ⟨index, prev⟩ ?_
    by_contra wellFormed
    obtain ⟨digest, hashed⟩ := (not_malformed_iff service.sha256 service.repr).mp wellFormed
    cases computed.symm.trans hashed
  | ok expected =>
    have objected : ∀ {result}, result.Objects → ¬ service.Passes store request row →
        Round service store request row walk (.ok (.stop result)) := fun objects fails =>
      .objected objects fun _ => ⟨(not_malformed_iff _ _).mpr ⟨_, computed⟩, fails⟩
    dsimp only
    by_cases same : expected = row.chainHash
    case neg =>
      rw [if_pos same]
      exact objected (.inl rfl) fun passes => same (Except.ok.inj (computed.symm.trans passes.sealed))
    rw [if_neg (not_not.mpr same)]
    have sealed : service.IsSealed row := by
      rw [IsSealed, computed, same]
    have placement := verifyPlacement_spec service store request row walk
    cases placed : service.verifyPlacement row walk with
    | stop =>
      rw [placed] at placement
      exact objected placement.1 placement.2
    | goOn =>
      rw [placed] at placement
      dsimp only
      split_ifs with deep
      · obtain ⟨complaint, checked, clean⟩ := deepVerifyMoneyRow_spec service store row
        rw [checked]
        cases complaint with
        | some =>
          refine objected (.inl rfl) fun passes => Option.some_ne_none _ (clean.mpr ?_)
          exact passes.deep deep.1 deep.2.1 deep.2.2
        | none => exact .passed ⟨index, prev⟩ ⟨sealed, placement.1, placement.2, fun _ _ _ => clean.mp rfl⟩
      · exact .passed ⟨index, prev⟩ ⟨sealed, placement.1, placement.2, fun isDeep money positive =>
          absurd ⟨isDeep, money, positive⟩ deep⟩

/-! All rows of a range -/

variable (index : Int) (anchor : String) (rows : List ChainEntryRow)

/-- Rows numbered from `index` and linked from `anchor` on, every one of which passes. -/
def Clear : Prop :=
  Chain.Linked chainIndex prevChainHash chainHash index anchor rows ∧ ∀ row ∈ rows, service.Passes store request row

/-- Rows that are clear up to a malformed one, which is linked to them. -/
def Stuck : Prop :=
  ∃ before row after, rows = before ++ row :: after ∧
    Chain.Linked chainIndex prevChainHash chainHash index anchor (before ++ [row]) ∧
    (∀ earlier ∈ before, service.Passes store request earlier) ∧ row.Malformed

variable {service store request row walk index anchor rows}

theorem clear_cons : service.Clear store request walk.expectedIndex walk.prevHash (row :: rows) ↔
    Expects row walk ∧ service.Passes store request row ∧
      service.Clear store request (walk.expectedIndex + 1) row.chainHash rows := by
  simp only [Clear, Chain.Linked, Expects, forall_mem_cons]
  tauto

theorem stuck_cons : service.Stuck store request walk.expectedIndex walk.prevHash (row :: rows) ↔
    Expects row walk ∧ (row.Malformed ∨ service.Passes store request row ∧
      service.Stuck store request (walk.expectedIndex + 1) row.chainHash rows) := by
  constructor
  · rintro ⟨before, stop, after, split, linked, passes, malformed⟩
    cases before with
    | nil =>
      obtain ⟨rfl, -⟩ := cons.inj split
      exact ⟨⟨linked.1, linked.2.1⟩, .inl malformed⟩
    | cons =>
      obtain ⟨rfl, rest⟩ := cons.inj split
      rw [forall_mem_cons] at passes
      exact ⟨⟨linked.1, linked.2.1⟩, .inr ⟨passes.1, _, stop, after, rest, linked.2.2, passes.2, malformed⟩⟩
  · rintro ⟨expected, malformed | ⟨passes, before, stop, after, rfl, linked, others, malformed⟩⟩
    · exact ⟨[], row, rows, rfl, ⟨expected.1, expected.2, trivial⟩, by simp, malformed⟩
    · exact ⟨row :: before, stop, after, rfl, ⟨expected.1, expected.2, linked⟩,
        forall_mem_cons.mpr ⟨passes, others⟩, malformed⟩

theorem Passes.not_malformed (passes : service.Passes store request row) : ¬ row.Malformed :=
  (not_malformed_iff service.sha256 service.repr).mpr ⟨_, passes.sealed⟩

variable (service store request rows walk)

/-- How the walk ends. -/
inductive Pass : Except LedgerError (Verdict Walk) → Prop where
  | raised (stuck : service.Stuck store request walk.expectedIndex walk.prevHash rows) :
      Pass (.error error)
  | objected (objects : result.Objects) (notStuck : ¬ service.Stuck store request walk.expectedIndex walk.prevHash rows)
      (notClear : ¬ service.Clear store request walk.expectedIndex walk.prevHash rows) :
      Pass (.ok (.stop result))
  | passed (clear : service.Clear store request walk.expectedIndex walk.prevHash rows)
      (checked : final.checked = walk.checked + rows.length) : Pass (.ok (.goOn final))

theorem pass_verifyRows : Pass service store request walk rows (service.verifyRows store request rows walk) := by
  induction rows generalizing walk with
  | nil => exact .passed ⟨trivial, by simp⟩ (by simp)
  | cons row rest ih =>
    have round := round_verifyRow service store request row walk
    rw [verifyRows]
    generalize service.verifyRow store request row walk = outcome at round
    cases round with
    | raised expected malformed => exact .raised (stuck_cons.mpr ⟨expected, .inl malformed⟩)
    | objected objects neither =>
      refine .objected objects (fun stuck => ?_) fun clear => ?_
      · obtain ⟨expected, malformed | ⟨passes, -⟩⟩ := stuck_cons.mp stuck
        · exact (neither expected).1 malformed
        · exact (neither expected).2 passes
      · obtain ⟨expected, passes, -⟩ := clear_cons.mp clear
        exact (neither expected).2 passes
    | @passed cps expected passes =>
      have others := ih ⟨row.chainHash, walk.expectedIndex + 1, walk.checked + 1, cps⟩
      dsimp only
      generalize service.verifyRows store request rest _ = outcome at others
      cases others with
      | raised stuck => exact .raised (stuck_cons.mpr ⟨expected, .inr ⟨passes, stuck⟩⟩)
      | objected objects notStuck notClear =>
        refine .objected objects (fun stuck => ?_) fun clear => notClear (clear_cons.mp clear).2.2
        rcases (stuck_cons.mp stuck).2 with malformed | ⟨-, stuck⟩
        · exact passes.not_malformed malformed
        · exact notStuck stuck
      | passed clear checked =>
        refine .passed (clear_cons.mpr ⟨expected, passes, clear⟩) ?_
        rw [checked, length_cons]
        push_cast
        ring

variable {service store request rows walk}

theorem Clear.not_stuck (clear : service.Clear store request index anchor rows) :
    ¬ service.Stuck store request index anchor rows := by
  rintro ⟨before, row, after, rfl, -, -, malformed⟩
  exact (clear.2 row (by simp)).not_malformed malformed

theorem Clear.verifyRows_eq (walk : Walk)
    (clear : service.Clear store request walk.expectedIndex walk.prevHash rows) :
    ∃ final, service.verifyRows store request rows walk = .ok (.goOn final) ∧
      final.checked = walk.checked + rows.length := by
  have pass := pass_verifyRows service store request walk rows
  generalize service.verifyRows store request rows walk = outcome at pass
  cases pass with
  | raised stuck => exact absurd stuck clear.not_stuck
  | objected _ _ notClear => exact absurd clear notClear
  | passed _ checked => exact ⟨_, rfl, checked⟩

/-! After the walk -/

theorem crossCheck_objects (stopped : service.crossCheck store request walk checkpoint = some result) :
    result.Objects := by
  simp only [crossCheck] at stopped
  repeat' split at stopped
  all_goals cases stopped
  all_goals first
    | exact .inl rfl
    | exact .inr rfl

end LedgerService

end BdPay.Ledger
