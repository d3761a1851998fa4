import BdPay.Ledger.Settlement.Filing
import BdPay.Ledger.Settlement.Refusals

namespace BdPay.Ledger.Settlement

open Platform Data Effect Process SettlementInstruction Settlements JournalEntry SettlementBatch SettlementEngine List

/-! The money of settlement batches.

Confirming a batch closes what is submitted then, and cancelling it takes back everything.
A rail callback that settles, returns or rejects a single instruction in between posts
nothing, and a cancellation that the ledger stops half way leaves reversals behind; so the
books balance if every batch is whole when it is confirmed, and unpaid when it is cancelled.
-/

variable {tables later : Settlements} {batchId : String} {around : Surroundings} {orderly : Prop}
  {instructions : Dict String SettlementInstruction}

/-! Confirmation. -/

/-- A rail transaction identifier is noted, if it is for this row, which waits for one. -/
def SettlementInstruction.noting (row : SettlementInstruction) (evidence : String × String) : SettlementInstruction :=
  if row.instructionId = evidence.1 ∧ row.status = .submitted ∧ row.railTransactionId = none then
    { row with railTransactionId := some evidence.2 }
  else row

theorem SettlementInstruction.noting_filing (row : SettlementInstruction) (evidence : String × String) :
    (row.noting evidence).filing = row.filing ∧ (row.noting evidence).status = row.status := by
  rw [noting]
  split_ifs <;> exact ⟨rfl, rfl⟩

theorem recordTxid_eq (keyed : instructions.Keyed instructionId) (evidence : String × String) :
    recordTxid instructions evidence = instructions.mapValues fun row => row.noting evidence := by
  have others : ∀ row ∈ instructions.values, instructions.get? row.instructionId = some row :=
    fun row member => keyed.get?_of_mem member
  have unchanged : (∀ row ∈ instructions.values, row.noting evidence = row) →
      instructions = instructions.mapValues fun row => row.noting evidence := by
    intro same
    rw [Dict.mapValues_congr same]
    exact (Dict.mapValues_id _).symm
  rw [recordTxid]
  cases found : instructions.get? evidence.1 with
  | none =>
    refine unchanged fun row member => if_neg fun hit => ?_
    rw [← hit.1, others row member] at found
    cases found
  | some noted =>
    have only : ∀ row ∈ instructions.values, row.instructionId = evidence.1 → row = noted := by
      intro row member same
      rw [← same, others row member] at found
      exact Option.some.inj found
    dsimp only
    split_ifs with waiting
    · rw [keyed.set_eq_mapValues found]
      refine Dict.mapValues_congr fun row member => ?_
      rw [noting]
      by_cases same : row.instructionId = evidence.1
      · obtain rfl := only row member same
        rw [if_pos same, if_pos ⟨same, waiting⟩]
      · rw [if_neg same, if_neg fun hit => same hit.1]
    · refine unchanged fun row member => if_neg fun hit => ?_
      obtain rfl := only row member hit.1
      exact waiting hit.2

theorem foldl_noting_filing (noted : List (String × String)) (row : SettlementInstruction) :
    (noted.foldl noting row).filing = row.filing ∧ (noted.foldl noting row).status = row.status := by
  induction noted generalizing row with
  | nil => exact ⟨rfl, rfl⟩
  | cons evidence _ ih =>
    obtain ⟨filing, status⟩ := row.noting_filing evidence
    exact ⟨(ih _).1.trans filing, (ih _).2.trans status⟩

theorem foldl_recordTxid_eq (keyed : instructions.Keyed instructionId) (noted : List (String × String)) :
    noted.foldl recordTxid instructions = instructions.mapValues fun row => noted.foldl noting row := by
  induction noted generalizing instructions with
  | nil => exact (Dict.mapValues_id _).symm
  | cons evidence _ ih =>
    have keyed' : (recordTxid instructions evidence).Keyed instructionId :=
      foldl_recordTxid_keyed keyed [evidence]
    rw [foldl_cons, ih keyed', recordTxid_eq keyed, Dict.mapValues_mapValues]
    rfl

variable {sponsorBankRef : Option String} {txids : Dict String String} {instructionId : String}

theorem progress_evidenced (filed : tables.Filed) (found : tables.batches.get? batchId = some batch)
    (dispatched : batch.status = .dispatched) :
    Progress orderly batchId tables (tables.evidenced batchId batch sponsorBankRef txids) := by
  have books := filed.books batchId
  have instructions : (tables.evidenced batchId batch sponsorBankRef txids).instructions =
      tables.instructions.mapValues fun row => txids.entries.foldl noting row :=
    foldl_recordTxid_eq filed.keyed.instructions _
  have there : (tables.evidenced batchId batch sponsorBankRef txids).batches.get? batchId =
      some { batch with sponsorBankRef } := Dict.get?_set_self _ _ _
  have same := fun row (_ : row ∈ tables.instructions.values) => (foldl_noting_filing txids.entries row).1
  refine ⟨keyed_evidenced filed.keyed found _ _, filed.genuine, ?_, ?_, fun _ _ => balanced_of_open fun other now => ?_⟩
  · intro other different
    exact like_elsewhere _ (Dict.get?_set_of_ne different) instructions same
      (fun row _ => (foldl_noting_filing _ row).2) fun _ => rfl
  · refine books.moved rfl rfl (staff_mapValues instructions fun row member => batchId_congr (same row member))
      (fun row member => same row (mem_staff.mp member).1) ?_ ?_ ?_ ?_
    · intro missing
      cases there.symm.trans missing
    · intro new now
      obtain rfl := Option.mem_unique there now
      exact ⟨batch, found, rfl⟩
    · intro _
      refine books.unclosed fun other same => ?_
      obtain rfl : batch = other := Option.mem_unique found same
      simp [dispatched]
    · exact fun _ _ _ => ⟨_, there, dispatched⟩
  · obtain rfl := Option.mem_unique there now
    simp [dispatched, BatchStatus.terminal]

/-- Everything in the batch is submitted, and nothing of it is taken back. -/
def Settlements.whole (tables : Settlements) (batchId : String) : Bool :=
  (tables.staff batchId).all (fun row => row.status = .submitted) &&
    (tables.entries batchId .settlementBatchOpenReversal).isEmpty

theorem whole_iff : tables.whole batchId = true ↔ (∀ row ∈ tables.staff batchId, row.status = .submitted) ∧
    tables.entries batchId .settlementBatchOpenReversal = [] := by
  simp [whole]

theorem members_eq_filter {status : InstructionStatus} :
    tables.members batchId status = (tables.staff batchId).filter fun row => row.status = status := by
  simp only [members, staff, filter_filter]
  exact filter_congr fun row _ => Bool.and_comm _ _

section

variable (filed : tables.Filed)

include filed

/-- The batch is confirmed on the evidence, with the close entry if there is anything to close. -/
theorem progress_confirmed {batch : SettlementBatch} (found : tables.batches.get? batchId = some batch)
    (dispatched : batch.status = .dispatched) {now : DateTime} {posted : List JournalEntry}
    {rows : List SettlementInstruction} (listed : rows = tables.members batchId .submitted)
    (closes : rows = [] ∧ posted = [] ∨ posted = [closeEntry batchId rows])
    (whole : orderly → tables.whole batchId = true) :
    Progress orderly batchId tables
      (({ tables with journal := tables.journal ++ posted } : Settlements).confirmed now batchId batch sponsorBankRef
        txids) := by
  have moved : ({ tables with journal := tables.journal ++ posted } : Settlements).confirmed now batchId batch sponsorBankRef
      txids = tables.moved batchId { batch with status := .confirmed, confirmedAt := some now, sponsorBankRef }
        (inBatch batchId .submitted) (settled now txids) posted := by
    simp [confirmed, rewrite, moved]
  have kept : ∀ row ∈ tables.instructions.values, inBatch batchId .submitted row = true →
      row.batchId = some batchId ∧ (settled now txids row).filing = row.filing :=
    fun row _ which => ⟨(inBatch_iff.mp which).1, rfl⟩
  have closing : ∀ entry ∈ posted, entry.genuine = true ∧ entry.referenceId = batchId ∧
      entry.entryType = .settlementBatchClose := by
    rcases closes with ⟨_, rfl⟩ | rfl
    · simp
    · simp [closeEntry, genuine]
  rw [moved]
  refine progress_moved filed found rfl rfl kept closing (fun unconfirmed => absurd rfl unconfirmed) ?_ fun fair _ => ?_
  · intro row member status
    split_ifs at status with hit
    · cases status
    · exact absurd (inBatch_iff.mpr ⟨(mem_staff.mp member).2, status⟩) hit
  obtain ⟨submitted, unreversed⟩ := whole_iff.mp (whole fair)
  have typed := fun entry member => (closing entry member).2.2
  have all : rows = tables.staff batchId := by
    rw [listed, members_eq_filter, filter_eq_self]
    exact fun row member => by simpa using submitted row member
  have unclosed : tables.entries batchId .settlementBatchClose = [] := by
    refine (filed.books batchId).unclosed fun other same => ?_
    obtain rfl : batch = other := Option.mem_unique found same
    simp [dispatched]
  constructor
  · intro other same confirmed
    simp only [books, staff_moved kept, closes_moved closing, unclosed, nil_append]
    refine ⟨(entries_other rfl typed (by decide)).trans unreversed, ?_, ?_⟩
    · intro row member
      obtain ⟨before, inside, rfl⟩ := mem_map.mp member
      rw [if_pos (inBatch_iff.mpr ⟨(mem_staff.mp inside).2, submitted before inside⟩)]
      rfl
    · rw [netTotal_map fun row member => filing_moved kept row (mem_staff.mp member).1, map_eq_nil_iff, ← all]
      rcases closes with ⟨none, unposted⟩ | one
      · exact .inl ⟨none, unposted⟩
      · exact .inr ⟨rows, one, rfl⟩
  · intro other same cancelled
    obtain rfl := Option.mem_unique (Dict.get?_set_self _ _ _) same
    cases cancelled

theorem whole_evidenced (whole : tables.whole batchId = true) :
    (tables.evidenced batchId batch sponsorBankRef txids).whole batchId = true := by
  obtain ⟨submitted, unreversed⟩ := whole_iff.mp whole
  refine whole_iff.mpr ⟨?_, unreversed⟩
  rw [staff_mapValues (foldl_recordTxid_eq filed.keyed.instructions _)
    fun row _ => batchId_congr (foldl_noting_filing txids.entries row).1, forall_mem_map]
  intro row member
  rw [(foldl_noting_filing txids.entries row).2]
  exact submitted row member

theorem rewrite_settled (found : tables.batches.get? batchId = some batch) (confirmed : batch.status = .confirmed) :
    tables.rewrite (inBatch batchId .submitted) change = tables := by
  have same : ∀ row ∈ tables.instructions.values,
      (if inBatch batchId .submitted row then change row else row) = row := by
    intro row member
    refine if_neg fun hit => ?_
    obtain ⟨theirs, status⟩ := inBatch_iff.mp hit
    exact unsubmitted filed found (by simp [confirmed]) row (mem_staff.mpr ⟨member, theirs⟩) status
  rw [rewrite, Dict.mapValues_congr same]
  exact congrArg (fun instructions => { tables with instructions }) (Dict.mapValues_id _)

theorem progress_confirm
    (whole : orderly → ∀ batch, tables.batches.get? batchId = some batch → batch.status = .dispatched →
      tables.whole batchId = true) :
    (confirm batchId sponsorBankRef txids).EndsIn around tables (Progress orderly batchId tables) := by
  refine ends_confirm filed.keyed (fun _ _ => progress_refl filed) ?_ fun batch resolved found dispatched _ => ?_
  · intro batch found confirmed
    rw [rewrite_settled filed found confirmed]
    exact progress_refl filed
  have first : Progress orderly batchId tables (tables.evidenced batchId batch resolved txids) :=
    progress_evidenced filed found dispatched
  have filed' := first.allFiled filed
  have there : (tables.evidenced batchId batch resolved txids).batches.get? batchId =
      some { batch with sponsorBankRef := resolved } := Dict.get?_set_self _ _ _
  have last := fun posted closes => first.trans
    (@progress_confirmed _ _ orderly resolved txids filed' _ there dispatched
    around.now posted _ rfl closes fun fair => whole_evidenced filed (whole fair batch found dispatched))
  refine ends_confirmFresh_of filed.keyed found rfl rfl (fun _ => rfl) (fun _ => progress_refl filed)
    (fun _ _ => first) ?_ ?_ ?_
  · intro none
    simpa using last [] (.inl ⟨none, rfl⟩)
  · intro _ _
    exact last _ (.inr rfl)
  · intro _ closed
    refine absurd ((filed'.books batchId).unclosed fun other same => ?_) closed
    obtain rfl := Option.mem_unique there same
    simp [dispatched]

end

/-! Callbacks, assignment and intake. -/

/-- The tables stay filed, and balanced if the move is orderly. -/
def Moves (orderly : Prop) (tables later : Settlements) : Prop :=
  later.Filed ∧ (orderly → tables.Balanced → later.Balanced)

theorem Progress.moves (progress : Progress orderly batchId tables later) (filed : tables.Filed) :
    Moves orderly tables later :=
  ⟨progress.allFiled filed, progress.allBalanced⟩

theorem moves_refl (filed : tables.Filed) : Moves orderly tables tables := ⟨filed, fun _ => id⟩

theorem Moves.trans {last : Settlements} (first : Moves orderly tables later) (second : Moves orderly later last) :
    Moves orderly tables last :=
  ⟨second.1, fun fair balanced => second.2 fair (first.2 fair balanced)⟩

section

variable (filed : tables.Filed)

include filed

theorem moves_of_like (keyed : later.Keyed) (journal : later.journal = tables.journal)
    (like : ∀ batchId, (tables.books batchId).Like (later.books batchId)) : Moves orderly tables later :=
  ⟨⟨keyed, journal ▸ filed.genuine, fun batchId => (like batchId).filed (filed.books batchId)⟩,
    fun _ balanced batchId => (like batchId).balanced (balanced batchId)⟩

/-- One instruction is replaced by one that is filed alike. -/
theorem moves_instruction (found : tables.instructions.get? instructionId = some row) (same : new.filing = row.filing)
    (status : new.status = row.status ∨ row.status = .submitted ∧ new.status ≠ .submitted) :
    Moves orderly tables { tables with instructions := tables.instructions.set instructionId new } := by
  have own := filed.keyed.instructions.key_of_get? found
  have only : ∀ other ∈ tables.instructions.values, other.instructionId = instructionId → other = row :=
    fun other member hit =>
    filed.keyed.instructions.inj member (Dict.mem_values_of_get? found) (hit.trans own.symm)
  have mapped := filed.keyed.instructions.set_eq_mapValues found new
  have keyed : ({ tables with instructions := tables.instructions.set instructionId new } : Settlements).Keyed :=
    (@Wrote.instruction (.tryDispatch "") tables instructionId row new found
      ⟨instructionId_congr same, fun _ => .inr ⟨_, rfl⟩⟩).keyed filed.keyed
  have filing : ∀ other ∈ tables.instructions.values,
      (if other.instructionId = instructionId then new else other).filing = other.filing := by
    intro other member
    split_ifs with hit
    · rw [only other member hit, same]
    · rfl
  by_cases still : new.status = row.status
  · refine moves_of_like filed keyed rfl fun batchId => like_elsewhere _ rfl mapped filing (fun other member => ?_)
      fun _ => rfl
    split_ifs with hit
    · rw [only other (mem_staff.mp member).1 hit, still]
    · rfl
  obtain ⟨was, moved⟩ := status.resolve_left still
  cases theirs : row.batchId with
  | none =>
    refine moves_of_like filed keyed rfl fun batchId => like_elsewhere _ rfl mapped filing (fun other member => ?_)
      fun _ => rfl
    obtain ⟨inside, filedUnder⟩ := mem_staff.mp member
    rw [if_neg fun hit => ?_]
    rw [only other inside hit, theirs] at filedUnder
    cases filedUnder
  | some batchId =>
    have member : row ∈ tables.staff batchId := mem_staff.mpr ⟨Dict.mem_values_of_get? found, theirs⟩
    obtain ⟨batch, there, dispatched⟩ := (filed.books batchId).submitted row member was
    have eq : ({ tables with instructions := tables.instructions.set instructionId new } : Settlements) =
        tables.moved batchId batch (fun other => other.instructionId = instructionId) (fun _ => new) [] := by
      simp only [Settlements.moved, Dict.set_of_get? there, mapped, decide_eq_true_eq, append_nil]
    rw [eq]
    refine Progress.moves (progress_running filed there rfl rfl ?_ (by simp [dispatched])
      (by simp [dispatched, BatchStatus.terminal]) fun _ _ _ => dispatched) filed
    intro other inside hit
    rw [only other inside (by simpa using hit)]
    exact ⟨theirs, same⟩

theorem moves_onRail (waiting : ∀ status, target ∈ instructionTransitions status trigger → status = .submitted)
    (same : ∀ now row, (change now row).filing = row.filing) (moved : ∀ now row, (change now row).status ≠ .submitted) :
    (onRail trigger instructionId target change).EndsIn around tables (Moves orderly tables) := by
  simp only [onRail, ends_bind, ends_pure, ends_requireInstruction, ends_clockNow, ends_denyInstruction]
  refine ⟨fun row found => ⟨fun _ => moves_refl filed, fun allowed => ?_⟩, fun _ => moves_refl filed⟩
  simp only [ends_updateInstruction, found, Option.some.injEq, forall_eq', reduceCtorEq, false_implies, and_true]
  exact moves_instruction filed found (same _ _) (.inr ⟨waiting _ allowed, moved _ _⟩)

/-- Rows are updated one after the other in ways the books do not see. -/
theorem moves_forEach
    {change : SettlementInstruction → SettlementInstruction → SettlementInstruction}
    (same : ∀ item row, (change item row).filing = row.filing ∧ (change item row).status = row.status) :
    (Process.forEach rows fun item => do
      let _ ← updateInstruction item.instructionId (change item) : SettlementP Unit).EndsIn around tables
        (Moves orderly tables) := by
  refine ends_forEach (fun _ => Moves orderly tables) (moves_refl filed) (fun item rest state moves _ => ?_) fun _ => id
  simp only [ends_bind, ends_pure, ends_updateInstruction]
  exact ⟨fun row found => moves.trans (moves_instruction moves.1 found (same item row).1 (.inl (same item row).2)),
    fun _ => moves⟩

end

variable {engine : SettlementEngine} {row : SettlementInstruction} {batch : SettlementBatch}

/-- A batch is opened with nothing in it. -/
theorem progress_opens (filed : tables.Filed) (opens : SettlementEngine.Opens engine now row tables opened batch) :
    Progress orderly batch.batchId tables opened := by
  have keyed := opens.keyed filed.keyed
  cases opens with
  | found => exact progress_refl filed
  | fresh _ absent =>
    have books := filed.books (engine.batchFor now row).batchId
    have unstaffed := books.known absent
    have there : (tables.setBatch (engine.batchFor now row)).batches.get? (engine.batchFor now row).batchId =
        some (engine.batchFor now row) := Dict.get?_set_self _ _ _
    refine ⟨keyed, filed.genuine, ?_, ⟨?_, books.opens, ?_, books.reversedOnce, books.reversals, ?_, ?_⟩, fun _ _ =>
      balanced_of_open fun other same => ?_⟩
    · intro other different
      exact like_elsewhere id (Dict.get?_set_of_ne different) (Dict.mapValues_id _).symm (fun _ _ => rfl)
        (fun _ _ => rfl) fun _ => rfl
    · exact fun _ => unstaffed
    · intro other same
      obtain rfl := Option.mem_unique there same
      exact (congrArg tallyOf unstaffed).symm
    · exact fun _ => books.unclosed fun other same => by cases absent.symm.trans same
    · intro other member
      have inside : other ∈ (tables.books (engine.batchFor now row).batchId).staff := member
      rw [unstaffed] at inside
      cases inside
    · obtain rfl := Option.mem_unique there same
      rfl

/-- The row that joins a batch is on its staff, and on no other's. -/
theorem staff_set (found : tables.instructions.get? row.instructionId = some row) (free : row.batchId = none)
    {new : SettlementInstruction} (joins : new.batchId = some batchId)
    (instructions : later.instructions = tables.instructions.set row.instructionId new) :
    (later.staff batchId).Perm (new :: tables.staff batchId) ∧
      ∀ other, other ≠ batchId → later.staff other = tables.staff other := by
  obtain ⟨front, back, split, replaced⟩ :=
    @Dict.entries_set_of_bound _ _ _ tables.instructions row.instructionId row found
  have before : tables.instructions.values = front.map Prod.snd ++ row :: back.map Prod.snd := by
    simp [Dict.values, split]
  have now_ : later.instructions.values = front.map Prod.snd ++ new :: back.map Prod.snd := by
    simp [Dict.values, instructions, replaced]
  constructor
  · simp only [staff, before, now_, filter_append, filter_cons, joins, free, decide_true, if_true,
      reduceCtorEq, decide_false, Bool.false_eq_true, if_false]
    exact perm_middle
  · intro other different
    simp [staff, before, now_, filter_append, joins, free, different.symm]

theorem SettlementBatch.taken_tally (batch : SettlementBatch) (row : SettlementInstruction) :
    (batch.taking row).watched.tally = row.share + batch.tally := by
  rw [watched]
  split_ifs <;> simp [tally, taking, share, add_comm]

theorem SettlementBatch.taken_status (batch : SettlementBatch) (row : SettlementInstruction) :
    (batch.taking row).watched.status = batch.status := by
  rw [watched]
  split_ifs <;> rfl

section

variable (filed : tables.Filed)

include filed

theorem progress_assigned (found : tables.batches.get? batch.batchId = some batch)
    (open_ : batch.status = .opened) (present : tables.instructions.get? row.instructionId = some row)
    (free : row.batchId = none) (queued : row.status = .queued) :
    Progress orderly batch.batchId tables (tables.assigned now batch row) := by
  have books := filed.books batch.batchId
  obtain ⟨staff, others⟩ := @staff_set tables (tables.assigned now batch row) batch.batchId row present free
    (row.joining batch.batchId now) rfl rfl
  have there : (tables.assigned now batch row).batches.get? batch.batchId = some (batch.taking row).watched :=
    Dict.get?_set_self _ _ _
  have posted : ∀ entry ∈ [openEntry batch.batchId row], entry.entryType = .settlementBatchOpen := by
    simp [openEntry]
  have opens : ((tables.assigned now batch row).books batch.batchId).opens =
      (tables.books batch.batchId).opens ++ [openEntry batch.batchId row] := by
    refine entries_posted rfl ?_
    simp [openEntry]
  have reversals : ((tables.assigned now batch row).books batch.batchId).reversals =
      (tables.books batch.batchId).reversals := entries_other rfl posted (by decide)
  have closes : ((tables.assigned now batch row).books batch.batchId).closes = (tables.books batch.batchId).closes :=
    entries_other rfl posted (by decide)
  refine ⟨keyed_assigned filed.keyed, ?_, ?_, ?_, fun _ _ => balanced_of_open fun other same => ?_⟩
  · intro entry member
    rcases mem_append.mp member with before | now
    · exact filed.genuine entry before
    · rw [mem_singleton] at now
      rw [now]
      simp [openEntry, genuine]
  · intro other different
    have elsewhere := @entries_elsewhere tables (tables.assigned now batch row) batch.batchId _ rfl
      (by simp [openEntry]) other different
    exact ⟨Dict.get?_set_of_ne different, elsewhere _, elsewhere _, elsewhere _, id, fun _ _ => ⟨rfl, rfl⟩,
      (others other different).trans (map_id _).symm⟩
  · refine ⟨?_, ?_, ?_, reversals ▸ books.reversedOnce, ?_, ?_, ?_⟩
    · intro missing
      cases there.symm.trans missing
    · rw [opens]
      refine List.Perm.trans ?_ (staff.map _).symm
      refine (perm_append_singleton _ _).trans ?_
      exact books.opens.cons _
    · intro other same
      obtain rfl := Option.mem_unique there same
      rw [batch.taken_tally, books.counted batch found]
      exact (staff.map share).sum_eq.symm
    · rw [reversals, opens]
      intro entry member
      obtain ⟨opening, inside, same⟩ := books.reversals entry member
      exact ⟨opening, mem_append_left _ inside, same⟩
    · intro _
      rw [closes]
      refine books.unclosed fun other same => ?_
      obtain rfl : batch = other := Option.mem_unique found same
      simp [open_]
    · intro other member status
      rcases mem_cons.mp (staff.mem_iff.mp member) with rfl | inside
      · cases queued.symm.trans status
      · exact absurd status (unsubmitted filed found (by simp [open_]) other inside)
  · obtain rfl := Option.mem_unique there same
    rw [batch.taken_status, open_]
    rfl

theorem moves_assignDueInstructions : engine.assignDueInstructions.EndsIn around tables (Moves orderly tables) := by
  refine ends_assignDueInstructions_of (Moves orderly tables) filed.keyed (moves_refl filed) ?_ ?_
  · intro row state opened batch moves opens
    exact moves.trans ((progress_opens moves.1 opens).moves moves.1)
  · intro row state opened batch listed due keyed moves openedMoves opens _ _
    obtain ⟨inside, waiting⟩ := mem_filter.mp listed
    simp only [Bool.and_eq_true, decide_eq_true_eq] at waiting
    have present : opened.instructions.get? row.instructionId = some row := by
      rw [opens.instructions]
      exact keyed.instructions.get?_of_mem inside
    exact openedMoves.trans
      ((progress_assigned openedMoves.1 (opens.get? keyed) opens.status present waiting.2 waiting.1).moves openedMoves.1)

theorem moves_insertNew (free : row.batchId = none) : (insertNew row).EndsIn around tables (Moves orderly tables) := by
  have stays : Moves orderly tables tables := moves_refl filed
  rw [EndsIn, insertNew, ends_bind, ends_look]
  cases found : tables.instructions.get? row.instructionId with
  | some => exact ends_pure.mpr stays
  | none =>
    simp only [insertInstruction, ends_act, stops_bind, stops_get, stops_raiseIf, stops_set]
    refine ⟨fun _ => stays, fun _ => ⟨fun _ => stays, fun _ => ⟨fun _ => stays, fun _ => ?_⟩⟩⟩
    refine moves_of_like filed ⟨filed.keyed.batches, filed.keyed.instructions.set rfl⟩ rfl fun batchId => ?_
    refine ⟨rfl, rfl, rfl, rfl, id, fun _ _ => ⟨rfl, rfl⟩, ?_⟩
    simp [books, staff, setInstruction, Dict.values_set_of_fresh found, free]

theorem moves_registerSucceededPayment :
    (engine.registerSucceededPayment payment).EndsIn around tables (Moves orderly tables) := by
  have stays : Moves orderly tables tables := moves_refl filed
  have known_ : ∀ {α : Type} {named : Option α} {message : String} {returns : α → Settlements → Prop},
      (∀ value, returns value tables) →
      (known named message).Ends around tables returns fun _ => Moves orderly tables := by
    intro α named message returns holds
    cases named with
    | none => exact ends_raised.mpr stays
    | some value => exact ends_pure.mpr (holds value)
  simp only [registerSucceededPayment, ends_bind, ends_raiseIf, ends_clockNow]
  refine known_ fun rail => known_ fun direction => known_ fun category => ⟨fun _ => stays, fun _ => ?_⟩
  exact moves_insertNew filed rfl

end

/-! Runs. -/

/-- Nothing in the batch is settled. -/
def Settlements.unpaid (tables : Settlements) (batchId : String) : Bool :=
  (tables.staff batchId).all fun row => row.status ≠ .settled

/-- A batch to be confirmed is whole, and one to be cancelled, or retried once too often, is unpaid. -/
def Settlements.inOrder (tables : Settlements) : Operation → Bool
  | .confirm batchId _ _ => (tables.batches.get? batchId).all fun batch =>
    batch.status ≠ .dispatched || tables.whole batchId
  | .resumeConfirmations => tables.batches.values.all fun batch =>
    batch.status ≠ .dispatched || batch.sponsorBankRef.isNone || tables.whole batch.batchId
  | .cancel batchId operatorApproved => !operatorApproved || (tables.batches.get? batchId).all fun batch =>
    (batch.status ≠ .pendingDispatch && batch.status ≠ .held) || tables.unpaid batchId
  | .manualRetry batchId _ => (tables.batches.get? batchId).all fun batch =>
    batch.status ≠ .failed || batch.retryCount < maxRetries batch.rail || tables.unpaid batchId
  | _ => true

theorem unpaid_iff : tables.unpaid batchId = true ↔ ∀ row ∈ tables.staff batchId, row.status ≠ .settled := by
  simp [unpaid]

theorem whole_of_like (like : (tables.books batchId).Like (later.books batchId)) (whole : tables.whole batchId = true) :
    later.whole batchId = true := by
  obtain ⟨submitted, unreversed⟩ := whole_iff.mp whole
  exact whole_iff.mpr ⟨(like.all_status (· = .submitted)).mpr submitted, like.reversals.trans unreversed⟩

theorem members_of_confirmed (filed : tables.Filed) (found : tables.batches.get? batchId = some batch)
    (confirmed : batch.status = .confirmed) : tables.members batchId .submitted = [] := by
  rw [members_eq_filter, filter_eq_nil_iff]
  intro row member
  simpa using unsubmitted filed found (by simp [confirmed]) row member

theorem moves_resumeConfirmations (filed : tables.Filed)
    (whole : orderly → ∀ batchId batch, tables.batches.get? batchId = some batch → batch.status = .dispatched →
      batch.sponsorBankRef.isSome → tables.whole batchId = true) :
    resumeConfirmations.EndsIn around tables (Moves orderly tables) := by
  simp only [resumeConfirmations, ends_bind, ends_listBatches]
  refine ends_forEach (fun rest state => state = tables ∧ Standing .confirmed rest state)
    ⟨rfl, standing_batchesIn filed.keyed .confirmed⟩ (fun batch rest state ready _ => ?_) ?_
  · obtain ⟨rfl, standing⟩ := ready
    obtain ⟨row, found, confirmed⟩ := standing.standing batch mem_cons_self
    simp only [resumeConfirmed, ends_bind, ends_listMembers, members_of_confirmed filed found confirmed, ends_ite,
      ends_pure]
    exact ⟨fun _ => ⟨trivial, standing.tail (fun _ _ => rfl) standing.keyed⟩, fun pending => absurd trivial pending⟩
  · rintro state ⟨same, _⟩
    rw [same]
    refine ends_forEach (fun rest state => Moves orderly tables state ∧ Standing .dispatched rest state ∧
      (orderly → ∀ batch ∈ rest, batch.sponsorBankRef.isSome → state.whole batch.batchId = true))
      ⟨moves_refl filed, standing_batchesIn filed.keyed .dispatched, ?_⟩
      (fun batch rest state ready _ => ?_) fun _ ready => ready.1
    · intro fair batch member marked
      obtain ⟨inside, status⟩ := mem_filter.mp ((mergeSort_perm _ _).mem_iff.mp member)
      exact whole fair batch.batchId batch (filed.keyed.batches.get?_of_mem inside) (by simpa using status) marked
    · obtain ⟨moves, standing, remaining⟩ := ready
      have others : orderly → ∀ other ∈ rest, other.sponsorBankRef.isSome → state.whole other.batchId = true :=
        fun fair other member => remaining fair other (mem_cons_of_mem _ member)
      simp only [resumeDispatched, ends_ite, ends_pure]
      refine ⟨fun marked => ?_, fun _ => ⟨moves, standing.tail (fun _ _ => rfl) standing.keyed, others⟩⟩
      have confirms := @progress_confirm state batch.batchId around orderly batch.sponsorBankRef .empty moves.1
        fun fair _ _ _ => remaining fair batch mem_cons_self marked
      refine confirms.mono (fun _ after progress => ?_) fun _ after progress => moves.trans (progress.moves moves.1)
      refine ⟨moves.trans (progress.moves moves.1), standing.tail (fun other different =>
        (progress.elsewhere other different).batch?) progress.keyed, fun fair other member isSome => ?_⟩
      have different : other.batchId ≠ batch.batchId := fun same =>
        (nodup_cons.mp standing.distinct).1 (same ▸ mem_map_of_mem member)
      exact whole_of_like (progress.elsewhere _ different) (others fair other member isSome)

theorem moves_timeoutCheck (filed : tables.Filed) : timeoutCheck.EndsIn around tables (Moves orderly tables) := by
  simp only [timeoutCheck, ends_bind, ends_clockNow, ends_listBatches]
  refine ends_forEach (fun _ => Moves orderly tables) (moves_refl filed) (fun batch rest state moves _ => ?_)
    fun _ => id
  rw [ends_ite]
  refine ⟨fun _ => ?_, fun _ => ends_pure.mpr moves⟩
  have fails := @progress_failBatch state batch.batchId orderly around moves.1 .connectorTimeout "TIMEOUT_EXHAUSTED"
    failed_of_timeout
  exact fails.mono (fun _ _ progress => moves.trans (progress.moves moves.1)) fun _ _ progress =>
    moves.trans (progress.moves moves.1)

theorem ends_moves_pure
    (ends : process.EndsIn around tables (Moves orderly tables)) :
    (do let _ ← process; pure value : SettlementP (Option BeftnBatchHandoff)).EndsIn around tables
      (Moves orderly tables) := by
  simp only [ends_bind, ends_pure]
  exact ends

theorem ends_moves {process : SettlementP α} (filed : tables.Filed)
    (ends : process.EndsIn around tables (Progress orderly batchId tables)) :
    process.EndsIn around tables (Moves orderly tables) :=
  ends.mono (fun _ _ progress => progress.moves filed) fun _ _ progress => progress.moves filed

theorem moves_perform (filed : tables.Filed) (operation : Operation) :
    (engine.perform operation).EndsIn around tables (Moves (tables.inOrder operation = true) tables) := by
  cases operation with
  | registerSucceededPayment => exact ends_moves_pure (moves_registerSucceededPayment filed)
  | setAmlHold =>
    refine ends_moves_pure ?_
    rw [EndsIn, setAmlHold, ends_bind, listQueuedOf, ends_look]
    exact moves_forEach filed fun _ _ => ⟨rfl, rfl⟩
  | confirmDelivery =>
    refine ends_moves_pure ?_
    rw [EndsIn, confirmDelivery, ends_bind, listQueuedOf, ends_look]
    exact moves_forEach filed fun _ _ => ⟨rfl, rfl⟩
  | assignDueInstructions => exact ends_moves_pure (moves_assignDueInstructions filed)
  | cutoff => exact ends_moves_pure (ends_moves filed (progress_cutoff filed))
  | grantApproval => exact ends_moves_pure (ends_moves filed (progress_grantApproval filed))
  | tryDispatch => exact ends_moves filed (progress_tryDispatch filed)
  | releaseHeld => exact ends_moves_pure (ends_moves filed (progress_releaseHeld filed))
  | confirm =>
    refine ends_moves_pure (ends_moves filed (progress_confirm filed fun fair batch found dispatched => ?_))
    simpa [inOrder, found, dispatched] using fair
  | resumeConfirmations =>
    refine ends_moves_pure (moves_resumeConfirmations filed fun fair batchId batch found dispatched marked => ?_)
    have own := filed.keyed.batches.key_of_get? found
    subst own
    have holds := all_eq_true.mp fair batch (Dict.mem_values_of_get? found)
    obtain ⟨ref, known⟩ := Option.isSome_iff_exists.mp marked
    simpa [dispatched, known] using holds
  | reject => exact ends_moves_pure (ends_moves filed (progress_failBatch filed failed_of_rejection))
  | timeoutCheck => exact ends_moves_pure (moves_timeoutCheck filed)
  | manualRetry =>
    refine ends_moves_pure (ends_moves filed (progress_manualRetry filed
      fun fair batch found failed spent => unpaid_iff.mp ?_))
    have again : ¬ batch.retryCount < maxRetries batch.rail := Nat.not_lt.mpr spent
    simpa [inOrder, found, failed, again] using fair
  | cancel _ operatorApproved =>
    refine ends_moves_pure ?_
    cases operatorApproved with
    | false =>
      simp only [cancel, ends_bind, ends_raiseIf, not_true_eq_false, false_implies, and_true]
      exact fun _ => moves_refl filed
    | true =>
      refine ends_moves filed (progress_cancel filed fun fair batch found waiting => unpaid_iff.mp ?_)
      rcases waiting with status | status
      · simpa [inOrder, found, status] using fair
      · simpa [inOrder, found, status] using fair
  | onRailConfirmed | onRailReturned | onRailRejected =>
    exact ends_moves_pure (moves_onRail filed (fun status => by cases status <;> decide) (fun _ _ => rfl) (by simp))

theorem filed_empty : empty.Filed where
  keyed := ⟨Dict.keyed_empty, Dict.keyed_empty⟩
  genuine := by simp [empty]
  books := fun batchId => by
    constructor <;> simp [books, staff, entries, empty]

theorem moves_after (filed : tables.Filed) (step : Step) :
    Moves (tables.inOrder step.operation = true) tables (engine.after tables step) :=
  ends_iff_leaves.mp (moves_perform filed step.operation)

theorem SettlementEngine.run_filed (engine : SettlementEngine) (steps : List Step) : (engine.run steps).Filed := by
  induction steps using reverseRecOn with
  | nil => exact filed_empty
  | append_singleton _ step ih =>
    rw [run, foldl_append]
    exact (moves_after ih step).1

/-- What the rows of the batches, and the entries posted for them, say of the instructions. -/
structure Settlements.Tallied (tables : Settlements) : Prop where
  totals : ∀ batchId batch, tables.batches.get? batchId = some batch → batch.tally = tallyOf (tables.staff batchId)
  oneBatch : ∀ batchId other, ∀ row ∈ tables.staff batchId, ∀ twin ∈ tables.staff other,
    row.instructionId = twin.instructionId → batchId = other
  opens : ∀ batchId, ∀ entry ∈ tables.entries batchId .settlementBatchOpen,
    ∃ row ∈ tables.staff batchId, entry = openEntry batchId row
  openedOnce : ∀ batchId, ((tables.entries batchId .settlementBatchOpen).map idempotencyKey).Nodup
  reversals : ∀ batchId, ∀ entry ∈ tables.entries batchId .settlementBatchOpenReversal,
    ∃ opening ∈ tables.entries batchId .settlementBatchOpen, entry = reversalOf batchId opening ∧
      ∀ which, debited which [entry] = -debited which [opening]
  reversedOnce : ∀ batchId,
    ((tables.entries batchId .settlementBatchOpenReversal).map idempotencyKey).Nodup

/-- In every run the totals of a batch are those of its instructions, and what is staged for an
instruction is staged once, in its one batch, and taken back at most once. -/
theorem run_tallied (engine : SettlementEngine) (steps : List Step) : (engine.run steps).Tallied := by
  have filed := engine.run_filed steps
  constructor
  · exact fun batchId => (filed.books batchId).counted
  · intro batchId other row member twin listed same
    obtain ⟨inside, mine⟩ := mem_staff.mp member
    obtain ⟨present, theirs⟩ := mem_staff.mp listed
    obtain rfl := filed.keyed.instructions.inj inside present same
    exact Option.mem_unique mine theirs
  · intro batchId entry posted
    obtain ⟨row, member, made⟩ := List.mem_map.mp ((filed.books batchId).opens.mem_iff.mp posted)
    exact ⟨row, member, made.symm⟩
  · exact fun _ => nodup_openKeys filed
  · intro batchId entry posted
    obtain ⟨opening, listed, rfl⟩ := (filed.books batchId).reversals entry posted
    exact ⟨opening, listed, rfl, fun which => debited_reversals which [opening]⟩
  · intro batchId
    refine (filed.books batchId).reversedOnce.map_on fun left posted right later same => ?_
    obtain ⟨first, listed, rfl⟩ := (filed.books batchId).reversals left posted
    obtain ⟨second, present, rfl⟩ := (filed.books batchId).reversals right later
    rw [List.inj_on_of_nodup_map (nodup_openKeys filed) listed present (EntryKey.batchOpenReversal.inj same)]

/-- Instructions are at the rail only with their batch, and merchants paid only for a confirmed one. -/
def Settlements.InStep (tables : Settlements) : Prop := ∀ batchId,
  (∀ row ∈ tables.staff batchId, row.status = .submitted →
    ∃ batch, tables.batches.get? batchId = some batch ∧ batch.status = .dispatched) ∧
  ∀ entry ∈ tables.entries batchId .settlementBatchClose,
    ∃ batch, tables.batches.get? batchId = some batch ∧ batch.status = .confirmed

theorem run_inStep (engine : SettlementEngine) (steps : List Step) : (engine.run steps).InStep := by
  intro batchId
  have filed := (engine.run_filed steps).books batchId
  refine ⟨filed.submitted, fun _ posted => ?_⟩
  by_contra missing
  exact ne_nil_of_mem posted (filed.unclosed fun batch found confirmed => missing ⟨batch, found, confirmed⟩)

/-- Every step of the run is in order at the tables it finds. -/
def SettlementEngine.inOrder (engine : SettlementEngine) (tables : Settlements) : List Step → Bool
  | [] => true
  | next :: rest => tables.inOrder next.operation && engine.inOrder (engine.after tables next) rest

theorem inOrder_append_left (inOrder : engine.inOrder tables (first ++ rest) = true) :
    engine.inOrder tables first = true := by
  induction first generalizing tables with
  | nil => rfl
  | cons _ _ ih =>
    obtain ⟨here, later⟩ := Bool.and_eq_true_iff.mp inOrder
    exact Bool.and_eq_true_iff.mpr ⟨here, ih later⟩

theorem balanced_of_inOrder (filed : tables.Filed) (balanced : tables.Balanced)
    (inOrder : engine.inOrder tables steps = true) : (steps.foldl engine.after tables).Balanced := by
  induction steps generalizing tables with
  | nil => exact balanced
  | cons step _ ih =>
    obtain ⟨here, later⟩ := Bool.and_eq_true_iff.mp inOrder
    obtain ⟨filed', kept⟩ := @moves_after tables engine filed step
    exact ih filed' (kept here balanced) later

theorem balanced_empty : empty.Balanced := by
  intro batchId
  constructor <;> simp [books, empty]

/-- In a run that confirms only whole batches, and cancels only unpaid ones, the staging of every
batch that is over nets to zero, and its merchants are debited exactly what is settled. -/
theorem conserved_of_inOrder (engine : SettlementEngine) (steps : List Step)
    (inOrder : engine.inOrder .empty steps = true) (reached : List Step) (part : reached <+: steps) (batchId : String)
    (batch : SettlementBatch) (found : (engine.run reached).batches.get? batchId = some batch)
    (finished : batch.status.terminal = true) : (engine.run reached).Conserved batchId := by
  obtain ⟨rest, rfl⟩ := part
  have balanced : (engine.run reached).Balanced :=
    balanced_of_inOrder filed_empty balanced_empty (inOrder_append_left inOrder)
  exact (engine.run_filed reached).conserved balanced found finished

section Sample

set_option maxRecDepth 20000

/-- Two payments that go out together.  The rail may confirm one of them by itself before the batch is confirmed. -/
def dispatchedPair : List Step :=
  [⟨sampleAround, .registerSucceededPayment (samplePayment "pi_1" .npsbIso8583V28 1000)⟩,
    ⟨sampleAround, .registerSucceededPayment (samplePayment "pi_2" .npsbIso8583V28 1000)⟩,
    ⟨sampleAround, .assignDueInstructions⟩, ⟨sampleAround, .cutoff "sbatch_1"⟩, ⟨sampleAround, .tryDispatch "sbatch_1"⟩]

def confirmedApart : List Step :=
  dispatchedPair ++
    [⟨sampleAround, .onRailConfirmed "pi_1" "txid_1"⟩, ⟨sampleAround, .confirm "sbatch_1" (some "ref_1") .empty⟩]

def confirmedTogether : List Step :=
  dispatchedPair ++ [⟨sampleAround, .confirm "sbatch_1" (some "ref_1") .empty⟩]

theorem staging_left_over :
    ((sampleEngine.run confirmedApart).batches.get? "sbatch_1").map SettlementBatch.status = some .confirmed ∧
    debited isTcsa ((sampleEngine.run confirmedApart).postedFor "sbatch_1") = 900 ∧
    debited isMerchant ((sampleEngine.run confirmedApart).postedFor "sbatch_1") = 900 ∧
    netTotal (((sampleEngine.run confirmedApart).staff "sbatch_1").filter fun row => row.status = .settled) = 1800 := by
  decide +kernel

theorem conserved_confirmedTogether :
    ∃ batch, (sampleEngine.run confirmedTogether).batches.get? "sbatch_1" = some batch ∧ batch.status = .confirmed ∧
      (sampleEngine.run confirmedTogether).Conserved "sbatch_1" := by
  have confirmed : ((sampleEngine.run confirmedTogether).batches.get? "sbatch_1").map SettlementBatch.status =
      some .confirmed := by
    decide +kernel
  obtain ⟨batch, found, status⟩ := Option.map_eq_some_iff.mp confirmed
  exact ⟨batch, found, status, conserved_of_inOrder sampleEngine confirmedTogether (by decide +kernel) _ (List.prefix_refl _)
    "sbatch_1" batch found (by rw [status]; rfl)⟩

end Sample

end BdPay.Ledger.Settlement
