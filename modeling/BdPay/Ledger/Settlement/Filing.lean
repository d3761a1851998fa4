import BdPay.Ledger.Settlement.BatchBooks

namespace BdPay.Ledger.Settlement

open Data Process SettlementInstruction SettlementEngine BatchStatus Settlements SettlementBatch JournalEntry EntryKey List

/-! How the operations move the books of a batch. -/

variable {tables later : Settlements} {batchId : String} {books after : BatchBooks} {orderly : Prop}

/-- What the entries of an instruction are made of. -/
def SettlementInstruction.filing (row : SettlementInstruction) : String × Option String × Int × Rail × Direction :=
  (row.instructionId, row.batchId, row.netPayoutMinor, row.rail, row.direction)

variable {left right : SettlementInstruction}

theorem openEntry_congr (same : left.filing = right.filing) : openEntry batchId left = openEntry batchId right := by
  simp only [filing, Prod.mk.injEq] at same
  simp [openEntry, same]

theorem net_congr (same : left.filing = right.filing) : left.netPayoutMinor = right.netPayoutMinor := by
  simp only [filing, Prod.mk.injEq] at same
  exact same.2.2.1

variable {change : SettlementInstruction → SettlementInstruction}

theorem netTotal_map
    (same : ∀ row ∈ rows, (change row).filing = row.filing) : netTotal (rows.map change) = netTotal rows := by
  rw [netTotal, map_map, netTotal]
  exact congrArg sum (map_congr_left fun row member => net_congr (same row member))

theorem tallyOf_map
    (same : ∀ row ∈ rows, (change row).filing = row.filing) : tallyOf (rows.map change) = tallyOf rows := by
  rw [tallyOf, map_map, tallyOf]
  refine congrArg sum (map_congr_left fun row member => ?_)
  have alike := same row member
  simp only [filing, Prod.mk.injEq] at alike
  simp [share, alike]

/-- Books that differ in nothing they are read for. -/
structure BatchBooks.Like (books after : BatchBooks) : Prop where
  batch? : after.batch? = books.batch?
  opens : after.opens = books.opens
  reversals : after.reversals = books.reversals
  closes : after.closes = books.closes
  staff : ∃ change : SettlementInstruction → SettlementInstruction,
    (∀ row ∈ books.staff, (change row).filing = row.filing ∧ (change row).status = row.status) ∧
      after.staff = books.staff.map change

theorem BatchBooks.Like.refl (books : BatchBooks) : books.Like books :=
  ⟨rfl, rfl, rfl, rfl, id, fun _ _ => ⟨rfl, rfl⟩, by simp⟩

theorem BatchBooks.Like.trans (first : books.Like after) (second : after.Like last) : books.Like last := by
  obtain ⟨change, same, staff⟩ := first.staff
  obtain ⟨again, alike, restaffed⟩ := second.staff
  refine ⟨second.batch?.trans first.batch?, second.opens.trans first.opens, second.reversals.trans first.reversals,
    second.closes.trans first.closes, again ∘ change, fun row member => ?_, ?_⟩
  · have inside : change row ∈ after.staff := staff ▸ mem_map_of_mem member
    exact ⟨(alike _ inside).1.trans (same row member).1, (alike _ inside).2.trans (same row member).2⟩
  · rw [restaffed, staff, map_map]

theorem BatchBooks.Like.all_status (like : books.Like after) (holds : InstructionStatus → Prop) :
    (∀ row ∈ after.staff, holds row.status) ↔ ∀ row ∈ books.staff, holds row.status := by
  obtain ⟨change, same, staff⟩ := like.staff
  rw [staff, forall_mem_map]
  exact forall₂_congr fun row member => by rw [(same row member).2]

/-- The staff changes, and the row of the batch. -/
theorem BatchBooks.Filed.moved (filed : books.Filed batchId)
    (opens : after.opens = books.opens) (reversals : after.reversals = books.reversals)
    (staff : after.staff = books.staff.map change) (same : ∀ row ∈ books.staff, (change row).filing = row.filing)
    (known : after.batch? = none → books.batch? = none)
    (counted : ∀ new, after.batch? = some new →
      ∃ old, books.batch? = some old ∧ new.tally = old.tally)
    (unclosed : (∀ batch, after.batch? = some batch → batch.status ≠ .confirmed) → after.closes = [])
    (submitted : ∀ row ∈ books.staff, (change row).status = .submitted →
      ∃ batch, after.batch? = some batch ∧ batch.status = .dispatched) : after.Filed batchId where
  known := by
    intro missing
    rw [staff, filed.known (known missing), map_nil]
  opens := by
    rw [opens, staff, map_map]
    refine filed.opens.trans (List.Perm.of_eq (map_congr_left fun row member => ?_))
    exact (openEntry_congr (same row member)).symm
  counted := by
    intro new found
    obtain ⟨old, was, count⟩ := counted new found
    rw [count, filed.counted old was, staff, tallyOf_map same]
  reversedOnce := reversals ▸ filed.reversedOnce
  reversals := by
    rw [reversals, opens]
    exact filed.reversals
  unclosed := unclosed
  submitted := by
    rw [staff, forall_mem_map]
    exact submitted

theorem BatchBooks.Like.filed (like : books.Like after) (filed : books.Filed batchId) : after.Filed batchId := by
  obtain ⟨change, same, staff⟩ := like.staff
  refine filed.moved like.opens like.reversals staff (fun row member => (same row member).1) ?_ ?_ ?_ ?_
  · rw [like.batch?]
    exact id
  · rw [like.batch?]
    exact fun new found => ⟨new, found, rfl⟩
  · rw [like.batch?, like.closes]
    exact filed.unclosed
  · intro row member status
    rw [like.batch?]
    exact filed.submitted row member ((same row member).2 ▸ status)

theorem BatchBooks.Like.balanced (like : books.Like after) (balanced : books.Balanced batchId) :
    after.Balanced batchId := by
  obtain ⟨change, same, staff⟩ := like.staff
  constructor
  · intro batch found confirmed
    obtain ⟨unreversed, settled, closed⟩ := balanced.confirmed batch (like.batch? ▸ found) confirmed
    refine ⟨like.reversals.trans unreversed, (like.all_status (· = .settled)).mpr settled, ?_⟩
    rw [like.closes, staff, netTotal_map fun row member => (same row member).1, map_eq_nil_iff]
    exact closed
  · intro batch found cancelled
    obtain ⟨reversed, unsettled⟩ := balanced.cancelled batch (like.batch? ▸ found) cancelled
    rw [like.reversals, like.opens]
    exact ⟨reversed, (like.all_status (· ≠ .settled)).mpr unsettled⟩

/-- Books of a batch that is not over yet. -/
theorem balanced_of_open (running : ∀ batch, books.batch? = some batch → batch.status.terminal = false) :
    books.Balanced batchId := by
  constructor
  · intro batch found confirmed
    have open_ := running batch found
    rw [terminal, confirmed] at open_
    cases open_
  · intro batch found cancelled
    have open_ := running batch found
    rw [terminal, cancelled] at open_
    cases open_

/-- Books of a batch that has taken everything back. -/
theorem balanced_of_cancelled (found : books.batch? = some batch)
    (cancelled : batch.status = .cancelled) (reversed : books.reversals.Perm (books.opens.map (reversalOf batchId)))
    (unsettled : ∀ row ∈ books.staff, row.status ≠ .settled) : books.Balanced batchId := by
  constructor
  · intro other same confirmed
    obtain rfl : batch = other := Option.mem_unique found same
    rw [cancelled] at confirmed
    cases confirmed
  · exact fun _ _ _ => ⟨reversed, unsettled⟩

/-! The tables. -/

/-- Only the books of one batch move; they stay filed, and balanced if the move is orderly. -/
structure Progress (orderly : Prop) (batchId : String) (tables later : Settlements) : Prop where
  keyed : later.Keyed
  genuine : ∀ entry ∈ later.journal, entry.genuine = true
  elsewhere : ∀ other, other ≠ batchId → (tables.books other).Like (later.books other)
  filed : (later.books batchId).Filed batchId
  balanced : orderly → (tables.books batchId).Balanced batchId → (later.books batchId).Balanced batchId

theorem Progress.allFiled (progress : Progress orderly batchId tables later) (filed : tables.Filed) : later.Filed := by
  refine ⟨progress.keyed, progress.genuine, fun other => ?_⟩
  by_cases same : other = batchId
  · rw [same]
    exact progress.filed
  · exact (progress.elsewhere other same).filed (filed.books other)

theorem Progress.allBalanced (progress : Progress orderly batchId tables later) (fair : orderly)
    (balanced : tables.Balanced) : later.Balanced := by
  intro other
  by_cases same : other = batchId
  · rw [same]
    exact progress.balanced fair (balanced batchId)
  · exact (progress.elsewhere other same).balanced (balanced other)

theorem progress_refl (filed : tables.Filed) : Progress orderly batchId tables tables :=
  ⟨filed.keyed, filed.genuine, fun _ _ => .refl _, filed.books batchId, fun _ balanced => balanced⟩

theorem Progress.trans (first : Progress orderly batchId tables later)
    (second : Progress orderly batchId later last) : Progress orderly batchId tables last where
  keyed := second.keyed
  genuine := second.genuine
  elsewhere := fun other different => (first.elsewhere other different).trans (second.elsewhere other different)
  filed := second.filed
  balanced := fun fair balanced => second.balanced fair (first.balanced fair balanced)

theorem staff_mapValues (instructions : later.instructions = tables.instructions.mapValues change)
    (same : ∀ row ∈ tables.instructions.values, (change row).batchId = row.batchId) :
    later.staff batchId = (tables.staff batchId).map change := by
  rw [staff, instructions, Dict.values_mapValues, filter_map, staff]
  refine congrArg (map change) (filter_congr fun row member => ?_)
  rw [Function.comp_apply, same row member]

theorem mem_staff : row ∈ tables.staff batchId ↔ row ∈ tables.instructions.values ∧ row.batchId = some batchId := by
  simp [staff]

theorem batchId_congr (same : left.filing = right.filing) : left.batchId = right.batchId := by
  simp only [filing, Prod.mk.injEq] at same
  exact same.2.1

theorem instructionId_congr (same : left.filing = right.filing) : left.instructionId = right.instructionId := by
  simp only [filing, Prod.mk.injEq] at same
  exact same.1

variable {posted : List JournalEntry} {other : String}

theorem entries_unchanged {entryType : EntryType} (journal : later.journal = tables.journal ++ posted)
    (foreign : ∀ entry ∈ posted, ¬ (entry.referenceId = batchId ∧ entry.entryType = entryType)) :
    later.entries batchId entryType = tables.entries batchId entryType := by
  have none : posted.filter (fun entry => entry.referenceId = batchId && entry.entryType = entryType) = [] := by
    refine filter_eq_nil_iff.mpr fun entry member => ?_
    simpa using foreign entry member
  rw [entries, journal, filter_append, entries, none, append_nil]

theorem entries_elsewhere (journal : later.journal = tables.journal ++ posted)
    (theirs : ∀ entry ∈ posted, entry.referenceId = batchId) {other : String} (different : other ≠ batchId)
    (entryType : EntryType) : later.entries other entryType = tables.entries other entryType := by
  refine entries_unchanged journal fun entry member mine => ?_
  exact different (mine.1.symm.trans (theirs entry member))

theorem like_elsewhere (change : SettlementInstruction → SettlementInstruction)
    (batches : later.batches.get? other = tables.batches.get? other)
    (instructions : later.instructions = tables.instructions.mapValues change)
    (same : ∀ row ∈ tables.instructions.values, (change row).filing = row.filing)
    (unmoved : ∀ row ∈ tables.staff other, (change row).status = row.status)
    (journal : ∀ entryType, later.entries other entryType = tables.entries other entryType) :
    (tables.books other).Like (later.books other) where
  batch? := batches
  opens := journal _
  reversals := journal _
  closes := journal _
  staff := ⟨change, fun row member => ⟨same row (mem_staff.mp member).1, unmoved row member⟩,
    staff_mapValues instructions fun row member => batchId_congr (same row member)⟩

/-- The row of a batch is replaced, some of its instructions are changed, and closing entries are posted for it. -/
def Settlements.moved (tables : Settlements) (batchId : String) (new : SettlementBatch)
    (which : SettlementInstruction → Bool) (change : SettlementInstruction → SettlementInstruction)
    (posted : List JournalEntry) : Settlements where
  batches := tables.batches.set batchId new
  instructions := tables.instructions.mapValues fun row => if which row then change row else row
  journal := tables.journal ++ posted

theorem entries_other {posting : EntryType} (journal : later.journal = tables.journal ++ posted)
    (typed : ∀ entry ∈ posted, entry.entryType = posting) {entryType : EntryType} (different : entryType ≠ posting) :
    later.entries batchId entryType = tables.entries batchId entryType := by
  refine entries_unchanged journal fun entry member mine => ?_
  exact different (mine.2.symm.trans (typed entry member))

theorem entries_posted {entryType : EntryType} (journal : later.journal = tables.journal ++ posted)
    (typed : ∀ entry ∈ posted, entry.referenceId = batchId ∧ entry.entryType = entryType) :
    later.entries batchId entryType = tables.entries batchId entryType ++ posted := by
  rw [entries, journal, filter_append, entries]
  have all : posted.filter (fun entry => entry.referenceId = batchId && entry.entryType = entryType) = posted := by
    rw [filter_eq_self]
    intro entry member
    simp [typed entry member]
  rw [all]

/-- Only instructions of the batch are changed, and no entry of theirs is made of anything else. -/
abbrev Settlements.ChangesOwn (tables : Settlements) (batchId : String) (which : SettlementInstruction → Bool)
    (change : SettlementInstruction → SettlementInstruction) : Prop :=
  ∀ row ∈ tables.instructions.values, which row = true → row.batchId = some batchId ∧ (change row).filing = row.filing

section Moved

variable {old new : SettlementBatch} {which : SettlementInstruction → Bool}

theorem keyed_moved (keyed : tables.Keyed) (found : tables.batches.get? batchId = some old)
    (own : new.batchId = old.batchId) (kept : tables.ChangesOwn batchId which change) :
    (tables.moved batchId new which change posted).Keyed := by
  constructor
  · exact keyed.batches.set (own.trans (keyed.batches.key_of_get? found))
  · refine keyed.instructions.mapValues fun row member => ?_
    split_ifs with hit
    · exact instructionId_congr (kept row member hit).2
    · rfl

theorem filing_moved (kept : tables.ChangesOwn batchId which change) :
    ∀ row ∈ tables.instructions.values, (if which row then change row else row).filing = row.filing := by
  intro row member
  split_ifs with hit
  · exact (kept row member hit).2
  · rfl

theorem entries_moved {entryType : EntryType} :
    (tables.moved batchId new which change []).entries batchId entryType = tables.entries batchId entryType := by
  simp [entries, moved]

theorem closes_moved (closing : ∀ entry ∈ posted, entry.genuine = true ∧ entry.referenceId = batchId ∧
      entry.entryType = .settlementBatchClose) :
    (tables.moved batchId new which change posted).entries batchId .settlementBatchClose =
      tables.entries batchId .settlementBatchClose ++ posted :=
  entries_posted rfl fun entry member => (closing entry member).2

theorem staff_moved (kept : tables.ChangesOwn batchId which change) :
    (tables.moved batchId new which change posted).staff batchId =
      (tables.staff batchId).map fun row => if which row then change row else row :=
  staff_mapValues rfl fun row member => batchId_congr (filing_moved kept row member)

section

variable (filed : tables.Filed) (found : tables.batches.get? batchId = some old) (own : new.batchId = old.batchId)
  (count : new.tally = old.tally) (kept : tables.ChangesOwn batchId which change)
include filed found own count kept

theorem progress_moved (closing : ∀ entry ∈ posted, entry.genuine = true ∧ entry.referenceId = batchId ∧
      entry.entryType = .settlementBatchClose)
    (unclosed : new.status ≠ .confirmed → posted = [] ∧ old.status ≠ .confirmed)
    (submitted : ∀ row ∈ tables.staff batchId, (if which row then change row else row).status = .submitted →
      new.status = .dispatched)
    (balanced : orderly → (tables.books batchId).Balanced batchId →
      ((tables.moved batchId new which change posted).books batchId).Balanced batchId) :
    Progress orderly batchId tables (tables.moved batchId new which change posted) := by
  have there : (tables.moved batchId new which change posted).batches.get? batchId = some new :=
    Dict.get?_set_self _ _ _
  have same := filing_moved kept
  refine ⟨keyed_moved filed.keyed found own kept, ?_, ?_, ?_, balanced⟩
  · intro entry member
    rcases mem_append.mp member with before | now
    · exact filed.genuine entry before
    · exact (closing entry now).1
  · intro other different
    refine like_elsewhere _ (Dict.get?_set_of_ne different) rfl same ?_
      (entries_elsewhere rfl (fun entry member => (closing entry member).2.1) different)
    intro row member
    split_ifs with hit
    · obtain ⟨inside, theirs⟩ := mem_staff.mp member
      rw [(kept row inside hit).1, Option.some.injEq] at theirs
      exact absurd theirs.symm different
    · rfl
  · have typed := fun entry member => (closing entry member).2.2
    refine (filed.books batchId).moved (entries_other rfl typed (by decide)) (entries_other rfl typed (by decide))
      (staff_moved kept) (fun row member => same row (mem_staff.mp member).1) ?_ ?_ ?_ ?_
    · intro missing
      rw [show ((tables.moved batchId new which change posted).books batchId).batch? = some new from there] at missing
      cases missing
    · intro batch now
      obtain rfl : new = batch := Option.mem_unique there now
      exact ⟨old, found, count⟩
    · intro unconfirmed
      obtain ⟨none, before⟩ := unclosed (unconfirmed new there)
      subst none
      refine entries_moved.trans ((filed.books batchId).unclosed fun batch was => ?_)
      obtain rfl : old = batch := Option.mem_unique found was
      exact before
    · exact fun row member status => ⟨new, there, submitted row member status⟩

/-- A move to a status that is not an end. -/
theorem progress_running (before : old.status ≠ .confirmed) (running : new.status.terminal = false)
    (submitted : ∀ row ∈ tables.staff batchId, (if which row then change row else row).status = .submitted →
      new.status = .dispatched) :
    Progress orderly batchId tables (tables.moved batchId new which change []) := by
  refine progress_moved filed found own count kept (by simp) (fun _ => ⟨rfl, before⟩) submitted fun _ _ => ?_
  refine balanced_of_open fun batch now => ?_
  obtain rfl : new = batch := Option.mem_unique (Dict.get?_set_self _ _ _) now
  exact running

end

end Moved

/-! The operations. -/

variable {around : Surroundings} {done : List JournalEntry}

theorem changesNone : tables.ChangesOwn batchId (fun _ => false) id := by
  simp [ChangesOwn]

theorem set_eq_moved : ({ tables with batches := tables.batches.set batchId new } : Settlements) =
    tables.moved batchId new (fun _ => false) id [] := by
  simp [moved, show (fun row : SettlementInstruction => row) = id from rfl, Dict.mapValues_id]

theorem rewrite_eq_moved :
    ({ tables with batches := tables.batches.set batchId new } : Settlements).rewrite which change =
      tables.moved batchId new which change [] := by
  simp [moved, rewrite]

section

variable (filed : tables.Filed)
include filed

section

variable (found : tables.batches.get? batchId = some old)
include found

/-- Only a dispatched batch has submitted instructions. -/
theorem unsubmitted (elsewhere : old.status ≠ .dispatched) : ∀ row ∈ tables.staff batchId, row.status ≠ .submitted := by
  intro row member status
  obtain ⟨batch, same, dispatched⟩ := (filed.books batchId).submitted row member status
  obtain rfl : old = batch := Option.mem_unique found same
  exact elsewhere dispatched

theorem progress_set (own : new.batchId = old.batchId) (count : new.tally = old.tally)
    (undispatched : old.status ≠ .dispatched) (before : old.status ≠ .confirmed)
    (running : new.status.terminal = false) :
    Progress orderly batchId tables { tables with batches := tables.batches.set batchId new } := by
  rw [set_eq_moved]
  refine progress_running filed found own count changesNone before running fun row member status => ?_
  exact absurd (by simpa using status) (unsubmitted filed found undispatched row member)

theorem staff_nil_of_count (empty : old.instructionCount = 0) : tables.staff batchId = [] := by
  have count := congrArg Prod.fst ((filed.books batchId).counted old found)
  cases staff : tables.staff batchId with
  | nil => rfl
  | cons =>
    rw [show (tables.books batchId).staff = _ from staff, tallyOf, map_cons, sum_cons] at count
    simp only [tally, empty, share, Prod.fst_add] at count
    omega

end

theorem progress_cutoff : (cutoff batchId).EndsIn around tables (Progress orderly batchId tables) := by
  simp only [cutoff, ends_bind, ends_requireBatch, ends_clockNow, ends_ite, ends_denyBatch]
  refine ⟨fun batch found => ⟨fun _ => ⟨fun _ => progress_refl filed, fun allowed => ?_⟩, fun empty =>
    ⟨fun _ => progress_refl filed, fun allowed => ?_⟩⟩, fun _ => progress_refl filed⟩
  · have opened : batch.status = .opened := by
      revert allowed
      cases batch.status <;> decide
    simp only [ends_setBatch found, ends_pure]
    exact progress_set filed found rfl rfl (by simp [opened]) (by simp [opened]) rfl
  · have opened : batch.status = .opened := by
      revert allowed
      cases batch.status <;> decide
    have unstaffed := staff_nil_of_count filed found (by omega)
    simp only [ends_setBatch found, ends_pure]
    rw [set_eq_moved]
    refine progress_moved filed found rfl rfl changesNone (by simp) (fun _ => ⟨rfl, by simp [opened]⟩)
      (by simp [unstaffed]) ?_
    have unopened : tables.entries batchId .settlementBatchOpen = [] := by
      have same := (filed.books batchId).opens
      rw [show (tables.books batchId).staff = [] from unstaffed, map_nil] at same
      exact same.eq_nil
    have unreversed : tables.entries batchId .settlementBatchOpenReversal = [] := by
      rw [eq_nil_iff_forall_not_mem]
      intro entry member
      obtain ⟨opening, inside, _⟩ := (filed.books batchId).reversals entry member
      rw [show (tables.books batchId).opens = [] from unopened] at inside
      exact not_mem_nil inside
    intro _ _
    refine balanced_of_cancelled (Dict.get?_set_self _ _ _) rfl ?_ ?_
    · simp only [books, entries_moved, unopened, unreversed, map_nil]
      exact List.Perm.refl _
    · simp [books, staff_moved changesNone, unstaffed]

theorem progress_grantApproval :
    (grantApproval batchId approval).EndsIn around tables (Progress orderly batchId tables) := by
  simp only [grantApproval, ends_bind, ends_requireBatch, ends_denyBatch]
  refine ⟨fun batch found => ⟨fun _ => progress_refl filed, fun allowed => ?_⟩, fun _ => progress_refl filed⟩
  have pending : batch.status = .pendingDispatch := by
    revert allowed
    cases batch.status <;> decide
  simp only [ends_setBatch found, ends_pure]
  exact progress_set filed found rfl rfl (by simp [pending]) (by simp [pending]) (by simp [pending, terminal])

theorem progress_releaseHeld : (releaseHeld batchId).EndsIn around tables (Progress orderly batchId tables) := by
  simp only [releaseHeld, ends_bind, ends_requireBatch, ends_denyBatch, ends_tcsaGate, ends_raiseIf]
  refine ⟨fun batch found => ⟨fun _ => progress_refl filed, fun allowed => ⟨fun _ => progress_refl filed, fun _ => ?_⟩⟩,
    fun _ => progress_refl filed⟩
  have held : batch.status = .held := by
    revert allowed
    cases batch.status <;> decide
  simp only [ends_setBatch found, ends_pure]
  exact progress_set filed found rfl rfl (by simp [held]) (by simp [held]) rfl

theorem progress_tryDispatch : (tryDispatch batchId).EndsIn around tables (Progress orderly batchId tables) := by
  refine ends_tryDispatch filed.keyed (fun _ _ => progress_refl filed) ?_ fun batch goes found => ?_
  · intro batch gate _ found pending
    exact progress_set filed found rfl rfl (by simp [pending]) (by simp [pending]) rfl
  · have pending : batch.status = .pendingDispatch := by
      simp only [goesOut, found, Option.any_some, Bool.and_eq_true, decide_eq_true_eq] at goes
      exact goes.2.1
    have progress : Progress orderly batchId tables (tables.dispatched around.now batchId batch) := by
      rw [Settlements.dispatched, rewrite_eq_moved]
      exact progress_running filed found rfl rfl (fun row _ which => ⟨(queuedIn_iff.mp which).1, rfl⟩)
        (by simp [pending]) rfl fun _ _ _ => rfl
    exact ends_handOff.mpr ⟨fun _ => ⟨fun _ _ => progress, fun _ _ => progress⟩, fun _ => progress⟩

theorem progress_failBatch {trigger : BatchTrigger} {reasonCode : String}
    (failing : ∀ status, .failed ∈ batchTransitions status trigger ↔ status = .dispatched) :
    (failBatch batchId trigger reasonCode).EndsIn around tables (Progress orderly batchId tables) := by
  refine ends_failBatch filed.keyed failing (fun _ _ => progress_refl filed) fun batch found dispatched _ => ?_
  rw [Settlements.failed, rewrite_eq_moved]
  refine progress_running filed found rfl rfl (fun row _ which => ⟨(inBatch_iff.mp which).1, rfl⟩)
    (by simp [dispatched]) rfl ?_
  intro row member status
  split_ifs at status with hit
  · cases status
  · exact absurd (inBatch_iff.mpr ⟨(mem_staff.mp member).2, status⟩) hit

end

/-! Reversals. -/

theorem nodup_openKeys (filed : tables.Filed) :
    ((tables.entries batchId .settlementBatchOpen).map idempotencyKey).Nodup := by
  refine ((filed.books batchId).opens.map _).nodup_iff.mpr ?_
  rw [map_map]
  have ids : ((tables.staff batchId).map instructionId).Nodup := filed.keyed.distinct
  have distinct := ids.map (f := batchOpen batchId) fun left right same => by simpa using same
  rwa [map_map] at distinct

theorem nodup_reversalOf {entries : List JournalEntry} (distinct : (entries.map idempotencyKey).Nodup) :
    (entries.map (reversalOf batchId)).Nodup := by
  refine List.Nodup.of_map idempotencyKey ?_
  have keys := distinct.map (f := batchOpenReversal) fun left right same => by simpa using same
  rwa [map_map] at keys ⊢

theorem unreversed_sublist : (tables.unreversed batchId).Sublist (tables.entries batchId .settlementBatchOpen) :=
  filter_sublist

theorem entries_withReversals : (tables.withReversals batchId done).entries batchId .settlementBatchOpenReversal =
      tables.entries batchId .settlementBatchOpenReversal ++ done.map (reversalOf batchId) := by
  refine entries_posted rfl ?_
  simp [reversalOf]

section

variable (filed : tables.Filed)

include filed

theorem nodup_withReversals (leading : done <+: tables.unreversed batchId) :
    ((tables.withReversals batchId done).entries batchId .settlementBatchOpenReversal).Nodup := by
  rw [entries_withReversals]
  refine (filed.books batchId).reversedOnce.append (nodup_reversalOf ?_) ?_
  · exact (nodup_openKeys filed).sublist ((leading.sublist.trans unreversed_sublist).map _)
  · intro entry before now
    obtain ⟨opening, inside, rfl⟩ := mem_map.mp now
    have fresh := (mem_filter.mp (leading.subset inside)).2
    simp only [decide_eq_true_eq] at fresh
    exact fresh (mem_map.mpr ⟨_, before, rfl⟩)

theorem progress_withReversals (found : tables.batches.get? batchId = some old)
    (running : old.status.terminal = false) (leading : done <+: tables.unreversed batchId) :
    Progress orderly batchId tables (tables.withReversals batchId done) := by
  have books := filed.books batchId
  have typed : ∀ entry ∈ done.map (reversalOf batchId), entry.entryType = .settlementBatchOpenReversal := by
    simp [reversalOf]
  have opens : (tables.withReversals batchId done).entries batchId .settlementBatchOpen =
      tables.entries batchId .settlementBatchOpen := entries_other rfl typed (by decide)
  have closes : (tables.withReversals batchId done).entries batchId .settlementBatchClose =
      tables.entries batchId .settlementBatchClose := entries_other rfl typed (by decide)
  refine ⟨⟨filed.keyed.batches, filed.keyed.instructions⟩, ?_, ?_, ?_, fun _ _ => balanced_of_open fun batch same => ?_⟩
  · intro entry member
    rcases mem_append.mp member with before | now
    · exact filed.genuine entry before
    · obtain ⟨opening, _, rfl⟩ := mem_map.mp now
      rfl
  · intro other different
    refine like_elsewhere id rfl (Dict.mapValues_id _).symm (fun _ _ => rfl) (fun _ _ => rfl) ?_
    exact entries_elsewhere rfl (by simp [reversalOf]) different
  · refine ⟨books.known, ?_, books.counted, nodup_withReversals filed leading, ?_, ?_, books.submitted⟩
    · rw [show ((tables.withReversals batchId done).books batchId).opens = _ from opens]
      exact books.opens
    · intro entry member
      rw [show ((tables.withReversals batchId done).books batchId).opens = _ from opens]
      rw [show ((tables.withReversals batchId done).books batchId).reversals = _ from entries_withReversals] at member
      rcases mem_append.mp member with before | now
      · exact books.reversals entry before
      · obtain ⟨opening, inside, rfl⟩ := mem_map.mp now
        exact ⟨opening, unreversed_sublist.subset (leading.subset inside), rfl⟩
    · rw [show ((tables.withReversals batchId done).books batchId).closes = _ from closes]
      exact books.unclosed
  · obtain rfl : old = batch := Option.mem_unique found same
    exact running

/-- Once every entry that was not reversed is, each is reversed once. -/
theorem reversed_perm :
    ((tables.takenBack batchId).entries batchId .settlementBatchOpenReversal).Perm
      ((tables.entries batchId .settlementBatchOpen).map (reversalOf batchId)) := by
  rw [perm_ext_iff_of_nodup (nodup_withReversals filed (prefix_refl _)) (nodup_reversalOf (nodup_openKeys filed))]
  intro entry
  rw [entries_withReversals, mem_append]
  constructor
  · rintro (before | now)
    · obtain ⟨opening, inside, rfl⟩ := (filed.books batchId).reversals entry before
      exact mem_map_of_mem inside
    · obtain ⟨opening, inside, rfl⟩ := mem_map.mp now
      exact mem_map_of_mem (unreversed_sublist.subset inside)
  · intro member
    obtain ⟨opening, inside, rfl⟩ := mem_map.mp member
    by_cases already : batchOpenReversal opening.idempotencyKey ∈
        (tables.entries batchId .settlementBatchOpenReversal).map idempotencyKey
    · obtain ⟨reversal, posted, key⟩ := mem_map.mp already
      obtain ⟨other, listed, rfl⟩ := (filed.books batchId).reversals reversal posted
      simp only [reversalOf, batchOpenReversal.injEq] at key
      obtain rfl := inj_on_of_nodup_map (nodup_openKeys filed) listed inside key
      exact .inl posted
    · exact .inr (mem_map_of_mem (mem_filter.mpr ⟨inside, by simpa using already⟩))

/-- The batch is cancelled once all its entries are reversed. -/
theorem balanced_of_reversed {which : SettlementInstruction → Bool} (cancelled : new.status = .cancelled)
    (kept : tables.ChangesOwn batchId which change)
    (unsettled : ∀ row, which row = true → (change row).status ≠ .settled)
    (unpaid : ∀ row ∈ tables.staff batchId, row.status ≠ .settled) :
    (((tables.takenBack batchId).moved batchId new which change []).books batchId).Balanced
      batchId := by
  have opens : (tables.takenBack batchId).entries batchId .settlementBatchOpen =
      tables.entries batchId .settlementBatchOpen := by
    refine @entries_other tables _ batchId _ .settlementBatchOpenReversal rfl ?_ _ (by decide)
    simp [reversalOf]
  refine balanced_of_cancelled (Dict.get?_set_self _ _ _) cancelled ?_ ?_
  · simp only [books, entries_moved, opens]
    exact reversed_perm filed
  · have staff : ((tables.takenBack batchId).moved batchId new which change []).staff batchId =
        (tables.staff batchId).map fun row => if which row then change row else row := staff_moved kept
    intro row member
    rw [show ((moved _ batchId new which change []).books batchId).staff = _ from staff] at member
    obtain ⟨before, inside, rfl⟩ := mem_map.mp member
    split_ifs with hit
    · exact unsettled before hit
    · exact unpaid before inside

theorem progress_cancel (unpaid : orderly → ∀ batch, tables.batches.get? batchId = some batch →
      batch.status = .pendingDispatch ∨ batch.status = .held → ∀ row ∈ tables.staff batchId, row.status ≠ .settled) :
    (cancel batchId approved).EndsIn around tables (Progress orderly batchId tables) := by
  have open_ : ∀ {batch : SettlementBatch}, batch.status = .pendingDispatch ∨ batch.status = .held →
      batch.status.terminal = false ∧ batch.status ≠ .dispatched ∧ batch.status ≠ .confirmed := by
    rintro batch (status | status) <;> simp [status, terminal]
  refine ends_cancel filed.keyed (fun _ => progress_refl filed) ?_ fun batch found waiting => ?_
  · intro batch done error found waiting leading _
    exact progress_withReversals filed found (open_ waiting).1 leading
  · obtain ⟨running, undispatched, unconfirmed⟩ := open_ waiting
    have first : Progress orderly batchId tables (tables.takenBack batchId) :=
      progress_withReversals filed found running (prefix_refl _)
    refine first.trans ?_
    have kept : tables.ChangesOwn batchId (inBatch batchId .queued) cancelledRow :=
      fun row _ which => ⟨(inBatch_iff.mp which).1, rfl⟩
    have moved : (tables.takenBack batchId).cancelled around.now batchId batch =
        (tables.takenBack batchId).moved batchId
          { batch with status := .cancelled, cancelledAt := some around.now } (inBatch batchId .queued) cancelledRow [] := by
      simp [Settlements.cancelled, Settlements.rewrite, Settlements.moved]
    rw [moved]
    refine progress_moved (first.allFiled filed) found rfl rfl kept (by simp) (fun _ => ⟨rfl, unconfirmed⟩) ?_
      fun fair _ => ?_
    · intro row member status
      split_ifs at status with hit
      · cases status
      · exact absurd status (unsubmitted filed found undispatched row member)
    · exact balanced_of_reversed filed rfl kept (by simp [cancelledRow]) (unpaid fair batch found waiting)

end

theorem SettlementBatch.rewatched_tally (batch : SettlementBatch) : batch.rewatched.tally = batch.tally := by
  rw [rewatched]
  split_ifs <;> rfl

theorem SettlementBatch.rewatched_status (batch : SettlementBatch) : batch.rewatched.status = batch.status := by
  rw [rewatched]
  split_ifs <;> rfl

/-- The row of the batch is marked, and its status stays. -/
theorem progress_marked (filed : tables.Filed) (found : tables.batches.get? batchId = some old)
    (own : new.batchId = old.batchId) (count : new.tally = old.tally) (same : new.status = old.status) :
    Progress orderly batchId tables { tables with batches := tables.batches.set batchId new } := by
  have balanced : (tables.books batchId).Balanced batchId →
      (({ tables with batches := tables.batches.set batchId new } : Settlements).books batchId).Balanced batchId := by
    intro balanced
    constructor
    · intro batch now confirmed
      obtain rfl : new = batch := Option.mem_unique (Dict.get?_set_self _ _ _) now
      exact balanced.confirmed old found (same ▸ confirmed)
    · intro batch now cancelled
      obtain rfl : new = batch := Option.mem_unique (Dict.get?_set_self _ _ _) now
      exact balanced.cancelled old found (same ▸ cancelled)
  have unclosed : new.status ≠ .confirmed → ([] : List JournalEntry) = [] ∧ old.status ≠ .confirmed :=
    fun unconfirmed => ⟨rfl, same ▸ unconfirmed⟩
  rw [set_eq_moved] at balanced ⊢
  refine progress_moved filed found own count changesNone (by simp) unclosed ?_ fun _ => balanced
  intro row member status
  obtain ⟨batch, there, dispatched⟩ := (filed.books batchId).submitted row member (by simpa using status)
  obtain rfl : old = batch := Option.mem_unique found there
  exact same.trans dispatched

theorem progress_manualRetry (filed : tables.Filed)
    (unpaid : orderly → ∀ batch, tables.batches.get? batchId = some batch → batch.status = .failed →
      maxRetries batch.rail ≤ batch.retryCount → ∀ row ∈ tables.staff batchId, row.status ≠ .settled) :
    (manualRetry batchId approved).EndsIn around tables (Progress orderly batchId tables) := by
  refine ends_manualRetry filed.keyed (fun _ _ => progress_refl filed) ?_ ?_ ?_ ?_
  · intro batch done error found failed _ leading _
    exact progress_withReversals filed found (by simp [failed, terminal]) leading
  · intro batch found failed spent
    have first : Progress orderly batchId tables (tables.takenBack batchId) :=
      progress_withReversals filed found (by simp [failed, terminal]) (prefix_refl _)
    refine first.trans ?_
    rw [exhausted, set_eq_moved]
    refine progress_moved (first.allFiled filed) found rfl rfl changesNone (by simp)
      (fun _ => ⟨rfl, by simp [failed]⟩) ?_ fun fair _ => ?_
    · intro row member status
      exact absurd (by simpa using status) (unsubmitted filed found (by simp [failed]) row member)
    · exact balanced_of_reversed filed rfl changesNone (by simp) (unpaid fair batch found failed spent)
  · intro batch found _ _ _
    exact progress_marked filed found batch.rewatched_batchId batch.rewatched_tally batch.rewatched_status
  · intro batch found failed _ _
    rw [retried, rewrite_eq_moved]
    refine progress_running filed found batch.rewatched_batchId batch.rewatched_tally
      (fun row _ which => ⟨(inBatch_iff.mp which).1, rfl⟩) (by simp [failed]) rfl ?_
    intro row member status
    split_ifs at status with hit
    · cases status
    · exact absurd status (unsubmitted filed found (by simp [failed]) row member)

end BdPay.Ledger.Settlement
