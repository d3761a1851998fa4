import BdPay.Ledger.Settlement.Conservation

namespace BdPay.Ledger.Settlement

open Platform Data Effect Process SettlementBatch JournalEntry Settlements List Dict

/-! Which calls of `assign_due_instructions` assign everything that is due.

The loop has no protection around one instruction: the first that cannot be assigned ends
it.  An instruction without a net payout has no entry the ledger would take, and one that
comes after the batch of its day was cut off finds no open batch, while the identifier of
a new one is taken.
-/

namespace SettlementEngine

variable {engine : SettlementEngine} {tables later opened : Settlements} {now : DateTime} {around : Surroundings}
  {row other : SettlementInstruction} {batch : SettlementBatch}
  {returns : Unit → Settlements → Prop} {batchId : String}

/-! Batches are named after what they are opened for. -/

def nameFor (engine : SettlementEngine) (place : Rail × Nat × Option Session) : String :=
  engine.batchIdFor place.1 place.2.1 place.2.2

def Named (engine : SettlementEngine) (tables : Settlements) : Prop :=
  ∀ batchId batch, tables.batches.get? batchId = some batch → batchId = engine.nameFor batch.place

theorem Named.opens (named : engine.Named tables) (opens : Opens engine now row tables opened batch) :
    engine.Named opened := by
  cases opens with
  | found => exact named
  | fresh =>
    intro batchId batch found
    by_cases same : batchId = (engine.batchFor now row).batchId
    · subst same
      obtain rfl := Option.mem_unique (get?_set_self _ _ _) found
      rfl
    · exact named batchId batch ((get?_set_of_ne same).symm.trans found)

theorem taken_place (batch : SettlementBatch) (row : SettlementInstruction) :
    (batch.taking row).watched.place = batch.place := by
  rw [watched]
  split_ifs <;> rfl

theorem Named.assigned (named : engine.Named tables) (found : tables.batches.get? batch.batchId = some batch) :
    engine.Named (tables.assigned now batch row) := by
  intro batchId new there
  by_cases same : batchId = batch.batchId
  · subst same
    obtain rfl := Option.mem_unique (get?_set_self _ _ _) there
    rw [taken_place]
    exact named _ batch found
  · exact named batchId new ((get?_set_of_ne same).symm.trans there)

/-- The batches are where they were, each opened for what it was opened for. -/
def SamePlaces (tables later : Settlements) : Prop :=
  ∀ batchId new, later.batches.get? batchId = some new →
    ∃ old, tables.batches.get? batchId = some old ∧ new.place = old.place

theorem samePlaces_of_wrote (other : operation ≠ .assignDueInstructions)
    (wrote : Wrote operation tables later) : SamePlaces tables later := by
  intro batchId batch there
  rcases wrote.batch_cases batchId with same | ⟨old, new, found, now, change⟩ | ⟨_, assigning, -⟩
  · exact ⟨batch, same.symm.trans there, rfl⟩
  · obtain rfl := Option.mem_unique now there
    exact ⟨old, found, change.place⟩
  · exact absurd assigning other

theorem named_after (named : engine.Named tables) (keyed : tables.Keyed) (step : Step) :
    engine.Named (engine.after tables step) := by
  by_cases assigning : step.operation = .assignDueInstructions
  · refine ends_iff_leaves.mp ?_
    rw [assigning]
    have ends : engine.assignDueInstructions.EndsIn step.around tables engine.Named :=
      ends_assignDueInstructions_of engine.Named keyed named (fun named opens => named.opens opens)
        fun _ _ keyed _ named opens _ _ => named.assigned (opens.get? keyed)
    simp only [perform, ends_bind, ends_pure]
    exact ends
  · have same := @after_keeps engine SamePlaces step (samePlaces_of_wrote assigning)
      (fun first second batchId new there => by
        obtain ⟨middle, between, same⟩ := second batchId new there
        obtain ⟨old, before, alike⟩ := first batchId middle between
        exact ⟨old, before, same.trans alike⟩) tables
    intro batchId batch there
    obtain ⟨old, before, alike⟩ := same batchId batch there
    rw [alike]
    exact named batchId old before

theorem run_named (engine : SettlementEngine) (steps : List Step) : engine.Named (engine.run steps) := by
  induction steps using reverseRecOn with
  | nil =>
    intro batchId batch found
    cases found
  | append_singleton earlier step ih =>
    rw [run, foldl_append]
    exact named_after ih (engine.run_keyed earlier) step

/-! One instruction. -/

/-- The rail, day and session whose batch the instruction goes into. -/
def placeFor (engine : SettlementEngine) (now : DateTime) (row : SettlementInstruction) : Rail × Nat × Option Session :=
  (row.rail, dhakaDate now, engine.sessionFor now row)

/-- Instructions of one rail go into one batch. -/
theorem placeFor_eq_iff : engine.placeFor now other = engine.placeFor now row ↔ other.rail = row.rail := by
  constructor
  · intro same
    exact congrArg Prod.fst same
  · intro same
    simp [placeFor, sessionFor, same]

/-- There is no batch of that name yet, or it is open and for that rail, day and session. -/
def Openable (engine : SettlementEngine) (now : DateTime) (tables : Settlements) (row : SettlementInstruction) : Prop :=
  ∀ batch, tables.batches.get? (engine.nameFor (engine.placeFor now row)) = some batch →
    batch.place = engine.placeFor now row ∧ batch.status = .opened

/-- The instruction pays out something, its rail has a transit account, its batch is open or can
be opened, and the ledger takes its entry. -/
def Accepts (engine : SettlementEngine) (around : Surroundings) (tables : Settlements) (row : SettlementInstruction) :
    Prop :=
  0 < row.netPayoutMinor ∧ engine.transitConfigured row.rail = true ∧ engine.Openable around.now tables row ∧
    around.takes (openEntry (engine.nameFor (engine.placeFor around.now row)) row) = true

theorem openBatch?_eq_some (keyed : tables.Keyed) (named : engine.Named tables) :
    engine.openBatch? tables now row = some batch ↔
      tables.batches.get? (engine.nameFor (engine.placeFor now row)) = some batch ∧
        batch.place = engine.placeFor now row ∧ batch.status = .opened := by
  have fits : ∀ batch : SettlementBatch, (batch.rail = row.rail && batch.cycleDate = dhakaDate now &&
      batch.session = engine.sessionFor now row && batch.status = .opened) = true ↔
        batch.place = engine.placeFor now row ∧ batch.status = .opened := by
    intro batch
    simp [place, placeFor, and_assoc]
  have sound : ∀ {batch}, engine.openBatch? tables now row = some batch →
      tables.batches.get? (engine.nameFor (engine.placeFor now row)) = some batch ∧
        batch.place = engine.placeFor now row ∧ batch.status = .opened := by
    intro batch existing
    have holds := find?_some existing
    obtain ⟨place, status⟩ := (fits batch).mp holds
    have there := keyed.batches.get?_of_mem (mem_of_find?_eq_some existing)
    have name := named _ batch there
    rw [place] at name
    exact ⟨name ▸ there, place, status⟩
  refine ⟨sound, fun ⟨there, place, status⟩ => ?_⟩
  cases existing : engine.openBatch? tables now row with
  | none =>
    have none_ := find?_eq_none.mp existing batch (mem_values_of_get? there)
    exact absurd ((fits batch).mpr ⟨place, status⟩) none_
  | some => exact congrArg some (Option.some.inj ((sound existing).1.symm.trans there))

/-- What an instruction that is in no batch would post is not posted yet. -/
theorem openKey_fresh (filed : tables.Filed) (present : tables.instructions.get? row.instructionId = some row)
    (free : row.batchId = none) (batchId : String) :
    (openEntry batchId row).idempotencyKey ∉ tables.journal.map JournalEntry.idempotencyKey := by
  intro listed
  obtain ⟨entry, posted, key⟩ := mem_map.mp listed
  have genuine := filed.genuine entry posted
  have opens : entry ∈ tables.entries batchId .settlementBatchOpen := by
    cases entryType : entry.entryType <;>
      simp [JournalEntry.genuine, entryType, key, openEntry] at genuine
    exact mem_filter.mpr ⟨posted, by simp [entryType, genuine]⟩
  obtain ⟨member, staffed, same⟩ := mem_map.mp ((filed.books batchId).opens.mem_iff.mp opens)
  rw [← same] at key
  simp only [openEntry, EntryKey.batchOpen.injEq, true_and] at key
  obtain ⟨inside, theirs⟩ := mem_staff.mp staffed
  have equal := filed.keyed.instructions.inj inside (mem_values_of_get? present) key
  rw [equal, free] at theirs
  cases theirs

theorem wellFormed_openEntry : (openEntry batchId row).wellFormed = decide (0 < row.netPayoutMinor) := by
  simp [wellFormed, openEntry, sideTotal]

/-- The tables once the instruction is in its batch. -/
def assignedOne (engine : SettlementEngine) (now : DateTime) (tables : Settlements) (row : SettlementInstruction) :
    Settlements :=
  let batchId := engine.nameFor (engine.placeFor now row)
  let batch := (tables.batches.get? batchId).getD (engine.batchFor now row)
  { batches := tables.batches.set batchId (batch.taking row).watched
    instructions := tables.instructions.set row.instructionId (row.joining batchId now)
    journal := tables.journal ++ [openEntry batchId row] }

theorem opens_of_openable (keyed : tables.Keyed) (named : engine.Named tables)
    (openable : engine.Openable now tables row) :
    ∃ opened batch, Opens engine now row tables opened batch ∧ batch.batchId = engine.nameFor (engine.placeFor now row) ∧
      opened.assigned now batch row = engine.assignedOne now tables row := by
  cases found : tables.batches.get? (engine.nameFor (engine.placeFor now row)) with
  | some batch =>
    have own := keyed.batches.key_of_get? found
    refine ⟨tables, batch, .found batch ((openBatch?_eq_some keyed named).mpr ⟨found, openable batch found⟩), own, ?_⟩
    simp [assigned, assignedOne, found, own]
  | none =>
    have missing : engine.openBatch? tables now row = none := by
      cases existing : engine.openBatch? tables now row with
      | none => rfl
      | some => cases found.symm.trans ((openBatch?_eq_some keyed named).mp existing).1
    have own : (engine.batchFor now row).batchId = engine.nameFor (engine.placeFor now row) := rfl
    refine ⟨_, _, .fresh missing found, own, ?_⟩
    simp [assigned, setBatch, assignedOne, found, own, Dict.set_set]

/-- One instruction is assigned without an error if and only if it is accepted. -/
theorem ends_assignRow_iff (filed : tables.Filed) (named : engine.Named tables)
    (present : tables.instructions.get? row.instructionId = some row) (free : row.batchId = none) :
    (engine.assignRow around.now row).Ends around tables returns (fun _ _ => False) ↔
      engine.Accepts around tables row ∧ returns () (engine.assignedOne around.now tables row) := by
  have inside : ∀ {opened batch}, Opens engine around.now row tables opened batch →
      batch.batchId = engine.nameFor (engine.placeFor around.now row) →
      ((engine.assignIn around.now row batch).Ends around opened returns (fun _ _ => False) ↔
        (engine.transitConfigured row.rail = true ∧ 0 < row.netPayoutMinor ∧
          around.takes (openEntry (engine.nameFor (engine.placeFor around.now row)) row) = true) ∧
          returns () (opened.assigned around.now batch row)) := by
    intro opened batch opens own
    have present' : opened.instructions.get? row.instructionId = some row := by rw [opens.instructions]; exact present
    have fresh := openKey_fresh filed present free batch.batchId
    rw [← opens.journal] at fresh
    rw [ends_assignIn (opens.get? filed.keyed) present', stops_post, wellFormed_openEntry, own]
    rw [own] at fresh
    cases engine.transitConfigured row.rail <;> by_cases pays : 0 < row.netPayoutMinor <;>
      cases around.takes (openEntry (engine.nameFor (engine.placeFor around.now row)) row) <;> simp [pays, fresh]
  rw [ends_assignRow rfl]
  cases existing : engine.openBatch? tables around.now row with
  | some batch =>
    obtain ⟨there, place, status⟩ := (openBatch?_eq_some filed.keyed named).mp existing
    have openable : engine.Openable around.now tables row := by
      intro other found
      obtain rfl := Option.mem_unique there found
      exact ⟨place, status⟩
    have own := filed.keyed.batches.key_of_get? there
    have result : tables.assigned around.now batch row = engine.assignedOne around.now tables row := by
      simp [assigned, assignedOne, there, own]
    simp only [Option.some.injEq, forall_eq', reduceCtorEq, false_implies, and_true]
    rw [inside (.found batch existing) own, result, Accepts]
    tauto
  | none =>
    have own : (engine.batchFor around.now row).batchId = engine.nameFor (engine.placeFor around.now row) := rfl
    simp only [reduceCtorEq, false_implies, implies_true, true_and, true_implies, Dict.contains, own]
    cases found : tables.batches.get? (engine.nameFor (engine.placeFor around.now row)) with
    | some batch =>
      have shut : ¬ engine.Openable around.now tables row := fun openable => by
        cases existing.symm.trans ((openBatch?_eq_some filed.keyed named).mpr ⟨found, openable batch found⟩)
      simp [Accepts, shut]
    | none =>
      have openable : engine.Openable around.now tables row := fun batch there => by cases found.symm.trans there
      have result : (tables.setBatch (engine.batchFor around.now row)).assigned around.now
          (engine.batchFor around.now row) row = engine.assignedOne around.now tables row := by
        simp [assigned, setBatch, assignedOne, found, own, Dict.set_set]
      simp only [Option.isSome_none, Bool.false_eq_true, false_implies, not_false_eq_true, true_implies, true_and]
      rw [inside (.fresh existing found) own, result, Accepts]
      tauto

/-! All of them. -/

/-- Every instruction that is due is accepted, and none of another rail goes by the same name. -/
def Assignable (engine : SettlementEngine) (around : Surroundings) (tables : Settlements)
    (rows : List SettlementInstruction) : Prop :=
  ∀ row ∈ rows, releasable row around.now = true → engine.Accepts around tables row ∧
    ∀ other ∈ rows, releasable other around.now = true →
      engine.nameFor (engine.placeFor around.now other) = engine.nameFor (engine.placeFor around.now row) →
      other.rail = row.rail

/-- Once an instruction is in its batch, the batch is open, and its name is taken. -/
theorem openable_assignedOne (openable : engine.Openable now tables row) :
    engine.Openable now (engine.assignedOne now tables row) other ↔ engine.Openable now tables other ∧
      (engine.nameFor (engine.placeFor now other) = engine.nameFor (engine.placeFor now row) → other.rail = row.rail) := by
  by_cases same : engine.nameFor (engine.placeFor now other) = engine.nameFor (engine.placeFor now row)
  · obtain ⟨batch, there, place, status⟩ : ∃ batch,
        (engine.assignedOne now tables row).batches.get? (engine.nameFor (engine.placeFor now row)) = some batch ∧
          batch.place = engine.placeFor now row ∧ batch.status = .opened := by
      refine ⟨_, get?_set_self _ _ _, ?_⟩
      rw [taken_place, taken_status]
      cases found : tables.batches.get? (engine.nameFor (engine.placeFor now row)) with
      | none => exact ⟨rfl, rfl⟩
      | some batch => exact openable batch found
    simp only [Openable, same, there, Option.some.injEq, forall_eq', true_implies, place, status, and_true]
    rw [eq_comm, placeFor_eq_iff]
    refine ⟨fun rail => ⟨fun batch found => ?_, rail⟩, And.right⟩
    rw [placeFor_eq_iff.mpr rail]
    exact openable batch found
  · have elsewhere : (engine.assignedOne now tables row).batches.get? (engine.nameFor (engine.placeFor now other)) =
        tables.batches.get? (engine.nameFor (engine.placeFor now other)) := get?_set_of_ne same
    simp [Openable, elsewhere, same]

theorem accepts_assignedOne (accepted : engine.Accepts around tables row) :
    engine.Accepts around (engine.assignedOne around.now tables row) other ↔ engine.Accepts around tables other ∧
      (engine.nameFor (engine.placeFor around.now other) = engine.nameFor (engine.placeFor around.now row) →
        other.rail = row.rail) := by
  simp only [Accepts, openable_assignedOne accepted.2.2.1]
  tauto

theorem assignable_cons (due : releasable row around.now = true) :
    engine.Assignable around tables (row :: rest) ↔ engine.Accepts around tables row ∧
      engine.Assignable around (engine.assignedOne around.now tables row) rest := by
  constructor
  · intro all
    obtain ⟨accepted, alone⟩ := all row mem_cons_self due
    refine ⟨accepted, fun other member otherDue => ?_⟩
    obtain ⟨fits, apart⟩ := all other (mem_cons_of_mem _ member) otherDue
    refine ⟨(accepts_assignedOne accepted).mpr ⟨fits, alone other (mem_cons_of_mem _ member) otherDue⟩, ?_⟩
    exact fun third inside => apart third (mem_cons_of_mem _ inside)
  · rintro ⟨accepted, all⟩
    have later : ∀ other ∈ rest, releasable other around.now = true → engine.Accepts around tables other ∧
        (engine.nameFor (engine.placeFor around.now other) = engine.nameFor (engine.placeFor around.now row) →
          other.rail = row.rail) :=
      fun other member otherDue => (accepts_assignedOne accepted).mp (all other member otherDue).1
    intro one member oneDue
    rcases mem_cons.mp member with rfl | inside
    · refine ⟨accepted, fun other listed otherDue same => ?_⟩
      rcases mem_cons.mp listed with rfl | within
      · rfl
      · exact (later other within otherDue).2 same
    · refine ⟨(later one inside oneDue).1, fun other listed otherDue same => ?_⟩
      rcases mem_cons.mp listed with rfl | within
      · exact ((later one inside oneDue).2 same.symm).symm
      · exact (all one inside oneDue).2 other within otherDue same

/-- The tables once everything that is due is assigned. -/
def assignedAll (engine : SettlementEngine) (now : DateTime) (tables : Settlements)
    (rows : List SettlementInstruction) : Settlements :=
  rows.foldl (fun state row => if releasable row now then engine.assignedOne now state row else state) tables

theorem ends_assignRows (filed : tables.Filed) (named : engine.Named tables)
    (pending : Pending rows tables) (waiting : ∀ row ∈ rows, row.status = .queued ∧ row.batchId = none) :
    (Process.forEach rows fun row => if releasable row around.now then engine.assignRow around.now row else pure ()).Ends around
        tables returns (fun _ _ => False) ↔
      engine.Assignable around tables rows ∧ returns () (engine.assignedAll around.now tables rows) := by
  induction rows generalizing tables with
  | nil =>
    refine .trans ends_pure ?_
    simp [Assignable, assignedAll]
  | cons row rest ih =>
    have others := fun other member => waiting other (mem_cons_of_mem row member)
    obtain ⟨queued, free⟩ := waiting row mem_cons_self
    have present := pending.present row mem_cons_self
    refine .trans ends_bind ?_
    by_cases due : releasable row around.now = true
    · simp only [due, if_true]
      rw [ends_assignRow_iff filed named present free, assignable_cons due]
      have unfolded : engine.assignedAll around.now tables (row :: rest) =
          engine.assignedAll around.now (engine.assignedOne around.now tables row) rest := by
        simp [assignedAll, due]
      rw [unfolded, and_assoc, and_congr_right_iff]
      intro accepted
      obtain ⟨opened, batch, opens, own, result⟩ := opens_of_openable filed.keyed named accepted.2.2.1
      rw [← result]
      have opening : Progress True batch.batchId tables opened := progress_opens filed opens
      have present' : opened.instructions.get? row.instructionId = some row := by rw [opens.instructions]; exact present
      have joining : Progress True batch.batchId opened (opened.assigned around.now batch row) :=
        progress_assigned (opening.allFiled filed) (opens.get? filed.keyed) opens.status present' free queued
      exact ih (joining.allFiled (opening.allFiled filed)) ((named.opens opens).assigned (opens.get? filed.keyed))
        (pending.assigned opens) others
    · simp only [due, Bool.false_eq_true, if_false, ends_pure]
      have skipped : engine.Assignable around tables (row :: rest) ↔ engine.Assignable around tables rest := by
        simp [Assignable, due]
      have unfolded : engine.assignedAll around.now tables (row :: rest) =
          engine.assignedAll around.now tables rest := by
        simp [assignedAll, due]
      rw [skipped, unfolded]
      exact ih filed named pending.tail others

/-- Exactly the instructions that are due are assigned, each to a batch that is there and with one open entry. -/
structure Assigns (engine : SettlementEngine) (now : DateTime) (tables later : Settlements) : Prop where
  due : ∀ instructionId row, tables.instructions.get? instructionId = some row → releasable row now = true →
    later.instructions.get? instructionId = some (row.joining (engine.nameFor (engine.placeFor now row)) now) ∧
      (later.batches.get? (engine.nameFor (engine.placeFor now row))).isSome
  others : ∀ instructionId row, tables.instructions.get? instructionId = some row → releasable row now = false →
    later.instructions.get? instructionId = some row
  posted : later.journal = tables.journal ++ (tables.instructions.values.filter fun row => releasable row now).map fun row =>
    openEntry (engine.nameFor (engine.placeFor now row)) row

section

variable (rows : List SettlementInstruction)

include rows

theorem journal_assignedAll :
    (engine.assignedAll now tables rows).journal = tables.journal ++ (rows.filter fun row => releasable row now).map fun row =>
      openEntry (engine.nameFor (engine.placeFor now row)) row := by
  induction rows generalizing tables with
  | nil => simp [assignedAll]
  | cons row _ ih =>
    rw [assignedAll, foldl_cons, ← assignedAll, ih]
    by_cases due : releasable row now = true
    · simp [due, assignedOne]
    · simp [due]

theorem instructions_assignedAll :
    (engine.assignedAll now tables rows).instructions = (rows.filter fun row => releasable row now).foldl
      (fun table row => table.set row.instructionId (row.joining (engine.nameFor (engine.placeFor now row)) now))
      tables.instructions := by
  induction rows generalizing tables with
  | nil => rfl
  | cons row _ ih =>
    rw [assignedAll, foldl_cons, ← assignedAll, ih]
    by_cases due : releasable row now = true
    · simp [due, assignedOne]
    · simp [due]

/-- Batches are opened, and stay. -/
theorem batches_assignedAll (there : (tables.batches.get? batchId).isSome ∨
      ∃ row ∈ rows, releasable row now = true ∧ batchId = engine.nameFor (engine.placeFor now row)) :
    ((engine.assignedAll now tables rows).batches.get? batchId).isSome := by
  induction rows generalizing tables with
  | nil => simpa [assignedAll] using there
  | cons row _ ih =>
    rw [assignedAll, foldl_cons, ← assignedAll]
    refine ih ?_
    by_cases due : releasable row now = true
    · simp only [due, if_true]
      by_cases same : batchId = engine.nameFor (engine.placeFor now row)
      · left
        rw [same, assignedOne, get?_set_self]
        rfl
      · rcases there with before | ⟨other, member, otherDue, name⟩
        · left
          rwa [assignedOne, get?_set_of_ne same]
        · rcases mem_cons.mp member with rfl | inside
          · exact absurd name same
          · exact .inr ⟨other, inside, otherDue, name⟩
    · simp only [due, Bool.false_eq_true, if_false]
      refine there.imp id ?_
      rintro ⟨other, member, otherDue, name⟩
      rcases mem_cons.mp member with rfl | inside
      · exact absurd otherDue due
      · exact ⟨other, inside, otherDue, name⟩

end

theorem waiting_of_releasable (due : releasable row now = true) : row.status = .queued ∧ row.batchId = none := by
  simp only [releasable, Bool.and_eq_true, decide_eq_true_eq] at due
  exact due.1.1

theorem filter_unassigned : (unassigned tables).filter (fun row => releasable row now) =
    tables.instructions.values.filter fun row => releasable row now := by
  rw [unassigned, filter_filter]
  refine filter_congr fun row _ => ?_
  cases due : releasable row now with
  | false => rfl
  | true => simp [waiting_of_releasable due]

theorem assigns_assignedAll (keyed : tables.Keyed) :
    engine.Assigns now tables (engine.assignedAll now tables (unassigned tables)) := by
  have mapped : (engine.assignedAll now tables (unassigned tables)).instructions = tables.instructions.mapValues
      fun row =>
      if releasable row now then row.joining (engine.nameFor (engine.placeFor now row)) now else row := by
    rw [instructions_assignedAll, filter_unassigned]
    refine (keyed.instructions.foldl_set (fun row member => (mem_filter.mp member).1) (fun _ _ => ?_)
      (keyed.instructions.nodup_values.filter _)).trans (mapValues_congr fun row member => ?_)
    · rfl
    · simp [mem_filter, member]
  refine ⟨fun instructionId row found due => ⟨?_, batches_assignedAll _ (.inr ⟨row, ?_, due, rfl⟩)⟩, ?_, ?_⟩
  · rw [mapped, get?_mapValues, found]
    simp [due]
  · exact mem_filter.mpr ⟨mem_values_of_get? found, by simp [waiting_of_releasable due]⟩
  · intro instructionId row found waits
    rw [mapped, get?_mapValues, found]
    simp [waits]
  · rw [journal_assignedAll, filter_unassigned]

/-- After every history: a call assigns exactly what is due, with one open entry for each, and does not
raise, if and only if every instruction that is due can be assigned. -/
theorem assigns_due_iff (engine : SettlementEngine) (steps : List Step) (around : Surroundings) :
    (∃ later, engine.assignDueInstructions.atomic around (engine.run steps) = .ok () later ∧
      engine.Assigns around.now (engine.run steps) later) ↔
      engine.Assignable around (engine.run steps) (unassigned (engine.run steps)) := by
  have filed := engine.run_filed steps
  have ends : ∀ {returns : Unit → Settlements → Prop},
      engine.assignDueInstructions.Ends around (engine.run steps) returns (fun _ _ => False) ↔
        engine.Assignable around (engine.run steps) (unassigned (engine.run steps)) ∧
          returns () (engine.assignedAll around.now (engine.run steps) (unassigned (engine.run steps))) := by
    intro returns
    simp only [assignDueInstructions, ends_bind, ends_clockNow]
    rw [ends_look]
    refine ends_assignRows filed (engine.run_named steps) (pending_unassigned filed.keyed) fun row member => ?_
    simpa using (List.mem_filter.mp member).2
  constructor
  · rintro ⟨later, ran, _⟩
    have returned : engine.assignDueInstructions.Ends around (engine.run steps) (fun _ _ => True) (fun _ _ => False) :=
      (stops_iff_of_ok ran).mpr trivial
    exact (ends.mp returned).1
  · intro assignable
    have returned : engine.assignDueInstructions.Ends around (engine.run steps)
        (fun _ later => engine.Assigns around.now (engine.run steps) later) (fun _ _ => False) :=
      ends.mpr ⟨assignable, assigns_assignedAll filed.keyed⟩
    cases ran : engine.assignDueInstructions.atomic around (engine.run steps) with
    | ok _ later => exact ⟨later, rfl, (stops_iff_of_ok ran).mp returned⟩
    | error => exact absurd ((stops_iff_of_error ran).mp returned) id

section Sample

set_option maxRecDepth 20000

/-- A payment whose fee is all of it, then an ordinary one. -/
def allFee : List Step :=
  [⟨sampleAround, .registerSucceededPayment (samplePayment "pi_1" .npsbIso8583V28 100)⟩,
    ⟨sampleAround, .registerSucceededPayment (samplePayment "pi_2" .npsbIso8583V28 1000)⟩]

/-- A payment that comes after the batch of its day was cut off. -/
def afterCutoff : List Step :=
  [⟨sampleAround, .registerSucceededPayment (samplePayment "pi_1" .npsbIso8583V28 1000)⟩,
    ⟨sampleAround, .assignDueInstructions⟩, ⟨sampleAround, .cutoff "sbatch_1"⟩,
    ⟨sampleAround, .registerSucceededPayment (samplePayment "pi_2" .npsbIso8583V28 1000)⟩]

/-- Both calls raise.  The first leaves the ordinary payment of the same rail unassigned. -/
theorem due_instruction_blocked :
    (match sampleEngine.assignDueInstructions.atomic sampleAround (sampleEngine.run allFee) with
      | .error error later => error = .ledger && (later.instructions.get? "pi_2").any fun row =>
        row.batchId = none && releasable row sampleAround.now
      | .ok _ _ => false) = true ∧
    (match sampleEngine.assignDueInstructions.atomic sampleAround (sampleEngine.run afterCutoff) with
      | .error error later => error = .settlement "duplicate batch_id sbatch_1" &&
          (later.instructions.get? "pi_2").any fun row => row.batchId = none && releasable row sampleAround.now
      | .ok _ _ => false) = true := by
  decide +kernel

end Sample

end SettlementEngine

end BdPay.Ledger.Settlement
