import BdPay.Ledger.Settlement.Conservation

namespace BdPay.Ledger.Settlement

open Platform Data Effect Process Settlements JournalEntry List

/-! Confirmations that are cut off, and taken up again.

The evidence is the first write of a confirmation.  From then on the batch is underway: its
close entry may be posted, it may be confirmed, and some of its instructions may be settled,
in this order.  Whatever is missing, a resumption adds, and it adds nothing twice.
-/

variable {tables state : Settlements} {batchId : String} {around : Surroundings} {now : DateTime}
  {batch : SettlementBatch} {txids : Dict String String} {holds : Settlements → Prop}
  {row : SettlementInstruction} {change : SettlementInstruction → SettlementInstruction} {rows : List SettlementInstruction}
  {sponsorBankRef : Option String}

/-! Where a confirmation can be cut off. -/

/-- The first so many of the submitted members are settled. -/
def Settlements.settledUpTo (tables : Settlements) (batchId : String) (now : DateTime)
    (railTransactionIds : Dict String String) (count : Nat) : Settlements :=
  tables.rewrite (fun row => row ∈ (tables.members batchId .submitted).take count) (settled now railTransactionIds)

theorem foldl_settled (keyed : tables.Keyed) {rows : List SettlementInstruction}
    (part : rows <+: tables.members batchId .submitted) : ({ tables with
        instructions := rows.foldl (fun table row => table.set row.instructionId (settled now txids row))
          tables.instructions } : Settlements) = tables.rewrite (fun row => row ∈ rows) (settled now txids) := by
  have listed : ∀ row ∈ rows, row ∈ tables.instructions.values := fun row member =>
    (mem_members.mp (part.subset member)).1
  have distinct : rows.Nodup := (keyed.instructions.nodup_values.filter _).sublist part.sublist
  have same : ∀ row ∈ rows, (settled now txids row).instructionId = row.instructionId := fun _ _ => rfl
  simp only [rewrite, decide_eq_true_eq]
  rw [keyed.instructions.foldl_set listed same distinct]

theorem visits_updateInstruction
    (start : holds state) (after : ∀ row, state.instructions.get? instructionId = some row →
      holds { state with instructions := state.instructions.set instructionId (change row) }) :
    (updateInstruction instructionId change).Visits around state holds :=
  visits_of_ends rfl start (ends_updateInstruction.mpr ⟨after, fun _ => start⟩)

theorem visits_updateBatch {change : SettlementBatch → SettlementBatch} (start : holds state)
    (after : ∀ row, state.batches.get? batchId = some row →
      holds { state with batches := state.batches.set batchId (change row) }) :
    (updateBatch batchId change).Visits around state holds :=
  visits_of_ends rfl start (ends_updateBatch.mpr ⟨after, fun _ => start⟩)

theorem visits_settleRow (waiting : row.status = .submitted)
    (present : state.instructions.get? row.instructionId = some row) (start : holds state) (after : holds { state with
      instructions := state.instructions.set row.instructionId (settled now txids row) }) :
    (settleRow now txids row).Visits around state holds := by
  have allowed : InstructionStatus.settled ∈ instructionTransitions row.status .railConfirmed := by
    rw [waiting]
    decide
  refine visits_bind (visits_raiseIf start) (ends_denyInstruction.mpr ⟨fun _ => trivial, fun _ => ?_⟩)
  refine visits_bind (visits_updateInstruction start ?_) (ends_updateInstruction.mpr ⟨?_, ?_⟩)
  · intro found same
    obtain rfl := Option.mem_unique present same
    exact after
  · intro found same
    obtain rfl := Option.mem_unique present same
    exact visits_pure after
  · exact fun _ => trivial

theorem visits_settleRows (keyed : tables.Keyed) (each : ∀ count, holds (tables.settledUpTo batchId now txids count)) :
    (Process.forEach (tables.members batchId .submitted) (settleRow now txids)).Visits around tables holds := by
  let after (rows : List SettlementInstruction) : Settlements := { tables with
    instructions := rows.foldl (fun table row => table.set row.instructionId (settled now txids row))
      tables.instructions }
  have reached : ∀ {done rest}, tables.members batchId .submitted = done ++ rest → holds (after done) := by
    intro done rest split
    have part : done <+: tables.members batchId .submitted := ⟨rest, split.symm⟩
    have taken : (tables.members batchId .submitted).take done.length = done := by simp [split]
    have here := each done.length
    rw [settledUpTo, taken, ← foldl_settled keyed part] at here
    exact here
  have ids : ((tables.members batchId .submitted).map SettlementInstruction.instructionId).Nodup := keyed.distinct
  refine visits_forEach (fun rest state => ∃ done,
    tables.members batchId .submitted = done ++ rest ∧ state = after done) ⟨[], rfl, rfl⟩ ?_ ?_
  · rintro row rest _ ⟨done, split, rfl⟩
    have member : row ∈ tables.members batchId .submitted := split ▸ mem_append_right done mem_cons_self
    obtain ⟨inside, _, waiting⟩ := mem_members.mp member
    have part : done <+: tables.members batchId .submitted := ⟨row :: rest, split.symm⟩
    have apart : row ∉ done := by
      intro also
      rw [split, map_append, nodup_append] at ids
      exact ids.2.2 _ (mem_map_of_mem also) _ (mem_map_of_mem mem_cons_self) rfl
    have present : (after done).instructions.get? row.instructionId = some row := by
      have same := congrArg instructions (@foldl_settled _ _ now txids keyed _ part)
      rw [show (after done).instructions = _ from same, rewrite, Dict.get?_mapValues,
        keyed.instructions.get?_of_mem inside]
      simp [apart]
    have next : ({ after done with instructions :=
        (after done).instructions.set row.instructionId (settled now txids row) } : Settlements) =
          after (done ++ [row]) := by
      simp [after, foldl_append]
    have further : tables.members batchId .submitted = (done ++ [row]) ++ rest := by simp [split]
    refine ⟨visits_settleRow waiting present (reached split) (next ▸ reached further), ?_⟩
    rw [ends_settleRow waiting present, next]
    exact ⟨done ++ [row], further, rfl⟩
  · rintro _ ⟨done, split, rfl⟩
    exact reached split

/-- The batch is marked as confirmed. -/
def Settlements.marked (tables : Settlements) (now : DateTime) (batchId : String) (batch : SettlementBatch) :
    Settlements :=
  { tables with batches := tables.batches.set batchId { batch with status := .confirmed, confirmedAt := some now } }

/-- The places where a fresh confirmation can be cut off, once its evidence is kept. -/
inductive Passing (now : DateTime) (batchId : String) (batch : SettlementBatch)
    (railTransactionIds : Dict String String) (kept : Settlements) : Settlements → Prop
  | evidence : Passing now batchId batch railTransactionIds kept kept
  | posted (some : kept.members batchId .submitted ≠ [])
      (fresh : .batchClose batchId ∉ kept.journal.map idempotencyKey) :
      Passing now batchId batch railTransactionIds kept
        { kept with journal := kept.journal ++ [closeEntry batchId (kept.members batchId .submitted)] }
  | settling (posted : List JournalEntry) (count : Nat)
      (closed : posted = [] ∧ (kept.members batchId .submitted = [] ∨ kept.entries batchId .settlementBatchClose ≠ []) ∨
        posted = [closeEntry batchId (kept.members batchId .submitted)] ∧ kept.members batchId .submitted ≠ [] ∧
          .batchClose batchId ∉ kept.journal.map idempotencyKey) :
      Passing now batchId batch railTransactionIds kept
        ((({ kept with journal := kept.journal ++ posted } : Settlements).marked now batchId batch).settledUpTo batchId now
          railTransactionIds count)

theorem visits_settleBatch {posted : Settlements} (keyed : posted.Keyed)
    (found : posted.batches.get? batchId = some batch)
    {sponsorBankRef : Option String} (same : batch.sponsorBankRef = sponsorBankRef) {rows : List SettlementInstruction}
    (listed : rows = posted.members batchId .submitted) (start : holds posted)
    (each : ∀ count, holds ((posted.marked now batchId batch).settledUpTo batchId now txids count)) :
    (settleBatch batchId now sponsorBankRef txids rows).Visits around posted holds := by
  subst listed same
  have keyed' : (posted.marked now batchId batch).Keyed :=
    (@Wrote.batch .resumeConfirmations posted batchId batch { batch with status := .confirmed, confirmedAt := some now } found
      (.of_same rfl (by simp))).keyed keyed
  have first : holds (posted.marked now batchId batch) := by
    have zero := each 0
    rwa [settledUpTo, take_zero, ← @foldl_settled _ batchId _ _ keyed' _ nil_prefix] at zero
  refine visits_bind (visits_updateBatch start ?_) (ends_updateBatch.mpr ⟨?_, ?_⟩)
  · intro other there
    obtain rfl := Option.mem_unique found there
    exact first
  · intro other there
    obtain rfl := Option.mem_unique found there
    exact visits_settleRows keyed' each
  · exact fun _ => trivial

theorem visits_postClose (start : holds state)
    (posted : rows ≠ [] → .batchClose batchId ∉ state.journal.map idempotencyKey →
      holds { state with journal := state.journal ++ [closeEntry batchId rows] }) :
    (postClose batchId rows).Visits around state holds := by
  rw [postClose]
  split_ifs with none
  · exact visits_pure start
  · refine visits_act start (stops_catchWhen.mpr (stops_post.mpr ?_))
    simp only [isDuplicate, Bool.false_eq_true, if_false, if_true, stops_bind, stops_get, stops_raiseIf]
    exact ⟨fun _ => start, fun _ => ⟨fun _ => ⟨fun _ => start, fun _ => start⟩,
      fun fresh => ⟨fun _ => start, fun _ => posted none fresh⟩⟩⟩

/-- What a fresh confirmation does once its evidence is kept. -/
def closeAndSettle (batchId : String) (now : DateTime) (sponsorBankRef : Option String)
    (railTransactionIds : Dict String String) : SettlementP Unit := do
  let rows ← listMembers batchId .submitted
  postClose batchId rows
  settleBatch batchId now sponsorBankRef railTransactionIds rows

theorem visits_closeAndSettle {kept : Settlements} (keyed : kept.Keyed) (found : kept.batches.get? batchId = some batch)
    (passing : ∀ state, Passing now batchId batch txids kept state → holds state) :
    (closeAndSettle batchId now batch.sponsorBankRef txids).Visits around kept holds := by
  have settles : ∀ posted : List JournalEntry, posted = [] ∧ (kept.members batchId .submitted = [] ∨
        kept.entries batchId .settlementBatchClose ≠ []) ∨
      posted = [closeEntry batchId (kept.members batchId .submitted)] ∧ kept.members batchId .submitted ≠ [] ∧
        .batchClose batchId ∉ kept.journal.map idempotencyKey →
      holds { kept with journal := kept.journal ++ posted } →
      (settleBatch batchId now batch.sponsorBankRef txids (kept.members batchId .submitted)).Visits around
        { kept with journal := kept.journal ++ posted } holds := by
    intro posted closed here
    exact @visits_settleBatch batchId around now _ txids holds { kept with journal := kept.journal ++ posted }
      ⟨keyed.batches, keyed.instructions⟩ found _ rfl _ rfl here fun count => passing _ (.settling posted count closed)
  have evidence : holds kept := passing _ .evidence
  have unposted : kept.members batchId .submitted = [] ∨ kept.entries batchId .settlementBatchClose ≠ [] →
      (settleBatch batchId now batch.sponsorBankRef txids (kept.members batchId .submitted)).Visits around kept
        holds := by
    intro closed
    have settled := settles [] (.inl ⟨rfl, closed⟩)
    rw [append_nil] at settled
    exact settled evidence
  refine visits_bind (visits_of_ends rfl evidence (ends_listMembers.mpr evidence)) (ends_listMembers.mpr ?_)
  refine visits_bind (visits_postClose evidence fun some fresh => passing _ (.posted some fresh))
    (ends_postClose.mpr ⟨?_, ?_⟩)
  · intro none
    exact unposted (.inl none)
  · intro some
    refine stops_post.mpr ⟨fun _ => by simp [isDuplicate], fun _ => ⟨fun _ => ?_,
      fun fresh => ⟨fun _ => by simp [isDuplicate], fun _ => ?_⟩⟩⟩
    · simp only [isDuplicate, if_true]
      exact ⟨fun _ => trivial, fun closed => unposted (.inr closed)⟩
    · exact settles _ (.inr ⟨rfl, some, fresh⟩) (passing _ (.posted some fresh))

theorem visits_confirmFresh (keyed : tables.Keyed) (found : tables.batches.get? batchId = some batch)
    (start : holds tables) (passing : ∀ state, Passing now batchId { batch with sponsorBankRef } txids
      (tables.evidenced batchId batch sponsorBankRef txids) state → holds state) :
    (confirmFresh batchId now sponsorBankRef txids).Visits around tables holds := by
  refine visits_bind (visits_of_ends rfl start ?_) ?_
  · exact (ends_persistConfirmationEvidence found).mpr
      ⟨fun _ => start, fun _ => ⟨fun _ => start, fun _ => passing _ .evidence⟩⟩
  refine (ends_persistConfirmationEvidence found).mpr ⟨fun _ => trivial, fun _ => ⟨fun _ => trivial, fun _ => ?_⟩⟩
  exact @visits_closeAndSettle _ _ _ { batch with sponsorBankRef } _ _ _
    (keyed_evidenced keyed found sponsorBankRef txids) (Dict.get?_set_self _ _ _) passing

/-- Where a confirmation can be cut off. -/
theorem visits_confirm (keyed : tables.Keyed) (start : holds tables)
    (resumed : ∀ batch, tables.batches.get? batchId = some batch → batch.status = .confirmed →
      ∀ count, holds (tables.settledUpTo batchId around.now txids count))
    (fresh : ∀ batch resolved, tables.batches.get? batchId = some batch → batch.status = .dispatched →
      sponsorRef batch sponsorBankRef = .ok resolved →
      ∀ state, Passing around.now batchId { batch with sponsorBankRef := resolved } txids
        (tables.evidenced batchId batch resolved txids) state → holds state) :
    (confirm batchId sponsorBankRef txids).Visits around tables holds := by
  refine visits_bind (visits_of_ends rfl start (ends_requireBatch.mpr ⟨fun _ _ => start, fun _ => start⟩))
    (ends_requireBatch.mpr ⟨fun batch found => ?_, fun _ => trivial⟩)
  refine visits_bind (visits_of_ends rfl start (ends_clockNow.mpr start)) (ends_clockNow.mpr ?_)
  refine visits_bind (visits_attempt start) (ends_attempt.mpr ⟨fun resolved ref => ?_, fun _ _ => trivial⟩)
  refine visits_bind (visits_raiseIf start) (ends_denyBatch.mpr ⟨fun _ => trivial, fun allowed => ?_⟩)
  split_ifs with confirmed
  · refine visits_bind (visits_of_ends rfl start (ends_listMembers.mpr start)) (ends_listMembers.mpr ?_)
    exact visits_settleRows keyed (resumed batch found confirmed)
  · have dispatched : batch.status = .dispatched := by
      revert allowed confirmed
      cases batch.status <;> decide
    exact visits_confirmFresh keyed found start (fresh batch resolved found dispatched ref)

/-! A batch that is being confirmed. -/

def BatchBooks.Confirmed (books : BatchBooks) : Prop := ∃ batch, books.batch? = some batch ∧ batch.status = .confirmed

def BatchBooks.submitted (books : BatchBooks) : List SettlementInstruction :=
  books.staff.filter fun row => row.status = .submitted

/-- What has become of an instruction: once the batch is confirmed it may be settled. -/
def RowUnderway (confirmed : Prop) (row after : SettlementInstruction) : Prop :=
  after = row ∨ row.status = .submitted ∧ confirmed ∧
    ∃ moment, after = { row with status := .settled, settledAt := some moment }

/-- The books of a batch between its evidence and its end.  `base` is what they are with the evidence kept. -/
structure Underway (batchId : String) (base books : BatchBooks) : Prop where
  batch? : ∃ row, base.batch? = some row ∧ row.status = .dispatched ∧ (books.batch? = some row ∨
    ∃ moment, books.batch? = some { row with status := .confirmed, confirmedAt := some moment })
  staff : ∃ change : SettlementInstruction → SettlementInstruction, books.staff = base.staff.map change ∧
    ∀ row ∈ base.staff, RowUnderway books.Confirmed row (change row)
  opens : books.opens = base.opens
  reversals : books.reversals = base.reversals
  closes : books.closes = [] ∨ base.submitted ≠ [] ∧ books.closes = [closeEntry batchId base.submitted]
  closed : books.Confirmed → base.submitted ≠ [] → books.closes ≠ []

/-- The batch is confirmed, and all of it is settled. -/
def BatchBooks.Finished (books : BatchBooks) : Prop := books.Confirmed ∧ ∀ row ∈ books.staff, row.status ≠ .submitted

variable {base books : BatchBooks} {count : Nat}

theorem Underway.refl {row : SettlementBatch} (found : base.batch? = some row) (dispatched : row.status = .dispatched)
    (unclosed : base.closes = []) : Underway batchId base base where
  batch? := ⟨row, found, dispatched, .inl found⟩
  staff := ⟨id, by simp, fun _ _ => .inl rfl⟩
  opens := rfl
  reversals := rfl
  closes := .inl unclosed
  closed := by
    rintro ⟨other, same, confirmed⟩
    obtain rfl := Option.mem_unique found same
    rw [dispatched] at confirmed
    cases confirmed

theorem Underway.staff_of_dispatched (underway : Underway batchId base books) (unconfirmed : ¬ books.Confirmed) :
    books.staff = base.staff := by
  obtain ⟨change, staff, rows⟩ := underway.staff
  have same : base.staff.map change = base.staff.map id := by
    refine map_congr_left fun row member => ?_
    rcases rows row member with waiting | ⟨_, confirmed, _⟩
    · exact waiting
    · exact absurd confirmed unconfirmed
  rw [staff, same, map_id]

/-- The identifiers the instructions are settled with are those kept with the evidence. -/
def Faithful (base : BatchBooks) (railTransactionIds : Dict String String) : Prop :=
  ∀ row ∈ base.staff, row.status = .submitted →
    (row.railTransactionId.filter (· ≠ "")).or (railTransactionIds.get? row.instructionId) = row.railTransactionId

theorem settled_of_faithful (faithful : Faithful base txids)
    (member : row ∈ base.staff) (waiting : row.status = .submitted) :
    settled now txids row = { row with status := .settled, settledAt := some now } := by
  rw [settled, faithful row member waiting]

theorem books_settledUpTo : (state.settledUpTo batchId now txids count).books batchId =
    { state.books batchId with
      staff := (state.staff batchId).map fun row =>
        if row ∈ (state.members batchId .submitted).take count then settled now txids row else row } := by
  have staff : (state.settledUpTo batchId now txids count).staff batchId = (state.staff batchId).map fun row =>
      if row ∈ (state.members batchId .submitted).take count then settled now txids row else row := by
    refine staff_mapValues ?_ fun row _ => ?_
    · simp [settledUpTo, rewrite]
    · split_ifs <;> rfl
  rw [books, staff]
  rfl

/-- Settling some more of a batch that is confirmed. -/
theorem Underway.settledUpTo (underway : Underway batchId base (state.books batchId))
    (confirmed : (state.books batchId).Confirmed) (faithful : Faithful base txids) (count : Nat) :
    Underway batchId base ((state.settledUpTo batchId now txids count).books batchId) := by
  rw [books_settledUpTo]
  refine ⟨underway.batch?, ?_, underway.opens, underway.reversals, underway.closes, underway.closed⟩
  obtain ⟨change, staff, rows⟩ := underway.staff
  have staffed : state.staff batchId = base.staff.map change := staff
  refine ⟨fun row => if change row ∈ (state.members batchId .submitted).take count
    then settled now txids (change row) else change row, by rw [staffed, map_map]; rfl, fun row member => ?_⟩
  change RowUnderway (state.books batchId).Confirmed row (if change row ∈ (state.members batchId .submitted).take count
    then settled now txids (change row) else change row)
  split_ifs with taken
  · obtain ⟨_, _, waiting⟩ := mem_members.mp (mem_of_mem_take taken)
    rcases rows row member with same | ⟨_, _, moment, already⟩
    · rw [same] at waiting ⊢
      exact .inr ⟨waiting, confirmed, now, settled_of_faithful faithful member waiting⟩
    · rw [already] at waiting
      cases waiting
  · exact rows row member

theorem submitted_books : (state.books batchId).submitted = state.members batchId .submitted := members_eq_filter.symm

theorem closes_eq_nil_of_fresh (genuine : ∀ entry ∈ state.journal, entry.genuine = true)
    (fresh : .batchClose batchId ∉ state.journal.map idempotencyKey) :
    state.entries batchId .settlementBatchClose = [] := by
  rw [entries, filter_eq_nil_iff]
  intro entry posted holds
  simp only [Bool.and_eq_true, decide_eq_true_eq] at holds
  obtain ⟨own, closing⟩ := holds
  have key := genuine entry posted
  cases idempotencyKey : entry.idempotencyKey <;> simp [JournalEntry.genuine, closing, idempotencyKey] at key
  subst key
  exact fresh (mem_map.mpr ⟨entry, posted, by rw [idempotencyKey, own]⟩)

/-- Wherever a fresh confirmation is cut off, the batch is underway. -/
theorem Underway.passing (underway : Underway batchId base (kept.books batchId))
    (genuine : ∀ entry ∈ kept.journal, entry.genuine = true) (found : kept.batches.get? batchId = some batch)
    (dispatched : batch.status = .dispatched) (faithful : Faithful base txids)
    (passing : Passing now batchId batch txids kept state) : Underway batchId base (state.books batchId) := by
  have unconfirmed : ¬ (kept.books batchId).Confirmed := by
    rintro ⟨other, same, confirmed⟩
    obtain rfl := Option.mem_unique found same
    rw [dispatched] at confirmed
    cases confirmed
  have staff := underway.staff_of_dispatched unconfirmed
  have rows : kept.members batchId .submitted = base.submitted := by
    rw [← submitted_books, BatchBooks.submitted, staff, BatchBooks.submitted]
  have typed : ∀ entry ∈ [closeEntry batchId (kept.members batchId .submitted)],
      entry.entryType = .settlementBatchClose := by
    simp [closeEntry]
  have added : ∀ {later : Settlements},
      later.journal = kept.journal ++ [closeEntry batchId (kept.members batchId .submitted)] →
      .batchClose batchId ∉ kept.journal.map idempotencyKey →
      later.entries batchId .settlementBatchClose = [closeEntry batchId base.submitted] := by
    intro later journal fresh
    have posted := @entries_posted kept later batchId _ .settlementBatchClose journal (by simp [closeEntry])
    rw [posted, closes_eq_nil_of_fresh genuine fresh, rows, nil_append]
  cases passing with
  | evidence => exact underway
  | posted some fresh =>
    have same : ∀ {entryType}, entryType ≠ .settlementBatchClose → ({ kept with
        journal := kept.journal ++ [closeEntry batchId (kept.members batchId .submitted)] } : Settlements).entries batchId
          entryType = kept.entries batchId entryType := fun different => entries_other rfl typed different
    refine ⟨underway.batch?, underway.staff, (same (by decide)).trans underway.opens,
      (same (by decide)).trans underway.reversals,
      .inr ⟨rows ▸ some, added rfl fresh⟩, fun confirmed => absurd confirmed unconfirmed⟩
  | settling posted count closed =>
    let marked := ({ kept with journal := kept.journal ++ posted } : Settlements).marked now batchId batch
    have there : marked.batches.get? batchId = some { batch with status := .confirmed, confirmedAt := some now } :=
      Dict.get?_set_self _ _ _
    have confirmed : (marked.books batchId).Confirmed := ⟨_, there, rfl⟩
    obtain ⟨row, based, _, mine⟩ := underway.batch?
    have own : base.batch? = some batch := by
      rcases mine with same | ⟨moment, same⟩
      · rw [based, ← same]
        exact found
      · exact absurd ⟨_, same, rfl⟩ unconfirmed
    have closing : ∀ entry ∈ posted, entry.entryType = .settlementBatchClose := by
      rcases closed with ⟨rfl, _⟩ | ⟨rfl, _⟩
      · simp
      · exact typed
    have opens : marked.entries batchId .settlementBatchOpen = kept.entries batchId .settlementBatchOpen :=
      entries_other rfl closing (by decide)
    have reversals : marked.entries batchId .settlementBatchOpenReversal =
        kept.entries batchId .settlementBatchOpenReversal := entries_other rfl closing (by decide)
    have closes : (marked.entries batchId .settlementBatchClose = [] ∧ base.submitted = []) ∨
        base.submitted ≠ [] ∧ marked.entries batchId .settlementBatchClose = [closeEntry batchId base.submitted] := by
      rcases closed with ⟨rfl, none | already⟩ | ⟨rfl, some, fresh⟩
      · have same : marked.entries batchId .settlementBatchClose = kept.entries batchId .settlementBatchClose := by
          simp [marked, Settlements.marked, Settlements.entries]
        rcases underway.closes with unclosed | ⟨some, _⟩
        · exact .inl ⟨same.trans unclosed, rows ▸ none⟩
        · exact absurd (rows ▸ none) some
      · have same : marked.entries batchId .settlementBatchClose = kept.entries batchId .settlementBatchClose := by
          simp [marked, Settlements.marked, Settlements.entries]
        rcases underway.closes with unclosed | ⟨some, one⟩
        · exact absurd unclosed already
        · exact .inr ⟨some, same.trans one⟩
      · exact .inr ⟨rows ▸ some, added rfl fresh⟩
    have underway' : Underway batchId base (marked.books batchId) := by
      refine ⟨⟨batch, own, dispatched, .inr ⟨now, there⟩⟩, ⟨id, ?_, fun _ _ => .inl rfl⟩, opens.trans underway.opens,
        reversals.trans underway.reversals, ?_, fun _ some => ?_⟩
      · rw [map_id]
        exact staff
      · exact closes.imp And.left id
      · rcases closes with ⟨_, none⟩ | ⟨_, one⟩
        · exact absurd none some
        · rw [show (marked.books batchId).closes = _ from one]
          simp
    exact underway'.settledUpTo confirmed faithful count

/-! What no confirmation disturbs. -/

/-- Rows under their identifiers, entries under their keys, and something to pay out for whatever is in a batch. -/
structure Sane (state : Settlements) : Prop where
  keyed : state.Keyed
  genuine : ∀ entry ∈ state.journal, entry.genuine = true
  paying : ∀ row ∈ state.instructions.values, row.batchId ≠ none → 0 < row.netPayoutMinor

theorem Sane.rewrite (sane : Sane state) {which : SettlementInstruction → Bool}
    (same : ∀ row, (change row).filing = row.filing) : Sane (state.rewrite which change) := by
  refine ⟨⟨sane.keyed.batches, sane.keyed.instructions.mapValues fun row _ => ?_⟩, sane.genuine, ?_⟩
  · split_ifs
    · exact instructionId_congr (same row)
    · rfl
  · intro row member filedUnder
    rw [Settlements.rewrite, Dict.values_mapValues] at member
    obtain ⟨before, inside, rfl⟩ := mem_map.mp member
    split_ifs at filedUnder ⊢
    · rw [net_congr (same before)]
      exact sane.paying before inside (batchId_congr (same before) ▸ filedUnder)
    · exact sane.paying before inside filedUnder

theorem Sane.marked (sane : Sane state) (found : state.batches.get? batchId = some batch) :
    Sane (state.marked now batchId batch) :=
  ⟨(@Wrote.batch .resumeConfirmations state batchId batch { batch with status := .confirmed, confirmedAt := some now } found
    (.of_same rfl (by simp))).keyed sane.keyed, sane.genuine, sane.paying⟩

theorem Sane.posted (sane : Sane state) {posted : List JournalEntry}
    (genuine : ∀ entry ∈ posted, entry.genuine = true) :
    Sane { state with journal := state.journal ++ posted } := by
  refine ⟨⟨sane.keyed.batches, sane.keyed.instructions⟩, fun entry member => ?_, sane.paying⟩
  rcases mem_append.mp member with before | now
  · exact sane.genuine entry before
  · exact genuine entry now

theorem books_settledUpTo_of_ne {count : Nat} {other : String} (different : other ≠ batchId) :
    (state.settledUpTo batchId now txids count).books other = state.books other := by
  have staff : (state.settledUpTo batchId now txids count).staff other = state.staff other := by
    have mapped := @staff_mapValues state (state.settledUpTo batchId now txids count) other (fun row =>
      if row ∈ (state.members batchId .submitted).take count then settled now txids row else row)
      (by simp [settledUpTo, rewrite]) (fun row _ => by split_ifs <;> rfl)
    rw [mapped]
    refine (map_congr_left fun row member => ?_).trans (map_id _)
    refine if_neg fun taken => ?_
    have theirs := (mem_members.mp (mem_of_mem_take taken)).2.1
    rw [(mem_staff.mp member).2, Option.some.injEq] at theirs
    exact different theirs
  rw [books, staff]
  rfl

theorem genuine_closeEntry :
    ∀ entry ∈ [closeEntry batchId rows], entry.genuine = true ∧ entry.referenceId = batchId := by
  simp [closeEntry, genuine]

/-- A confirmation of one batch leaves the books of the others alone. -/
theorem Sane.passing (sane : Sane kept) (found : kept.batches.get? batchId = some batch)
    (passing : Passing now batchId batch txids kept state) :
    Sane state ∧ ∀ other, other ≠ batchId → state.books other = kept.books other := by
  cases passing with
  | evidence => exact ⟨sane, fun _ _ => rfl⟩
  | posted =>
    refine ⟨sane.posted fun entry member => (genuine_closeEntry entry member).1, fun other different => ?_⟩
    have same := fun entryType => @entries_elsewhere kept { kept with
      journal := kept.journal ++ [closeEntry batchId (kept.members batchId .submitted)] } batchId _ rfl
      (fun entry member => (genuine_closeEntry entry member).2) other different entryType
    simp only [books, same]
    rfl
  | settling posted _ closed =>
    have theirs : ∀ entry ∈ posted, entry.genuine = true ∧ entry.referenceId = batchId := by
      rcases closed with ⟨rfl, _⟩ | ⟨rfl, _⟩
      · simp
      · exact genuine_closeEntry
    have sane' : Sane (({ kept with journal := kept.journal ++ posted } : Settlements).marked now batchId batch) :=
      (sane.posted fun entry member => (theirs entry member).1).marked found
    refine ⟨sane'.rewrite fun _ => rfl, fun other different => ?_⟩
    rw [books_settledUpTo_of_ne different]
    have same := fun entryType => @entries_elsewhere kept
      (({ kept with journal := kept.journal ++ posted } : Settlements).marked now batchId batch) batchId _ rfl
      (fun entry member => (theirs entry member).2) other different entryType
    simp only [Settlements.books, same]
    rw [show (Settlements.marked _ now batchId batch).batches.get? other = _ from Dict.get?_set_of_ne different]
    rfl

theorem staff_settledUpTo_of_settled (member : row ∈ state.staff batchId)
    (done : row.status = .settled) : row ∈ (state.settledUpTo batchId now txids count).staff batchId := by
  change row ∈ ((state.settledUpTo batchId now txids count).books batchId).staff
  rw [books_settledUpTo]
  refine mem_map.mpr ⟨row, member, if_neg fun taken => ?_⟩
  rw [(mem_members.mp (mem_of_mem_take taken)).2.2] at done
  cases done

theorem Passing.settled (passing : Passing now batchId batch txids kept state)
    (member : row ∈ kept.staff batchId) (done : row.status = .settled) :
    row ∈ state.staff batchId := by
  cases passing with
  | evidence | posted => exact member
  | settling => exact staff_settledUpTo_of_settled member done

end BdPay.Ledger.Settlement
