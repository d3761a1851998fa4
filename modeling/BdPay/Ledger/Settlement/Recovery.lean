import BdPay.Ledger.Settlement.DueInstructions
import BdPay.Ledger.Settlement.Resuming

namespace BdPay.Ledger.Settlement

open Data Effect Process JournalEntry Settlements SettlementBatch SettlementInstruction Underway SettlementEngine List Dict

/-! Taking up what was cut off. -/

variable {tables state later : Settlements} {batchId other : String} {around : Surroundings} {batch : SettlementBatch}
  {txids : Dict String String} {base : BatchBooks} {count : Nat}

/-! The ledger takes every close entry there is something to pay out for. -/

variable {rows : List SettlementInstruction}

theorem positive_perMerchant (paying : ∀ row ∈ rows, 0 < row.netPayoutMinor) :
    ∀ payout ∈ (perMerchant rows).entries, 0 < payout.2 := by
  have general : ∀ payouts : Dict String Int, (∀ payout ∈ payouts.entries, 0 < payout.2) →
      ∀ payout ∈ (rows.foldl addPayout payouts).entries, 0 < payout.2 := by
    induction rows with
    | nil => exact fun _ positive => positive
    | cons row _ ih =>
      intro payouts positive
      refine ih (fun other member => paying other (mem_cons_of_mem _ member)) _ fun payout member => ?_
      have here := paying row mem_cons_self
      have found := get?_of_mem member
      rw [addPayout, get?_set] at found
      split_ifs at found with same
      · cases before : payouts.get? row.merchantId with
        | none =>
          rw [before] at found
          simp only [Option.getD_none, Option.some.injEq] at found
          omega
        | some amount =>
          have already := positive _ (mem_of_get? before)
          rw [before] at found
          simp only [Option.getD_some, Option.some.injEq] at found
          change 0 < amount at already
          omega
      · exact positive payout (Dict.mem_of_get? found)
  exact general .empty fun payout member => absurd member (by simp [Dict.empty])

section

variable (some : rows ≠ []) (paying : ∀ row ∈ rows, 0 < row.netPayoutMinor)

include some paying

theorem netTotal_pos : 0 < netTotal rows := by
  refine sum_pos _ (fun amount member => ?_) (by simpa using some)
  obtain ⟨row, inside, rfl⟩ := mem_map.mp member
  exact paying row inside

theorem wellFormed_closeEntry : (closeEntry batchId rows).wellFormed = true := by
  have total := netTotal_pos some paying
  have positive := positive_perMerchant paying
  have present : (perMerchant rows).entries ≠ [] := by
    intro none
    have counted := payoutTotal_perMerchant rows
    rw [payoutTotal, none, map_nil, sum_nil] at counted
    omega
  have counted : 0 < (perMerchant rows).entries.length := length_pos_of_ne_nil present
  simp only [wellFormed, Bool.and_eq_true, decide_eq_true_eq, all_eq_true]
  refine ⟨⟨?_, fun posting member => ?_⟩, ?_⟩
  · simp only [closeEntry, length_append, length_map, length_mergeSort, length_cons, length_nil]
    omega
  · simp only [closeEntry, mem_append, mem_map, mem_mergeSort, mem_cons, not_mem_nil,
      or_false] at member
    rcases member with ⟨payout, inside, rfl⟩ | rfl
    · exact positive payout inside
    · rw [sum_sorted_payouts]
      exact total
  · simp [closeEntry, sideTotal, filter_map, Function.comp_def]

end

theorem Sane.wellFormed (sane : Sane state) (some : state.members batchId .submitted ≠ []) :
    (closeEntry batchId (state.members batchId .submitted)).wellFormed = true := by
  refine wellFormed_closeEntry some fun row member => ?_
  obtain ⟨inside, filedUnder, _⟩ := mem_members.mp member
  exact sane.paying row inside (by rw [filedUnder]; simp)

theorem Sane.closes_of_key (sane : Sane state)
    (posted : .batchClose batchId ∈ state.journal.map JournalEntry.idempotencyKey) :
    state.entries batchId .settlementBatchClose ≠ [] := by
  obtain ⟨entry, inside, key⟩ := mem_map.mp posted
  have genuine := sane.genuine entry inside
  refine ne_nil_of_mem (mem_filter.mpr ⟨inside, ?_⟩ : entry ∈ _)
  cases entryType : entry.entryType <;> simp [JournalEntry.genuine, entryType, key] at genuine
  simp [genuine]

/-! The evidence a confirmation is taken up with is the evidence that is kept. -/

theorem sponsorRef_own (kept : batch.status = .dispatched → batch.sponsorBankRef.isSome = true)
    (standing : batch.status = .dispatched ∨ batch.status = .confirmed) :
    sponsorRef batch batch.sponsorBankRef = .ok batch.sponsorBankRef := by
  cases ref : batch.sponsorBankRef with
  | none =>
    rcases standing with dispatched | confirmed
    · rw [ref] at kept
      cases kept dispatched
    · simp [sponsorRef, confirmed, ref]
  | some reference =>
    rcases standing with dispatched | confirmed
    · simp [sponsorRef, dispatched, ref]
    · by_cases blank : reference = "" <;> simp [sponsorRef, confirmed, ref, blank, Option.filter]

theorem evidenced_own (found : state.batches.get? batchId = some batch) :
    state.evidenced batchId batch batch.sponsorBankRef .empty = state := by
  have same : state.batches.set batchId batch = state.batches := Dict.set_of_get? found
  simp only [evidenced, Dict.empty, foldl_nil]
  rw [same]

/-! One confirmation again. -/

/-- What is settled stays as it is, and what is over stays over. -/
structure Onward (batchId : String) (state later : Settlements) : Prop where
  settled : ∀ row ∈ state.staff batchId, row.status = .settled → row ∈ later.staff batchId
  finished : (state.books batchId).Finished → (later.books batchId).Finished

theorem Onward.of_same (same : later.books batchId = state.books batchId) : Onward batchId state later := by
  have staff : later.staff batchId = state.staff batchId := congrArg BatchBooks.staff same
  exact ⟨fun row member _ => staff ▸ member, fun finished => same ▸ finished⟩

/-- Sound tables in which the batch is underway. -/
structure Resumable (batchId : String) (base : BatchBooks) (state : Settlements) : Prop where
  sane : Sane state
  underway : Underway batchId base (state.books batchId)

/-- The batch is underway still. -/
structure Continued (batchId : String) (base : BatchBooks) (state later : Settlements) : Prop where
  resumable : Resumable batchId base later
  onward : Onward batchId state later

theorem Continued.refl (resumable : Resumable batchId base state) : Continued batchId base state state :=
  ⟨resumable, .of_same rfl⟩

theorem Continued.trans {last : Settlements} (first : Continued batchId base state later)
    (second : Continued batchId base later last) : Continued batchId base state last where
  resumable := second.resumable
  onward.settled row member done := second.onward.settled row (first.onward.settled row member done) done
  onward.finished finished := second.onward.finished (first.onward.finished finished)

/-- No other batch but the one taken up has changed. -/
structure TakenUp (batchId : String) (base : BatchBooks) (other : String) (state later : Settlements) : Prop
    extends Continued batchId base state later where
  elsewhere : ∀ third, third ≠ other → later.books third = state.books third

theorem TakenUp.refl (resumable : Resumable batchId base state) : TakenUp batchId base other state state :=
  ⟨.refl resumable, fun _ _ => rfl⟩

theorem onward_settledUpTo : Onward batchId state (state.settledUpTo batchId now txids count) := by
  refine ⟨fun row member done => staff_settledUpTo_of_settled member done, ?_⟩
  rintro ⟨confirmed, through⟩
  rw [books_settledUpTo]
  refine ⟨confirmed, fun row member => ?_⟩
  obtain ⟨before, inside, rfl⟩ := mem_map.mp member
  split_ifs
  · simp [settled]
  · exact through before inside

/-- A confirmation again, wherever it is cut off. -/
theorem visits_confirmAgain (resumable : Resumable batchId base state) (faithful : Faithful base .empty)
    (found : state.batches.get? other = some batch)
    (kept : batch.status = .dispatched → batch.sponsorBankRef.isSome = true) :
    (confirm other batch.sponsorBankRef .empty).Visits around state (TakenUp batchId base other state) := by
  obtain ⟨sane, underway⟩ := resumable
  refine visits_confirm sane.keyed (.refl ⟨sane, underway⟩) ?_ ?_
  · intro row there confirmed count
    have elsewhere := fun third different => @books_settledUpTo_of_ne state other around.now .empty count third different
    rcases eq_or_ne batchId other with rfl | different
    · exact ⟨⟨⟨sane.rewrite fun _ => rfl, underway.settledUpTo ⟨row, there, confirmed⟩ faithful count⟩,
        onward_settledUpTo⟩, elsewhere⟩
    · have same := elsewhere batchId different
      exact ⟨⟨⟨sane.rewrite fun _ => rfl, same ▸ underway⟩, .of_same same⟩, elsewhere⟩
  · intro row resolved there dispatched ref later passing
    obtain rfl := Option.mem_unique found there
    rw [sponsorRef_own kept (.inl dispatched), Except.ok.injEq] at ref
    subst ref
    rw [evidenced_own found] at passing
    obtain ⟨sane', others⟩ := sane.passing found passing
    rcases eq_or_ne batchId other with rfl | different
    · refine ⟨⟨⟨sane', underway.passing sane.genuine found dispatched faithful passing⟩,
        fun row member done => passing.settled member done, ?_⟩, others⟩
      rintro ⟨⟨row, there, confirmed⟩, _⟩
      obtain rfl := Option.mem_unique found there
      rw [dispatched] at confirmed
      cases confirmed
    · have same := others batchId different
      exact ⟨⟨⟨sane', same ▸ underway⟩, .of_same same⟩, others⟩

theorem finished_rewrite (found : state.batches.get? batchId = some batch) (confirmed : batch.status = .confirmed) :
    ((state.rewrite (inBatch batchId .submitted) (settled now txids)).books batchId).Finished := by
  refine ⟨⟨batch, found, confirmed⟩, fun row member => ?_⟩
  have staff : (state.rewrite (inBatch batchId .submitted) (settled now txids)).staff batchId =
      (state.staff batchId).map fun row =>
        if inBatch batchId .submitted row then settled now txids row else row := by
    refine staff_mapValues rfl fun row _ => ?_
    split_ifs <;> rfl
  change row ∈ Settlements.staff _ batchId at member
  rw [staff] at member
  obtain ⟨before, inside, rfl⟩ := mem_map.mp member
  split_ifs with waiting
  · simp [settled]
  · intro still
    exact waiting (inBatch_iff.mpr ⟨(mem_staff.mp inside).2, still⟩)

/-- If the ledger takes close entries it comes to its end. -/
theorem ends_confirmAgain (sane : Sane state) (found : state.batches.get? batchId = some batch)
    (kept : batch.status = .dispatched → batch.sponsorBankRef.isSome = true)
    (standing : batch.status = .dispatched ∨ batch.status = .confirmed)
    (takes : ∀ rows, around.takes (closeEntry batchId rows) = true) :
    (confirm batchId batch.sponsorBankRef .empty).Ends around state (fun _ later => (later.books batchId).Finished)
      fun _ _ => False := by
  have ref := sponsorRef_own kept standing
  have allowed : BatchStatus.confirmed ∈ batchTransitions batch.status .sponsorBankConfirmed := by
    rcases standing with status | status <;> rw [status] <;> decide
  simp only [confirm, ends_bind, ends_requireBatch, ends_clockNow, ends_attempt, ends_denyBatch, ends_ite, found,
    Option.some.injEq, forall_eq', ref, Except.ok.injEq, allowed, reduceCtorEq, false_implies, implies_true, and_true,
    not_true_eq_false, true_and, true_implies]
  refine ⟨fun confirmed => ?_, fun unconfirmed => ?_⟩
  · simp only [finishConfirm, ends_bind, ends_listMembers]
    exact (ends_settleRows sane.keyed).mpr (finished_rewrite found confirmed)
  · have marked : ∀ journal, ((({ state with journal } : Settlements).confirmed around.now batchId batch batch.sponsorBankRef
        .empty).books batchId).Finished := fun journal => finished_rewrite (get?_set_self _ _ _) rfl
    rw [ends_confirmFresh sane.keyed found (evidenced_own found).symm rfl fun _ => rfl,
      ends_persistConfirmationEvidence found]
    refine ⟨by simp, fun _ => ⟨by simp [Dict.keys, Dict.empty],
      fun _ => ⟨fun _ => marked state.journal, fun some => ?_⟩⟩⟩
    rw [stops_post, sane.wellFormed some, takes]
    simp only [Bool.true_eq_false, isDuplicate, false_implies, not_false_eq_true, true_implies, true_and, if_true]
    refine ⟨fun posted => ⟨fun none => ?_, fun _ => marked state.journal⟩, fun _ => marked _⟩
    exact sane.closes_of_key posted none

/-! A whole resumption. -/

/-- The batches still to be looked at are as they were listed. -/
structure Listed (rest : List SettlementBatch) (state : Settlements) : Prop where
  distinct : (rest.map SettlementBatch.batchId).Nodup
  present : ∀ row ∈ rest, state.batches.get? row.batchId = some row

variable {row : SettlementBatch}

theorem mem_batchesIn {status : BatchStatus} :
    row ∈ state.batchesIn status ↔ row ∈ state.batches.values ∧ row.status = status := by
  simp [batchesIn]

theorem listed_batchesIn (keyed : state.Keyed) (status : BatchStatus) : Listed (state.batchesIn status) state :=
  ⟨(standing_batchesIn keyed status).distinct, fun _ member => keyed.batches.get?_of_mem (mem_batchesIn.mp member).1⟩

theorem Listed.tail (listed : Listed (row :: rest) state)
    (taken : TakenUp batchId base row.batchId state later) : Listed rest later := by
  have distinct := listed.distinct
  rw [map_cons, nodup_cons] at distinct
  refine ⟨distinct.2, fun next member => ?_⟩
  have different : next.batchId ≠ row.batchId := fun same => distinct.1 (same ▸ mem_map_of_mem member)
  have same := congrArg BatchBooks.batch? (taken.elsewhere next.batchId different)
  exact same.trans (listed.present next (mem_cons_of_mem _ member))

variable {rows : List SettlementBatch} {body : SettlementBatch → SettlementP Unit}
  {row : SettlementInstruction}

/-- A loop over batches, one after the other taken up, wherever it is cut off. -/
theorem visits_takeUp (resumable : Resumable batchId base state) (listed : Listed rows state)
    (each : ∀ row ∈ rows, ∀ state, Resumable batchId base state → state.batches.get? row.batchId = some row →
      (body row).Visits around state (TakenUp batchId base row.batchId state)) :
    (Process.forEach rows body).Visits around state (Continued batchId base state) := by
  refine visits_forEach (fun rest later => Continued batchId base state later ∧ Listed rest later ∧
    ∀ row ∈ rest, row ∈ rows) ⟨.refl resumable, listed, fun _ => id⟩ ?_ fun _ reached => reached.1
  rintro row rest middle ⟨so_far, listed, subset⟩
  have visits := each row (subset row mem_cons_self) middle so_far.resumable (listed.present row mem_cons_self)
  refine ⟨visits.mono fun later taken => so_far.trans taken.toContinued, visits.ends.mono ?_ fun _ _ _ => trivial⟩
  intro _ later taken
  exact ⟨so_far.trans taken.toContinued, listed.tail taken, fun next member => subset next (mem_cons_of_mem _ member)⟩

/-- A loop over batches that comes to its end.  When the batch has had its turn, or has none, `reached` holds of its books. -/
theorem ends_takeUp (reached : BatchBooks → Prop) (resumable : Resumable batchId base state)
    (listed : Listed rows state)
    (each : ∀ row ∈ rows, ∀ state, Resumable batchId base state → state.batches.get? row.batchId = some row →
      (body row).Visits around state (TakenUp batchId base row.batchId state) ∧
        (body row).Ends around state (fun _ later => row.batchId = batchId → reached (later.books batchId)) fun _ _ => False)
    (start : (∀ row ∈ rows, row.batchId ≠ batchId) → reached (state.books batchId)) :
    (Process.forEach rows body).Ends around state
      (fun _ later => Continued batchId base state later ∧ reached (later.books batchId)) fun _ _ => False := by
  refine ends_forEach (fun rest later => Continued batchId base state later ∧ Listed rest later ∧
    ((∀ row ∈ rest, row.batchId ≠ batchId) → reached (later.books batchId)))
    ⟨.refl resumable, listed, start⟩ ?_ fun _ ended => ⟨ended.1, ended.2.2 (by simp)⟩
  rintro row rest middle ⟨so_far, listed, had⟩ ⟨done, split⟩
  have member : row ∈ rows := split ▸ mem_append_right done mem_cons_self
  obtain ⟨visits, ends⟩ := each row member middle so_far.resumable (listed.present row mem_cons_self)
  refine (visits.ends.and ends).mono ?_ fun _ _ raised => raised.2
  rintro _ later ⟨taken, turn⟩
  refine ⟨so_far.trans taken.toContinued, listed.tail taken, fun none => ?_⟩
  rcases eq_or_ne row.batchId batchId with same | different
  · exact turn same
  · rw [taken.elsewhere batchId different.symm]
    refine had fun next member => ?_
    rcases mem_cons.mp member with rfl | later
    · exact different
    · exact none next later

section

variable (resumable : Resumable batchId base state) (faithful : Faithful base .empty)
include resumable faithful

theorem visits_resumeConfirmed (found : state.batches.get? batch.batchId = some batch)
    (confirmed : batch.status = .confirmed) :
    (resumeConfirmed batch).Visits around state (TakenUp batchId base batch.batchId state) := by
  refine visits_bind (visits_of_ends rfl (.refl resumable) (ends_listMembers.mpr (.refl resumable)))
    (ends_listMembers.mpr ?_)
  split_ifs
  · exact visits_pure (.refl resumable)
  · refine visits_confirmAgain resumable faithful found fun dispatched => ?_
    rw [confirmed] at dispatched
    cases dispatched

theorem visits_resumeDispatched (found : state.batches.get? batch.batchId = some batch) :
    (resumeDispatched batch).Visits around state (TakenUp batchId base batch.batchId state) := by
  rw [resumeDispatched]
  split_ifs with kept
  · exact visits_confirmAgain resumable faithful found fun _ => kept
  · exact visits_pure (.refl resumable)

/-- Wherever a resumption is cut off, the batch is underway and what was settled is untouched. -/
theorem visits_resumeConfirmations :
    resumeConfirmations.Visits around state (Continued batchId base state) := by
  have first := @visits_takeUp state batchId around base (state.batchesIn .confirmed) resumeConfirmed resumable
    (listed_batchesIn resumable.sane.keyed _) fun row member middle ready found =>
      visits_resumeConfirmed ready faithful found (mem_batchesIn.mp member).2
  refine visits_bind (visits_of_ends rfl (.refl resumable) (ends_listBatches.mpr (.refl resumable)))
    (ends_listBatches.mpr (visits_bind first (first.ends.mono ?_ fun _ _ _ => trivial)))
  intro _ middle half
  have second := @visits_takeUp middle batchId around base
    (middle.batchesIn .dispatched) resumeDispatched half.resumable
    (listed_batchesIn half.resumable.sane.keyed _) fun row _ middle ready found =>
      visits_resumeDispatched ready faithful found
  exact visits_bind (visits_of_ends rfl half (ends_listBatches.mpr half))
    (ends_listBatches.mpr (second.mono fun later => half.trans))

end

section

variable (sane : Sane state) (found : state.batches.get? batch.batchId = some batch)

include sane found

theorem ends_resumeConfirmed
    (confirmed : batch.status = .confirmed) (takes : ∀ batchId rows, around.takes (closeEntry batchId rows) = true) :
    (resumeConfirmed batch).Ends around state (fun _ later => (later.books batch.batchId).Finished) fun _ _ => False := by
  simp only [resumeConfirmed, ends_bind, ends_listMembers, ends_ite, ends_pure]
  refine ⟨fun none => ⟨⟨batch, found, confirmed⟩, fun row member waiting => ?_⟩, fun _ => ?_⟩
  · obtain ⟨inside, filedUnder⟩ := mem_staff.mp member
    have also := mem_members.mpr ⟨inside, filedUnder, waiting⟩
    rw [none] at also
    cases also
  · refine ends_confirmAgain sane found (fun dispatched => ?_) (.inr confirmed) (takes batch.batchId)
    rw [confirmed] at dispatched
    cases dispatched

theorem ends_resumeDispatched
    (dispatched : batch.status = .dispatched) (takes : ∀ batchId rows, around.takes (closeEntry batchId rows) = true) :
    (resumeDispatched batch).Ends around state
      (fun _ later => batch.sponsorBankRef.isSome = true → (later.books batch.batchId).Finished) fun _ _ => False := by
  simp only [resumeDispatched, ends_ite, ends_pure]
  refine ⟨fun kept => ?_, fun unkept kept => absurd kept unkept⟩
  exact (ends_confirmAgain sane found (fun _ => kept) (.inl dispatched) (takes batch.batchId)).mono
    (fun _ _ through _ => through) fun _ _ => id

end

/-- A resumption that is not cut off finishes the batch, if its evidence is durable. -/
theorem ends_resumeConfirmations (resumable : Resumable batchId base state) (faithful : Faithful base .empty)
    (durable : ∀ row, base.batch? = some row → row.sponsorBankRef.isSome = true)
    (takes : ∀ batchId rows, around.takes (closeEntry batchId rows) = true) :
    resumeConfirmations.Ends around state (fun _ later => Continued batchId base state later ∧
      (later.books batchId).Finished) fun _ _ => False := by
  simp only [resumeConfirmations, ends_bind, ends_listBatches]
  refine (ends_takeUp (fun books => books.Confirmed → books.Finished) resumable
    (listed_batchesIn resumable.sane.keyed _) (fun row member middle ready found => ?_) ?_).mono ?_ fun _ _ => id
  · have confirmed := (mem_batchesIn.mp member).2
    exact ⟨visits_resumeConfirmed ready faithful found confirmed,
      (ends_resumeConfirmed ready.sane found confirmed takes).mono (fun _ _ through same _ => same ▸ through) fun _ _ => id⟩
  · rintro none ⟨row, found, confirmed⟩
    have member := mem_batchesIn.mpr ⟨mem_values_of_get? found, confirmed⟩
    exact absurd (resumable.sane.keyed.batches.key_of_get? found) (none row member)
  rintro _ middle ⟨half, confirmedOver⟩
  have ready := half.resumable
  refine (ends_takeUp BatchBooks.Finished ready (listed_batchesIn ready.sane.keyed _)
    (fun row member later ready' found => ?_) ?_).mono ?_ fun _ _ => id
  · refine ⟨visits_resumeDispatched ready' faithful found,
      (ends_resumeDispatched ready'.sane found (mem_batchesIn.mp member).2 takes).mono (fun _ _ through same => ?_) fun _ _ => id⟩
    subst same
    refine through ?_
    obtain ⟨kept, based, _, mine | ⟨moment, mine⟩⟩ := ready'.underway.batch?
    · obtain rfl := Option.mem_unique found mine
      exact durable _ based
    · obtain rfl := Option.mem_unique found mine
      exact durable kept based
  · intro none
    obtain ⟨kept, _, dispatched, mine | ⟨moment, mine⟩⟩ := ready.underway.batch?
    · have member := mem_batchesIn.mpr ⟨mem_values_of_get? mine, dispatched⟩
      exact absurd (ready.sane.keyed.batches.key_of_get? mine) (none kept member)
    · exact confirmedOver ⟨_, mine, rfl⟩
  · rintro _ later ⟨rest, through⟩
    exact ⟨half.trans rest, through⟩

/-! The evidence of a fresh confirmation. -/

theorem foldl_noting_txid (row : SettlementInstruction) (waiting : row.status = .submitted)
    (noted : List (String × String)) : (noted.foldl noting row).railTransactionId = row.railTransactionId.or
      ((noted.find? fun evidence => evidence.1 = row.instructionId).map Prod.snd) := by
  induction noted generalizing row with
  | nil => simp
  | cons evidence _ ih =>
    obtain ⟨filing, status⟩ := row.noting_filing evidence
    rw [foldl_cons, ih (row.noting evidence) (status.trans waiting), instructionId_congr filing, find?_cons]
    rw [noting]
    by_cases own : row.instructionId = evidence.1
    · cases known : row.railTransactionId <;> simp [own, waiting, known]
    · have other : ¬ evidence.1 = row.instructionId := fun same => own same.symm
      simp [own, other]

/-- A row of the batch once the evidence is kept. -/
def noted (railTransactionIds : Dict String String) (row : SettlementInstruction) : SettlementInstruction :=
  railTransactionIds.entries.foldl noting row

theorem txid_noted (waiting : row.status = .submitted) :
    (noted txids row).railTransactionId = row.railTransactionId.or (txids.get? row.instructionId) :=
  foldl_noting_txid row waiting _

theorem noted_of_not_submitted (other : row.status ≠ .submitted) : noted txids row = row := by
  rw [noted]
  induction txids.entries with
  | nil => rfl
  | cons _ _ ih =>
    rw [foldl_cons, noting, if_neg fun hit => other hit.2.1]
    exact ih

theorem staff_evidenced (keyed : tables.Keyed) :
    (tables.evidenced batchId batch bankRef txids).staff batchId = (tables.staff batchId).map (noted txids) :=
  staff_mapValues (foldl_recordTxid_eq keyed.instructions _) fun row _ => batchId_congr (foldl_noting_filing _ row).1

theorem Sane.evidenced (sane : Sane tables) (found : tables.batches.get? batchId = some batch)
    (bankRef : Option String) : Sane (tables.evidenced batchId batch bankRef txids) := by
  refine ⟨keyed_evidenced sane.keyed found _ _, sane.genuine, fun row member filedUnder => ?_⟩
  rw [Settlements.evidenced, foldl_recordTxid_eq sane.keyed.instructions, values_mapValues] at member
  obtain ⟨before, inside, rfl⟩ := mem_map.mp member
  have filing := (foldl_noting_filing txids.entries before).1
  rw [net_congr filing]
  exact sane.paying before inside (batchId_congr filing ▸ filedUnder)

/-- No instruction has, and none is given, a rail transaction identifier that is blank. -/
structure Named (tables : Settlements) (batchId : String) (railTransactionIds : Dict String String) : Prop where
  recorded : ∀ row ∈ tables.staff batchId, row.railTransactionId ≠ some ""
  given : ∀ evidence ∈ railTransactionIds.entries, evidence.2 ≠ ""

/-- Settling with the identifiers given, or with none, comes to the same once they are kept. -/
theorem faithful_evidenced (keyed : tables.Keyed) (named : Named tables batchId txids)
    {ids : Dict String String} (same : ids = txids ∨ ids = .empty) :
    Faithful ((tables.evidenced batchId batch bankRef txids).books batchId) ids := by
  intro row member waiting
  change row ∈ staff _ batchId at member
  rw [staff_evidenced keyed] at member
  obtain ⟨before, inside, rfl⟩ := mem_map.mp member
  obtain ⟨filing, status⟩ := foldl_noting_filing txids.entries before
  have submitted : before.status = .submitted := status.symm.trans waiting
  have recorded := named.recorded before inside
  rw [show (noted txids before).instructionId = before.instructionId from instructionId_congr filing,
    txid_noted submitted]
  cases known : before.railTransactionId with
  | some txid =>
    have present : txid ≠ "" := fun blank => recorded (by rw [known, blank])
    simp [Option.filter, present]
  | none =>
    cases evidence : txids.get? before.instructionId with
    | some txid =>
      have present : txid ≠ "" := named.given _ (mem_of_get? evidence)
      simp [Option.filter, present]
    | none => rcases same with rfl | rfl <;> simp [evidence, Option.filter]

variable {given resolved : Option String}

theorem resolved_isSome (dispatched : batch.status = .dispatched)
    (ref : sponsorRef batch given = .ok resolved) : resolved.isSome = true := by
  have running : batch.status ≠ .confirmed := by simp [dispatched]
  unfold sponsorRef at ref
  rw [if_neg running] at ref
  dsimp only at ref
  split_ifs at ref with missing
  cases ref
  by_contra absent
  exact missing ⟨running, by simpa using absent⟩

/-- What a confirmation that returns has checked, and where it ends. -/
theorem ends_confirm_finished (keyed : tables.Keyed) (found : tables.batches.get? batchId = some batch)
    (dispatched : batch.status = .dispatched) {given : Option String} :
    (confirm batchId given txids).Ends around tables (fun _ later => (∃ resolved,
      sponsorRef batch given = .ok resolved ∧ (¬ (batch.sponsorBankRef.isSome ∧ batch.sponsorBankRef ≠ resolved)) ∧
        ¬ ∃ instructionId ∈ txids.keys, evidenceFits tables batchId instructionId = false) ∧
        (later.books batchId).Finished) fun _ _ => True := by
  refine ends_confirm keyed (fun _ _ => trivial) (fun row there confirmed => ?_) fun row resolved there _ ref => ?_
  · obtain rfl := Option.mem_unique found there
    rw [dispatched] at confirmed
    cases confirmed
  · obtain rfl := Option.mem_unique found there
    have through : ∀ posted : Settlements,
      ((posted.confirmed around.now batchId { batch with sponsorBankRef := resolved } resolved
        txids).books batchId).Finished := fun posted => finished_rewrite (get?_set_self _ _ _) rfl
    rw [ends_confirmFresh keyed found rfl rfl fun _ => rfl, ends_persistConfirmationEvidence found]
    refine ⟨fun _ => trivial, fun agrees => ⟨fun _ => trivial,
      fun fits => ⟨fun _ => ⟨⟨resolved, ref, agrees, fits⟩, through _⟩,
      fun _ => stops_post.mpr ⟨fun _ => by simp [isDuplicate], fun _ => ⟨fun _ => ?_, fun _ => ⟨fun _ => by simp [isDuplicate],
        fun _ => ⟨⟨resolved, ref, agrees, fits⟩, through _⟩⟩⟩⟩⟩⟩⟩
    simp only [isDuplicate, if_true]
    exact ⟨fun _ => trivial, fun _ => ⟨⟨resolved, ref, agrees, fits⟩, through _⟩⟩

/-- Two reads and the evidence come first. -/
theorem cut_confirm (found : tables.batches.get? batchId = some batch) (dispatched : batch.status = .dispatched)
    (ref : sponsorRef batch given = .ok resolved)
    (agrees : ¬ (batch.sponsorBankRef.isSome ∧ batch.sponsorBankRef ≠ resolved))
    (fits : ¬ ∃ instructionId ∈ txids.keys, evidenceFits tables batchId instructionId = false) (count : Nat) :
    (confirm batchId given txids).cut around (count + 3) tables =
      (closeAndSettle batchId around.now resolved txids).cut around count
        (tables.evidenced batchId batch resolved txids) := by
  have allowed : BatchStatus.confirmed ∈ batchTransitions batch.status .sponsorBankConfirmed := by
    rw [dispatched]
    decide
  have running : ¬ batch.status = .confirmed := by
    rw [dispatched]
    decide
  have read : (requireBatch batchId).Ends around tables (fun value after => value = batch ∧ after = tables)
      fun _ _ => False := by
    simp [ends_requireBatch, found]
  have clock : clockNow.Ends around tables (fun value after => value = around.now ∧ after = tables) fun _ _ => False :=
    ends_clockNow.mpr ⟨rfl, rfl⟩
  have kept : (persistConfirmationEvidence batchId resolved txids).Ends around tables (fun value after =>
      value = () ∧ after = tables.evidenced batchId batch resolved txids) fun _ _ => False :=
    (ends_persistConfirmationEvidence found).mpr ⟨fun differs => agrees differs, fun _ => ⟨fits, fun _ => ⟨rfl, rfl⟩⟩⟩
  refine (cut_bind_of_ends rfl read (count + 2)).trans ((cut_bind_of_ends rfl clock (count + 1)).trans ?_)
  have checked : (denyBatch batch .sponsorBankConfirmed .confirmed : SettlementP Unit) = pure () :=
    if_neg (by simpa using allowed)
  rw [ref, checked]
  change (if batch.status = .confirmed then finishConfirm batchId around.now txids
    else confirmFresh batchId around.now resolved txids).cut around (count + 1) tables = _
  rw [if_neg running]
  exact cut_bind_of_ends rfl kept count

/-! Where all the ways lead. -/

/-- But for when it was settled. -/
def SettlementInstruction.unstamped (row : SettlementInstruction) : SettlementInstruction :=
  { row with settledAt := none }

/-- But for when it was confirmed. -/
def SettlementBatch.unstamped (batch : SettlementBatch) : SettlementBatch := { batch with confirmedAt := none }

/-- The same books, but for the moments at which they were written. -/
structure BatchBooks.Agree (left right : BatchBooks) : Prop where
  batch? : left.batch?.map SettlementBatch.unstamped = right.batch?.map SettlementBatch.unstamped
  staff : left.staff.map SettlementInstruction.unstamped = right.staff.map SettlementInstruction.unstamped
  opens : left.opens = right.opens
  reversals : left.reversals = right.reversals
  closes : left.closes = right.closes

variable {books left right : BatchBooks}

theorem Underway.finished_batch? (underway : Underway batchId base books) (finished : books.Finished) :
    books.batch?.map SettlementBatch.unstamped =
      base.batch?.map fun row => { row with status := .confirmed, confirmedAt := none } := by
  obtain ⟨row, based, dispatched, mine | ⟨moment, mine⟩⟩ := underway.batch?
  · obtain ⟨⟨other, same, confirmed⟩, _⟩ := finished
    obtain rfl := Option.mem_unique mine same
    rw [dispatched] at confirmed
    cases confirmed
  · rw [mine, based]
    rfl

/-- A submitted instruction of the batch is settled, with the identifier it had. -/
def SettlementInstruction.paidOut (row : SettlementInstruction) : SettlementInstruction :=
  if row.status = .submitted then { row with status := .settled, settledAt := none } else row.unstamped

theorem Underway.finished_staff (underway : Underway batchId base books) (finished : books.Finished) :
    books.staff.map SettlementInstruction.unstamped = base.staff.map SettlementInstruction.paidOut := by
  obtain ⟨change, staff, rows⟩ := underway.staff
  rw [staff, map_map]
  refine map_congr_left fun row member => ?_
  have through := finished.2 (change row) (staff ▸ mem_map_of_mem member)
  rw [Function.comp_apply, paidOut]
  rcases rows row member with same | ⟨waiting, _, moment, settled⟩
  · rw [same] at through ⊢
    rw [if_neg through]
  · rw [settled, if_pos waiting]
    rfl

theorem Underway.finished_closes (underway : Underway batchId base books) (finished : books.Finished) :
    books.closes = if base.submitted = [] then [] else [closeEntry batchId base.submitted] := by
  split_ifs with none
  · rcases underway.closes with unclosed | ⟨some, _⟩
    · exact unclosed
    · exact absurd none some
  · rcases underway.closes with unclosed | ⟨_, one⟩
    · exact absurd unclosed (underway.closed finished.1 none)
    · exact one

theorem Underway.agree (one : Underway batchId base left) (two : Underway batchId base right) (ended : left.Finished)
    (through : right.Finished) : left.Agree right where
  batch? := (one.finished_batch? ended).trans (two.finished_batch? through).symm
  staff := (one.finished_staff ended).trans (two.finished_staff through).symm
  opens := one.opens.trans two.opens.symm
  reversals := one.reversals.trans two.reversals.symm
  closes := (one.finished_closes ended).trans (two.finished_closes through).symm

/-! Runs. -/

theorem SettlementEngine.run_wellFormed (engine : SettlementEngine) (steps : List Step) :
    ∀ entry ∈ (engine.run steps).journal, entry.wellFormed = true := by
  induction steps using reverseRecOn with
  | nil => exact fun entry member => absurd member not_mem_nil
  | append_singleton _ step ih =>
    rw [run, foldl_append]
    refine @SettlementEngine.after_keeps engine
      (fun tables later => (∀ entry ∈ tables.journal, entry.wellFormed = true) →
      ∀ entry ∈ later.journal, entry.wellFormed = true) step ?_ (fun first second formed => second (first formed)) _ ih
    intro tables later wrote formed
    cases wrote with
    | posted _ good =>
      intro other member
      rcases mem_append.mp member with before | new
      · exact formed other before
      · rw [mem_singleton.mp new]
        exact good
    | _ => exact formed

theorem SettlementEngine.run_sane (engine : SettlementEngine) (steps : List Step) : Sane (engine.run steps) := by
  have filed := engine.run_filed steps
  refine ⟨filed.keyed, filed.genuine, fun row member filedUnder => ?_⟩
  obtain ⟨batchId, own⟩ := Option.ne_none_iff_exists'.mp filedUnder
  have inside : row ∈ ((engine.run steps).books batchId).staff := mem_staff.mpr ⟨member, own⟩
  have opened := (filed.books batchId).opens.mem_iff.mpr (mem_map_of_mem inside)
  have formed := engine.run_wellFormed steps _ (mem_filter.mp opened).1
  rw [wellFormed_openEntry] at formed
  simpa using formed

/-- Resumptions, each cut off after so many steps. -/
def interrupted (resumptions : List (Surroundings × Nat)) (state : Settlements) : Settlements :=
  resumptions.foldl (fun state resumption => resumeConfirmations.cut resumption.1 resumption.2 state) state

theorem continued_interrupted (resumable : Resumable batchId base state) (faithful : Faithful base .empty)
    (resumptions : List (Surroundings × Nat)) :
    Continued batchId base state (interrupted resumptions state) := by
  induction resumptions generalizing state with
  | nil => exact .refl resumable
  | cons resumption _ ih =>
    have first := @visits_resumeConfirmations state batchId resumption.1 base resumable faithful resumption.2
    exact first.trans (ih first.resumable)

/-! A confirmation of a batch in a run. -/

section Confirmation

variable {bankRef resolved : Option String}

/-- The books of the batch once the evidence is kept. -/
def Settlements.witnessed (tables : Settlements) (batchId : String) (batch : SettlementBatch)
    (sponsorBankRef : Option String) (railTransactionIds : Dict String String) : BatchBooks :=
  (tables.evidenced batchId batch sponsorBankRef railTransactionIds).books batchId

section

variable (filed : tables.Filed) (sane : Sane tables) (found : tables.batches.get? batchId = some batch)
  (dispatched : batch.status = .dispatched)
include filed sane found dispatched

theorem resumable_evidenced : Resumable batchId (tables.witnessed batchId batch resolved txids)
      (tables.evidenced batchId batch resolved txids) := by
  have there : (tables.evidenced batchId batch resolved txids).batches.get? batchId =
      some { batch with sponsorBankRef := resolved } := get?_set_self _ _ _
  refine ⟨sane.evidenced found resolved, .refl there dispatched ((filed.books batchId).unclosed fun other same => ?_)⟩
  obtain rfl := Option.mem_unique found same
  simp [dispatched]

section

variable (named : Named tables batchId txids)

include named

theorem resumable_passing (passing : Passing around.now batchId { batch with sponsorBankRef := resolved } txids
      (tables.evidenced batchId batch resolved txids) state) :
    Resumable batchId (tables.witnessed batchId batch resolved txids) state := by
  have start := @resumable_evidenced tables batchId batch txids resolved filed sane found dispatched
  have there : (tables.evidenced batchId batch resolved txids).batches.get? batchId =
      some { batch with sponsorBankRef := resolved } := get?_set_self _ _ _
  exact ⟨(start.sane.passing there passing).1,
    start.underway.passing start.sane.genuine there dispatched (faithful_evidenced sane.keyed named (.inl rfl)) passing⟩

/-- A confirmation that is cut off with its evidence kept. -/
theorem resumable_crashed (ref : sponsorRef batch bankRef = .ok resolved)
    (agrees : ¬ (batch.sponsorBankRef.isSome ∧ batch.sponsorBankRef ≠ resolved))
    (fits : ¬ ∃ instructionId ∈ txids.keys, evidenceFits tables batchId instructionId = false) (written : 3 ≤ count) :
    Resumable batchId (tables.witnessed batchId batch resolved txids)
      ((confirm batchId bankRef txids).cut around count tables) := by
  obtain ⟨more, rfl⟩ := Nat.exists_eq_add_of_le' written
  rw [cut_confirm found dispatched ref agrees fits]
  exact @visits_closeAndSettle batchId around around.now { batch with sponsorBankRef := resolved } txids _ _
    (keyed_evidenced sane.keyed found _ _) (get?_set_self _ _ _)
    (fun state passing => resumable_passing filed sane found dispatched named passing) more

/-- A confirmation that is over. -/
theorem resumable_confirmed (ref : sponsorRef batch bankRef = .ok resolved)
    (through : ((leaves ((confirm batchId bankRef txids).atomic around) tables).books batchId).Finished) :
    Resumable batchId (tables.witnessed batchId batch resolved txids)
      (leaves ((confirm batchId bankRef txids).atomic around) tables) := by
  have unconfirmed : ∀ row, tables.batches.get? batchId = some row → row.status ≠ .confirmed := by
    intro row there
    obtain rfl := Option.mem_unique found there
    simp [dispatched]
  have visits : (confirm batchId bankRef txids).Visits around tables fun later =>
      later = tables ∨ Resumable batchId (tables.witnessed batchId batch resolved txids) later := by
    refine visits_confirm sane.keyed (.inl rfl) (fun row there confirmed => absurd confirmed (unconfirmed row there)) ?_
    intro row other there _ same later passing
    obtain rfl := Option.mem_unique found there
    obtain rfl := Except.ok.inj (ref.symm.trans same)
    exact .inr (resumable_passing filed sane found dispatched named passing)
  rcases ends_iff_leaves.mp visits.ends with unchanged | resumable
  · rw [unchanged] at through
    obtain ⟨row, there, confirmed⟩ := through.1
    exact absurd confirmed (unconfirmed row there)
  · exact resumable

end

end

theorem submitted_witnessed (keyed : tables.Keyed) : (tables.witnessed batchId batch resolved txids).submitted =
      (tables.members batchId .submitted).map (noted txids) := by
  have status : ∀ row, (noted txids row).status = row.status := fun row => (foldl_noting_filing _ row).2
  rw [BatchBooks.submitted, members_eq_filter, witnessed]
  change filter _ (staff _ batchId) = _
  rw [staff_evidenced keyed, filter_map]
  simp only [Function.comp_def, status]

/-- What has become of an instruction when the batch is finished. -/
theorem Underway.paid (keyed : tables.Keyed)
    (underway : Underway batchId (tables.witnessed batchId batch resolved txids) (state.books batchId))
    (finished : (state.books batchId).Finished) (member : row ∈ tables.staff batchId) :
    ∃ paid ∈ state.staff batchId, paid.unstamped = (noted txids row).paidOut := by
  have staff := underway.finished_staff finished
  change (state.staff batchId).map _ = (Settlements.staff _ batchId).map _ at staff
  rw [staff_evidenced keyed, map_map] at staff
  have also := mem_map_of_mem (f := SettlementInstruction.paidOut ∘ noted txids) member
  rw [← staff] at also
  exact mem_map.mp also

end Confirmation

/-- However a confirmation is cut off once its evidence is kept, and however often the resumptions are
cut off, one that is not brings the batch where the confirmation would have brought it. -/
theorem confirm_resumed (engine : SettlementEngine) (steps : List Step) {tables : Settlements}
    (reached : tables = engine.run steps) {batchId : String} {batch : SettlementBatch}
    (found : tables.batches.get? batchId = some batch) (dispatched : batch.status = .dispatched)
    {around : Surroundings} {sponsorBankRef : Option String} {railTransactionIds : Dict String String}
    (returns : value? ((confirm batchId sponsorBankRef railTransactionIds).atomic around) tables = some ())
    (named : Named tables batchId railTransactionIds)
    -- The first two steps read the batch and the clock, the third keeps the evidence.
    {count : Nat} (written : 3 ≤ count) {crashed : Settlements}
    (crash : crashed = (confirm batchId sponsorBankRef railTransactionIds).cut around count tables)
    (before after : List (Surroundings × Nat)) {complete : Surroundings}
    (takes : ∀ batchId rows, complete.takes (closeEntry batchId rows) = true) {final : Settlements}
    (ending : final = interrupted after (leaves (resumeConfirmations.atomic complete) (interrupted before crashed))) :
    (final.books batchId).Agree
        ((leaves ((confirm batchId sponsorBankRef railTransactionIds).atomic around) tables).books batchId) ∧
      (∃ row, final.batches.get? batchId = some row ∧ row.status = .confirmed) ∧
      (∀ row ∈ tables.staff batchId, row.status = .submitted → ∃ paid ∈ final.staff batchId,
        paid.instructionId = row.instructionId ∧ paid.status = .settled) ∧
      (final.entries batchId .settlementBatchClose).length = (if tables.members batchId .submitted = [] then 0 else 1) ∧
      (∀ row ∈ tables.staff batchId, ∀ txid, row.railTransactionId = some txid → ∃ paid ∈ final.staff batchId,
        paid.instructionId = row.instructionId ∧ paid.railTransactionId = some txid) ∧
      ∀ row ∈ crashed.staff batchId, row.status = .settled → row ∈ final.staff batchId := by
  subst reached
  have sane := engine.run_sane steps
  have filed := engine.run_filed steps
  obtain ⟨⟨resolved, ref, agrees, fits⟩, through⟩ :=
    (@ends_confirm_finished _ _ around _ railTransactionIds sane.keyed found dispatched sponsorBankRef).value returns
  have uninterrupted := resumable_confirmed filed sane found dispatched named ref through
  have start := crash ▸ resumable_crashed filed sane found dispatched named ref agrees fits written
  have faithful : Faithful ((engine.run steps).witnessed batchId batch resolved railTransactionIds) .empty :=
    faithful_evidenced sane.keyed named (.inr rfl)
  have durable : ∀ row, ((engine.run steps).witnessed batchId batch resolved railTransactionIds).batch? = some row →
      row.sponsorBankRef.isSome = true := by
    intro row same
    obtain rfl := Option.mem_unique (Dict.get?_set_self _ _ _) same
    exact resolved_isSome dispatched ref
  -- Up to the resumption that is not cut off, through it, and after it.
  have first := continued_interrupted start faithful before
  have completed := ends_iff_leaves.mp ((ends_resumeConfirmations first.resumable faithful durable takes).mono
    (fun _ _ => id) fun _ _ => False.elim)
  obtain ⟨middle, finished⟩ := completed
  have last := continued_interrupted middle.resumable faithful after
  rw [← ending] at last
  have ended := last.onward.finished finished
  have underway := last.resumable.underway
  refine ⟨underway.agree uninterrupted.underway ended through, ended.1, ?_, ?_, ?_, ?_⟩
  · intro row member waiting
    obtain ⟨paid, inside, same⟩ := underway.paid sane.keyed ended member
    obtain ⟨filing, status⟩ := foldl_noting_filing railTransactionIds.entries row
    have submitted : (noted railTransactionIds row).status = .submitted := status.trans waiting
    rw [SettlementInstruction.paidOut, if_pos submitted] at same
    exact ⟨paid, inside, (congrArg SettlementInstruction.instructionId same).trans (instructionId_congr filing),
      congrArg SettlementInstruction.status same⟩
  · have closes := underway.finished_closes ended
    rw [submitted_witnessed sane.keyed] at closes
    change final.entries batchId .settlementBatchClose = _ at closes
    rw [closes]
    by_cases none : (engine.run steps).members batchId .submitted = [] <;> simp [none]
  · intro row member txid known
    obtain ⟨paid, inside, same⟩ := underway.paid sane.keyed ended member
    obtain ⟨filing, status⟩ := foldl_noting_filing railTransactionIds.entries row
    have kept : (noted railTransactionIds row).railTransactionId = some txid := by
      by_cases waiting : row.status = .submitted
      · rw [txid_noted waiting, known]
        rfl
      · rw [noted_of_not_submitted waiting, known]
    rw [SettlementInstruction.paidOut] at same
    split_ifs at same
    all_goals
      exact ⟨paid, inside, (congrArg SettlementInstruction.instructionId same).trans (instructionId_congr filing),
        (congrArg SettlementInstruction.railTransactionId same).trans kept⟩
  · intro row member done
    exact ((first.trans middle).trans last).onward.settled row member done

section Sample

set_option maxRecDepth 20000

/-- A batch of two is closed by one entry. -/
theorem closed_once_for_two :
    (((sampleEngine.run confirmedTogether).staff "sbatch_1").map SettlementInstruction.status = [.settled, .settled]) ∧
    ((sampleEngine.run confirmedTogether).entries "sbatch_1" .settlementBatchClose).length = 1 := by
  decide +kernel

/-- Cut off when the first of two is settled. -/
def settledHalf : Settlements :=
  (confirm "sbatch_1" (some "ref_1") ⟨[("pi_1", "txid_1")], by decide⟩).cut sampleAround 7 (sampleEngine.run dispatchedPair)

theorem resumed_settledHalf :
    ((settledHalf.staff "sbatch_1").map SettlementInstruction.status = [.settled, .submitted]) ∧
    ∃ row, (interrupted [] (leaves (resumeConfirmations.atomic sampleAround)
      (interrupted [(sampleAround, 3)] settledHalf))).batches.get? "sbatch_1" = some row ∧ row.status = .confirmed := by
  have dispatched : ((sampleEngine.run dispatchedPair).batches.get? "sbatch_1").map SettlementBatch.status =
      some .dispatched := by
    decide +kernel
  obtain ⟨batch, found, status⟩ := Option.map_eq_some_iff.mp dispatched
  refine ⟨by decide +kernel, (confirm_resumed sampleEngine dispatchedPair rfl found status
    (by decide +kernel) ⟨?_, ?_⟩ (by decide : 3 ≤ 7) (rfl : settledHalf = _) [(sampleAround, 3)] []
    (fun _ _ => rfl : ∀ batchId rows, sampleAround.takes (closeEntry batchId rows) = true) rfl).2.1⟩
  · decide +kernel
  · decide +kernel

end Sample

end BdPay.Ledger.Settlement
