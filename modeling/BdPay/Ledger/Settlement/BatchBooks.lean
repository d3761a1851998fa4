import BdPay.Ledger.Settlement.Assigning
import BdPay.Ledger.Settlement.Failing

namespace BdPay.Ledger.Settlement

open Data Settlements SettlementInstruction SettlementEngine Posting List

/-! The books of one batch: its row, its instructions, and the entries posted for it. -/

structure BatchBooks where
  batch? : Option SettlementBatch
  staff : List SettlementInstruction
  (opens reversals closes : List JournalEntry)

variable (tables : Settlements)

/-- The instructions that carry the identifier of the batch. -/
def Settlements.staff (batchId : String) : List SettlementInstruction :=
  tables.instructions.values.filter fun row => row.batchId = some batchId

def Settlements.books (batchId : String) : BatchBooks where
  batch? := tables.batches.get? batchId
  staff := tables.staff batchId
  opens := tables.entries batchId .settlementBatchOpen
  reversals := tables.entries batchId .settlementBatchOpenReversal
  closes := tables.entries batchId .settlementBatchClose

def netTotal (rows : List SettlementInstruction) : Int := (rows.map netPayoutMinor).sum

/-- What an instruction adds to the count, the credits and the debits of its batch. -/
def SettlementInstruction.share (row : SettlementInstruction) : Nat × Int × Int :=
  (1, if row.direction = .credit then row.netPayoutMinor else 0, if row.direction = .debit then row.netPayoutMinor else 0)

def tallyOf (rows : List SettlementInstruction) : Nat × Int × Int := (rows.map share).sum

def SettlementBatch.tally (batch : SettlementBatch) : Nat × Int × Int :=
  (batch.instructionCount, batch.totalCreditMinor, batch.totalDebitMinor)

/-- What the books of a batch say at every moment. -/
structure BatchBooks.Filed (batchId : String) (books : BatchBooks) : Prop where
  known : books.batch? = none → books.staff = []
  opens : books.opens.Perm (books.staff.map (openEntry batchId))
  counted : ∀ batch, books.batch? = some batch → batch.tally = tallyOf books.staff
  reversedOnce : books.reversals.Nodup
  reversals : ∀ entry ∈ books.reversals, ∃ opening ∈ books.opens, entry = reversalOf batchId opening
  unclosed : (∀ batch, books.batch? = some batch → batch.status ≠ .confirmed) → books.closes = []
  submitted : ∀ row ∈ books.staff, row.status = .submitted →
    ∃ batch, books.batch? = some batch ∧ batch.status = .dispatched

/-- A confirmed batch has settled and closed all of it, a cancelled one has taken it all back. -/
structure BatchBooks.Balanced (batchId : String) (books : BatchBooks) : Prop where
  confirmed : ∀ batch, books.batch? = some batch → batch.status = .confirmed →
    books.reversals = [] ∧ (∀ row ∈ books.staff, row.status = .settled) ∧
      (books.staff = [] ∧ books.closes = [] ∨
        ∃ rows, books.closes = [closeEntry batchId rows] ∧ netTotal rows = netTotal books.staff)
  cancelled : ∀ batch, books.batch? = some batch → batch.status = .cancelled →
    books.reversals.Perm (books.opens.map (reversalOf batchId)) ∧ ∀ row ∈ books.staff, row.status ≠ .settled

/-- The key of an entry is of the type of the entry, and names its batch. -/
def JournalEntry.genuine (entry : JournalEntry) : Bool :=
  match entry.entryType, entry.idempotencyKey with
  | .settlementBatchOpen, .batchOpen batchId _ => batchId = entry.referenceId
  | .settlementBatchClose, .batchClose batchId => batchId = entry.referenceId
  | .settlementBatchOpenReversal, .batchOpenReversal _ => true
  | _, _ => false

/-- The tables: rows under their identifiers, entries under their keys, the books of every batch filed. -/
structure Settlements.Filed (tables : Settlements) : Prop where
  keyed : tables.Keyed
  genuine : ∀ entry ∈ tables.journal, entry.genuine = true
  books : ∀ batchId, (tables.books batchId).Filed batchId

def Settlements.Balanced (tables : Settlements) : Prop := ∀ batchId, (tables.books batchId).Balanced batchId

/-! Postings. -/

def Posting.signed (posting : Posting) : Int :=
  match posting.side with
  | .debit => posting.amountMinor
  | .credit => -posting.amountMinor

/-- Debits minus credits on some of the accounts. -/
def debited (which : Account → Bool) (entries : List JournalEntry) : Int :=
  (entries.map fun entry => ((entry.postings.filter fun posting => which posting.account).map signed).sum).sum

def isTcsa : Account → Bool
  | .tcsa => true
  | _ => false

def isMerchant : Account → Bool
  | .merchantSettlement _ => true
  | _ => false

/-- Everything posted for the batch. -/
def Settlements.postedFor (batchId : String) : List JournalEntry :=
  tables.journal.filter fun entry => entry.referenceId = batchId

/-- The staging of a batch nets to zero, and the merchants are debited what its settled instructions pay out. -/
def Settlements.Conserved (batchId : String) : Prop :=
  debited isTcsa (tables.postedFor batchId) = 0 ∧
    debited isMerchant (tables.postedFor batchId) =
      netTotal ((tables.staff batchId).filter fun row => row.status = .settled)

variable {tables : Settlements} {batchId : String}

theorem debited_append (which : Account → Bool) (left right : List JournalEntry) :
    debited which (left ++ right) = debited which left + debited which right := by
  simp [debited]

theorem debited_perm (same : left.Perm right) : debited which left = debited which right :=
  (same.map _).sum_eq

theorem debited_cons (which : Account → Bool) (entry : JournalEntry) (rest : List JournalEntry) :
    debited which (entry :: rest) = debited which [entry] + debited which rest :=
  debited_append which [entry] rest

theorem debited_postedFor (which : Account → Bool) (tables : Settlements) (batchId : String) :
    debited which (tables.postedFor batchId) =
      debited which (tables.books batchId).opens + debited which (tables.books batchId).reversals +
        debited which (tables.books batchId).closes := by
  simp only [postedFor, books, entries]
  induction tables.journal with
  | nil => rfl
  | cons entry rest ih =>
    by_cases own : entry.referenceId = batchId
    · cases entryType : entry.entryType with
      | _ =>
        simp only [filter_cons, own, entryType, decide_true, Bool.true_and, reduceCtorEq, decide_false, if_true,
          Bool.false_eq_true, if_false]
        rw [debited_cons, debited_cons which entry (rest.filter _), ih]
        ring
    · simp only [filter_cons, own, decide_false, Bool.false_and, Bool.false_eq_true, if_false]
      exact ih

theorem tcsa_openEntries (rows : List SettlementInstruction) :
    debited isTcsa (rows.map (openEntry batchId)) = netTotal rows := by
  simp [debited, netTotal, openEntry, isTcsa, signed, Function.comp_def]

theorem merchant_openEntries (rows : List SettlementInstruction) :
    debited isMerchant (rows.map (openEntry batchId)) = 0 := by
  simp [debited, openEntry, isMerchant, Function.comp_def]

theorem signed_flipped (posting : Posting) : ({ posting with side := posting.side.flipped } : Posting).signed =
    -posting.signed := by
  cases side : posting.side <;> simp [signed, Side.flipped, side]

/-- A reversal takes back what it reverses, on every account. -/
theorem debited_reversals (which : Account → Bool) (entries : List JournalEntry) :
    debited which (entries.map (reversalOf batchId)) = -debited which entries := by
  induction entries with
  | nil => rfl
  | cons entry rest ih =>
    have one : debited which [reversalOf batchId entry] = -debited which [entry] := by
      simp only [debited, reversalOf, map_cons, map_nil, sum_cons, sum_nil, add_zero]
      induction entry.postings with
      | nil => rfl
      | cons posting _ ih =>
        by_cases kept : which posting.account = true
        · simp [kept, signed_flipped, ih]
          ring
        · simp [kept, ih]
    rw [map_cons, debited_cons, ih, one, debited_cons which entry rest]
    ring

/-! What the close entry pays out. -/

def payoutTotal (payouts : Dict String Int) : Int := (payouts.entries.map Prod.snd).sum

theorem payoutTotal_addPayout (payouts : Dict String Int) (row : SettlementInstruction) :
    payoutTotal (addPayout payouts row) = payoutTotal payouts + row.netPayoutMinor := by
  cases found : payouts.get? row.merchantId with
  | none =>
    simp only [payoutTotal, addPayout, found, Option.getD_none, zero_add, Dict.entries_set_of_fresh found, map_append,
      map_cons, map_nil, sum_append, sum_cons, sum_nil, add_zero]
  | some =>
    obtain ⟨front, back, split, replaced⟩ := Dict.entries_set_of_bound found
    simp only [payoutTotal, addPayout, found, Option.getD_some, replaced, split, map_append, map_cons,
      sum_append, sum_cons]
    ring

section

variable (rows : List SettlementInstruction)
include rows

theorem payoutTotal_perMerchant : payoutTotal (perMerchant rows) = netTotal rows := by
  have general : ∀ payouts, payoutTotal (rows.foldl addPayout payouts) = payoutTotal payouts + netTotal rows := by
    induction rows with
    | nil =>
      intro payouts
      simp [netTotal]
    | cons _ _ ih =>
      intro payouts
      rw [foldl_cons, ih, payoutTotal_addPayout]
      simp only [netTotal, map_cons, sum_cons]
      ring
  rw [perMerchant, general]
  simp [payoutTotal]

theorem sum_sorted_payouts :
    (((perMerchant rows).entries.mergeSort fun left right => decide (left.1 ≤ right.1)).map Prod.snd).sum =
      netTotal rows := by
  rw [((mergeSort_perm _ _).map Prod.snd).sum_eq]
  exact payoutTotal_perMerchant rows

theorem tcsa_closeEntry : debited isTcsa [closeEntry batchId rows] = -netTotal rows := by
  rw [← sum_sorted_payouts]
  simp [debited, closeEntry, filter_map, Function.comp_def, isTcsa, signed]

theorem merchant_closeEntry : debited isMerchant [closeEntry batchId rows] = netTotal rows := by
  rw [← sum_sorted_payouts]
  simp [debited, closeEntry, filter_map, Function.comp_def, isMerchant, signed]

end

/-- What balanced books mean for the money of a batch that is over. -/
theorem Settlements.Filed.conserved (filed : tables.Filed) (balanced : tables.Balanced)
    (found : tables.batches.get? batchId = some batch) (finished : batch.status.terminal = true) :
    tables.Conserved batchId := by
  have books := filed.books batchId
  rw [Settlements.Conserved, debited_postedFor, debited_postedFor, debited_perm books.opens, debited_perm books.opens,
    tcsa_openEntries, merchant_openEntries]
  simp only [BatchStatus.terminal, Bool.or_eq_true, decide_eq_true_eq] at finished
  rcases finished with confirmed | cancelled
  · obtain ⟨unreversed, settled, closed⟩ := (balanced batchId).confirmed batch found confirmed
    have all : ((tables.staff batchId).filter fun row => row.status = .settled) = tables.staff batchId := by
      rw [filter_eq_self]
      intro row member
      simpa using settled row member
    rw [all, unreversed]
    rcases closed with ⟨empty, none⟩ | ⟨rows, one, same⟩
    · rw [none, show (tables.books batchId).staff = tables.staff batchId from rfl] at *
      rw [empty]
      simp [debited, netTotal]
    · rw [one, tcsa_closeEntry, merchant_closeEntry, same]
      constructor
      · simp only [debited, map_nil, sum_nil]
        ring
      · simp only [debited, map_nil, sum_nil]
        exact zero_add _
  · obtain ⟨reversed, unsettled⟩ := (balanced batchId).cancelled batch found cancelled
    have none : ((tables.staff batchId).filter fun row => row.status = .settled) = [] := by
      rw [filter_eq_nil_iff]
      intro row member
      simpa using unsettled row member
    have unclosed := books.unclosed fun other same confirmed => by
      have equal : batch = other := Option.mem_unique found same
      subst equal
      rw [cancelled] at confirmed
      cases confirmed
    rw [none, unclosed, debited_perm reversed, debited_perm reversed, debited_reversals, debited_reversals,
      debited_perm books.opens, debited_perm books.opens, tcsa_openEntries, merchant_openEntries]
    simp [debited, netTotal]

end BdPay.Ledger.Settlement
