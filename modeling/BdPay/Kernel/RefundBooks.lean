import BdPay.Data.Rows
import BdPay.Kernel.Telling

namespace BdPay.Kernel

open Data PaymentSystem PaymentOrchestrator Books RefundRecord LedgerCall List

/-! The refunds of an intent, and what the ledger was told about them. -/

variable {service : PaymentOrchestrator} {books next : Books} {refund : RefundRecord} {intent : PaymentIntentRecord}
  {paymentIntentId : String}

/-- What a refund adds to what was refunded of an intent. -/
def RefundRecord.refundedOf (refund : RefundRecord) (paymentIntentId : String) : Int :=
  if refund.paymentIntentId = paymentIntentId ∧ refund.status = .refundSucceeded then refund.amountMinor else 0

theorem RefundRecord.refundedOf_nonneg (refund : RefundRecord) (paymentIntentId : String) :
    0 ≤ refund.refundedOf paymentIntentId := by
  have positive := refund.positive
  unfold refundedOf
  split <;> omega

theorem RefundRecord.refundedOf_of_status (status : refund.status ≠ .refundSucceeded)
    (paymentIntentId : String) : refund.refundedOf paymentIntentId = 0 :=
  if_neg fun both => status both.2

theorem RefundRecord.refundedOf_of_owner
    (owner : refund.paymentIntentId ≠ paymentIntentId) : refund.refundedOf paymentIntentId = 0 :=
  if_neg fun both => owner both.1

theorem Books.refunded_eq (books : Books) (paymentIntentId : String) :
    books.refunded paymentIntentId = (books.store.refunds.values.map (·.refundedOf paymentIntentId)).sum := by
  have sorted : (books.store.listRefunds paymentIntentId).Perm
      (books.store.refunds.values.filter fun refund => refund.paymentIntentId = paymentIntentId) :=
    perm_insertionSort _ _
  have weights : ∀ refund ∈ (books.store.refunds.values.filter
      fun refund => refund.paymentIntentId = paymentIntentId).filter
      (·.status = .refundSucceeded), refund.amountMinor = refund.refundedOf paymentIntentId := by
    intro refund member
    simp only [mem_filter, decide_eq_true_eq] at member
    exact (if_pos ⟨member.1.2, member.2⟩).symm
  rw [refunded, ((sorted.filter _).map _).sum_eq, map_congr_left weights, filter_filter]
  refine (Dict.sum_map_filter_of_zero fun refund _ dropped => if_neg fun both => ?_).symm
  simp [both.1, both.2] at dropped

theorem Books.refunded_nonneg (books : Books) (paymentIntentId : String) : 0 ≤ books.refunded paymentIntentId := by
  rw [books.refunded_eq]
  refine sum_nonneg fun amount member => ?_
  obtain ⟨refund, -, rfl⟩ := mem_map.mp member
  exact refund.refundedOf_nonneg paymentIntentId

/-- An entry that settles a refund. -/
def LedgerCall.settlesRefund : LedgerCall → Bool
  | .postJournalEntry spec => spec.entryType = "refund_settled"
  | _ => false

theorem PaymentOrchestrator.Entry.settlesRefund
    (entry : Entry call referenceId referenceType entryType debited credited amount) :
    call.settlesRefund = decide (entryType = "refund_settled") := by
  obtain ⟨description, key, rfl⟩ := entry.posted
  rfl

theorem PaymentOrchestrator.FeePosted.settlesRefund (fee : FeePosted accounts paymentIntentId feeMinor fees) :
    ∀ call ∈ fees, call.settlesRefund = false := by
  cases fee with
  | none => exact nofun
  | collected _ _ _ entry =>
    intro other member
    rw [mem_singleton.mp member, entry.settlesRefund]
    rfl

/-! What holds of the refunds of an intent -/

/-- What was refunded of an intent, by its status. -/
def Standing (refunded amountMinor : Int) : IntentStatus → Prop
  | .refundInitiated => refunded < amountMinor
  | .partiallyRefunded => 0 < refunded ∧ refunded < amountMinor
  | .refunded => refunded = amountMinor
  | _ => refunded = 0

/-- What was posted for a refund: one entry if it succeeded, else nothing. -/
def Settles (service : PaymentOrchestrator) (intent : PaymentIntentRecord) (refund : RefundRecord)
    (calls : List LedgerCall) : Prop :=
  if refund.status = .refundSucceeded then
    ∃ accounts entry, service.kernelAccounts intent.merchantId intent.method = .ok accounts ∧ calls = [entry] ∧
      Entry entry refund.refundId "REFUND" "refund_settled" accounts.merchantSettlement accounts.inTransit refund.amountMinor
  else calls = []

theorem Settles.of_unpaid (unpaid : refund.status ≠ .refundSucceeded) : Settles service intent refund [] :=
  (if_neg unpaid).mpr rfl

/-- At most one refund of the intent is not over. -/
def Books.OneWaiting (books : Books) (paymentIntentId : String) : Prop :=
  ∀ first second, books.HasRefund first → books.HasRefund second → first.paymentIntentId = paymentIntentId →
    second.paymentIntentId = paymentIntentId → first.status ∉ refundTable.terminalStates →
    second.status ∉ refundTable.terminalStates → first.refundId = second.refundId

structure Repaid (service : PaymentOrchestrator) (books : Books) (intent : PaymentIntentRecord) : Prop where
  unsettled : intent.status ∉ settledStatuses → ∀ refund, books.HasRefund refund →
    refund.paymentIntentId ≠ intent.paymentIntentId
  waiting : ∀ refund, books.HasRefund refund → refund.paymentIntentId = intent.paymentIntentId →
    refund.status ∉ refundTable.terminalStates → intent.status = .refundInitiated
  single : books.OneWaiting intent.paymentIntentId
  standing : Standing (books.refunded intent.paymentIntentId) intent.amountMinor intent.status
  entries : ∀ refund, books.HasRefund refund → refund.paymentIntentId = intent.paymentIntentId →
    Settles service intent refund (books.postedRefund refund.refundId)

structure Refunds (service : PaymentOrchestrator) (books : Books) : Prop where
  known : ∀ call ∈ books.ledger, call.forRefund = true →
    ∃ refund, books.HasRefund refund ∧ refund.refundId = call.reference
  kinds : ∀ call ∈ books.ledger, call.settlesRefund = call.forRefund
  owned : ∀ refund, books.HasRefund refund →
    ∃ intent, books.HasIntent intent ∧ intent.paymentIntentId = refund.paymentIntentId
  repaid : ∀ intent, books.HasIntent intent → Repaid service books intent

/-! Deeds that are not about refunds -/

/-- An intent keeps what its refunds depend on, or was not settled and has none. -/
inductive Steady (before after : PaymentIntentRecord) : Prop
  | open_ (was : before.status ∉ settledStatuses) (is : after.status ∉ settledStatuses ∨ after.status = .succeeded)
  | kept (status : after.status = before.status) (terms : after.terms = before.terms) (method : after.method = before.method)

theorem Standing.of_unsettled {refunded : Int} {status : IntentStatus} (open_ : status ∉ settledStatuses) :
    Standing refunded amount status ↔ refunded = 0 := by
  cases status <;> first | exact .rfl | exact absurd (by decide) open_

theorem Repaid.of_none
    (none : ∀ refund, books.HasRefund refund → refund.paymentIntentId ≠ intent.paymentIntentId)
    (standing : Standing (books.refunded intent.paymentIntentId) intent.amountMinor intent.status) :
    Repaid service books intent where
  unsettled := fun _ => none
  waiting := fun refund held owner => absurd owner (none refund held)
  single := fun first _ held _ owner => absurd owner (none first held)
  standing := standing
  entries := fun refund held owner => absurd owner (none refund held)

variable {before after : PaymentIntentRecord}

theorem Repaid.steady (repaid : Repaid service books before)
    (id : after.paymentIntentId = before.paymentIntentId) (steady : Steady before after)
    (refunds : next.store.refunds = books.store.refunds)
    (entries : ∀ id, next.postedRefund id = books.postedRefund id) :
    Repaid service next after := by
  have rows : ∀ {refund}, next.HasRefund refund ↔ books.HasRefund refund := by
    intro refund
    rw [HasRefund, PaymentStore.HasRefund, refunds]
    rfl
  have total : next.refunded after.paymentIntentId = books.refunded before.paymentIntentId := by
    rw [next.refunded_eq, books.refunded_eq, refunds, id]
  cases steady with
  | open_ was is =>
    refine .of_none (fun refund held => id ▸ repaid.unsettled was refund (rows.mp held)) ?_
    have nothing := (Standing.of_unsettled was).mp repaid.standing
    rw [total, nothing]
    rcases is with unsettled | succeeded
    · exact (Standing.of_unsettled unsettled).mpr rfl
    · rw [succeeded]
      exact rfl
  | kept status terms method =>
    have amount : after.amountMinor = before.amountMinor := congrArg IntentTerms.amountMinor terms
    have merchant : after.merchantId = before.merchantId := congrArg IntentTerms.merchantId terms
    constructor
    · intro unsettled refund held
      rw [id]
      exact repaid.unsettled (status ▸ unsettled) refund (rows.mp held)
    · intro refund held owner open_
      rw [status]
      exact repaid.waiting refund (rows.mp held) (owner.trans id) open_
    · intro first second held other owner otherOwner
      exact repaid.single first second (rows.mp held) (rows.mp other) (owner.trans id) (otherOwner.trans id)
    · rw [total, amount, status]
      exact repaid.standing
    · intro refund held owner
      rw [entries, Settles, merchant, method]
      exact repaid.entries refund (rows.mp held) (owner.trans id)

variable {calls : List LedgerCall}

theorem postedRefund_append (ledger : next.ledger = books.ledger ++ calls)
    (payments : ∀ call ∈ calls, call.forRefund = false) (id : String) :
    next.postedRefund id = books.postedRefund id := by
  have none : calls.filter (fun call => call.reference = id && call.forRefund) = [] := by
    refine filter_eq_nil_iff.mpr fun call member => ?_
    simp [payments call member]
  rw [postedRefund, ledger, filter_append, none, append_nil]
  rfl

/-- A deed that writes no refund. -/
theorem Refunds.turned (refunds : Refunds service books) (ordered : books.Ordered)
    (kept : next.store.refunds = books.store.refunds) (ledger : next.ledger = books.ledger ++ calls)
    (payments : ∀ call ∈ calls, call.forRefund = false ∧ call.settlesRefund = false)
    (stays : ∀ row, books.HasIntent row → ∃ after, next.HasIntent after ∧ after.paymentIntentId = row.paymentIntentId)
    (origin : ∀ row, next.HasIntent row →
      (books.store.intents.get? row.paymentIntentId = none ∧ row.status = .created) ∨
      ∃ before, books.HasIntent before ∧ row.paymentIntentId = before.paymentIntentId ∧ Steady before row) :
    Refunds service next := by
  have rows : ∀ {refund}, next.HasRefund refund ↔ books.HasRefund refund := by
    intro refund
    rw [HasRefund, PaymentStore.HasRefund, kept]
    rfl
  have entries := postedRefund_append ledger fun call member => (payments call member).1
  constructor
  · intro call member about
    rw [ledger, mem_append] at member
    rcases member with earlier | now
    · obtain ⟨refund, held, id⟩ := refunds.known call earlier about
      exact ⟨refund, rows.mpr held, id⟩
    · rw [(payments call now).1] at about
      cases about
  · intro call member
    rw [ledger, mem_append] at member
    rcases member with earlier | now
    · exact refunds.kinds call earlier
    · rw [(payments call now).1, (payments call now).2]
  · intro refund held
    obtain ⟨row, stored, id⟩ := refunds.owned refund (rows.mp held)
    obtain ⟨after, there, same⟩ := stays row stored
    exact ⟨after, there, same.trans id⟩
  · intro row held
    rcases origin row held with ⟨fresh, status⟩ | ⟨before, stored, id, steady⟩
    · have none : ∀ refund, next.HasRefund refund → refund.paymentIntentId ≠ row.paymentIntentId := by
        intro refund written owner
        obtain ⟨intent, stored, same⟩ := refunds.owned refund (rows.mp written)
        exact stored.ne_of_fresh fresh (same.trans owner)
      refine .of_none none ?_
      rw [status, next.refunded_eq]
      refine sum_eq_zero fun amount member => ?_
      obtain ⟨refund, listed, rfl⟩ := mem_map.mp member
      obtain ⟨key, found⟩ := Dict.get?_of_mem_values listed
      refine refundedOf_of_owner (none refund (rows.mpr ?_))
      rw [kept] at found
      exact Dict.row_of_key found (ordered.refundKeys found)
    · exact (refunds.repaid before stored).steady id steady kept entries

/-- The same for a deed that writes one intent. -/
theorem Refunds.put {middle : Books} (refunds : Refunds service books) (ordered : books.Ordered)
    (owned : books.HasIntent before) (id : after.paymentIntentId = before.paymentIntentId)
    (intents : middle.store.intents = books.store.intents) (kept : middle.store.refunds = books.store.refunds)
    (ledger : middle.ledger = books.ledger ++ calls)
    (payments : ∀ call ∈ calls, call.forRefund = false ∧ call.settlesRefund = false) (steady : Steady before after) :
    Refunds service (middle.putIntent after) := by
  have rows : ∀ {row}, middle.HasIntent row ↔ books.HasIntent row := hasIntent_of_eq intents
  refine refunds.turned ordered kept ledger payments ?_ ?_
  · intro row stored
    by_cases here : row.paymentIntentId = after.paymentIntentId
    · exact ⟨after, hasIntent_putIntent.mpr (.inl rfl), here.symm⟩
    · exact ⟨row, hasIntent_putIntent.mpr (.inr ⟨rows.mpr stored, here⟩), rfl⟩
  · intro row held
    refine .inr ?_
    rcases hasIntent_putIntent.mp held with rfl | ⟨stored, -⟩
    · exact ⟨before, owned, id, steady⟩
    · exact ⟨row, rows.mp stored, rfl, .kept rfl rfl rfl⟩

/-! Deeds that write a refund -/

variable {new : RefundRecord}

theorem RefundRecord.terms_refundId {old : RefundRecord} (same : new.terms = old.terms) : new.refundId = old.refundId :=
  congrArg RefundTerms.refundId same

theorem RefundRecord.terms_owner {old : RefundRecord} (same : new.terms = old.terms) :
    new.paymentIntentId = old.paymentIntentId :=
  congrArg RefundTerms.paymentIntentId same

structure Repays (books next : Books) (before after : PaymentIntentRecord) (old : Option RefundRecord)
    (new : RefundRecord) (calls : List LedgerCall) : Prop where
  owned : books.HasIntent before
  same : SameIntent before after
  intents : next.store.intents = books.store.intents.set after.paymentIntentId after
  refunds : next.store.refunds = books.store.refunds.set new.refundId new
  stored : books.store.refunds.get? new.refundId = old
  owner : new.paymentIntentId = before.paymentIntentId
  was : ∀ row, old = some row → row.paymentIntentId = before.paymentIntentId
  ledger : next.ledger = books.ledger ++ calls
  about : ∀ call ∈ calls, call.forRefund = true ∧ call.settlesRefund = true ∧ call.reference = new.refundId

namespace Repays

variable {after : PaymentIntentRecord} {calls : List LedgerCall}

theorem of_stored (stored : books.HasRefund row) (terms : new.terms = row.terms)
    (owned : books.HasIntent before) (same : SameIntent before after)
    (owner : row.paymentIntentId = before.paymentIntentId)
    (intents : next.store.intents = books.store.intents.set after.paymentIntentId after)
    (refunds : next.store.refunds = books.store.refunds.set new.refundId new)
    (ledger : next.ledger = books.ledger ++ calls)
    (about : ∀ call ∈ calls, call.forRefund = true ∧ call.settlesRefund = true ∧ call.reference = new.refundId) :
    Repays books next before after (some row) new calls where
  owned := owned
  same := same
  intents := intents
  refunds := refunds
  stored := (terms_refundId terms) ▸ stored
  owner := (terms_owner terms).trans owner
  was := by
    intro other is
    cases is
    exact owner
  ledger := ledger
  about := about

section

variable (repays : Repays books next before after old new calls) {id : String}
include repays

theorem hasIntent :
    next.HasIntent row ↔ row = after ∨ (books.HasIntent row ∧ row.paymentIntentId ≠ after.paymentIntentId) := by
  rw [← hasIntent_putIntent]
  simp only [PaymentStore.HasIntent, PaymentStore.putIntent, repays.intents]

theorem hasRefund :
    next.HasRefund refund ↔ refund = new ∨ (books.HasRefund refund ∧ refund.refundId ≠ new.refundId) := by
  rw [← hasRefund_putRefund]
  simp only [PaymentStore.HasRefund, PaymentStore.putRefund, repays.refunds]

theorem others (apart : refund.paymentIntentId ≠ before.paymentIntentId) :
    next.HasRefund refund ↔ (books.HasRefund refund ∧ refund.refundId ≠ new.refundId) := by
  rw [repays.hasRefund]
  constructor
  · rintro (rfl | held)
    · exact absurd repays.owner apart
    · exact held
  · exact .inr

theorem refunded (id : String) :
    next.refunded id = books.refunded id - (old.map (·.refundedOf id)).getD 0 + new.refundedOf id := by
  rw [next.refunded_eq, books.refunded_eq, repays.refunds]
  cases found : old with
  | none =>
    rw [Dict.sum_values_set_of_fresh (repays.stored.trans found)]
    simp
  | some =>
    rw [Dict.sum_values_set_of_bound (repays.stored.trans found)]
    rfl

theorem refunded_other (other : id ≠ before.paymentIntentId) : next.refunded id = books.refunded id := by
  have none : (old.map (·.refundedOf id)).getD 0 = 0 := by
    cases found : old with
    | none => rfl
    | some row => exact refundedOf_of_owner fun same => other (same.symm.trans (repays.was row found))
  have nothing : new.refundedOf id = 0 :=
    refundedOf_of_owner fun same => other (same.symm.trans repays.owner)
  rw [repays.refunded, none, nothing]
  omega

theorem posted_other (other : id ≠ new.refundId) : next.postedRefund id = books.postedRefund id := by
  have none : calls.filter (fun call => call.reference = id && call.forRefund) = [] := by
    refine filter_eq_nil_iff.mpr fun call member => ?_
    simp [(repays.about call member).2.2, other.symm]
  rw [postedRefund, repays.ledger, filter_append, none, append_nil]
  rfl

theorem posted_self : next.postedRefund new.refundId = books.postedRefund new.refundId ++ calls := by
  have all : calls.filter (fun call => call.reference = new.refundId && call.forRefund) = calls := by
    refine filter_eq_self.mpr fun call member => ?_
    obtain ⟨refund, -, reference⟩ := repays.about call member
    simp [reference, refund]
  rw [postedRefund, repays.ledger, filter_append, all]
  rfl

theorem elsewhere (repaid : Repaid service books row) (other : row.paymentIntentId ≠ before.paymentIntentId) :
    Repaid service next row := by
  have rows : ∀ {refund}, next.HasRefund refund → refund.paymentIntentId = row.paymentIntentId →
      books.HasRefund refund ∧ refund.refundId ≠ new.refundId := by
    intro refund held owner
    exact (repays.others (owner ▸ other)).mp held
  constructor
  · intro unsettled refund held owner
    exact repaid.unsettled unsettled refund (rows held owner).1 owner
  · intro refund held owner
    exact repaid.waiting refund (rows held owner).1 owner
  · intro first second held otherHeld owner otherOwner
    exact repaid.single first second (rows held owner).1 (rows otherHeld otherOwner).1 owner otherOwner
  · rw [repays.refunded_other other]
    exact repaid.standing
  · intro refund held owner
    rw [repays.posted_other (rows held owner).2]
    exact repaid.entries refund (rows held owner).1 owner

theorem keeps (refunds : Refunds service books) (repaid : Repaid service next after) : Refunds service next := by
  have stays : ∀ {id}, (∃ row, books.HasIntent row ∧ row.paymentIntentId = id) →
      ∃ row, next.HasIntent row ∧ row.paymentIntentId = id := by
    rintro id ⟨row, stored, same⟩
    by_cases here : row.paymentIntentId = after.paymentIntentId
    · exact ⟨after, repays.hasIntent.mpr (.inl rfl), here.symm.trans same⟩
    · exact ⟨row, repays.hasIntent.mpr (.inr ⟨stored, here⟩), same⟩
  constructor
  · intro call member about
    rw [repays.ledger, mem_append] at member
    rcases member with earlier | now
    · obtain ⟨refund, held, id⟩ := refunds.known call earlier about
      by_cases here : refund.refundId = new.refundId
      · exact ⟨new, repays.hasRefund.mpr (.inl rfl), here.symm.trans id⟩
      · exact ⟨refund, repays.hasRefund.mpr (.inr ⟨held, here⟩), id⟩
    · exact ⟨new, repays.hasRefund.mpr (.inl rfl), (repays.about call now).2.2.symm⟩
  · intro call member
    rw [repays.ledger, mem_append] at member
    rcases member with earlier | now
    · exact refunds.kinds call earlier
    · obtain ⟨refund, settles, -⟩ := repays.about call now
      rw [refund, settles]
  · intro refund held
    rcases repays.hasRefund.mp held with rfl | ⟨was, -⟩
    · exact stays ⟨before, repays.owned, repays.owner.symm⟩
    · exact stays (refunds.owned refund was)
  · intro row held
    rcases repays.hasIntent.mp held with rfl | ⟨stored, apart⟩
    · exact repaid
    · rw [repays.same.id] at apart
      exact repays.elsewhere (refunds.repaid row stored) apart

end

theorem refunded_of_unpaid (repays : Repays books next before after (some row) new calls)
    (open_ : row.status ∉ refundTable.terminalStates) (unpaid : new.status ≠ .refundSucceeded) :
    next.refunded after.paymentIntentId = books.refunded before.paymentIntentId := by
  have before_ : row.status ≠ .refundSucceeded := fun is => open_ (by rw [is]; decide)
  rw [repays.refunded, refundedOf_of_status unpaid, repays.same.id]
  simp [refundedOf_of_status before_]

end Repays

/-- The refund that is written is the only one of its intent that may wait. -/
theorem Repays.repaid (repays : Repays books next before after old new calls) (refunds : Refunds service books)
    (ended : ∀ refund, books.HasRefund refund → refund.paymentIntentId = before.paymentIntentId →
      refund.refundId ≠ new.refundId → refund.status ∈ refundTable.terminalStates)
    (was : before.status ∈ settledStatuses) (settled : after.status ∈ settledStatuses)
    (waiting : new.status ∉ refundTable.terminalStates → after.status = .refundInitiated)
    (standing : Standing (next.refunded after.paymentIntentId) after.amountMinor after.status)
    (unposted : books.postedRefund new.refundId = []) (entries : Settles service before new calls) :
    Repaid service next after := by
  have late : ∀ status ∈ settledStatuses, status ∉ undispatched := by decide
  have others : ∀ {refund}, next.HasRefund refund → refund.paymentIntentId = after.paymentIntentId →
      refund = new ∨ (books.HasRefund refund ∧ refund.refundId ≠ new.refundId ∧
        refund.paymentIntentId = before.paymentIntentId ∧ refund.status ∈ refundTable.terminalStates) := by
    intro refund held owner
    rw [repays.same.id] at owner
    rcases repays.hasRefund.mp held with same | ⟨was, apart⟩
    · exact .inl same
    · exact .inr ⟨was, apart, owner, ended refund was owner apart⟩
  constructor
  · exact fun unsettled => absurd settled unsettled
  · intro refund held owner open_
    rcases others held owner with rfl | ⟨-, -, -, done⟩
    · exact waiting open_
    · exact absurd done open_
  · intro first second held alsoHeld owner alsoOwner open_ alsoOpen
    rcases others held owner with rfl | ⟨-, -, -, done⟩
    · rcases others alsoHeld alsoOwner with rfl | ⟨-, -, -, done⟩
      · rfl
      · exact absurd done alsoOpen
    · exact absurd done open_
  · exact standing
  · intro refund held owner
    rw [Settles, repays.same.merchantId, repays.same.method (late _ was)]
    rcases others held owner with rfl | ⟨stored, apart, wasOwner, -⟩
    · rw [repays.posted_self, unposted, nil_append]
      exact entries
    · rw [repays.posted_other apart]
      exact (refunds.repaid before repays.owned).entries refund stored wasOwner

/-- A refund is opened. -/
theorem Repays.opened (repays : Repays books next before after none new []) (refunds : Refunds service books)
    (refundable : before.status = .succeeded ∨ before.status = .partiallyRefunded)
    (initiated : after.status = .refundInitiated) (status : new.status = .refundInitiated) :
    Repaid service next after := by
  have repaid := refunds.repaid before repays.owned
  have unpaid : new.status ≠ .refundSucceeded := by rw [status]; decide
  refine repays.repaid refunds (fun refund held owner _ => ?_)
    (by rcases refundable with is | is <;> rw [is] <;> decide)
    (by rw [initiated]; decide) (fun _ => initiated) ?_ ?_ (.of_unpaid unpaid)
  · by_contra open_
    have waits := repaid.waiting refund held owner open_
    rcases refundable with is | is <;> rw [is] at waits <;> cases waits
  · have total : next.refunded after.paymentIntentId = books.refunded before.paymentIntentId := by
      rw [repays.refunded, refundedOf_of_status unpaid, repays.same.id]
      simp
    have standing := repaid.standing
    rw [total, initiated, repays.same.amountMinor]
    rcases refundable with is | is <;> rw [is] at standing
    · exact lt_of_eq_of_lt standing before.positive
    · exact standing.2
  · refine filter_eq_nil_iff.mpr fun call member => ?_
    simp only [Bool.and_eq_true, decide_eq_true_eq, not_and, Bool.not_eq_true]
    intro reference
    by_contra about
    obtain ⟨other, stored, id⟩ := refunds.known call member (by simpa using about)
    rw [HasRefund, PaymentStore.HasRefund, id, reference, repays.stored] at stored
    cases stored

/-- A refund that waits for the connector goes on. -/
theorem Repays.moved (repays : Repays books next before after (some old) new calls) (refunds : Refunds service books)
    (same : new.terms = old.terms) (open_ : old.status ∉ refundTable.terminalStates)
    (settled : after.status ∈ settledStatuses)
    (waiting : new.status ∉ refundTable.terminalStates → after.status = .refundInitiated)
    (standing : Standing (next.refunded after.paymentIntentId) after.amountMinor after.status)
    (entries : Settles service before new calls) : Repaid service next after := by
  have repaid := refunds.repaid before repays.owned
  have id : new.refundId = old.refundId := terms_refundId same
  have held : books.HasRefund old := Dict.row_of_key repays.stored id.symm
  have owner : old.paymentIntentId = before.paymentIntentId := repays.was old rfl
  have posted := repaid.entries old held owner
  rw [Settles, if_neg (fun succeeded => open_ (by rw [succeeded]; decide)), ← id] at posted
  refine repays.repaid refunds (fun refund stored itsOwner apart => ?_) ?_ settled waiting standing posted entries
  · by_contra alsoOpen
    exact apart ((repaid.single refund old stored held itsOwner owner alsoOpen open_).trans id.symm)
  · rw [repaid.waiting old held owner open_]
    decide

theorem SameIntent.steady (same : SameIntent before after) (status : after.status = before.status) :
    Steady before after := by
  by_cases settled : before.status ∈ settledStatuses
  · have late : ∀ status ∈ settledStatuses, status ∉ undispatched := by decide
    exact .kept status same.terms (same.method (late _ settled))
  · exact .open_ settled (.inl (status ▸ settled))

theorem Deed.refunds (deed : Deed service licence books next) (ordered : books.Ordered)
    (refunds : Refunds service books) : Refunds service next := by
  have silent : ∀ call ∈ ([] : List LedgerCall), call.forRefund = false ∧ call.settlesRefund = false := by simp
  have unposted : books.ledger = books.ledger ++ [] := (append_nil _).symm
  have unasked : ∀ {refundId : String}, ∀ call ∈ ([] : List LedgerCall),
      call.forRefund = true ∧ call.settlesRefund = true ∧ call.reference = refundId := by simp
  cases deed with
  | created intent fresh status =>
    refine refunds.turned ordered rfl unposted silent (fun row stored => ?_) fun row held => ?_
    · by_cases here : row.paymentIntentId = intent.paymentIntentId
      · exact ⟨intent, hasIntent_putIntent.mpr (.inl rfl), here.symm⟩
      · exact ⟨row, hasIntent_putIntent.mpr (.inr ⟨stored, here⟩), rfl⟩
    · rcases hasIntent_putIntent.mp held with rfl | ⟨was, -⟩
      · exact .inl ⟨fresh, status⟩
      · exact .inr ⟨row, was, rfl, .kept rfl rfl rfl⟩
  | moved _ _ stored same quiet =>
    refine refunds.put ordered stored same.id rfl rfl unposted silent ?_
    rcases quiet with kept | moves
    · exact same.steady kept
    · exact .open_ (quietMoves_shape _ moves).1.1 (.inl (quietMoves_shape _ moves).1.2)
  | opened _ _ _ stored same processing status =>
    exact refunds.put ordered stored same.id rfl rfl unposted silent (same.steady (status.trans processing.symm))
  | attemptKept =>
    exact refunds.turned ordered rfl unposted silent (fun row stored => ⟨row, stored, rfl⟩) fun row held =>
      .inr ⟨row, held, rfl, .kept rfl rfl rfl⟩
  | attemptEnded _ _ _ _ _ _ _ _ owned _ sameIntent processing status =>
    refine refunds.put ordered owned sameIntent.id rfl rfl unposted silent
      (.open_ (by rw [processing]; decide) (.inl ?_))
    rcases status with is | is | is <;> rw [is] <;> decide
  | charged old new before after accounts capture feeMinor fees stored same waiting status owned owner sameIntent processing
      succeeded direct resolved entry fee =>
    refine refunds.put ordered owned sameIntent.id (by simp [putAttempt]) (by simp [putAttempt])
      ((ledger_foldl_log fees).trans (append_assoc _ [capture] fees)) ?_
      (.open_ (by rw [processing]; decide) (.inr succeeded))
    intro call member
    rcases mem_cons.mp member with rfl | inside
    · rw [entry.forRefund, entry.settlesRefund]
      decide
    · exact ⟨(fee.about call inside).2, fee.settlesRefund call inside⟩
  | authorized _ _ _ _ _ _ _ _ _ _ owned _ sameIntent processing held =>
    exact refunds.put ordered owned sameIntent.id rfl rfl rfl (by simp [forRefund, settlesRefund])
      (.open_ (by rw [processing]; decide) (.inl (by rw [held]; decide)))
  | captured old new before after accounts feeMinor fees stored latest same authorized status owned sameIntent amounts method
      waiting succeeded held asked resolved fee =>
    refine refunds.put ordered owned (congrArg IntentTerms.paymentIntentId sameIntent) (by simp [putAttempt])
      (by simp [putAttempt]) ((ledger_foldl_log fees).trans (append_assoc _ [_] fees)) ?_
      (.open_ (by rw [waiting]; decide) (.inr succeeded))
    intro call member
    rcases mem_cons.mp member with rfl | inside
    · exact ⟨rfl, rfl⟩
    · exact ⟨(fee.about call inside).2, fee.settlesRefund call inside⟩
  | voided _ _ _ _ _ _ _ _ _ owned sameIntent ends =>
    refine refunds.put ordered owned sameIntent.id rfl rfl rfl (by simp [forRefund, settlesRefund]) ?_
    rcases ends with ⟨is, ended⟩ | ⟨is | is, ended⟩ <;>
      exact .open_ (by rw [is]; decide) (.inl (by rw [ended]; decide))
  | unheld _ _ _ _ _ _ _ _ _ owned sameIntent reversing reversed =>
    refine refunds.put ordered owned sameIntent.id rfl rfl unposted silent ?_
    rcases reversing with is | is <;> exact .open_ (by rw [is]; decide) (.inl (by rw [reversed]; decide))
  | ended _ _ owned sameIntent ends =>
    refine refunds.put ordered owned sameIntent.id rfl rfl unposted silent ?_
    rcases ends with ⟨is, ended⟩ | ⟨is | is, ended⟩ <;>
      exact .open_ (by rw [is]; decide) (.inl (by rw [ended]; decide))
  | uncharged old new before after accounts reversal stored latest same charged status owned sameIntent reversing reversed
      resolved entry =>
    refine refunds.put ordered owned sameIntent.id rfl rfl rfl (fun call member => ?_) ?_
    · rw [mem_singleton.mp member, entry.forRefund, entry.settlesRefund]
      decide
    · rcases reversing with is | is <;> exact .open_ (by rw [is]; decide) (.inl (by rw [reversed]; decide))
  | unreversed _ _ owned sameIntent reversing failed =>
    refine refunds.put ordered owned sameIntent.id rfl rfl unposted silent ?_
    rcases reversing with is | is <;> exact .open_ (by rw [is]; decide) (.inl (by rw [failed]; decide))
  | refundOpened before after refund owned sameIntent refundable initiated fresh owner status =>
    have repays : Repays books ((books.putRefund refund).putIntent after) before after none refund [] :=
      ⟨owned, sameIntent, rfl, rfl, fresh, owner,
        fun _ none => (by cases none), unposted, unasked⟩
    exact repays.keeps refunds (repays.opened refunds refundable initiated status)
  | refundKept old new stored same waiting status =>
    have open_ : old.status ∉ refundTable.terminalStates := by rcases waiting with is | is <;> rw [is] <;> decide
    obtain ⟨intent, owned, id⟩ := refunds.owned old stored
    have initiated := (refunds.repaid intent owned).waiting old stored id.symm open_
    have repays : Repays books (books.putRefund new) intent intent (some old) new [] :=
      .of_stored stored same owned ⟨rfl, fun _ => rfl⟩ id.symm (Dict.set_of_get? owned).symm rfl
        unposted unasked
    have unpaid : new.status ≠ .refundSucceeded := by rw [status]; decide
    refine repays.keeps refunds (repays.moved refunds same open_ (by rw [initiated]; decide) (fun _ => initiated) ?_
      (.of_unpaid unpaid))
    rw [repays.refunded_of_unpaid open_ unpaid]
    exact (refunds.repaid intent owned).standing
  | refundFailed old new before after refunded stored same waiting status owned owner sameIntent initiated total back =>
    have open_ : old.status ∉ refundTable.terminalStates := by rw [waiting]; decide
    have repays : Repays books ((books.putRefund new).putIntent after) before after (some old) new [] :=
      .of_stored stored same owned sameIntent owner rfl rfl unposted unasked
    have unpaid : new.status ≠ .refundSucceeded := by rw [status]; decide
    have kept : refunded = books.refunded before.paymentIntentId := by
      rw [← sameIntent.id] at total
      exact total.trans (repays.refunded_of_unpaid open_ unpaid)
    have settled : after.status ∈ settledStatuses := by
      rw [back]
      split <;> decide
    refine repays.keeps refunds (repays.moved refunds same open_ settled (fun still => ?_) ?_ (.of_unpaid unpaid))
    · rw [status] at still
      exact absurd (by decide) still
    · have standing := (refunds.repaid before owned).standing
      have positive := books.refunded_nonneg before.paymentIntentId
      rw [initiated] at standing
      rw [repays.refunded_of_unpaid open_ unpaid, back, kept, sameIntent.amountMinor]
      split_ifs with some
      · exact ⟨some, standing⟩
      · exact le_antisymm (not_lt.mp some) positive
  | refundSettled old new before after accounts entry already refunded stored same waiting status owned owner sameIntent
      initiated earlier within total ends resolved posted =>
    have open_ : old.status ∉ refundTable.terminalStates := by rw [waiting]; decide
    have amount : new.amountMinor = old.amountMinor := congrArg RefundTerms.amountMinor same
    have repays : Repays books (((books.putRefund new).log entry).putIntent after) before after
        (some old) new [entry] := by
      refine .of_stored stored same owned sameIntent owner rfl rfl rfl fun call member => ?_
      rw [mem_singleton.mp member, posted.forRefund, posted.settlesRefund, posted.reference]
      exact ⟨rfl, rfl, rfl⟩
    have grown : refunded = already + old.amountMinor := by
      have paid : new.refundedOf before.paymentIntentId = new.amountMinor :=
        if_pos ⟨(terms_owner same).trans owner, status⟩
      have before_ : old.refundedOf before.paymentIntentId = 0 :=
        refundedOf_of_status (fun is => open_ (by rw [is]; decide)) _
      have counted : refunded = books.refunded before.paymentIntentId - old.refundedOf before.paymentIntentId +
        new.refundedOf before.paymentIntentId := total.trans (repays.refunded before.paymentIntentId)
      rw [counted, before_, paid, amount, earlier, Int.sub_zero]
    have settled : after.status ∈ settledStatuses := by
      rw [ends]
      split <;> decide
    refine repays.keeps refunds (repays.moved refunds same open_ settled (fun still => ?_) ?_ ?_)
    · rw [status] at still
      exact absurd (by decide) still
    · have counted : (((books.putRefund new).log entry).putIntent after).refunded after.paymentIntentId = refunded := by
        rw [sameIntent.id]
        exact total.symm
      have nonneg : 0 ≤ already := by
        rw [earlier]
        exact books.refunded_nonneg before.paymentIntentId
      have positive := old.positive
      rw [counted, ends, sameIntent.amountMinor]
      split_ifs with full
      · exact le_antisymm (grown ▸ within) full
      · exact ⟨by omega, not_le.mp full⟩
    · exact (if_pos status).mpr ⟨accounts, entry, resolved, rfl, posted⟩

end BdPay.Kernel
