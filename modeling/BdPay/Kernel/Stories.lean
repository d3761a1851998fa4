import BdPay.Kernel.Turns

namespace BdPay.Kernel

open Platform Data Effect PaymentSystem PaymentOrchestrator Books IntentTerms List

/-! What the ledger was told about an intent, and where its attempts stand with it. -/

variable {service : PaymentOrchestrator} {books next : Books} {intent : PaymentIntentRecord}
  {attempt : PaymentAttemptRecord}

theorem SameIntent.merchantId (same : SameIntent old new) : new.merchantId = old.merchantId :=
  congrArg IntentTerms.merchantId same.terms

theorem SameIntent.amountMinor (same : SameIntent old new) : new.amountMinor = old.amountMinor :=
  congrArg IntentTerms.amountMinor same.terms

theorem SameIntent.accountsOf (same : SameIntent old new) (late : old.status ∉ undispatched)
    (resolved : service.AccountsOf old accounts) : service.AccountsOf new accounts := by
  rw [AccountsOf, same.merchantId, same.method late]
  exact resolved

/-! Entries and fees -/

namespace PaymentOrchestrator

section

variable (entry : Entry call referenceId referenceType entryType debited credited amount)
include entry

theorem Entry.reference : call.reference = referenceId := by
  obtain ⟨description, key, rfl⟩ := entry.posted
  rfl

theorem Entry.forRefund : call.forRefund = decide (referenceType = "REFUND") := by
  obtain ⟨description, key, rfl⟩ := entry.posted
  rfl

theorem Entry.openHolds : (books.log call).openHolds = books.openHolds := by
  obtain ⟨description, key, rfl⟩ := entry.posted
  rfl

end

variable {paymentIntentId : String} {feeMinor : Int}

theorem FeePosted.about (fee : FeePosted accounts paymentIntentId feeMinor fees) :
    ∀ call ∈ fees, call.reference = paymentIntentId ∧ call.forRefund = false := by
  cases fee with
  | none => exact nofun
  | collected _ _ _ entry =>
    intro other member
    rw [mem_singleton.mp member]
    exact ⟨entry.reference, entry.forRefund⟩

theorem FeePosted.openHolds (fee : FeePosted accounts paymentIntentId feeMinor fees) :
    (fees.foldl log books).openHolds = books.openHolds := by
  cases fee with
  | none => rfl
  | collected _ _ _ entry => exact entry.openHolds

end PaymentOrchestrator

theorem Books.ledger_foldl_log (calls : List LedgerCall) : (calls.foldl log books).ledger = books.ledger ++ calls := by
  induction calls generalizing books with
  | nil => exact (append_nil _).symm
  | cons call rest ih =>
    rw [foldl_cons, ih]
    exact append_assoc _ [call] rest

/-! The story of an intent -/

/-- Where an authorization may be held. -/
def heldStatuses : List IntentStatus := [.requiresCapture, .reversalInitiated, .reversalPending, .failed]

/-- What was posted for an intent so far. -/
inductive Shape (service : PaymentOrchestrator) (books : Books) (intent : PaymentIntentRecord) : Prop
  | untouched (posted : books.posted intent.paymentIntentId = []) (free : intent.paymentIntentId ∉ books.openHolds)
      (unsettled : intent.status ∉ settledStatuses)
  | held (accounts : KernelAccounts) (amount : Int) (expiry : Option DateTime) (attempt : PaymentAttemptRecord)
      (resolved : service.AccountsOf intent accounts)
      (posted : books.posted intent.paymentIntentId = [accounts.hold amount intent.paymentIntentId expiry])
      (reserved : intent.paymentIntentId ∈ books.openHolds) (status : intent.status ∈ heldStatuses)
      (tried : books.HasAttempt attempt)
      (owner : attempt.paymentIntentId = intent.paymentIntentId) (authorized : attempt.status = .authorized)
  | voided (accounts : KernelAccounts) (amount : Int) (expiry : Option DateTime)
      (resolved : service.AccountsOf intent accounts)
      (posted : books.posted intent.paymentIntentId = [accounts.hold amount intent.paymentIntentId expiry,
        .releaseHold intent.paymentIntentId "VOIDED" none])
      (free : intent.paymentIntentId ∉ books.openHolds) (status : intent.status = .cancelled ∨ intent.status = .reversed)
  | charged (accounts : KernelAccounts) (capture : LedgerCall) (feeMinor : Int) (fees : List LedgerCall)
      (resolved : service.AccountsOf intent accounts)
      (posted : books.posted intent.paymentIntentId = capture :: fees)
      (entry : Entry capture intent.paymentIntentId "PAYMENT" "payment_captured" accounts.inTransit
        accounts.merchantSettlement intent.amountMinor)
      (fee : FeePosted accounts intent.paymentIntentId feeMinor fees)
      (free : intent.paymentIntentId ∉ books.openHolds) (settled : intent.status ∈ settledStatuses)
  | captured (accounts : KernelAccounts) (amount : Int) (expiry : Option DateTime) (feeMinor : Int) (fees : List LedgerCall)
      (resolved : service.AccountsOf intent accounts)
      (posted : books.posted intent.paymentIntentId = accounts.hold amount intent.paymentIntentId expiry ::
        .releaseHold intent.paymentIntentId "CAPTURED" (some intent.amountMinor) :: fees)
      (fee : FeePosted accounts intent.paymentIntentId feeMinor fees)
      (free : intent.paymentIntentId ∉ books.openHolds) (settled : intent.status ∈ settledStatuses)

structure Story (service : PaymentOrchestrator) (books : Books) (intent : PaymentIntentRecord) : Prop where
  shape : Shape service books intent
  amounts : ∀ attempt, books.HasAttempt attempt → attempt.paymentIntentId = intent.paymentIntentId →
    attempt.status ≠ .authorizationFailed → attempt.amountMinor = intent.amountMinor
  charged : ∀ attempt, books.HasAttempt attempt → attempt.paymentIntentId = intent.paymentIntentId →
    attempt.status = .charged → intent.status ∈ settledStatuses

/-- Every intent has its story, and nothing was posted for any other. -/
structure Told (service : PaymentOrchestrator) (books : Books) : Prop where
  known : ∀ call ∈ books.ledger, call.forRefund = false →
    ∃ intent, books.HasIntent intent ∧ intent.paymentIntentId = call.reference
  holds : ∀ id ∈ books.openHolds, ∃ intent, books.HasIntent intent ∧ intent.paymentIntentId = id
  story : ∀ intent, books.HasIntent intent → Story service books intent

/-- How far a status may turn while the story goes on. -/
structure Lasting (old new : IntentStatus) : Prop where
  unsettled : old ∉ settledStatuses → new ∉ settledStatuses
  held : old ∈ heldStatuses → new ∈ heldStatuses
  ended : old = .cancelled ∨ old = .reversed → new = old
  settled : old ∈ settledStatuses → new ∈ settledStatuses

theorem Lasting.refl : Lasting status status := ⟨id, id, fun _ => rfl, id⟩

/-- Nothing of the story but the status changes. -/
theorem Shape.turned {before after : PaymentIntentRecord} (shape : Shape service books before)
    (same : SameIntent before after)
    (posted : next.posted after.paymentIntentId = books.posted before.paymentIntentId)
    (holds : after.paymentIntentId ∈ next.openHolds ↔ before.paymentIntentId ∈ books.openHolds)
    (attempts : ∀ attempt, attempt.status = .authorized → books.HasAttempt attempt →
      attempt.paymentIntentId = before.paymentIntentId → ∃ kept, next.HasAttempt kept ∧
        kept.paymentIntentId = before.paymentIntentId ∧ kept.status = .authorized)
    (lasting : Lasting before.status after.status) : Shape service next after := by
  have heldLate : ∀ status ∈ heldStatuses, status ∉ undispatched := by decide
  have settledLate : ∀ status ∈ settledStatuses, status ∉ undispatched := by decide
  cases shape with
  | untouched was free open_ =>
    exact .untouched (posted.trans was) (fun member => free (holds.mp member)) (lasting.unsettled open_)
  | held accounts amount expiry attempt resolved was reserved status tried owner authorized =>
    obtain ⟨kept, keptTried, keptOwner, keptAuthorized⟩ := attempts attempt authorized tried owner
    refine .held accounts amount expiry kept (same.accountsOf (heldLate _ status) resolved) ?_ (holds.mpr reserved)
      (lasting.held status) keptTried (keptOwner.trans same.id.symm) keptAuthorized
    rw [posted, was, same.id]
  | voided accounts amount expiry resolved was free status =>
    have late : before.status ∉ undispatched := by rcases status with is | is <;> rw [is] <;> decide
    refine .voided accounts amount expiry (same.accountsOf late resolved) ?_ (fun member => free (holds.mp member)) ?_
    · rw [posted, was, same.id]
    · rw [lasting.ended status]
      exact status
  | charged accounts capture feeMinor fees resolved was entry fee free was_settled =>
    refine .charged accounts capture feeMinor fees (same.accountsOf (settledLate _ was_settled) resolved)
      (posted.trans was) ?_ ?_ (fun member => free (holds.mp member)) (lasting.settled was_settled)
    · rw [same.id, same.amountMinor]
      exact entry
    · rw [same.id]
      exact fee
  | captured accounts amount expiry feeMinor fees resolved was fee free was_settled =>
    refine .captured accounts amount expiry feeMinor fees (same.accountsOf (settledLate _ was_settled) resolved) ?_ ?_
      (fun member => free (holds.mp member)) (lasting.settled was_settled)
    · rw [posted, was, same.id, same.amountMinor]
    · rw [same.id]
      exact fee

theorem Story.frame (story : Story service books intent)
    (posted : next.posted intent.paymentIntentId = books.posted intent.paymentIntentId)
    (holds : intent.paymentIntentId ∈ next.openHolds ↔ intent.paymentIntentId ∈ books.openHolds)
    (attempts : ∀ attempt, attempt.paymentIntentId = intent.paymentIntentId →
      (next.HasAttempt attempt ↔ books.HasAttempt attempt)) : Story service next intent where
  shape := by
    refine story.shape.turned ⟨rfl, fun _ => rfl⟩ posted holds (fun attempt authorized tried owner => ?_) .refl
    exact ⟨attempt, (attempts attempt owner).mpr tried, owner, authorized⟩
  amounts := fun attempt tried owner => story.amounts attempt ((attempts attempt owner).mp tried) owner
  charged := fun attempt tried owner => story.charged attempt ((attempts attempt owner).mp tried) owner

/-- A deed writes one intent, what is posted for it, and its attempts. -/
structure Rows (books next : Books) (before after : PaymentIntentRecord) (calls : List LedgerCall) : Prop where
  owned : books.HasIntent before
  id : after.paymentIntentId = before.paymentIntentId
  intents : next.store.intents = books.store.intents.set after.paymentIntentId after
  ledger : next.ledger = books.ledger ++ calls
  about : ∀ call ∈ calls, call.forRefund = true ∨ call.reference = before.paymentIntentId
  holds : ∀ other, other ≠ before.paymentIntentId → (other ∈ next.openHolds ↔ other ∈ books.openHolds)
  attempts : ∀ attempt, attempt.paymentIntentId ≠ before.paymentIntentId →
    (next.HasAttempt attempt ↔ books.HasAttempt attempt)

namespace Rows

variable {after : PaymentIntentRecord} {calls : List LedgerCall}

variable (rows : Rows books next before after calls)
include rows

theorem hasIntent :
    next.HasIntent row ↔ row = after ∨ (books.HasIntent row ∧ row.paymentIntentId ≠ after.paymentIntentId) := by
  rw [← hasIntent_putIntent]
  simp only [PaymentStore.HasIntent, PaymentStore.putIntent, rows.intents]

theorem keeps (stored : books.HasIntent row) :
    ∃ kept, next.HasIntent kept ∧ kept.paymentIntentId = row.paymentIntentId := by
  by_cases here : row.paymentIntentId = after.paymentIntentId
  · exact ⟨after, rows.hasIntent.mpr (.inl rfl), here.symm⟩
  · exact ⟨row, rows.hasIntent.mpr (.inr ⟨stored, here⟩), rfl⟩

theorem posted_append (id : String) :
    next.posted id = books.posted id ++ calls.filter fun call => call.reference = id && !call.forRefund := by
  rw [posted, rows.ledger, filter_append]
  rfl

theorem posted_other {id : String} (other : id ≠ before.paymentIntentId) : next.posted id = books.posted id := by
  have none : calls.filter (fun call => call.reference = id && !call.forRefund) = [] := by
    refine filter_eq_nil_iff.mpr fun call member => ?_
    rcases rows.about call member with refund | reference
    · simp [refund]
    · simp [reference, other.symm]
  rw [rows.posted_append, none, append_nil]

theorem posted_self (about : ∀ call ∈ calls, call.reference = before.paymentIntentId ∧ call.forRefund = false) :
    next.posted after.paymentIntentId = books.posted before.paymentIntentId ++ calls := by
  have all : calls.filter (fun call => call.reference = before.paymentIntentId && !call.forRefund) = calls := by
    refine filter_eq_self.mpr fun call member => ?_
    obtain ⟨reference, payment⟩ := about call member
    simp [reference, payment]
  rw [rows.posted_append, rows.id, all]

theorem posted_refund (refunds : ∀ call ∈ calls, call.forRefund = true) :
    next.posted after.paymentIntentId = books.posted before.paymentIntentId := by
  have none : calls.filter (fun call => call.reference = before.paymentIntentId && !call.forRefund) = [] := by
    refine filter_eq_nil_iff.mpr fun call member => ?_
    simp [refunds call member]
  rw [rows.posted_append, rows.id, none, append_nil]

theorem told (told : Told service books) (story : Story service next after) :
    Told service next where
  known := by
    intro call member payment
    rw [rows.ledger, mem_append] at member
    rcases member with earlier | now
    · obtain ⟨row, stored, id⟩ := told.known call earlier payment
      obtain ⟨kept, held, same⟩ := rows.keeps stored
      exact ⟨kept, held, same.trans id⟩
    · refine ⟨after, rows.hasIntent.mpr (.inl rfl), rows.id.trans ?_⟩
      rcases rows.about call now with refund | reference
      · rw [payment] at refund
        cases refund
      · exact reference.symm
  holds := by
    intro id member
    by_cases here : id = before.paymentIntentId
    · exact ⟨after, rows.hasIntent.mpr (.inl rfl), rows.id.trans here.symm⟩
    · obtain ⟨row, stored, same⟩ := told.holds id ((rows.holds id here).mp member)
      obtain ⟨kept, held, kid⟩ := rows.keeps stored
      exact ⟨kept, held, kid.trans same⟩
  story := by
    intro row held
    rcases rows.hasIntent.mp held with rfl | ⟨stored, apart⟩
    · exact story
    · rw [rows.id] at apart
      refine (told.story row stored).frame (rows.posted_other apart) (rows.holds _ apart) fun attempt owner => ?_
      exact rows.attempts attempt (owner ▸ apart)

end Rows

/-! Attempts that move -/

theorem Books.Ordered.only_live (ordered : books.Ordered) (stored : books.HasAttempt old)
    (live : old.status ≠ .authorizationFailed) (tried : books.HasAttempt other)
    (owner : other.paymentIntentId = old.paymentIntentId) (apart : other.attemptId ≠ old.attemptId) :
    other.status = .authorizationFailed := by
  rcases Nat.lt_trichotomy other.attemptNumber old.attemptNumber with below | equal | above
  · exact ordered.passed tried stored owner below
  · exact absurd (ordered.numbers tried stored owner equal) apart
  · exact absurd (ordered.passed stored tried owner.symm above) live

/-- The attempts of the books, with one that has moved. -/
structure Retries (books next : Books) (old new : PaymentAttemptRecord) : Prop where
  stored : books.HasAttempt old
  id : new.attemptId = old.attemptId
  owner : new.paymentIntentId = old.paymentIntentId
  attempts : next.store.attempts = (books.putAttempt new).store.attempts

namespace Retries

section

variable (retries : Retries books next old new)

include retries

theorem hasAttempt :
    next.HasAttempt attempt ↔ attempt = new ∨ (books.HasAttempt attempt ∧ attempt.attemptId ≠ new.attemptId) := by
  exact (hasAttempt_of_put retries.attempts)

theorem others
    (apart : attempt.paymentIntentId ≠ old.paymentIntentId) : next.HasAttempt attempt ↔ books.HasAttempt attempt := by
  rw [retries.hasAttempt]
  constructor
  · rintro (rfl | ⟨stored, -⟩)
    · exact absurd retries.owner apart
    · exact stored
  · intro stored
    refine .inr ⟨stored, fun same => apart ?_⟩
    rw [stored.unique retries.stored (same.trans retries.id)]

theorem own (ordered : books.Ordered) (live : old.status ≠ .authorizationFailed) (tried : next.HasAttempt attempt)
    (owner : attempt.paymentIntentId = old.paymentIntentId) :
    attempt = new ∨ attempt.status = .authorizationFailed := by
  rcases retries.hasAttempt.mp tried with rfl | ⟨stored, apart⟩
  · exact .inl rfl
  · rw [retries.id] at apart
    exact .inr (ordered.only_live retries.stored live stored owner apart)

end

end Retries

/-! Stories that go on -/

section Deeds

variable {after : PaymentIntentRecord} {calls : List LedgerCall}

/-- An intent whose last attempt was just tried has no story yet. -/
theorem Shape.of_processing (shape : Shape service books before) (processing : before.status = .processing) :
    books.posted before.paymentIntentId = [] ∧ before.paymentIntentId ∉ books.openHolds := by
  cases shape with
  | untouched posted free => exact ⟨posted, free⟩
  | held _ _ _ _ _ _ _ status =>
    rw [processing] at status
    exact absurd status (by decide)
  | voided _ _ _ _ _ _ status =>
    rw [processing] at status
    rcases status with is | is <;> cases is
  | charged _ _ _ _ _ _ _ _ _ settled | captured _ _ _ _ _ _ _ _ _ settled =>
    rw [processing] at settled
    exact absurd settled (by decide)

theorem Shape.of_open (shape : Shape service books before) (open_ : before.paymentIntentId ∈ books.openHolds) :
    ∃ accounts amount expiry attempt, service.AccountsOf before accounts ∧
      books.posted before.paymentIntentId = [accounts.hold amount before.paymentIntentId expiry] ∧
      before.status ∈ heldStatuses ∧ books.HasAttempt attempt ∧ attempt.paymentIntentId = before.paymentIntentId ∧
      attempt.status = .authorized := by
  cases shape with
  | held accounts amount expiry attempt resolved posted _ status tried owner authorized =>
    exact ⟨accounts, amount, expiry, attempt, resolved, posted, status, tried, owner, authorized⟩
  | untouched _ free => exact absurd open_ free
  | voided _ _ _ _ _ free | charged _ _ _ _ _ _ _ _ free | captured _ _ _ _ _ _ _ _ free => exact absurd open_ free

/-- The last attempt of an intent is the one that has not failed. -/
theorem Books.Ordered.latest_of_live (ordered : books.Ordered) {paymentIntentId : String}
    (tried : books.HasAttempt attempt) (owner : attempt.paymentIntentId = paymentIntentId)
    (live : attempt.status ≠ .authorizationFailed) : books.latest paymentIntentId = some attempt := by
  have listed : attempt ∈ books.store.listAttempts paymentIntentId := by
    rw [PaymentStore.listAttempts, (perm_insertionSort _ _).mem_iff, mem_filter, decide_eq_true_eq]
    exact ⟨Dict.mem_values_of_get? tried, owner⟩
  have sorted : (books.store.listAttempts paymentIntentId).Pairwise fun first second =>
      first.attemptNumber ≤ second.attemptNumber :=
    pairwise_insertionSort _ _
  obtain ⟨last, found⟩ : ∃ last, books.latest paymentIntentId = some last := by
    cases ends : books.latest paymentIntentId with
    | none =>
      rw [latest, getLast?_eq_none_iff] at ends
      rw [ends] at listed
      cases listed
    | some last => exact ⟨last, rfl⟩
  obtain ⟨lastTried, lastOwner⟩ := ordered.latest_stored found
  have highest : attempt.attemptNumber ≤ last.attemptNumber := by
    obtain ⟨front, split⟩ := getLast?_eq_some_iff.mp found
    rw [split, pairwise_append] at sorted
    rw [split, mem_append, mem_singleton] at listed
    rcases listed with inside | rfl
    · exact sorted.2.2 attempt inside last mem_cons_self
    · exact Nat.le_refl _
  rw [found]
  by_cases same : last.attemptId = attempt.attemptId
  · rw [lastTried.unique tried same]
  · have failed := ordered.only_live tried live lastTried (lastOwner.trans owner.symm) same
    rcases Nat.lt_or_eq_of_le highest with below | equal
    · exact absurd (ordered.passed tried lastTried (owner.trans lastOwner.symm) below) live
    · exact absurd (ordered.numbers tried lastTried (owner.trans lastOwner.symm) equal).symm same

theorem Rows.of_put {middle : Books} (owned : books.HasIntent before)
    (id : after.paymentIntentId = before.paymentIntentId)
    (intents : middle.store.intents = books.store.intents) (ledger : middle.ledger = books.ledger ++ calls)
    (about : ∀ call ∈ calls, call.forRefund = true ∨ call.reference = before.paymentIntentId)
    (holds : ∀ other, other ≠ before.paymentIntentId → (other ∈ middle.openHolds ↔ other ∈ books.openHolds))
    (attempts : ∀ attempt, attempt.paymentIntentId ≠ before.paymentIntentId →
      (middle.HasAttempt attempt ↔ books.HasAttempt attempt)) :
    Rows books (middle.putIntent after) before after calls where
  owned := owned
  id := id
  intents := by rw [putIntent, PaymentStore.putIntent, intents]
  ledger := ledger
  about := about
  holds := holds
  attempts := attempts

/-- A new intent has no story. -/
theorem Told.created (told : Told service books) (ordered : books.Ordered)
    (fresh : books.store.intents.get? new.paymentIntentId = none) (status : new.status = .created) :
    Told service (books.putIntent new) := by
  have unknown : ∀ row, books.HasIntent row → row.paymentIntentId ≠ new.paymentIntentId :=
    fun _ stored => stored.ne_of_fresh fresh
  have keeps : ∀ {id}, (∃ row, books.HasIntent row ∧ row.paymentIntentId = id) →
      ∃ row, (books.putIntent new).HasIntent row ∧ row.paymentIntentId = id := by
    rintro id ⟨row, stored, same⟩
    exact ⟨row, hasIntent_putIntent.mpr (.inr ⟨stored, unknown row stored⟩), same⟩
  have unsent : ∀ attempt, books.HasAttempt attempt → attempt.paymentIntentId ≠ new.paymentIntentId := by
    intro attempt tried owner
    obtain ⟨row, stored, same, -⟩ := ordered.owned tried
    exact unknown row stored (same.trans owner)
  refine ⟨fun call member payment => keeps (told.known call member payment),
    fun id member => keeps (told.holds id member), ?_⟩
  intro row held
  rcases hasIntent_putIntent.mp held with rfl | ⟨stored, apart⟩
  · refine ⟨.untouched ?_ ?_ ?_, ?_, ?_⟩
    · refine filter_eq_nil_iff.mpr fun call member => ?_
      simp only [Bool.and_eq_true, decide_eq_true_eq, Bool.not_eq_true', not_and, Bool.not_eq_false]
      intro reference
      by_contra payment
      obtain ⟨row, stored, same⟩ := told.known call member (Bool.eq_false_iff.mpr payment)
      exact unknown row stored (same.trans reference)
    · intro member
      obtain ⟨row, stored, same⟩ := told.holds _ member
      exact unknown row stored same
    · rw [status]
      decide
    · exact fun attempt tried owner => absurd owner (unsent attempt tried)
    · exact fun attempt tried owner => absurd owner (unsent attempt tried)
  · exact (told.story row stored).frame rfl .rfl fun _ _ => .rfl

end Deeds

end BdPay.Kernel
