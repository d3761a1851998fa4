import BdPay.Kernel.RefundBooks
import BdPay.Ledger.Service

namespace BdPay.Kernel

open Data Effect PaymentSystem PaymentOrchestrator Books LedgerCall List

/-! What was captured for an intent, and how its refunds stand to it. -/

variable {service : PaymentOrchestrator} {books : Books} {intent : PaymentIntentRecord}
  {paymentIntentId : String} {fees : List LedgerCall} {call : LedgerCall}

/-- A charged payment or a captured hold. -/
def LedgerCall.isCapture : LedgerCall → Bool
  | .postJournalEntry spec => spec.entryType = "payment_captured"
  | .openHold .. => false
  | .releaseHold _ outcome _ => outcome = "CAPTURED"

def LedgerCall.amountMinor : LedgerCall → Int
  | .postJournalEntry spec => (spec.postings.map (·.amountMinor)).headD 0
  | .openHold _ amountMinor _ _ _ _ _ => amountMinor
  | .releaseHold _ _ amountMinor => amountMinor.getD 0

namespace Books

def captures (books : Books) (paymentIntentId : String) : List LedgerCall :=
  books.ledger.filter fun call => call.reference = paymentIntentId && call.isCapture

def capturedMinor (books : Books) (paymentIntentId : String) : Int :=
  ((books.captures paymentIntentId).map (·.amountMinor)).sum

/-- The entries that settle a refund. -/
def settlements (books : Books) (refundId : String) : List LedgerCall :=
  books.ledger.filter fun call => call.reference = refundId && call.settlesRefund

end Books

theorem PaymentOrchestrator.Entry.isCapture {amountMinor : Int}
    (entry : Entry call referenceId referenceType entryType debited credited amountMinor) :
    call.isCapture = decide (entryType = "payment_captured") ∧ call.amountMinor = amountMinor := by
  obtain ⟨description, key, rfl⟩ := entry.posted
  exact ⟨rfl, rfl⟩

theorem PaymentOrchestrator.FeePosted.captures {feeMinor : Int}
    (fee : FeePosted accounts paymentIntentId feeMinor fees) : fees.filter isCapture = [] := by
  cases fee with
  | none => rfl
  | collected _ _ _ entry => simp [entry.isCapture.1]

theorem Refunds.captures (refunds : Refunds service books) (paymentIntentId : String) :
    books.captures paymentIntentId = (books.posted paymentIntentId).filter LedgerCall.isCapture := by
  rw [Books.captures, Books.posted, filter_filter]
  refine filter_congr fun call member => ?_
  have kind := refunds.kinds call member
  cases call with
  | postJournalEntry spec =>
    by_cases captures : spec.entryType = "payment_captured"
    · simp [settlesRefund, captures] at kind
      simp [isCapture, captures, ← kind]
    · simp [isCapture, captures]
  | openHold => simp [isCapture]
  | releaseHold => simp [isCapture, forRefund, Bool.and_comm]

/-- Nothing is captured before an intent is settled, and then once. -/
theorem Shape.captures (shape : Shape service books intent) :
    (intent.status ∉ settledStatuses ∧ (books.posted intent.paymentIntentId).filter isCapture = []) ∨
    (intent.status ∈ settledStatuses ∧ ∃ call, (books.posted intent.paymentIntentId).filter isCapture = [call] ∧
      call.amountMinor = intent.amountMinor) := by
  have apart : ∀ status ∈ heldStatuses, status ∉ settledStatuses := by decide
  cases shape with
  | untouched posted _ unsettled => exact .inl ⟨unsettled, by rw [posted]; rfl⟩
  | held _ _ _ _ _ posted _ status =>
    exact .inl ⟨apart _ status, by rw [posted]; rfl⟩
  | voided _ _ _ _ posted _ status =>
    refine .inl ⟨?_, by rw [posted]; rfl⟩
    rcases status with is | is <;> rw [is] <;> decide
  | charged _ capture _ _ _ posted entry fee _ settled =>
    obtain ⟨captures, amount⟩ := entry.isCapture
    refine .inr ⟨settled, capture, ?_, amount⟩
    rw [posted, filter_cons_of_pos (by rw [captures]; rfl), fee.captures]
  | captured _ _ _ _ _ _ posted fee _ settled =>
    refine .inr ⟨settled, .releaseHold intent.paymentIntentId "CAPTURED" (some intent.amountMinor), ?_, rfl⟩
    rw [posted, filter_cons_of_neg (by simp [isCapture]), filter_cons_of_pos (by rfl), fee.captures]

theorem Refunds.settlements (refunds : Refunds service books) (refundId : String) :
    books.settlements refundId = books.postedRefund refundId := by
  refine filter_congr fun call member => ?_
  rw [refunds.kinds call member]

/-- How the refunds of an intent stand to what was captured for it. -/
structure RefundsCovered (books : Books) (intent : PaymentIntentRecord) : Prop where
  within : books.refunded intent.paymentIntentId ≤ books.capturedMinor intent.paymentIntentId
  single : books.OneWaiting intent.paymentIntentId
  settled : ∀ refund, books.HasRefund refund → refund.paymentIntentId = intent.paymentIntentId →
    (books.settlements refund.refundId).length = if refund.status = .refundSucceeded then 1 else 0
  full : intent.status = .refunded ↔ books.captures intent.paymentIntentId ≠ [] ∧
    books.refunded intent.paymentIntentId = books.capturedMinor intent.paymentIntentId
  partly : intent.status = .partiallyRefunded → 0 < books.refunded intent.paymentIntentId ∧
    books.refunded intent.paymentIntentId < books.capturedMinor intent.paymentIntentId

theorem Refunds.covered (refunds : Refunds service books) (told : Told service books)
    (stored : books.HasIntent intent) : RefundsCovered books intent := by
  have repaid := refunds.repaid intent stored
  have standing := repaid.standing
  have positive := intent.positive
  have entries : ∀ refund, books.HasRefund refund → refund.paymentIntentId = intent.paymentIntentId →
      (books.settlements refund.refundId).length = if refund.status = .refundSucceeded then 1 else 0 := by
    intro refund held owner
    have settles := repaid.entries refund held owner
    rw [refunds.settlements]
    unfold Settles at settles
    split_ifs at settles ⊢ with paid
    · obtain ⟨_, entry, -, posted, -⟩ := settles
      rw [posted]
      rfl
    · rw [settles]
      rfl
  rcases (told.story intent stored).shape.captures with ⟨open_, none⟩ | ⟨settled, call, one, amount⟩
  · have captured : books.capturedMinor intent.paymentIntentId = 0 := by
      rw [capturedMinor, refunds.captures, none]
      rfl
    have nothing := (Standing.of_unsettled open_).mp standing
    refine ⟨by omega, repaid.single, entries, ⟨fun is => absurd (is ▸ (by decide)) open_, fun some => ?_⟩,
      fun is => absurd (is ▸ (by decide)) open_⟩
    exact absurd (refunds.captures _ ▸ none) some.1
  · have captured : books.capturedMinor intent.paymentIntentId = intent.amountMinor := by
      rw [capturedMinor, refunds.captures, one]
      simp [amount]
    have taken : books.captures intent.paymentIntentId ≠ [] := by
      rw [refunds.captures, one]
      exact cons_ne_nil _ _
    rw [← captured] at standing positive
    constructor
    · revert standing
      cases intent.status <;> simp only [Standing] <;> omega
    · exact repaid.single
    · exact entries
    · refine ⟨fun is => ⟨taken, ?_⟩, fun both => ?_⟩
      · rw [is] at standing
        exact standing
      · have total := both.2
        revert standing
        cases intent.status <;> simp only [Standing] <;> intro standing <;> first | trivial | omega
    · intro is
      rw [is] at standing
      exact standing

/-! What the calls post -/

/-- A hold that is open. -/
structure Reserved where
  amountMinor : Int
  (accountId sourceId reserveId : String)

def Reserved.closing (hold : Reserved) (outcome : String) (capture : Int) : List Ledger.PostingSpec :=
  if outcome = "CAPTURED" then
    [⟨hold.reserveId, "DEBIT", hold.amountMinor, "BDT"⟩, ⟨hold.accountId, "CREDIT", capture, "BDT"⟩] ++
      if 0 < hold.amountMinor - capture then [⟨hold.sourceId, "CREDIT", hold.amountMinor - capture, "BDT"⟩] else []
  else [⟨hold.reserveId, "DEBIT", hold.amountMinor, "BDT"⟩, ⟨hold.sourceId, "CREDIT", hold.amountMinor, "BDT"⟩]

/-- The postings of calls, with the hold that is open before them. -/
def postings : Option Reserved → List LedgerCall → List Ledger.PostingSpec
  | _, [] => []
  | hold, .postJournalEntry spec :: rest => spec.postings ++ postings hold rest
  | _, .openHold accountId amountMinor _ _ sourceId reserveId _ :: rest =>
    [⟨sourceId, "DEBIT", amountMinor, "BDT"⟩, ⟨reserveId, "CREDIT", amountMinor, "BDT"⟩] ++
      postings (some ⟨amountMinor, accountId, sourceId, reserveId⟩) rest
  | hold, .releaseHold _ outcome capture :: rest =>
    (hold.map fun hold => hold.closing outcome (capture.getD hold.amountMinor)).getD [] ++ postings none rest

/-- Credits less debits on one account. -/
def net (accountId : String) (postings : List Ledger.PostingSpec) : Int :=
  (postings.map fun posting => if posting.accountId = accountId then
    if posting.side = "CREDIT" then posting.amountMinor else -posting.amountMinor else 0).sum

/-- The net of an intent on an account, its refunds included. -/
def Books.netOn (books : Books) (accountId paymentIntentId : String) : Int :=
  net accountId (postings none (books.posted paymentIntentId)) + ((books.store.listRefunds paymentIntentId).map fun refund =>
    net accountId (postings none (books.postedRefund refund.refundId))).sum

def LedgerCall.isFee : LedgerCall → Bool
  | .postJournalEntry spec => spec.entryType = "fee_collected"
  | _ => false

def Books.feeMinor (books : Books) (paymentIntentId : String) : Int :=
  (((books.posted paymentIntentId).filter isFee).map (·.amountMinor)).sum

theorem PaymentOrchestrator.Entry.nets {referenceId referenceType entryType debited credited accountId : String}
    {amountMinor : Int} (entry : Entry call referenceId referenceType entryType debited credited amountMinor)
    (hold : Option Reserved) (rest : List LedgerCall) :
    net accountId (postings hold (call :: rest)) = (if credited = accountId then amountMinor else 0) -
      (if debited = accountId then amountMinor else 0) + net accountId (postings hold rest) ∧
    call.isFee = decide (entryType = "fee_collected") := by
  obtain ⟨description, key, rfl⟩ := entry.posted
  refine ⟨?_, rfl⟩
  simp only [postings, net, map_append, map_cons, map_nil, sum_append, sum_cons, sum_nil]
  split_ifs <;> simp_all

/-- Where the settlement account of a merchant is not one of the others. -/
def PaymentOrchestrator.KernelAccounts.Apart (accounts : KernelAccounts) : Prop :=
  accounts.merchantSettlement ∉ [accounts.inTransit, accounts.mdrIncome, accounts.merchantHoldReserve]

section Net

variable {accounts : KernelAccounts} (apart : accounts.Apart)
include apart

theorem PaymentOrchestrator.KernelAccounts.Apart.ne : accounts.inTransit ≠ accounts.merchantSettlement ∧
    accounts.mdrIncome ≠ accounts.merchantSettlement ∧ accounts.merchantHoldReserve ≠ accounts.merchantSettlement := by
  simp only [KernelAccounts.Apart, mem_cons, not_mem_nil, or_false, not_or] at apart
  exact ⟨Ne.symm apart.1, Ne.symm apart.2.1, Ne.symm apart.2.2⟩

theorem PaymentOrchestrator.FeePosted.nets {feeMinor : Int}
    (fee : FeePosted accounts paymentIntentId feeMinor fees) (hold : Option Reserved) :
    net accounts.merchantSettlement (postings hold fees) = -feeMinor ∧
      ((fees.filter isFee).map (·.amountMinor)).sum = feeMinor := by
  cases fee with
  | none => exact ⟨rfl, rfl⟩
  | collected _ _ _ entry =>
    obtain ⟨posted, isFee⟩ := entry.nets hold []
    refine ⟨?_, by simp [isFee, entry.isCapture.2]⟩
    rw [posted, if_neg apart.ne.2.1, if_pos rfl]
    simp [postings, net]

/-- What was posted for an intent brings the merchant what was captured, less the fee. -/
theorem Shape.nets (shape : Shape service books intent)
    (resolved : service.AccountsOf intent accounts) :
    net accounts.merchantSettlement (postings none (books.posted intent.paymentIntentId)) =
      if intent.status ∈ settledStatuses then intent.amountMinor - books.feeMinor intent.paymentIntentId else 0 := by
  have unsettled : ∀ status ∈ heldStatuses, status ∉ settledStatuses := by decide
  obtain ⟨transit, -, reserve⟩ := apart.ne
  have same : ∀ {other}, service.AccountsOf intent other → other = accounts :=
    fun found => Except.ok.inj (found.symm.trans resolved)
  cases shape with
  | untouched posted _ open_ =>
    rw [if_neg open_, posted]
    rfl
  | held _ _ _ _ found posted _ status =>
    rw [if_neg (unsettled _ status), posted, same found]
    simp [postings, net, transit, reserve]
  | voided _ _ _ found posted _ status =>
    rw [if_neg (by rcases status with is | is <;> rw [is] <;> decide), posted, same found]
    simp [postings, net, Reserved.closing, transit, reserve]
  | charged _ _ feeMinor fees found posted entry fee _ settled =>
    obtain rfl := same found
    obtain ⟨credited, isFee⟩ := entry.nets none fees
    obtain ⟨debited, total⟩ := fee.nets apart none
    rw [if_pos settled, Books.feeMinor, posted, credited, debited, if_pos rfl, if_neg transit,
      filter_cons_of_neg (by rw [isFee]; decide), total]
    omega
  | captured _ _ _ feeMinor _ found posted fee _ settled =>
    obtain rfl := same found
    obtain ⟨debited, total⟩ := fee.nets apart none
    rw [if_pos settled, Books.feeMinor, posted]
    simp only [postings, net, Reserved.closing, Option.map_some, Option.getD_some, if_true, map_append,
      map_cons, map_nil, sum_append, sum_cons, sum_nil, if_neg transit, if_neg reserve] at debited ⊢
    rw [debited, filter_cons_of_neg (by simp [isFee]), filter_cons_of_neg (by simp [isFee]),
      total]
    split_ifs <;> simp [transit] <;> omega

theorem Repaid.nets (repaid : Repaid service books intent) (ordered : books.Ordered)
    (resolved : service.AccountsOf intent accounts) :
    ((books.store.listRefunds intent.paymentIntentId).map fun refund =>
      net accounts.merchantSettlement (postings none (books.postedRefund refund.refundId))).sum =
      -books.refunded intent.paymentIntentId := by
  have each : ∀ refund ∈ books.store.listRefunds intent.paymentIntentId,
      net accounts.merchantSettlement (postings none (books.postedRefund refund.refundId)) =
        -(if refund.status = .refundSucceeded then refund.amountMinor else 0) := by
    intro refund listed
    rw [PaymentStore.listRefunds, (perm_insertionSort _ _).mem_iff, mem_filter, decide_eq_true_eq] at listed
    obtain ⟨key, found⟩ := Dict.get?_of_mem_values listed.1
    have settles := repaid.entries refund (ordered.hasRefund found) listed.2
    unfold Settles at settles
    split_ifs at settles ⊢ with paid
    · obtain ⟨other, entry, here, posted, about⟩ := settles
      obtain rfl : other = accounts := Except.ok.inj (here.symm.trans resolved)
      rw [posted, (about.nets none []).1, if_neg apart.ne.1, if_pos rfl]
      simp [postings, net]
    · rw [settles]
      rfl
  have paid : (((books.store.listRefunds intent.paymentIntentId).filter (·.status = .refundSucceeded)).map
      (·.amountMinor)) = ((books.store.listRefunds intent.paymentIntentId).filter (·.status = .refundSucceeded)).map
        fun refund => if refund.status = .refundSucceeded then refund.amountMinor else 0 := by
    refine map_congr_left fun refund member => (if_pos ?_).symm
    simpa using (mem_filter.mp member).2
  rw [map_congr_left each, refunded, paid,
    ← Dict.sum_map_filter_of_zero fun refund _ dropped => if_neg (by simpa using dropped)]
  rw [sum_neg, map_map]
  rfl

end Net

/-! Attempts that were charged -/

/-- An attempt that was charged stays so, or is reversed. -/
def Books.Charged (books : Books) (attemptId paymentIntentId : String) : Prop :=
  ∃ attempt, books.HasAttempt attempt ∧ attempt.attemptId = attemptId ∧ attempt.paymentIntentId = paymentIntentId ∧
    (attempt.status = .charged ∨ attempt.status = .reversed)

theorem Deed.charged_stays {licence : Licence} {next : Books} (deed : Deed service licence books next)
    {attemptId : String} (charged : books.Charged attemptId paymentIntentId) : next.Charged attemptId paymentIntentId := by
  obtain ⟨attempt, tried, rfl, rfl, status⟩ := charged
  obtain ⟨moved, held, moves⟩ := deed.attemptMoves tried
  have turns : ∀ turn ∈ attemptTurns, turn.1 = .charged ∨ turn.1 = .reversed → turn.2 = .reversed := by decide
  refine ⟨moved, held, moves.id, moves.owner, ?_⟩
  rcases moves.turn with same | turn
  · rw [same]
    exact status
  · exact .inr (turns _ turn status)

end BdPay.Kernel
