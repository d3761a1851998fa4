import BdPay.Kernel.AtomicRuns

namespace BdPay.Kernel

open Data PaymentSystem PaymentOrchestrator Books

/-! How the status of an intent turns, and which turns a step has to be licensed for. -/

variable {licence : Licence} {books : Books}

/-- Where the row of an intent comes from: it was there, it is new, or it turned. -/
inductive Origin (licence : Licence) (books : Books) (after : PaymentIntentRecord) : Prop
  | same (stored : books.HasIntent after)
  | created (fresh : books.store.intents.get? after.paymentIntentId = none) (status : after.status = .created)
      (unused : ∀ other, books.HasIntent other → other.merchantId = after.merchantId →
        other.idempotencyKey ≠ after.idempotencyKey)
  | turned (before : PaymentIntentRecord) (stored : books.HasIntent before)
      (terms : after.terms = { before.terms with amountMinor := after.amountMinor }) (turn : Turn licence books before after)

theorem Deed.origin (deed : Deed service licence books next) (held : next.HasIntent row) :
    Origin licence books row := by
  cases deed.intents with
  | kept same => exact .same ((hasIntent_of_eq same).mp held)
  | created _ put fresh status unused =>
    rcases (hasIntent_of_put put).mp held with rfl | ⟨was, -⟩
    · exact .created fresh status unused
    · exact .same was
  | turned old _ put stored terms _ turn =>
    rcases (hasIntent_of_put put).mp held with rfl | ⟨was, -⟩
    · exact .turned old stored terms turn
    · exact .same was

/-! Intents that are reversed were sent. -/

/-- Statuses in which an attempt may have to be undone. -/
def reversibleStatuses : List IntentStatus := [.requiresCapture, .reversalInitiated, .reversalPending]

def Books.Reversible (books : Books) : Prop :=
  ∀ intent, books.HasIntent intent → intent.status ∈ reversibleStatuses → books.Sent intent.paymentIntentId

theorem Turn.sent {before after : PaymentIntentRecord} (turn : Turn licence books before after)
    (swept : ¬ licence.orphan) (reversible : before.status ∈ reversibleStatuses → books.Sent before.paymentIntentId)
    (status : after.status ∈ reversibleStatuses) : books.Sent before.paymentIntentId := by
  have quietly : ∀ move ∈ quietMoves, move.2 ∈ reversibleStatuses →
      move.1 ∈ reversibleStatuses ∨ (move.1 = .processing ∧ move.2 = .reversalInitiated) := by decide
  have apart : ∀ settled ∈ settledStatuses, settled ∉ reversibleStatuses := by decide
  cases turn with
  | kept same => exact reversible (same ▸ status)
  | quiet moves sent =>
    rcases quietly _ moves status with was | ⟨processing, reversing⟩
    · exact reversible was
    · exact (sent processing reversing).resolve_left swept
  | tried _ sent => exact sent
  | charged _ is | captured _ is | voided _ is | reversed _ is | unreversed _ is =>
    rw [is] at status
    exact absurd status (by decide)
  | refund _ is => exact absurd status (apart _ is)

theorem Deed.reversible (deed : Deed service licence books next) (swept : ¬ licence.orphan)
    (reversible : books.Reversible) : next.Reversible := by
  intro intent held status
  have stays : ∀ {id}, books.Sent id → next.Sent id := fun sent => Sent.deeds sent (.single deed)
  cases deed.origin held with
  | same stored => exact stays (reversible intent stored status)
  | created _ is =>
    rw [is] at status
    exact absurd status (by decide)
  | turned before stored terms turn =>
    rw [show intent.paymentIntentId = _ from congrArg IntentTerms.paymentIntentId terms]
    exact stays (turn.sent swept (reversible before stored) status)

/-! Intents that are captured by hand. -/

theorem Turn.settles {before after : PaymentIntentRecord} (turn : Turn licence books before after)
    (early : ¬ licence.late) (manual : before.captureMethod = .manual) (settled : after.status ∈ settledStatuses) :
    before.status ∈ settledStatuses ∨ licence.capture before.paymentIntentId := by
  have quietly : ∀ move ∈ quietMoves, move.2 ∉ settledStatuses := by decide
  cases turn with
  | kept same => exact .inl (same ▸ settled)
  | quiet moves => exact absurd settled (quietly _ moves)
  | tried _ _ is =>
    rcases is with is | is | is <;> rw [is] at settled <;> exact absurd settled (by decide)
  | charged _ _ direct =>
    rcases direct with automatic | late
    · rw [manual] at automatic
      cases automatic
    · exact absurd late early
  | captured _ _ asked => exact .inr asked
  | voided _ is | reversed _ is | unreversed _ is =>
    rw [is] at settled
    exact absurd settled (by decide)
  | refund was => exact .inl was

/-- An intent that is captured by hand, and whose money is the merchant's. -/
def Books.TakenByHand (books : Books) (paymentIntentId : String) : Prop :=
  ∃ intent, books.HasIntent intent ∧ intent.paymentIntentId = paymentIntentId ∧ intent.captureMethod = .manual ∧
    intent.status ∈ settledStatuses

theorem Deed.takenByHand (deed : Deed service licence books next) (early : ¬ licence.late)
    (taken : next.TakenByHand paymentIntentId) :
    books.TakenByHand paymentIntentId ∨ licence.capture paymentIntentId := by
  obtain ⟨intent, held, rfl, manual, settled⟩ := taken
  cases deed.origin held with
  | same stored => exact .inl ⟨intent, stored, rfl, manual, settled⟩
  | created _ is =>
    rw [is] at settled
    exact absurd settled (by decide)
  | turned before stored terms turn =>
    rw [show intent.paymentIntentId = _ from congrArg IntentTerms.paymentIntentId terms]
    have manualBefore := (congrArg IntentTerms.captureMethod terms).symm.trans manual
    exact (turn.settles early manualBefore settled).imp_left fun was => ⟨before, stored, rfl, manualBefore, was⟩

end BdPay.Kernel
