import BdPay.Kernel.DoubleCharge
import BdPay.Kernel.Turns

namespace BdPay.Kernel

open Data Effect Connectors PaymentSystem PaymentOrchestrator IntentTerms

/-! Requests for an intent that come again with their idempotency key. -/

variable {service : PaymentOrchestrator} {licence : Licence} {books next : Books} {record : PaymentIntentRecord}
  {key : String}

/-- An intent is stored under the key it was created with, and no other intent is. -/
structure Books.Bound (books : Books) (record : PaymentIntentRecord) : Prop where
  there : ∃ stored, books.HasIntent stored ∧ stored.paymentIntentId = record.paymentIntentId
  terms : ∀ stored, books.HasIntent stored → stored.paymentIntentId = record.paymentIntentId →
    stored.terms = { record.terms with amountMinor := stored.amountMinor }
  only : ∀ stored, books.HasIntent stored → stored.merchantId = record.merchantId →
    stored.idempotencyKey = record.idempotencyKey → stored.paymentIntentId = record.paymentIntentId

theorem Deed.bound (deed : Deed service licence books next) (bound : books.Bound record) : next.Bound record := by
  obtain ⟨existing, stored, same⟩ := bound.there
  have existingTerms := bound.terms existing stored same
  refine ⟨?_, fun row held id => ?_, fun row held merchant key => ?_⟩
  · obtain ⟨moved, held, moves⟩ := deed.intentMoves stored
    exact ⟨moved, held, moves.id.trans same⟩
  · cases deed.origin held with
    | same was => exact bound.terms row was id
    | created fresh =>
      rw [id, ← same, show books.store.intents.get? _ = _ from stored] at fresh
      cases fresh
    | turned before was terms =>
      rw [terms, bound.terms before was ((congrArg paymentIntentId terms).symm.trans id)]
  · cases deed.origin held with
    | same was => exact bound.only row was merchant key
    | created _ _ unused =>
      exact absurd ((congrArg idempotencyKey existingTerms).trans key.symm)
        (unused existing stored ((congrArg merchantId existingTerms).trans merchant.symm))
    | turned before was terms =>
      exact (congrArg paymentIntentId terms).trans (bound.only before was
        ((congrArg merchantId terms).symm.trans merchant)
        ((congrArg idempotencyKey terms).symm.trans key))

theorem bound_putIntent (unused : books.store.findIntentByIdempotencyKey record.merchantId key = none)
    (keyed : record.idempotencyKey = some key) : (books.putIntent record).Bound record := by
  refine ⟨⟨record, hasIntent_putIntent.mpr (.inl rfl), rfl⟩, fun stored held id => ?_,
    fun stored held merchant same => ?_⟩
  · rcases hasIntent_putIntent.mp held with rfl | ⟨-, other⟩
    · rfl
    · exact absurd id other
  · rcases hasIntent_putIntent.mp held with rfl | ⟨was, -⟩
    · rfl
    · have listed := List.find?_eq_none.mp unused stored (Dict.mem_values_of_get? was)
      exact absurd (by simp [merchant, same, keyed]) listed

/-- Looking the key up finds the intent. -/
theorem Books.Bound.found (bound : books.Bound record) (ordered : books.Ordered)
    (keyed : record.idempotencyKey = some key) : ∃ stored,
      books.store.findIntentByIdempotencyKey record.merchantId key = some stored ∧
        books.store.intents.get? record.paymentIntentId = some stored ∧
        stored.terms = { record.terms with amountMinor := stored.amountMinor } := by
  obtain ⟨existing, stored, same⟩ := bound.there
  have terms := bound.terms existing stored same
  have merchant : existing.merchantId = record.merchantId := congrArg merchantId terms
  have existingKey : existing.idempotencyKey = record.idempotencyKey := congrArg idempotencyKey terms
  refine ⟨existing, ?_, same ▸ stored, terms⟩
  cases found : books.store.findIntentByIdempotencyKey record.merchantId key with
  | none =>
    have listed := List.find?_eq_none.mp found existing (Dict.mem_values_of_get? stored)
    exact absurd (by simp [merchant, existingKey, keyed]) listed
  | some other =>
    obtain ⟨_, inside⟩ := Dict.get?_of_mem_values (List.mem_of_find?_eq_some found)
    have matching := List.find?_some found
    simp only [decide_eq_true_eq] at matching
    have held := ordered.hasIntent inside
    rw [held.unique stored ((bound.only other held matching.1 (matching.2.trans keyed.symm)).trans same.symm)]

/-- A request that asks for another charge. -/
def Differs (original repeated : PaymentIntentRequest) : Prop :=
  repeated.amountMinor ≠ original.amountMinor ∨ repeated.currency ≠ original.currency ∨
    repeated.method ≠ original.method ∨ repeated.customerId ≠ original.customerId ∨
    repeated.captureMethod ≠ original.captureMethod

/-- The stored intent for the request itself, a refusal for any that asks for another charge. -/
structure AnswersRepeat (service : PaymentOrchestrator) (moment : Moment) (original repeated : PaymentIntentRequest)
    (system : PaymentSystem) : Prop where
  returned : repeated = original → ∃ stored,
    system.store.findIntentByIdempotencyKey original.merchantId original.idempotencyKey = some stored ∧
      service.createIntent moment repeated system = .ok stored system
  refused : Differs original repeated → ∃ error, service.createIntent moment repeated system = .error error system

theorem createIntent_of_found {moment : Moment} {request : PaymentIntentRequest} {system : PaymentSystem}
    {stored : PaymentIntentRecord} (keyed : request.idempotencyKey ≠ "")
    (found : system.store.findIntentByIdempotencyKey request.merchantId request.idempotencyKey = some stored) :
    service.createIntent moment request system =
      if stored.amountMinor = request.amountMinor ∧ stored.method = request.method ∧ stored.customerId = request.customerId
      then .ok stored system
      else .error (.idempotencyConflict "Idempotency-Key replayed with mismatched parameters") system := by
  have looked : (get : KernelM PaymentSystem) system = .ok system system := rfl
  rw [createIntent, bind_of_ok (raiseIf_passes keyed), bind_of_ok looked, found]
  dsimp only
  split_ifs with matching
  · refine bind_of_ok (raiseIf_passes ?_)
    simp [matching]
  · have mismatched : stored.amountMinor ≠ request.amountMinor ∨ stored.method ≠ request.method ∨
        stored.customerId ≠ request.customerId := by tauto
    simp only [raiseIf, if_pos mismatched]
    rfl

/-- The intent still has the amount and the method it was created with, and its amount, method and customer tell a request
for another charge from it. -/
structure Recognizes (stored : PaymentIntentRecord) (original repeated : PaymentIntentRequest) : Prop where
  same : repeated = original → stored.amountMinor = original.amountMinor ∧ stored.method = original.method
  other : Differs original repeated → stored.amountMinor ≠ repeated.amountMinor ∨ stored.method ≠ repeated.method ∨
    original.customerId ≠ repeated.customerId

def answered (request : PaymentIntentRequest) (system : PaymentSystem) : Bool :=
  match sampleService.createIntent sampleMoment request system with
  | .ok _ _ => true
  | .error _ _ => false

def supply : Step := ⟨sampleMoment, .supplyMethod sampleIntentId .bkash⟩

def createOther : Step := ⟨sampleMoment, .createIntent { sampleRequest with idempotencyKey := "order-2" }⟩

def manualRequest : PaymentIntentRequest := { sampleRequest with captureMethod := .manual }

set_option maxRecDepth 20000 in
theorem answered_sample : answered sampleRequest (sampleService.atomicRun sampleStart [createOther]) = true ∧
    (sampleService.atomicRun sampleStart [createOther]).store.findIntentByIdempotencyKey sampleRequest.merchantId
      sampleRequest.idempotencyKey = none ∧
    answered sampleRequest (sampleService.atomicRun sampleStart [create, supply]) = false ∧
    answered manualRequest (sampleService.atomicRun sampleStart [create]) = true := by
  decide +kernel

end BdPay.Kernel
