import BdPay.Connectors.Calls
import BdPay.Kernel.Settling

namespace BdPay.Kernel

open Data Effect PaymentSystem PaymentOrchestrator Books Goes

/-! The other operations: moves before the dispatch, the sweep, refunds and callbacks. -/

variable {service : PaymentOrchestrator} {licence : Licence} {moment : Moment} {before : PaymentSystem}
  {intent : PaymentIntentRecord} {attempt : PaymentAttemptRecord} {books : Books}

/-! Moves that post nothing -/

/-- The intent has a row with its terms and its method. -/
def Listed (books : Books) (intent : PaymentIntentRecord) : Prop :=
  ∃ current, books.HasIntent current ∧ current.paymentIntentId = intent.paymentIntentId ∧ intent.terms = current.terms ∧
    intent.method = current.method

theorem Books.HasIntent.listed (stored : books.HasIntent intent) : Listed books intent :=
  ⟨intent, stored, rfl, rfl, rfl⟩

variable (service licence) {trigger : IntentTrigger} in
theorem yields_move (changed : PaymentIntentRecord) {guard : Option Guard}
    (row : Listed before.books intent) (terms : changed.terms = intent.terms) (status : changed.status = intent.status)
    (method : intent.status ∉ undispatched → changed.method = intent.method)
    (quiet : ∀ rule ∈ intentRules, rule.trigger = trigger → (rule.fromState, rule.toState) ∈ quietMoves)
    (sent : (∀ rule ∈ intentRules, rule.trigger = trigger → rule.fromState ≠ .processing) ∨
      (intent.status = .processing → licence.orphan ∨ before.books.Sent intent.paymentIntentId))
    (moved : ∀ target new after, PaymentOrchestrator.resolved intentTable intent.status trigger guard = .ok target →
      new.terms = intent.terms → new.method = changed.method → new.status = target →
      after.books = before.books.putIntent new → Deed service licence before.books after.books →
      after.calls = before.calls → returns new after) :
    Yields (advanceIntent moment changed trigger guard deferAudit) before returns := by
  refine yields_advanceIntent fun target current new after found stored same newTerms newMethod reached books calls => ?_
  rw [status] at found same
  obtain ⟨old, held, id, oldTerms, oldMethod⟩ := row
  have changedId : changed.paymentIntentId = intent.paymentIntentId := congrArg IntentTerms.paymentIntentId terms
  obtain rfl : old = current := by
    rw [HasIntent, PaymentStore.HasIntent, id, ← changedId, stored] at held
    exact (Option.some.inj held).symm
  refine moved target new after found (newTerms.trans terms) newMethod reached books ?_ calls
  rw [books]
  refine .moved old new held ⟨newTerms.trans (terms.trans oldTerms), fun late => ?_⟩ (.inr ?_) fun processing _ => ?_
  · rw [same] at late
    exact newMethod.trans ((method late).trans oldMethod)
  · rw [same, reached]
    exact resolved_rule found (fun old new => (old, new) ∈ quietMoves) quiet
  · rw [same] at processing
    rcases sent with never | sent
    · exact absurd processing (resolved_rule found (fun old _ => old ≠ .processing) never)
    · rw [id]
      exact sent processing

/-- A new intent, with the terms of its request, or the one that was stored for the key. -/
theorem yields_createIntent {request : PaymentIntentRequest} :
    Yields (service.createIntent moment request) before fun intent after => Goes service licence before after ∧
      (before.store.findIntentByIdempotencyKey request.merchantId request.idempotencyKey = none →
        request.idempotencyKey ≠ "" ∧ after.books = before.books.putIntent intent ∧
          intent.terms = ⟨intent.paymentIntentId, request.merchantId, request.amountMinor, request.captureMethod,
            request.customerId, some request.idempotencyKey⟩) := by
  simp only [createIntent, yields_bind, yields_raiseIf, yields_get]
  intro keyed
  split
  · rename_i found
    simp only [yields_bind, yields_raiseIf, yields_pure]
    exact fun _ => ⟨idle rfl rfl, fun unused => by rw [found] at unused; cases unused⟩
  · simp only [yields_bind, yields_attempt]
    intro intentId _ secret _ expiresAt _
    split
    · simp only [yields_bind, yields_raiseIf]
      intro _
      split
      · rename_i positive _ metadataValid
        simp only [yields_bind]
        refine yields_writeStore.mpr fun store inserted => ?_
        unfold PaymentStore.insertIntent at inserted
        split_ifs at inserted with known used
        cases inserted
        refine yields_audit fun first same kept => yields_emit fun after books calls => yields_pure.mpr ?_
        refine ⟨deed ?_ (calls.trans kept), fun _ => ⟨keyed, books.trans same, rfl⟩⟩
        rw [books, same]
        refine .created _ (Dict.contains_eq_false_iff.mp (Bool.eq_false_iff.mpr known)) rfl
          fun other stored merchant key => ?_
        have listed := List.find?_eq_none.mp (Option.not_isSome_iff_eq_none.mp used) other
          (Dict.mem_values_of_get? stored)
        exact listed (by simp [merchant, key])
      · exact yields_throw.mpr trivial
    · exact yields_throw.mpr trivial

variable {paymentIntentId : String}

section

variable (ordered : before.books.Ordered)

include ordered

theorem yields_supplyMethod {method : PaymentMethod} :
    Proceeds service licence (supplyMethod moment paymentIntentId method) before := by
  simp only [supplyMethod, yields_bind, yields_requireIntent]
  intro intent stored
  by_cases early : intent.status ∈ undispatched
  · refine yields_move service licence { intent with method } (ordered.hasIntent stored).listed rfl rfl
      (fun late => absurd early late) (by decide) (.inl (by decide)) fun target new after _ _ _ _ _ deed calls => .deed deed calls
  · refine yields_advanceIntent fun target _ _ _ found => absurd ?_ early
    exact resolved_rule found (fun old _ => old ∈ undispatched) (by decide)

theorem yields_cancel : Proceeds service licence (service.cancel moment paymentIntentId) before := by
  simp only [cancel, yields_bind, yields_requireIntent, yields_ite]
  intro intent stored
  refine ⟨fun _ => yields_voidIntent ordered (ordered.hasIntent stored), fun _ => ?_⟩
  refine yields_move service licence { intent with cancelledAt := some moment.now }
    (ordered.hasIntent stored).listed rfl rfl
    (fun _ => rfl) (by decide) (.inl (by decide)) fun target new middle _ _ _ _ _ deed calls => ?_
  exact yields_emit fun after books kept => (Goes.deed deed calls).trans (Goes.idle books kept)

theorem yields_confirmDelivery :
    Proceeds service licence (service.confirmDelivery moment paymentIntentId deliveredAt) before := by
  simp only [confirmDelivery, yields_bind, yields_requireIntent, yields_raiseIf, yields_ite]
  intro intent stored _ _
  refine ⟨fun _ => yields_pure.mpr (idle rfl rfl), fun _ => ?_⟩
  refine yields_updateIntent fun current first found status written started => ?_
  refine yields_audit fun second same kept => yields_emit fun after books calls => ?_
  refine deed ?_ (calls.trans (kept.trans started))
  rw [books, same, written]
  refine .moved intent _ (ordered.hasIntent stored) ⟨rfl, fun _ => rfl⟩ (.inl rfl) fun processing reversing => ?_
  change intent.status = .reversalInitiated at reversing
  rw [processing] at reversing
  cases reversing

end

/-! Confirmations -/

theorem Books.Ordered.unsent (ordered : books.Ordered) (stored : books.HasIntent intent)
    (early : intent.status ∈ undispatched) (tried : books.HasAttempt other) :
    other.paymentIntentId ≠ intent.paymentIntentId := by
  intro owner
  obtain ⟨row, held, same, late⟩ := ordered.owned tried
  rw [held.unique stored (same.trans owner)] at late
  exact late early

theorem Dispatchable.first {new : PaymentIntentRecord} (processing : new.status = .processing)
    (unsent : ∀ other, books.HasAttempt other → other.paymentIntentId ≠ new.paymentIntentId) :
    Dispatchable (books.putIntent new) new 1 where
  row := ⟨new, hasIntent_putIntent.mpr (.inl rfl), rfl, processing, rfl, rfl⟩
  processing := processing
  spent := fun other tried owner => absurd owner (unsent other tried)

theorem yields_startProcessing (ordered : before.books.Ordered) (stored : before.books.HasIntent intent)
    {trigger : IntentTrigger}
    (quiet : ∀ rule ∈ intentRules, rule.trigger = trigger → (rule.fromState, rule.toState) ∈ quietMoves)
    (starts : ∀ rule ∈ intentRules, rule.trigger = trigger → rule.fromState ∈ undispatched ∧ rule.toState = .processing) :
    Yields (service.startProcessing moment intent trigger) before fun started after =>
      Goes service licence before after ∧ Dispatchable after.books started 1 := by
  simp only [startProcessing, yields_bind]
  have never : ∀ rule ∈ intentRules, rule.trigger = trigger → rule.fromState ≠ .processing := by
    intro rule listed asked processing
    have early := (starts rule listed asked).1
    rw [processing] at early
    revert early
    decide
  refine yields_move service licence intent stored.listed rfl rfl (fun _ => rfl) quiet (.inl never)
    fun target new middle found terms _ reached books deed calls => ?_
  refine yields_emit fun after same kept => yields_pure.mpr ⟨(Goes.deed deed calls).trans (Goes.idle same kept), ?_⟩
  obtain ⟨early, rfl⟩ := resolved_rule found (fun old new => old ∈ undispatched ∧ new = .processing) starts
  rw [same, books]
  refine Dispatchable.first reached fun other tried owner => ordered.unsent stored early tried ?_
  exact owner.trans (congrArg IntentTerms.paymentIntentId terms)

theorem yields_failPreflight (stored : before.books.HasIntent intent)
    (quiet : ∀ rule ∈ intentRules, rule.trigger = trigger → (rule.fromState, rule.toState) ∈ quietMoves)
    (never : ∀ rule ∈ intentRules, rule.trigger = trigger → rule.fromState ≠ .processing) :
    Proceeds service licence (service.failPreflight moment intent trigger) before := by
  simp only [failPreflight, yields_bind]
  refine yields_move service licence intent stored.listed rfl rfl (fun _ => rfl) quiet (.inl never)
    fun target new middle _ _ _ _ _ deed calls => ?_
  exact yields_emitFailed fun after same kept => (Goes.deed deed calls).trans (Goes.idle same kept)

variable (licence) in
/-- The advance to PRE_FLIGHT, with what may follow it. -/
theorem yields_confirming {α : Type} {rest : PaymentIntentRecord → PaymentIntentRecord → KernelM α}
    (ordered : before.books.Ordered) {returns : α → PaymentSystem → Prop}
    (follows : ∀ intent advanced middle, Goes service licence before middle → middle.books.HasIntent advanced →
      Yields (rest intent advanced) middle returns) :
    Yields (service.confirming moment paymentIntentId rest) before returns := by
  simp only [confirming, yields_bind, yields_requireIntent, yields_raiseIf]
  intro intent stored _
  refine yields_requirePspLicense ?_
  refine yields_move service licence intent (ordered.hasIntent stored).listed rfl rfl (fun _ => rfl) (by decide)
    (.inl (by decide)) fun target new middle _ _ _ _ books deed calls => ?_
  refine follows intent new middle (.deed deed calls) ?_
  rw [books]
  exact hasIntent_putIntent.mpr (.inl rfl)

section

variable (ordered : before.books.Ordered)
include ordered

theorem yields_preflighted {preflight : Preflight} :
    Yields (service.preflighted moment paymentIntentId preflight) before fun passed after =>
      Goes service licence before after ∧ ∀ started, passed = some started → Dispatchable after.books started 1 := by
  unfold preflighted
  refine yields_confirming licence ordered fun intent advanced first there stored => ?_
  have later := deeds_ordered ordered there.deeds
  cases preflight with
  | raised => exact yields_throw.mpr trivial
  | passed =>
    refine yields_bind.mpr (yields_audit fun second same kept => yields_map.mpr ?_)
    rw [← same] at later stored
    have started := @yields_startProcessing service licence moment second advanced later stored .preflightPassed
      (by decide) (by decide)
    refine started.mono fun intent after starts => ⟨there.trans ((idle same kept).trans starts.1), fun _ given => ?_⟩
    obtain rfl := Option.some.inj given
    exact starts.2
  | actionRequired =>
    refine yields_bind.mpr (yields_audit fun second same kept => yields_bind.mpr ?_)
    rw [← same] at stored
    refine yields_move service licence advanced stored.listed rfl rfl (fun _ => rfl) (by decide) (.inl (by decide))
      fun target new after _ _ _ _ _ deed calls => yields_pure.mpr ⟨?_, fun _ absent => by cases absent⟩
    exact there.trans ((Goes.idle same kept).trans (Goes.deed deed calls))
  | limitExceeded message code | sanctionsHit message code | amlBlock message code =>
    refine yields_bind.mpr (yields_audit fun second _ _ => yields_bind.mpr ?_)
    exact yields_of_forall fun _ _ _ => yields_throw.mpr trivial

theorem yields_confirmRefused
    (quiet : ∀ rule ∈ intentRules, rule.trigger = trigger → (rule.fromState, rule.toState) ∈ quietMoves)
    (never : ∀ rule ∈ intentRules, rule.trigger = trigger → rule.fromState ≠ .processing) :
    Proceeds service licence (service.confirmRefused moment paymentIntentId trigger) before := by
  unfold confirmRefused
  refine yields_confirming licence ordered fun intent advanced first there stored => ?_
  refine yields_bind.mpr (yields_audit fun second same kept => ?_)
  rw [← same] at stored
  exact (there.trans (idle same kept)).follow (yields_failPreflight stored quiet never)

/-- A dispatch that may have nothing to send. -/
theorem Goes.dispatched
    (there : Goes service licence before middle)
    (ready : ∀ started, passed = some started → Dispatchable middle.books started 1) :
    Yields (match passed with
      | none => pure .done
      | some intent => service.dispatch moment maxAttemptsPerIntent intent 1) middle fun _ => Goes service licence before := by
  cases passed with
  | none => exact yields_pure.mpr there
  | some started =>
    exact there.follow
      (redispatches_dispatch _ middle started 1 (deeds_ordered ordered there.deeds) (ready started rfl))

theorem yields_confirm : Proceeds service licence (service.confirm moment paymentIntentId preflight) before := by
  rw [Proceeds, confirm, yields_bind]
  have first := @yields_preflighted service licence moment before paymentIntentId ordered preflight
  exact first.mono fun passed middle begins => begins.1.dispatched ordered begins.2

theorem yields_actionCompleted {success : Bool} :
    Yields (service.actionCompleted moment paymentIntentId success) before fun passed after =>
      Goes service licence before after ∧ ∀ started, passed = some started → Dispatchable after.books started 1 := by
  simp only [actionCompleted, yields_bind, yields_requireIntent, yields_ite]
  intro intent stored
  constructor
  · intro _
    refine yields_requirePspLicense (yields_map.mpr ?_)
    have started := @yields_startProcessing service licence moment before intent ordered (ordered.hasIntent stored)
      .actionCompleted (by decide) (by decide)
    refine started.mono fun intent after starts => ⟨starts.1, fun _ given => ?_⟩
    obtain rfl := Option.some.inj given
    exact starts.2
  · intro _
    refine yields_move service licence intent (ordered.hasIntent stored).listed rfl rfl (fun _ => rfl) (by decide)
      (.inl (by decide)) fun target new middle _ _ _ _ _ deed calls => ?_
    refine yields_emitFailed fun after same kept => yields_pure.mpr ⟨?_, fun _ absent => by cases absent⟩
    exact (Goes.deed deed calls).trans (Goes.idle same kept)

theorem yields_completeAction :
    Proceeds service licence (service.completeAction moment paymentIntentId success) before := by
  rw [Proceeds, completeAction, yields_bind]
  have first := @yields_actionCompleted service licence moment before paymentIntentId ordered success
  exact first.mono fun passed middle begins => begins.1.dispatched ordered begins.2

end

/-! Reversals that are claimed -/

theorem yields_claimReversalDispatch (ordered : before.books.Ordered) :
    Yields (claimReversalDispatch moment paymentIntentId) before fun attempt after =>
      Goes service licence before after ∧ after.books.openHolds = before.books.openHolds ∧
        before.books.latest paymentIntentId = some attempt := by
  simp only [claimReversalDispatch, yields_bind, yields_requireIntent]
  intro intent stored
  have claims : Yields (advanceIntent moment intent .reversalDispatchClaimed) before fun _ middle =>
      Goes service licence before middle ∧ middle.books.openHolds = before.books.openHolds ∧
        middle.books.latest paymentIntentId = before.books.latest paymentIntentId := by
    refine yields_move service licence intent (ordered.hasIntent stored).listed rfl rfl (fun _ => rfl) (by decide)
      (.inl (by decide)) fun target new middle _ _ _ _ books deed calls => ⟨.deed deed calls, ?_, ?_⟩ <;> rw [books] <;> rfl
  rw [claimIntent]
  split
  case h_3 => exact yields_throw.mpr trivial
  case' h_2 =>
    simp only [yields_bind, yields_attempt, yields_raiseIf]
    intro _ _ _
  all_goals
    refine claims.mono fun _ middle claimed => ?_
    rw [yields_latestAttempt, claimed.2.2]
    cases latest : before.books.latest paymentIntentId with
    | none => exact yields_throw.mpr trivial
    | some => exact yields_pure.mpr ⟨claimed.1, claimed.2.1, rfl⟩

end BdPay.Kernel
