import BdPay.Kernel.CaptureBooks
import BdPay.Kernel.OpenHolds

namespace BdPay.Kernel

open Data Connectors PaymentSystem PaymentOrchestrator List

/-! Refunds and captures along every run. -/

theorem refunds_start (service : PaymentOrchestrator) (runner : ConnectorRunner) :
    Refunds service (start runner).books where
  known := fun _ member => absurd member not_mem_nil
  kinds := fun _ member => absurd member not_mem_nil
  owned := by
    intro refund held
    cases held
  repaid := by
    intro intent stored
    cases stored

theorem atomicRun_told (service : PaymentOrchestrator) (runner : ConnectorRunner) (steps : List Step) :
    Sound (service.atomicRun (start runner) steps) ∧ Told service (service.atomicRun (start runner) steps).books ∧
      Refunds service (service.atomicRun (start runner) steps).books :=
  @atomicRun_keeps service _ (fun books => Told service books ∧ Refunds service books)
    (fun _ ordered deed kept => ⟨deed.told ordered kept.1, deed.refunds ordered kept.2⟩)
    _ (sound_start runner) ⟨told_start service runner, refunds_start service runner⟩ _ (along_any service steps _)

/-- However creations, dispatches, callbacks and retries of refunds follow each other, the refunds of an intent are
covered by what was captured for it. -/
theorem refunds_covered (service : PaymentOrchestrator) (runner : ConnectorRunner) (steps : List Step)
    (intent : PaymentIntentRecord) (stored : (service.atomicRun (start runner) steps).books.HasIntent intent) :
    RefundsCovered (service.atomicRun (start runner) steps).books intent := by
  obtain ⟨-, told, refunds⟩ := atomicRun_told service runner steps
  exact refunds.covered told stored

/-- In a run without late successes, an intent that is captured by hand is settled, and money of it is in the
ledger, only by a capture that was accepted. -/
theorem captureAccepted_of_takenByHand (service : PaymentOrchestrator) (runner : ConnectorRunner) (steps : List Step)
    (early : Along service (fun system step => ¬ step.LateSuccess system) (start runner) steps)
    (intent : PaymentIntentRecord) (stored : (service.atomicRun (start runner) steps).books.HasIntent intent)
    (manual : intent.captureMethod = .manual) (taken : intent.status ∈ settledStatuses ∨
      (service.atomicRun (start runner) steps).books.captures intent.paymentIntentId ≠ []) :
    CaptureAccepted service (start runner) steps intent.paymentIntentId := by
  obtain ⟨-, told, refunds⟩ := atomicRun_told service runner steps
  rcases (told.story intent stored).shape.captures with ⟨open_, none⟩ | ⟨settled, -⟩
  · exact absurd taken (not_or.mpr ⟨open_, not_not.mpr ((refunds.captures _).trans none)⟩)
  · exact captureAccepted_of_settled early stored manual settled

/-- What is captured for an intent, and what the merchant gets of it. -/
structure CapturedOnce (service : PaymentOrchestrator) (books : Books) (intent : PaymentIntentRecord) : Prop where
  once : (books.captures intent.paymentIntentId).length = if intent.status ∈ settledStatuses then 1 else 0
  whole : intent.status ∈ settledStatuses → books.capturedMinor intent.paymentIntentId = intent.amountMinor
  nets : ∀ accounts, service.kernelAccounts intent.merchantId intent.method = .ok accounts → accounts.Apart →
    books.netOn accounts.merchantSettlement intent.paymentIntentId =
      if intent.status ∈ settledStatuses then
        books.capturedMinor intent.paymentIntentId - books.feeMinor intent.paymentIntentId -
          books.refunded intent.paymentIntentId
      else 0

theorem Refunds.capturedOnce {books : Books}
    (refunds : Refunds service books) (told : Told service books) (ordered : books.Ordered)
    (stored : books.HasIntent intent) : CapturedOnce service books intent := by
  have shape := (told.story intent stored).shape
  have repaid := refunds.repaid intent stored
  rcases shape.captures with ⟨open_, none⟩ | ⟨settled, call, one, amount⟩
  · refine ⟨by rw [refunds.captures, none, if_neg open_]; rfl, (absurd · open_), fun accounts resolved apart => ?_⟩
    have nothing := (Standing.of_unsettled open_).mp repaid.standing
    rw [Books.netOn, shape.nets apart resolved, repaid.nets apart ordered resolved, if_neg open_, if_neg open_, nothing]
    rfl
  · have captured : books.capturedMinor intent.paymentIntentId = intent.amountMinor := by
      simp [Books.capturedMinor, refunds.captures, one, amount]
    refine ⟨by rw [refunds.captures, one, if_pos settled]; rfl, fun _ => captured, fun accounts resolved apart => ?_⟩
    rw [Books.netOn, shape.nets apart resolved, repaid.nets apart ordered resolved, if_pos settled, if_pos settled,
      captured]
    omega

/-- However results, polls, callbacks, sweeps, captures, voids and reversals follow each other, an intent is captured
once and in full if it is settled and never otherwise, at most one of its attempts is ever charged, and the merchant
gets what was captured less the fee and the refunds. -/
theorem captured_once (service : PaymentOrchestrator) (runner : ConnectorRunner) (earlier later : List Step)
    (intent : PaymentIntentRecord) (stored : (service.atomicRun (start runner) (earlier ++ later)).books.HasIntent intent) :
    CapturedOnce service (service.atomicRun (start runner) (earlier ++ later)).books intent ∧
      ∀ first second, (service.atomicRun (start runner) earlier).books.HasAttempt first →
        (service.atomicRun (start runner) (earlier ++ later)).books.HasAttempt second →
        first.paymentIntentId = intent.paymentIntentId → second.paymentIntentId = intent.paymentIntentId →
        first.status = .charged → second.status = .charged → first.attemptId = second.attemptId := by
  obtain ⟨sound, told, refunds⟩ := atomicRun_told service runner (earlier ++ later)
  refine ⟨refunds.capturedOnce told sound.ordered stored, ?_⟩
  intro first second tried also owner alsoOwner charged alsoCharged
  have stays : (service.atomicRun (start runner) (earlier ++ later)).books.Charged first.attemptId first.paymentIntentId := by
    rw [atomicRun_append]
    exact (@atomicRun_keeps service _ (fun books => books.Charged first.attemptId first.paymentIntentId)
      (fun _ _ deed kept => deed.charged_stays kept) _ (atomicRun_told service runner earlier).1
      ⟨first, tried, rfl, rfl, .inl charged⟩ _ (along_any service later _)).2
  obtain ⟨row, held, id, same, status⟩ := stays
  by_contra apart
  have live : row.status ≠ .authorizationFailed := by rcases status with is | is <;> rw [is] <;> decide
  have failed := sound.ordered.only_live held live also (alsoOwner.trans (owner.symm.trans same.symm))
    fun equal => apart (id.symm.trans equal.symm)
  rw [failed] at alsoCharged
  cases alsoCharged

section Sample

set_option maxRecDepth 20000

def refundId (system : PaymentSystem) : String := system.store.refunds.keys.headD ""

def refundable : List Step :=
  [create, pay, answer (verdict .success), ⟨sampleMoment, .createRefund sampleIntentId 40 .duplicate none⟩]

def refundedSteps : List Step :=
  refundable ++ [⟨sampleMoment, .processRefund (refundId (sampleService.atomicRun (start (sampleRunner .empty)) refundable))⟩,
    answer (verdict .success)]

theorem partly_refunded :
    ∃ intent, (sampleService.atomicRun (start (sampleRunner .empty)) refundedSteps).books.HasIntent intent ∧
      intent.status = .partiallyRefunded := by
  obtain ⟨intent, stored, -, checked⟩ :=
    @reached_intent (sampleService.atomicRun (start (sampleRunner .empty)) refundedSteps) sampleIntentId
      (fun intent => decide (intent.status = .partiallyRefunded)) (by decide +kernel)
  exact ⟨intent, stored, of_decide_eq_true checked⟩

theorem partial_refund_covered :
    ∃ intent, intent.status = .partiallyRefunded ∧
      RefundsCovered (sampleService.atomicRun (start (sampleRunner .empty)) refundedSteps).books intent := by
  obtain ⟨intent, stored, status⟩ := partly_refunded
  exact ⟨intent, status, refunds_covered sampleService (sampleRunner .empty) refundedSteps intent stored⟩

theorem partial_refund_captured_once :
    ∃ intent, intent.status = .partiallyRefunded ∧
      CapturedOnce sampleService (sampleService.atomicRun (start (sampleRunner .empty)) (refundedSteps ++ [])).books intent := by
  obtain ⟨intent, stored, status⟩ := partly_refunded
  rw [← List.append_nil refundedSteps] at stored
  exact ⟨intent, status, (captured_once sampleService (sampleRunner .empty) refundedSteps [] intent stored).1⟩

/-- Captured by hand, as it should be. -/
theorem captured_by_hand :
    Along sampleService (fun system step => ¬ step.LateSuccess system) (start (sampleRunner .empty)) capturedSteps ∧
      CaptureAccepted sampleService (start (sampleRunner .empty)) capturedSteps sampleHandId := by
  have early : Along sampleService (fun system step => ¬ step.LateSuccess system) (start (sampleRunner .empty))
      capturedSteps :=
    ⟨fun late => late, fun late => late, early_of_unpolled (by decide +kernel) _, fun late => late, trivial⟩
  have reached := @reached_intent (sampleService.atomicRun (start (sampleRunner .empty)) capturedSteps) sampleHandId
    (fun intent => decide (intent.captureMethod = .manual ∧ intent.status ∈ settledStatuses)) (by decide +kernel)
  obtain ⟨intent, stored, id, checked⟩ := reached
  obtain ⟨manual, settled⟩ := of_decide_eq_true checked
  refine ⟨early, ?_⟩
  rw [← id]
  exact captureAccepted_of_takenByHand sampleService (sampleRunner .empty) capturedSteps early intent stored manual
    (.inl settled)

end Sample

end BdPay.Kernel
