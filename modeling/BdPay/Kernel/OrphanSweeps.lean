import BdPay.Kernel.ManualCaptures

namespace BdPay.Kernel

open Data Effect Connectors PaymentSystem PaymentOrchestrator

/-! Intents that are swept into a reversal without ever having been sent. -/

/-- In a run in which no sweep finds an intent in PROCESSING without an attempt, every intent that is to be
reversed has an attempt to reverse. -/
theorem sent_of_reversing (service : PaymentOrchestrator) (runner : ConnectorRunner) (steps : List Step)
    (swept : Along service (fun system step => ¬ step.OrphanSweep system) (start runner) steps)
    (intent : PaymentIntentRecord) (stored : (service.atomicRun (start runner) steps).books.HasIntent intent)
    (reversing : intent.status = .reversalInitiated ∨ intent.status = .reversalPending) :
    ∃ attempt, (service.atomicRun (start runner) steps).books.HasAttempt attempt ∧
      attempt.paymentIntentId = intent.paymentIntentId := by
  have empty : (start runner).books.Reversible := by
    intro intent held
    cases held
  have kept := atomicRun_keeps (fun allowed _ deed => Deed.reversible deed allowed) (sound_start runner) empty swept
  refine kept.2 intent stored ?_
  rcases reversing with is | is <;> rw [is] <;> decide

section Sample

set_option maxRecDepth 20000

/-- The connector is registered, but no adapter is up. -/
def downRunner : ConnectorRunner := { sampleRunner .empty with adapters := [] }

/-- An hour later. -/
def laterMoment : Moment where
  now := ⟨739616 * 86400000000 + 3600000000, by decide⟩

def orphanSteps : List Step := [create, pay, ⟨laterMoment, .sweep⟩]

/-- The dispatch finds no healthy connector, the intent stays in PROCESSING, and the sweep gives it up for a reversal
that has no attempt to reverse and raises. -/
theorem orphan_swept_into_reversal :
    (match (sampleService.atomicRun (start downRunner) orphanSteps).store.intents.values with
      | [intent] => decide (intent.status = .reversalInitiated ∧
          (sampleService.atomicRun (start downRunner) orphanSteps).store.attempts.values = []) &&
          (match sampleService.perform ⟨laterMoment, .executeReversal intent.paymentIntentId "ttl"⟩
              (sampleService.atomicRun (start downRunner) orphanSteps) with
            | .ok _ _ => false
            | .error error _ => decide (error = noAttemptToReverse))
      | _ => false) = true := by
  decide +kernel

def sentSteps : List Step := [create, pay, answer .timedOut, ⟨laterMoment, .sweep⟩]

/-- Whether every intent in PROCESSING has an attempt. -/
def allSent (system : PaymentSystem) : Bool :=
  system.store.intents.values.all fun intent => decide (intent.status ≠ .processing) ||
    system.store.attempts.entries.any fun entry =>
      entry.1 == entry.2.attemptId && entry.2.paymentIntentId == intent.paymentIntentId

theorem swept_of_allSent (all : allSent system = true) (moment : Moment) :
    ¬ (⟨moment, .sweep⟩ : Step).OrphanSweep system := by
  rintro ⟨intent, listed, processing, unsent⟩
  rw [PaymentStore.listExpiredIntents, (List.perm_insertionSort _ _).mem_iff, List.mem_filter] at listed
  have holds := List.all_eq_true.mp all intent listed.1
  simp only [processing, ne_eq, not_true_eq_false, decide_false, Bool.false_or, List.any_eq_true, Bool.and_eq_true,
    beq_iff_eq] at holds
  obtain ⟨⟨key, attempt⟩, member, same, owner⟩ := holds
  have stored : system.store.attempts.get? attempt.attemptId = some attempt := same ▸ Dict.get?_of_mem member
  exact unsent ⟨attempt, stored, owner⟩

/-- A timed-out attempt is swept, and there is an attempt to reverse. -/
theorem sent_swept_into_reversal :
    Along sampleService (fun system step => ¬ step.OrphanSweep system) (start (sampleRunner .empty)) sentSteps ∧
      ∃ intent, (sampleService.atomicRun (start (sampleRunner .empty)) sentSteps).books.HasIntent intent ∧
        intent.status = .reversalInitiated ∧
        ∃ attempt, (sampleService.atomicRun (start (sampleRunner .empty)) sentSteps).books.HasAttempt attempt ∧
          attempt.paymentIntentId = intent.paymentIntentId := by
  have swept : Along sampleService (fun system step => ¬ step.OrphanSweep system) (start (sampleRunner .empty))
      sentSteps :=
    ⟨fun orphan => orphan, fun orphan => orphan, fun orphan => orphan, swept_of_allSent (by decide +kernel) _, trivial⟩
  have reached := @reached_intent (sampleService.atomicRun (start (sampleRunner .empty)) sentSteps) sampleIntentId
    (fun intent => decide (intent.status = .reversalInitiated)) (by decide +kernel)
  obtain ⟨intent, stored, -, checked⟩ := reached
  have status := of_decide_eq_true checked
  exact ⟨swept, intent, stored, status,
    sent_of_reversing sampleService (sampleRunner .empty) sentSteps swept intent stored (.inl status)⟩

end Sample

end BdPay.Kernel
