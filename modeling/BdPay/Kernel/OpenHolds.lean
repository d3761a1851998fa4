import BdPay.Kernel.OrphanSweeps
import BdPay.Kernel.Telling

namespace BdPay.Kernel

open Data Effect Connectors PaymentSystem PaymentOrchestrator

/-! Holds that are open, and intents that have ended. -/

variable {service : PaymentOrchestrator} {licence : Licence} {books next : Books}

/-- A hold was open before, or its intent now waits for the capture. -/
theorem Deed.hold_origin (deed : Deed service licence books next) {id : String} (open_ : id ∈ next.openHolds) :
    id ∈ books.openHolds ∨ ∃ row, next.HasIntent row ∧ row.paymentIntentId = id ∧ row.status = .requiresCapture := by
  cases deed with
  | authorized _ _ _ after _ _ _ _ _ _ _ _ sameIntent _ held =>
    rcases List.mem_append.mp open_ with earlier | now
    · exact .inl earlier
    · refine .inr ⟨after, hasIntent_putIntent.mpr (.inl rfl), ?_, held⟩
      rw [sameIntent.id]
      exact (List.mem_singleton.mp now).symm
  | charged old new before after accounts capture feeMinor fees stored same waiting status owned owner sameIntent processing
      succeeded direct resolved entry fee =>
    have holds : (fees.foldl Books.log ((books.putAttempt new).log capture)).openHolds = books.openHolds :=
      fee.openHolds.trans entry.openHolds
    exact .inl (holds ▸ open_)
  | captured old new before after accounts feeMinor fees stored latest same authorized status owned sameIntent amounts method
      waiting succeeded held asked resolved fee =>
    have holds : (fees.foldl Books.log ((books.putAttempt new).log
        (.releaseHold before.paymentIntentId "CAPTURED" (some new.amountMinor)))).openHolds =
        books.openHolds.filter (· ≠ before.paymentIntentId) := fee.openHolds
    exact .inl (List.mem_of_mem_filter (holds ▸ open_ : id ∈ books.openHolds.filter (· ≠ before.paymentIntentId)))
  | voided => exact .inl (List.mem_of_mem_filter open_)
  | uncharged old new before after accounts reversal stored latest same charged status owned sameIntent reversing reversed
      resolved entry =>
    have holds : ((books.putAttempt new).log reversal).openHolds = books.openHolds := entry.openHolds
    exact .inl (holds ▸ open_)
  | refundSettled old new before after accounts entry already refunded stored same waiting status owned owner sameIntent
      initiated earlier within total ends resolved posted =>
    have holds : ((books.putRefund new).log entry).openHolds = books.openHolds := posted.openHolds
    exact .inl (holds ▸ open_)
  | created | moved | opened | attemptKept | attemptEnded | unheld | ended | unreversed | refundOpened | refundKept
  | refundFailed => exact .inl open_

/-- No intent has failed while its hold is open. -/
def Books.Released (books : Books) : Prop :=
  ∀ intent, books.HasIntent intent → intent.paymentIntentId ∈ books.openHolds → intent.status ≠ .failed

theorem Deed.released (deed : Deed service licence books next) (unstuck : ¬ licence.stuck) (told : Told service books)
    (released : books.Released) : next.Released := by
  intro intent held open_ failed
  have quietly : ∀ move ∈ quietMoves, move.2 = .failed → move.1 ∉ heldStatuses := by decide
  rcases deed.hold_origin open_ with was | ⟨row, stored, same, waiting⟩
  · cases deed.origin held with
    | same stored => exact released intent stored was failed
    | created _ status =>
      rw [failed] at status
      cases status
    | turned before stored terms turn =>
      rw [show intent.paymentIntentId = _ from congrArg IntentTerms.paymentIntentId terms] at was
      obtain ⟨_, _, _, _, _, _, status, -⟩ := (told.story before stored).shape.of_open was
      cases turn with
      | kept same => exact released before stored was (same.symm.trans failed)
      | quiet moves => exact quietly _ moves failed status
      | tried processing =>
        rw [processing] at status
        exact absurd status (by decide)
      | unreversed _ _ stuck => exact unstuck (stuck was)
      | charged _ is | captured _ is | voided _ is | reversed _ is =>
        rw [failed] at is
        cases is
      | refund _ is =>
        rw [failed] at is
        exact absurd is (by decide)
  · rw [held.unique stored same.symm, waiting] at failed
    cases failed

theorem told_start (service : PaymentOrchestrator) (runner : ConnectorRunner) : Told service (start runner).books where
  known := fun _ member => absurd member List.not_mem_nil
  holds := fun _ member => absurd member List.not_mem_nil
  story := by
    intro intent stored
    cases stored

/-- In a run in which every reversal of an intent with an open hold succeeds, no intent that has ended has an
open hold. -/
theorem released_of_terminal (service : PaymentOrchestrator) (runner : ConnectorRunner) (steps : List Step)
    (unstuck : Along service (fun system step => ¬ step.StuckReversal service system) (start runner) steps)
    (intent : PaymentIntentRecord) (stored : (service.atomicRun (start runner) steps).books.HasIntent intent)
    (terminal : intent.status ∈ intentTable.terminalStates) :
    intent.paymentIntentId ∉ (service.atomicRun (start runner) steps).ports.openHolds := by
  have empty : Told service (start runner).books ∧ (start runner).books.Released := by
    refine ⟨told_start service runner, fun intent held => ?_⟩
    cases held
  obtain ⟨-, told, released⟩ := @atomicRun_keeps service _ (fun books => Told service books ∧ books.Released)
    (fun allowed ordered deed kept => ⟨deed.told ordered kept.1, deed.released allowed kept.1 kept.2⟩)
    _ (sound_start runner) empty _ unstuck
  have live : ∀ status ∈ heldStatuses, status ∈ intentTable.terminalStates → status = .failed := by decide
  intro open_
  obtain ⟨_, _, _, _, _, _, status, -⟩ := (told.story intent stored).shape.of_open open_
  exact released intent stored open_ (live _ status terminal)

section Sample

set_option maxRecDepth 20000

/-- Eight days later, when the authorization has expired. -/
def expiredMoment : Moment where
  now := ⟨739624 * 86400000000, by decide⟩

def reverseByHand : Step := ⟨expiredMoment, .executeReversal sampleHandId "ttl"⟩

def reversedSteps (status : ConnectorStatus) : List Step :=
  [byHand, payByHand, answer (verdict .success), ⟨expiredMoment, .sweep⟩, reverseByHand,
    ⟨expiredMoment, .answer 0 (verdict status)⟩]

/-- The rail turns the reversal of an expired authorization down: the payment has FAILED, and the customer's money
stays reserved. -/
theorem stuck_reversal_keeps_hold :
    (match (sampleService.atomicRun (start (sampleRunner .empty)) (reversedSteps .failed)).store.intents.values with
      | [intent] => decide (intent.status = .failed ∧ intent.status ∈ intentTable.terminalStates ∧
          intent.paymentIntentId ∈
            (sampleService.atomicRun (start (sampleRunner .empty)) (reversedSteps .failed)).ports.openHolds)
      | _ => false) = true := by
  decide +kernel

/-- The runner lets the reversal of the intent through. -/
def reversalAdmitted (system : PaymentSystem) (moment : Moment) (paymentIntentId : String) : Bool :=
  match system.books.latest paymentIntentId with
  | none => true
  | some attempt =>
    match system.runner.registrations.get? attempt.connectorId with
    | none => true
    | some registration => (system.runner.refusal? (sampleService.around moment) registration .reverse).isNone

theorem unstuck_of_admitted (admitted : reversalAdmitted system moment intentId = true) :
    ¬ (⟨moment, .executeReversal intentId reason⟩ : Step).StuckReversal sampleService system := by
  rintro ⟨-, attempt, registration, refusal, latest, registered, refused⟩
  simp only [reversalAdmitted, latest, registered, refused] at admitted
  cases admitted

/-- The rail reverses it, and the hold is given back. -/
theorem reversed_releases_hold :
    Along sampleService (fun system step => ¬ step.StuckReversal sampleService system) (start (sampleRunner .empty))
        (reversedSteps .reversed) ∧
      ∃ intent, (sampleService.atomicRun (start (sampleRunner .empty)) (reversedSteps .reversed)).books.HasIntent intent ∧
        intent.status = .reversed ∧ intent.paymentIntentId ∉
          (sampleService.atomicRun (start (sampleRunner .empty)) (reversedSteps .reversed)).ports.openHolds := by
  have unstuck : Along sampleService (fun system step => ¬ step.StuckReversal sampleService system)
      (start (sampleRunner .empty)) (reversedSteps .reversed) :=
    ⟨fun stuck => stuck, fun stuck => stuck, fun stuck => stuck.2.1 rfl, fun stuck => stuck,
      unstuck_of_admitted (by decide +kernel), fun stuck => stuck.1 rfl, trivial⟩
  have reached := @reached_intent
    (sampleService.atomicRun (start (sampleRunner .empty)) (reversedSteps .reversed)) sampleHandId
    (fun intent => decide (intent.status = .reversed)) (by decide +kernel)
  obtain ⟨intent, stored, -, checked⟩ := reached
  have status := of_decide_eq_true checked
  have terminal : intent.status ∈ intentTable.terminalStates := by
    rw [status]
    decide
  exact ⟨unstuck, intent, stored, status, released_of_terminal sampleService (sampleRunner .empty)
    (reversedSteps .reversed) unstuck intent stored terminal⟩

end Sample

end BdPay.Kernel
