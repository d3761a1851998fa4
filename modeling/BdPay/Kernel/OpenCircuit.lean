import BdPay.Kernel.StatusPolls

namespace BdPay.Kernel

open Platform Data Effect Connectors PaymentSystem

/-! A dispatched intent fails for a reason the kernel was told, and that reason is
not an open circuit as long as the breaker lets first submits, polls and reversals
through. -/

/-- The answers that count against a payment, by what was asked. -/
def failures : Purpose → List ConnectorStatus
  | .submit => [.failed, .rejected]
  | .poll => pollFailures
  | .reversal => reversalFailures
  | .refund => []

/-- Everything that counts against the intent is a refusal of the open circuit. -/
def OnlyCircuitOpen (system : PaymentSystem) (paymentIntentId : String) : Prop :=
  ∀ attempt, system.HasAttempt attempt → attempt.paymentIntentId = paymentIntentId →
    ∀ observation ∈ system.history, ∀ purpose, ∀ status ∈ failures purpose,
      observation.Tells purpose attempt status → observation = .refused purpose attempt.connectorRef .circuitOpen

/-- An intent that only an open circuit counts against has not failed: it is processing, unless it expired
into the reversal path or the rail took the money. -/
def NeverFailedByBreaker (system : PaymentSystem) : Prop :=
  ∀ attempt intent, system.HasAttempt attempt → system.HasIntent intent →
    intent.paymentIntentId = attempt.paymentIntentId → OnlyCircuitOpen system intent.paymentIntentId →
      intent.status ≠ .failed ∧ Decided system intent

/-- The breaker lets the first submit of an intent, its polls and its reversals through. -/
def closedCircuit : Regime := { closedCircuit := true }

/-! Why an intent failed -/

/-- The kernel was told of a rejection, of a failure of the first attempt, or of a failed poll or reversal. -/
inductive FailureKnown (system : PaymentSystem) (paymentIntentId : String) : Prop where
  | rejected {attempt : PaymentAttemptRecord} (stored : system.HasAttempt attempt)
      (owner : attempt.paymentIntentId = paymentIntentId) (told : system.Told .submit attempt .rejected)
  | failed {attempt : PaymentAttemptRecord} (stored : system.HasAttempt attempt)
      (owner : attempt.paymentIntentId = paymentIntentId) (first : attempt.attemptNumber = 1)
      (told : system.Told .submit attempt .failed)
  | polled {attempt : PaymentAttemptRecord} (stored : system.HasAttempt attempt)
      (owner : attempt.paymentIntentId = paymentIntentId) {status : ConnectorStatus} (listed : status ∈ pollFailures)
      (told : system.Told .poll attempt status)
  | unreversed (failed : ReversalFailed system paymentIntentId)

/-- Every dispatched intent that failed did so for a known reason. -/
def FailuresKnown (system : PaymentSystem) : Prop :=
  ∀ attempt intent, system.HasAttempt attempt → system.HasIntent intent →
    intent.paymentIntentId = attempt.paymentIntentId → intent.status = .failed →
      FailureKnown system intent.paymentIntentId

section Failures

theorem Extends.failureKnown (extended : Extends system next)
    (known : FailureKnown system paymentIntentId) : FailureKnown next paymentIntentId := by
  cases known with
  | rejected stored owner told =>
    obtain ⟨current, inNext, same⟩ := extended.attempts stored
    exact .rejected inNext ((identity_eq same).2.1.trans owner)
      ((extended.told told).congr same.symm)
  | failed stored owner first told =>
    obtain ⟨current, inNext, same⟩ := extended.attempts stored
    obtain ⟨-, sameOwner, sameNumber, -⟩ := identity_eq same
    exact .failed inNext (sameOwner.trans owner) (sameNumber.trans first) ((extended.told told).congr same.symm)
  | polled stored owner listed told =>
    obtain ⟨current, inNext, same⟩ := extended.attempts stored
    exact .polled inNext ((identity_eq same).2.1.trans owner) listed
      ((extended.told told).congr same.symm)
  | unreversed failed => exact .unreversed (extended.reversalFailed failed)

/-- The last attempt was hard declined: it was rejected, or the first attempt had failed. -/
theorem HardDeclined.failureKnown (numbering : Numbering system)
    (declined : HardDeclined system paymentIntentId) : FailureKnown system paymentIntentId := by
  obtain ⟨final, stored, owner, -, -, rejected | ⟨-, last⟩⟩ := declined
  · exact .rejected stored owner rejected
  · obtain ⟨first, firstStored, firstOwner, isFirst⟩ := numbering.one stored
    have later : first.attemptNumber < final.attemptNumber := by
      rw [isFirst]
      exact Nat.lt_of_lt_of_le (by decide) last
    exact .failed firstStored (firstOwner.trans owner) isFirst
      (numbering.passed firstStored stored firstOwner later).2

theorem IntentMoves.failureKnown (coherent : Coherent system) (known : FailuresKnown system)
    {attempt : PaymentAttemptRecord} (stored : system.HasIntent old)
    (moves : IntentMoves system old new) (attemptStored : system.HasAttempt attempt)
    (owner : new.paymentIntentId = attempt.paymentIntentId) (failed : new.status = .failed) :
    FailureKnown system new.paymentIntentId := by
  have oldOwner := moves.same.symm.trans owner
  rw [moves.same]
  rcases moves.declared with same | ⟨rule, listed, source, target⟩
  · exact known _ _ attemptStored stored oldOwner (same ▸ failed)
  · rcases intentRules_to_failed rule listed (target.trans failed) with early | processing | reversing
    · obtain ⟨intent, intentStored, owned, late⟩ := coherent.owning.dispatched attemptStored
      have isOld := intentStored.unique stored (owned.trans oldOwner.symm)
      exact absurd (source ▸ early) (isOld ▸ late)
    · exact (moves.declined (source ▸ processing) failed).failureKnown coherent.numbering
    · exact .unreversed (moves.unreversed (source ▸ reversing) failed)

theorem FailuresKnown.store_write (known : FailuresKnown system) (coherent : Coherent system)
    (write : StoreWrite service system next) : FailuresKnown next := by
  have extended := write.extends
  intro attempt intent stored intentStored owner failed
  have carried : ∀ {earlier}, system.HasAttempt earlier → earlier.paymentIntentId = attempt.paymentIntentId →
      system.HasIntent intent → FailureKnown next intent.paymentIntentId := fun earlierStored same inSystem =>
    extended.failureKnown (known _ _ earlierStored inSystem (owner.trans same.symm) failed)
  cases write with
  | ports | refundOpened | refundMoved => exact carried stored rfl intentStored
  | intentCreated _ created =>
    rcases hasIntent_putIntent.mp intentStored with rfl | ⟨inSystem, -⟩
    · rw [created] at failed
      cases failed
    · exact carried stored rfl inSystem
  | intentMoved oldStored moves =>
    rcases hasIntent_putIntent.mp intentStored with rfl | ⟨inSystem, -⟩
    · exact extended.failureKnown (moves.failureKnown coherent known oldStored stored owner failed)
    · exact carried stored rfl inSystem
  | attemptOpened opens =>
    rcases hasAttempt_putAttempt.mp stored with rfl | ⟨inSystem, -⟩
    · obtain ⟨processing, processingStored, owned, status⟩ := opens.processing
      have inSystem : system.HasIntent intent := intentStored
      rw [inSystem.unique processingStored (owner.trans owned.symm), status] at failed
      cases failed
    · exact carried inSystem rfl intentStored
  | attemptMoved oldStored moves =>
    rcases hasAttempt_putAttempt.mp stored with rfl | ⟨inSystem, -⟩
    · exact carried oldStored (identity_eq moves.same).2.1.symm intentStored
    · exact carried inSystem rfl intentStored
  | @pollEnded old new before after oldStored beforeStored ends =>
    rcases hasIntent_putIntent.mp intentStored with rfl | ⟨inSystem, different⟩
    · rcases ends.ends with ⟨-, -, status, listed, told⟩ | ⟨status, -⟩
      · obtain ⟨-, sameOwner, -, -⟩ := identity_eq ends.same
        exact .polled (hasAttempt_putAttempt.mpr (.inl rfl)) (by rw [sameOwner, ends.kept, ends.owner]) listed
          (extended.told told)
      · rw [status] at failed
        cases failed
    · rcases hasAttempt_putAttempt.mp stored with rfl | ⟨attemptInSystem, -⟩
      · exact carried oldStored (identity_eq ends.same).2.1.symm inSystem
      · exact carried attemptInSystem rfl inSystem

theorem FailuresKnown.writes (known : FailuresKnown system) (coherent : Coherent system)
    (steps : Relation.ReflTransGen (Write service regime) system next) : FailuresKnown next := by
  induction steps with
  | refl => exact known
  | tail earlier last ih =>
    have extended := last.extends
    cases last with
    | store write => exact ih.store_write (coherent.writes earlier) write
    | runner | observed | suspended | resumed =>
      exact fun attempt intent stored intentStored owner failed =>
        extended.failureKnown (ih attempt intent stored intentStored owner failed)

theorem failuresKnown_run {runner : ConnectorRunner}
    (compliant : Compliant service regime (start runner) steps) : FailuresKnown (service.run (start runner) steps) := by
  have nothing : FailuresKnown (start runner) := by
    intro attempt intent stored
    cases stored
  exact nothing.writes (coherent_start runner) (writes_run (coherent_start runner) compliant)

/-- No reason is an open circuit. -/
theorem FailureKnown.not_onlyCircuitOpen (lawful : Lawful closedCircuit system)
    (known : FailureKnown system paymentIntentId) : ¬ OnlyCircuitOpen system paymentIntentId := by
  intro only
  cases known with
  | rejected stored owner told =>
    obtain ⟨observation, member, tells⟩ := told
    rw [only _ stored owner observation member .submit .rejected (by decide) tells] at tells
    cases tells.2.2
  | @failed attempt stored owner first told =>
    obtain ⟨observation, member, tells⟩ := told
    have refused := only _ stored owner observation member .submit .failed (by decide) tells
    subst refused
    rcases lawful _ member rfl rfl with ⟨outcome, answered, status⟩ | later
    · cases only _ stored owner _ answered .submit .failed (by decide) ⟨rfl, rfl, status⟩
    · exact later attempt stored rfl first
  | polled stored owner listed told =>
    obtain ⟨observation, member, tells⟩ := told
    have refused := only _ stored owner observation member .poll _ listed tells
    subst refused
    exact (lawful _ member).2 rfl rfl
  | unreversed failed =>
    obtain ⟨attempt, stored, owner, status, listed, observation, member, tells⟩ := failed
    have refused := only _ stored owner observation member .reversal _ listed tells
    subst refused
    exact lawful _ member rfl rfl

end Failures

/-- In every run whose first submits, polls and reversals the breaker lets through, no intent fails by an
open circuit. -/
theorem neverFailedByBreaker_of_closed_circuit (service : PaymentOrchestrator) (runner : ConnectorRunner)
    (steps : List Step) (compliant : Compliant service closedCircuit (start runner) steps) :
    NeverFailedByBreaker (service.run (start runner) steps) := by
  intro attempt intent stored intentStored owner only
  refine ⟨fun failed => ?_, (coherent_run compliant).owning.decided stored intentStored owner⟩
  exact (failuresKnown_run compliant _ _ stored intentStored owner failed).not_onlyCircuitOpen
    (lawful_run compliant) only

/-! The sample payment meets an open circuit. -/

section Sample

set_option maxRecDepth 20000

def openRunner : ConnectorRunner := sampleRunner
  (Dict.empty.set npsb { connectorId := npsb, state := .open, openedAt := some sampleMoment.now })

/-- One confirmation while the circuit is open. -/
def shutOut : PaymentSystem := sampleService.run (start openRunner) [create, pay]

theorem shutOut_observed : ∃ first ∈ attemptNumbered shutOut 1, ∃ second ∈ attemptNumbered shutOut 2,
      ∃ third ∈ attemptNumbered shutOut 3, shutOut.HasAttempt first ∧
        (shutOut.store.intents.get? first.paymentIntentId).map (·.status) = some .failed ∧ shutOut.history = [
          .refused .submit first.connectorRef .circuitOpen, .refused .submit second.connectorRef .circuitOpen,
          .refused .submit third.connectorRef .circuitOpen] := by
  decide +kernel

/-- Three refusals of the breaker, and the payment is failed. -/
theorem shutOut_failed_by_breaker : ¬ NeverFailedByBreaker shutOut := by
  intro never
  obtain ⟨first, -, second, -, third, -, stored, intentStatus, history⟩ := shutOut_observed
  obtain ⟨intent, found, failed⟩ := Option.map_eq_some_iff.mp intentStatus
  have coherent : Coherent shutOut := coherent_run compliant_free
  obtain ⟨intentStored, owner⟩ := hasIntent_of_get? coherent.owning found
  refine (never first intent stored intentStored owner ?_).1 failed
  intro attempt _ _ observation member purpose status _ tells
  simp only [history, List.mem_cons, List.not_mem_nil, or_false] at member
  rcases member with rfl | rfl | rfl <;>
    · obtain ⟨rfl, ref, -⟩ := tells
      rw [ref]

/-- One failure of the adapter opens the circuit. -/
def brittleStart : PaymentSystem :=
  start (sampleRunner (Dict.empty.set npsb { connectorId := npsb, failureThreshold := 1 }))

def created : PaymentSystem := sampleService.after create brittleStart

theorem created_admitted : ∀ registration ∈ created.runner.registrations.values,
    created.runner.refusal? (sampleService.around sampleMoment) registration .submit = none := by
  decide

theorem meets_pay : Meets sampleService closedCircuit created pay := by
  intro _ intent _ _ connectorId registration _ found refused
  cases (created_admitted registration (Dict.mem_values_of_get? found)).symm.trans refused

theorem meets_answer_closed : Meets service closedCircuit system ⟨moment, .answer index outcome⟩ := by
  unfold Meets
  simp only
  split
  · exact fun certain => absurd certain (by decide)
  · exact fun polled => absurd polled (by decide)
  · trivial

def trippingSteps : List Step := [create, pay, answer .raised]

/-- The circuit is closed when the payment is confirmed, and open for the attempts after the first. -/
theorem closed_circuit_submits :
    Compliant sampleService closedCircuit brittleStart trippingSteps ∧
      (∃ second ∈ attemptNumbered (sampleService.run brittleStart trippingSteps) 2,
        .refused .submit second.connectorRef .circuitOpen ∈ (sampleService.run brittleStart trippingSteps).history) ∧
      NeverFailedByBreaker (sampleService.run brittleStart trippingSteps) := by
  have compliant : Compliant sampleService closedCircuit brittleStart trippingSteps :=
    ⟨trivial, meets_pay, meets_answer_closed, trivial⟩
  exact ⟨compliant, by decide +kernel, neverFailedByBreaker_of_closed_circuit sampleService _ trippingSteps compliant⟩

end Sample

end BdPay.Kernel
