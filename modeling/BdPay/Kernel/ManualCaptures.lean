import BdPay.Kernel.DoubleCharge
import BdPay.Kernel.Turns

namespace BdPay.Kernel

open Data Connectors PaymentSystem PaymentOrchestrator

/-! Intents that are captured by hand. -/

/-- A capture of the intent that was accepted, at some point of a run. -/
def CaptureAccepted (service : PaymentOrchestrator) (system : PaymentSystem) (steps : List Step)
    (paymentIntentId : String) : Prop :=
  ∃ earlier step later amountMinor, steps = earlier ++ step :: later ∧ step.event = .capture paymentIntentId amountMinor ∧
    ∃ progress reached, service.perform step (service.atomicRun system earlier) = .ok progress reached

theorem atomicRun_append (service : PaymentOrchestrator) (system : PaymentSystem) (first second : List Step) :
    service.atomicRun system (first ++ second) = service.atomicRun (service.atomicRun system first) second :=
  List.foldl_append

variable {service : PaymentOrchestrator} {system : PaymentSystem} {intentId : String} {step : Step}

theorem along_append {allowed : PaymentSystem → Step → Prop}
    {first second : List Step} : Along service allowed system (first ++ second) ↔
      Along service allowed system first ∧ Along service allowed (service.atomicRun system first) second := by
  induction first generalizing system with
  | nil => exact ⟨fun along => ⟨trivial, along⟩, fun along => along.2⟩
  | cons _ _ ih =>
    rw [List.cons_append, Along, Along, ih, and_assoc]
    rfl

theorem sound_atomicRun (sound : Sound system) (steps : List Step) : Sound (service.atomicRun system steps) := by
  induction steps generalizing system with
  | nil => exact sound
  | cons step _ ih =>
    have goes : Goes service _ system (service.atomically step system) := goes_atomically sound step
    exact ih (goes.sound sound)

/-- A step without a late success takes the money of an intent that is captured by hand only by capturing it. -/
theorem takenByHand_atomically (sound : Sound system) (early : ¬ step.LateSuccess system)
    (taken : (service.atomically step system).books.TakenByHand intentId) :
    system.books.TakenByHand intentId ∨ ∃ amountMinor, step.event = .capture intentId amountMinor := by
  have goes : Goes service (step.licence service system) system (service.atomically step system) :=
    goes_atomically sound step
  -- Back along the deeds, to the first that found it taken.
  have back : ∀ {books : Books}, Relation.ReflTransGen (Deed service (step.licence service system)) system.books books →
      books.TakenByHand intentId →
      system.books.TakenByHand intentId ∨ ∃ amountMinor, step.event = .capture intentId amountMinor := by
    intro books deeds
    induction deeds with
    | refl => exact .inl
    | tail _ deed ih =>
      intro taken
      exact (deed.takenByHand early taken).elim ih .inr
  exact back goes.deeds taken

theorem atomically_capture_error
    (capture : step.event = .capture intentId amountMinor)
    (raised : service.perform step system = .error error reached) :
    (service.atomically step system).books = system.books := by
  obtain ⟨moment, event⟩ := step
  cases capture
  simp only [PaymentOrchestrator.atomically, raised]
  rfl

/-- In a run without late successes, an intent that is captured by hand is settled only by a capture that was
accepted. -/
theorem captureAccepted_of_settled {runner : ConnectorRunner} {steps : List Step}
    (early : Along service (fun system step => ¬ step.LateSuccess system) (start runner) steps)
    (stored : (service.atomicRun (start runner) steps).books.HasIntent intent) (manual : intent.captureMethod = .manual)
    (settled : intent.status ∈ settledStatuses) :
    CaptureAccepted service (start runner) steps intent.paymentIntentId := by
  have taken : (service.atomicRun (start runner) steps).books.TakenByHand intent.paymentIntentId :=
    ⟨intent, stored, rfl, manual, settled⟩
  generalize intent.paymentIntentId = paymentIntentId at taken
  clear stored manual settled
  -- From the last step back: the money was taken before it, or it is the capture.
  induction steps using List.reverseRecOn with
  | nil =>
    obtain ⟨row, held, -⟩ := taken
    cases held
  | append_singleton steps step ih =>
    obtain ⟨before, last⟩ := along_append.mp early
    have sound : Sound (service.atomicRun (start runner) steps) := sound_atomicRun (sound_start runner) steps
    rw [atomicRun_append] at taken
    have widen : CaptureAccepted service (start runner) steps paymentIntentId →
        CaptureAccepted service (start runner) (steps ++ [step]) paymentIntentId := by
      rintro ⟨earlier, capture, later, amountMinor, rfl, accepted⟩
      exact ⟨earlier, capture, later ++ [step], amountMinor, by simp, accepted⟩
    by_cases was : (service.atomicRun (start runner) steps).books.TakenByHand paymentIntentId
    · exact widen (ih before was)
    · obtain ⟨amountMinor, capture⟩ := (takenByHand_atomically sound last.1 taken).resolve_left was
      refine ⟨steps, step, [], amountMinor, rfl, capture, ?_⟩
      cases performed : service.perform step (service.atomicRun (start runner) steps) with
      | ok progress reached => exact ⟨progress, reached, rfl⟩
      | error =>
        change (service.atomically step _).books.TakenByHand paymentIntentId at taken
        rw [atomically_capture_error capture performed] at taken
        exact absurd taken was

section Sample

set_option maxRecDepth 20000

/-- An intent that passes a check, out of a system that was run. -/
theorem reached_intent {system : PaymentSystem} {id : String} {check : PaymentIntentRecord → Bool}
    (reached : (match system.store.intents.get? id with
      | some intent => decide (intent.paymentIntentId = id) && check intent
      | none => false) = true) :
    ∃ intent, system.books.HasIntent intent ∧ intent.paymentIntentId = id ∧ check intent = true := by
  cases found : system.store.intents.get? id with
  | none => simp [found] at reached
  | some intent =>
    simp only [found, Bool.and_eq_true, decide_eq_true_eq] at reached
    exact ⟨intent, Dict.row_of_key found reached.1, reached⟩

def byHand : Step := ⟨sampleMoment, .createIntent { sampleRequest with captureMethod := .manual }⟩

/-- The identifier the intent is created under. -/
def sampleHandId : String := (sampleService.after byHand sampleStart).store.intents.keys.headD ""

def payByHand : Step := ⟨sampleMoment, .confirm sampleHandId .passed⟩

def pollFirst (system : PaymentSystem) : Step :=
  ⟨sampleMoment, .poll ((attemptNumbered system 1).map (·.attemptId) |>.getD "")⟩

def silent : PaymentSystem := sampleService.atomicRun sampleStart [byHand, payByHand, answer .timedOut]

def lateSteps : List Step := [byHand, payByHand, answer .timedOut, pollFirst silent, answer (verdict .success)]

/-- The submit timed out, and the status poll finds that the rail took the payment: the money goes to the
merchant though nobody captured it. -/
theorem late_success_charges_by_hand : (match (sampleService.atomicRun sampleStart lateSteps).store.intents.values with
      | [intent] => decide (intent.captureMethod = .manual ∧ intent.status = .succeeded)
      | _ => false) = true ∧ lateSteps.all (fun step => match step.event with
      | .capture _ _ => false
      | _ => true) = true := by
  decide +kernel

def capturedSteps : List Step :=
  [byHand, payByHand, answer (verdict .success), ⟨sampleMoment, .capture sampleHandId none⟩]

/-- No coroutine waits for a status poll. -/
def unpolled (system : PaymentSystem) : Bool :=
  system.calls.all fun call => match call with
    | .poll _ _ _ => false
    | _ => true

theorem early_of_unpolled (none : unpolled system = true) (outcome : AdapterOutcome) :
    ¬ (answer outcome).LateSuccess system := by
  rintro ⟨-, attemptId, registration, connectorRef, found, -⟩
  have waits := List.all_eq_true.mp none _ (List.mem_of_getElem? found)
  cases waits

end Sample

end BdPay.Kernel
