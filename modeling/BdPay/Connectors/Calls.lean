import BdPay.Connectors.Runner

namespace BdPay.Connectors

open Data Effect

/-! What the programs of the runner hand back, read backwards. -/

namespace ConnectorRunner

variable {around : Surroundings} {runner : ConnectorRunner}

variable {result : ConnectorResult} {connectorId : String} {kind : CallKind}

theorem synthetic_ok
    (made : synthetic around connectorId instructionId connectorRef status code runner = .ok result after) :
    result.status = status ∧ result.errorCode = some code := by
  simp only [synthetic, bind_eq_ok, attempt_eq_ok, pure_eq_ok] at made
  obtain ⟨_, _, _, rfl, _⟩ := made
  exact ⟨rfl, rfl⟩

theorem registration_ok (read : registration connectorId runner = .ok found after) :
    runner.registrations.get? connectorId = some found ∧ runner = after := by
  simp only [registration, bind_eq_ok, get_eq_ok] at read
  obtain ⟨_, _, ⟨rfl, rfl⟩, rest⟩ := read
  cases located : runner.registrations.get? connectorId with
  | none => simp [located, throw_eq_ok] at rest
  | some =>
    simp only [located, pure_eq_ok] at rest
    exact ⟨congrArg some rest.1, rest.2⟩

/-- A refused call carries the runner's own failure. -/
def Admission.Fits (around : Surroundings) (runner : ConnectorRunner) (connectorId : String) (kind : CallKind) :
    Admission → Prop
  | .refused refusal result =>
    (∃ registration, runner.registrations.get? connectorId = some registration ∧
      runner.refusal? around registration kind = some refusal) ∧
    result.status = .failed ∧ result.errorCode = some refusal.code
  | .invoked _ => True

/-- A replayed result may be replayed. -/
def Begun.Fits (around : Surroundings) (runner : ConnectorRunner) (connectorId : String) : Begun → Prop
  | .replayed result => replaySafe result.status = true
  | .admission given => given.Fits around runner connectorId .submit

theorem admitCall_fits (registered : runner.registrations.get? connectorId = some found)
    (admitted : admitCall around found instructionId connectorRef kind runner = .ok admission after) :
    admission.Fits around runner connectorId kind := by
  simp only [admitCall, bind_eq_ok, get_eq_ok, set_eq_ok] at admitted
  obtain ⟨_, _, ⟨rfl, rfl⟩, _, _, rfl, rest⟩ := admitted
  cases refused : runner.refusal? around found kind with
  | none =>
    simp only [refused, bind_eq_ok, pure_eq_ok] at rest
    obtain ⟨_, _, _, rfl, _⟩ := rest
    trivial
  | some =>
    simp only [refused, bind_eq_ok, pure_eq_ok] at rest
    obtain ⟨result, _, made, rfl, _⟩ := rest
    exact ⟨⟨found, registered, refused⟩, synthetic_ok made⟩

theorem call_fits (called : call around connectorId connectorRef kind runner = .ok admission after) :
    admission.Fits around runner connectorId kind := by
  simp only [call, bind_eq_ok] at called
  obtain ⟨found, _, read, admitted⟩ := called
  obtain ⟨registered, rfl⟩ := registration_ok read
  exact admitCall_fits registered admitted

theorem dispatch_fits (dispatched : dispatch around instruction runner = .ok begun after) :
    begun.Fits around runner instruction.rail := by
  simp only [dispatch, bind_eq_ok, get_eq_ok] at dispatched
  obtain ⟨found, _, read, _, _, ⟨rfl, rfl⟩, rest⟩ := dispatched
  obtain ⟨registered, rfl⟩ := registration_ok read
  have admits : ∀ {begun : Begun}, (Begun.admission <$>
      admitCall around found instruction.instructionId instruction.connectorRef .submit) runner = .ok begun after →
      begun.Fits around runner instruction.rail := by
    intro begun mapped
    rw [map_eq_pure_bind, bind_eq_ok] at mapped
    obtain ⟨admission, _, admitted, returned⟩ := mapped
    obtain ⟨rfl, -⟩ := pure_eq_ok.mp returned
    exact admitCall_fits registered admitted
  cases recorded : runner.recorded.get? (found.connectorId, instruction.connectorRef, .submit) with
  | none =>
    simp only [recorded] at rest
    exact admits rest
  | some result =>
    simp only [recorded] at rest
    by_cases safe : replaySafe result.status = true
    · simp only [safe, if_true, pure_eq_ok] at rest
      obtain ⟨rfl, -⟩ := rest
      exact safe
    · simp only [safe] at rest
      exact admits rest

theorem submit_fits (submitted : submit around instruction runner = .ok (budget, begun) after) :
    begun.Fits around runner instruction.rail := by
  simp only [submit, bind_eq_ok, get_eq_ok, raiseIf_eq_ok, pure_eq_ok] at submitted
  obtain ⟨found, _, read, _, _, ⟨rfl, rfl⟩, _, _, ⟨_, rfl⟩, first, _, dispatched, same, _⟩ := submitted
  obtain ⟨-, rfl⟩ := registration_ok read
  simp only [Prod.mk.injEq] at same
  obtain ⟨-, rfl⟩ := same
  exact dispatch_fits dispatched

variable {registration : ConnectorRegistration}

theorem awaited_ok
    (came : awaited around registration instructionId connectorRef outcome runner = .ok (result, transportError) after) :
    result.status = outcome.status := by
  cases outcome with
  | answered =>
    simp only [awaited, pure_eq_ok, Prod.mk.injEq] at came
    rw [← came.1.1]
    rfl
  | timedOut | raised =>
    simp only [awaited, bind_eq_ok, pure_eq_ok, Prod.mk.injEq] at came
    obtain ⟨made, _, synthesized, ⟨rfl, _⟩, _⟩ := came
    exact (synthetic_ok synthesized).1

theorem dispatched_ok (came : dispatched around registration instruction outcome runner = .ok result after) :
    result.status = outcome.status := by
  simp only [dispatched, bind_eq_ok, pure_eq_ok] at came
  obtain ⟨⟨found, transportError⟩, _, awaitedOk, _, _, _, _, _, _, _, _, _, rfl, _⟩ := came
  exact awaited_ok awaitedOk

theorem called_ok (came : called around registration connectorRef kind outcome runner = .ok result after) :
    result.status = outcome.status := by
  simp only [called, bind_eq_ok, pure_eq_ok] at came
  obtain ⟨⟨found, transportError⟩, _, awaitedOk, _, _, _, _, _, _, rfl, _⟩ := came
  exact awaited_ok awaitedOk

theorem retries_failed (again : retries result attempts budget = true) :
    result.status = .failed ∧ result.errorCode = some transportErrorCode := by
  simp only [retries, Bool.and_eq_true, beq_iff_eq] at again
  exact again.1

end ConnectorRunner

theorem Refusal.code_ne_transport (refusal : Refusal) : refusal.code ≠ transportErrorCode := by
  cases refusal <;> decide

end BdPay.Connectors
