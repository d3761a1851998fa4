import BdPay.Connectors.Breaker
import BdPay.Platform.Ids

namespace BdPay.Connectors

open Platform Data Effect

/-! The connector runner: the one path from the kernel to an adapter.

An adapter call is where a coroutine of the runner is suspended, so each call is
two programs: one up to the call, and one from its outcome on.
-/

inductive RunnerError where
  | unknownConnector (message : String)
  | retryForbidden (message : String)
  | canonical (error : CanonicalError)
deriving DecidableEq

structure ConnectorResultRow where
  (instructionId connectorRef connectorId : String)
  attemptNo : Nat
  callKind : CallKind
  status : ConnectorStatus
  (railTransactionId respondedAt errorCode : Option String)
  rawResponseHash : String
  modeAtCall : ConnectorMode
  producedAt : DateTime

/-- The refusals the runner makes up before any adapter is touched. -/
inductive Refusal where
  | connectorDisabled | sandboxIsolation | circuitOpen
deriving DecidableEq

def Refusal.code : Refusal → String
  | .connectorDisabled => "connector_disabled"
  | .sandboxIsolation => "sandbox_isolation_violation"
  | .circuitOpen => "circuit_open"

def transportErrorCode : String := "transport_error"

structure ConnectorRunner where
  registrations : Dict String ConnectorRegistration
  adapters : List (String × ConnectorMode)
  simulatorOnly : Bool
  breaker : CircuitBreaker
  recorded : Dict (String × String × CallKind) ConnectorResult
  results : List ConnectorResultRow

/-- What a call finds around it: the clock, and whether the breaker's store can be read. -/
structure Surroundings where
  sha256 : String → String
  now : DateTime
  breakerReadable : Bool

abbrev RunnerM := EStateM RunnerError ConnectorRunner

instance : LawfulBEq (String × ConnectorMode) := inferInstance

def replaySafe : ConnectorStatus → Bool
  | .success | .pending | .rejected | .reversed => true
  | .failed | .timedOut => false

namespace ConnectorRunner

/-- `registry.get`. -/
def registration (connectorId : String) : RunnerM ConnectorRegistration := do
  match (← get).registrations.get? connectorId with
  | some found => pure found
  | none => throw (.unknownConnector s!"connector {connectorId} is not registered")

def adapter (registration : ConnectorRegistration) : RunnerM Unit := do
  raiseIf ((registration.connectorId, registration.activeMode) ∉ (← get).adapters)
    (.unknownConnector
      s!"no adapter registered for {registration.connectorId} in mode {registration.activeMode.value}")

/-- The runner's own verdict on a call, before the adapter is looked up. -/
def refusal? (runner : ConnectorRunner) (around : Surroundings) (registration : ConnectorRegistration)
    (kind : CallKind) : Option Refusal :=
  if registration.activeMode = .disabled ∨ !registration.enabled then some .connectorDisabled
  else if runner.simulatorOnly ∧ registration.activeMode ≠ .simulator then some .sandboxIsolation
  else if (runner.breaker.admits around.breakerReadable registration.connectorId kind around.now).1 then none
  else some .circuitOpen

/-- The breaker is asked last, and asking it may move it. -/
def asked (runner : ConnectorRunner) (around : Surroundings) (registration : ConnectorRegistration)
    (kind : CallKind) : ConnectorRunner :=
  if registration.activeMode = .disabled ∨ !registration.enabled then runner
  else if runner.simulatorOnly ∧ registration.activeMode ≠ .simulator then runner
  else { runner with
    breaker := (runner.breaker.admits around.breakerReadable registration.connectorId kind around.now).2 }

def synthetic (around : Surroundings) (connectorId instructionId connectorRef : String) (status : ConnectorStatus)
    (errorCode : String) : RunnerM ConnectorResult := do
  let raw : List (String × PyValue) :=
    [("synthetic", .bool true), ("connector_id", .str connectorId), ("connector_ref", .str connectorRef),
      ("status", .str status.value), ("error_code", .str errorCode)]
  let rawHash ← attempt (match sha256Canonical around.sha256 (.dict raw) with
    | .ok digest => .ok digest
    | .error error => .error (.canonical error))
  pure {
    instructionId, connectorRef, status, railTransactionId := none
    respondedAt := some (String.ofList around.now.nowIso)
    errorCode := some errorCode, rawResponseHash := rawHash }

def nextAttemptNo (rows : List ConnectorResultRow) (connectorId connectorRef : String) (kind : CallKind) : Nat :=
  ((rows.filter fun row =>
    row.connectorId = connectorId ∧ row.connectorRef = connectorRef ∧ row.callKind = kind).map
    (·.attemptNo)).foldl max 0 + 1

def lastFor (rows : List ConnectorResultRow) (connectorId connectorRef : String) (kind : CallKind) :
    Option ConnectorResultRow :=
  rows.reverse.find? fun row =>
    row.connectorId = connectorId ∧ row.connectorRef = connectorRef ∧ row.callKind = kind

variable (around : Surroundings)

def record (registration : ConnectorRegistration) (result : ConnectorResult)
    (kind : CallKind) : RunnerM Unit := modify fun runner =>
  let attemptNo := nextAttemptNo runner.results registration.connectorId result.connectorRef kind
  { runner with results := runner.results ++ [{
      instructionId := result.instructionId, connectorRef := result.connectorRef
      connectorId := registration.connectorId, attemptNo, callKind := kind, status := result.status
      railTransactionId := result.railTransactionId, respondedAt := result.respondedAt
      errorCode := result.errorCode, rawResponseHash := result.rawResponseHash
      modeAtCall := registration.activeMode, producedAt := around.now }] }

/-- `idem.put` of an outcome that may be replayed: the first write wins. -/
def remember (registration : ConnectorRegistration) (connectorRef : String) (result : ConnectorResult) :
    RunnerM Unit := modify fun runner =>
  let key := (registration.connectorId, connectorRef, CallKind.submit)
  if replaySafe result.status ∧ runner.recorded.get? key = none then
    { runner with recorded := runner.recorded.set key result }
  else runner

/-- How a call stands when the runner yields: refused without the adapter, or handed to it. -/
inductive Admission where
  | refused (refusal : Refusal) (result : ConnectorResult)
  | invoked (registration : ConnectorRegistration)

/-- A submit may also be answered from the record of an earlier one. -/
inductive Begun where
  | replayed (result : ConnectorResult)
  | admission (admission : Admission)

/-- The part `dispatch` and `_call` share: refuse, or look the adapter up. -/
def admitCall (registration : ConnectorRegistration)
    (instructionId connectorRef : String) (kind : CallKind) : RunnerM Admission := do
  let runner ← get
  set (runner.asked around registration kind)
  match runner.refusal? around registration kind with
  | some refusal => do
      let result ← synthetic around registration.connectorId instructionId connectorRef .failed refusal.code
      pure (.refused refusal result)
  | none => do
      adapter registration
      pure (.invoked registration)

/-- `dispatch`, up to `adapter.submit`. -/
def dispatch (instruction : PaymentInstruction) : RunnerM Begun := do
  let registration ← registration instruction.rail
  match (← get).recorded.get? (registration.connectorId, instruction.connectorRef, .submit) with
  | some recorded =>
    if replaySafe recorded.status then pure (.replayed recorded)
    else .admission <$> admitCall around registration instruction.instructionId instruction.connectorRef .submit
  | none => .admission <$> admitCall around registration instruction.instructionId instruction.connectorRef .submit

/-- The result of an awaited call, and whether it is a transport error. -/
def awaited (registration : ConnectorRegistration) (instructionId connectorRef : String)
    (outcome : AdapterOutcome) : RunnerM (ConnectorResult × Bool) :=
  match outcome with
  | .answered result _ => pure (result, false)
  | .timedOut => do
      pure (← synthetic around registration.connectorId instructionId connectorRef .timedOut "hard_timeout", false)
  | .raised => do
      pure (← synthetic around registration.connectorId instructionId connectorRef .failed transportErrorCode, true)

def observe (around : Surroundings) (registration : ConnectorRegistration) (result : ConnectorResult)
    (transportError : Bool) : RunnerM Unit := modify fun runner =>
  let breaker :=
    runner.breaker.observe around.breakerReadable registration.connectorId result.status transportError around.now
  { runner with breaker }

/-- `dispatch`, from the outcome of `adapter.submit` on. -/
def dispatched (registration : ConnectorRegistration) (instruction : PaymentInstruction)
    (outcome : AdapterOutcome) : RunnerM ConnectorResult := do
  let (result, transportError) ←
    awaited around registration instruction.instructionId instruction.connectorRef outcome
  record around registration result .submit
  remember registration instruction.connectorRef result
  observe around registration result transportError
  pure result

/-- `submit`, up to its first dispatch: the retries the registration allows. -/
def submit (around : Surroundings) (instruction : PaymentInstruction) : RunnerM (Int × Begun) := do
  let found ← registration instruction.rail
  let last := lastFor (← get).results found.connectorId instruction.connectorRef .submit
  raiseIf (last.any (·.status == .timedOut)) (.retryForbidden
    "submit after TIMED_OUT is forbidden for financial messages; use resubmit_after_timeout (query_status first)")
  let begun ← dispatch around instruction
  pure (found.submitRetries, begun)

/-- Whether the retry loop of `submit` goes round again. -/
def retries (result : ConnectorResult) (attempts budget : Int) : Bool :=
  result.status == .failed && result.errorCode == some transportErrorCode && decide (attempts < budget)

/-- `_call`, up to the adapter: `query_status` and `reverse`. -/
def call (connectorId connectorRef : String) (kind : CallKind) : RunnerM Admission := do
  let registration ← registration connectorId
  admitCall around registration "" connectorRef kind

/-- `_call`, from the adapter's outcome on. -/
def called (registration : ConnectorRegistration) (connectorRef : String) (kind : CallKind)
    (outcome : AdapterOutcome) : RunnerM ConnectorResult := do
  let (result, transportError) ← awaited around registration "" connectorRef outcome
  record around registration result kind
  observe around registration result transportError
  pure result

end ConnectorRunner

end BdPay.Connectors
