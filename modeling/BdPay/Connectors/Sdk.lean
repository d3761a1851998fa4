import BdPay.Platform.Clock
import BdPay.Data.Dict

namespace BdPay.Connectors

/-! The connector contract: instructions, results and what a call of an adapter can come to. -/

inductive ConnectorStatus where
  | success | pending | failed | rejected | timedOut | reversed
deriving DecidableEq

def ConnectorStatus.value : ConnectorStatus → String
  | .success => "success"
  | .pending => "pending"
  | .failed => "failed"
  | .rejected => "rejected"
  | .timedOut => "timed_out"
  | .reversed => "reversed"

structure PaymentInstruction where
  (instructionId connectorRef : String)
  amountMinor : Int
  (method senderRef beneficiaryRef rail instructionAt : String)
  metadata : List (String × String)

structure ConnectorResult where
  (instructionId connectorRef : String)
  status : ConnectorStatus
  (railTransactionId respondedAt errorCode : Option String)
  rawResponseHash : String
deriving DecidableEq

inductive ConnectorMode where
  | manualLocal | simulator | sandbox | production | disabled
deriving DecidableEq

def ConnectorMode.value : ConnectorMode → String
  | .manualLocal => "MANUAL_LOCAL"
  | .simulator => "SIMULATOR"
  | .sandbox => "SANDBOX"
  | .production => "PRODUCTION"
  | .disabled => "DISABLED"

/-- The fields of a `connector_registry` row that the runner reads. -/
structure ConnectorRegistration where
  connectorId : String
  activeMode : ConnectorMode
  enabled : Bool
  submitRetries : Int := 0

/-- The calls the runner makes, as the result log and the breaker name them. -/
inductive CallKind where
  | submit | queryStatus | reverse | health
deriving DecidableEq

/-- How an awaited adapter call ends: the hard timeout fires, the adapter raises,
or it answers.  `verdict` says whether the answer carries what the rail decided;
an adapter that could not decode or authenticate the rail's message answers too. -/
inductive AdapterOutcome where
  | timedOut | raised
  | answered (result : ConnectorResult) (verdict : Bool)
deriving DecidableEq

/-- The status the caller of the runner sees. -/
def AdapterOutcome.status : AdapterOutcome → ConnectorStatus
  | .timedOut => .timedOut
  | .raised => .failed
  | .answered result _ => result.status

/-- A failed submit after which the rail may still have executed the instruction. -/
def AdapterOutcome.ambiguous : AdapterOutcome → Bool
  | .raised => true
  | .answered result verdict => result.status == .failed && !verdict
  | .timedOut => false

/-- The answer of a poll that says what the rail decided. -/
def AdapterOutcome.isVerdict : AdapterOutcome → Bool
  | .answered result verdict => verdict && result.status != .timedOut
  | .raised | .timedOut => false

end BdPay.Connectors
