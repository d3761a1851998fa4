import BdPay.Kernel.Fsm

namespace BdPay.Kernel

/-! The transition tables of payment intents, attempts and refunds. -/

inductive PaymentMethod where
  | npsbIbft | beftnCredit | bkash | nagad | rocket | card | banglaQr
deriving DecidableEq

def PaymentMethod.value : PaymentMethod → String
  | .npsbIbft => "NPSB_IBFT"
  | .beftnCredit => "BEFTN_CREDIT"
  | .bkash => "BKASH"
  | .nagad => "NAGAD"
  | .rocket => "ROCKET"
  | .card => "CARD"
  | .banglaQr => "BANGLA_QR"

inductive CaptureMethod where
  | automatic | manual
deriving DecidableEq

inductive RefundReason where
  | customerRequest | duplicate | fraudulent | merchantInitiated
deriving DecidableEq

def RefundReason.value : RefundReason → String
  | .customerRequest => "customer_request"
  | .duplicate => "duplicate"
  | .fraudulent => "fraudulent"
  | .merchantInitiated => "merchant_initiated"

/-- The keys that tell several outcomes of one trigger apart. -/
inductive Guard where
  | authorized | charged | noPriorPartial | priorPartial
deriving DecidableEq

def Guard.value : Guard → String
  | .authorized => "authorized"
  | .charged => "charged"
  | .noPriorPartial => "no_prior_partial"
  | .priorPartial => "prior_partial"

inductive IntentStatus where
  | created | requiresPaymentMethod | requiresConfirmation | preFlight | requiresAction | processing | requiresCapture
  | succeeded | failed | cancelled | reversalInitiated | reversalPending | reversed | refundInitiated
  | partiallyRefunded | refunded
deriving DecidableEq

abbrev IntentStatus.Reversing (status : IntentStatus) : Prop := status = .reversalInitiated ∨ status = .reversalPending

def IntentStatus.value : IntentStatus → String
  | .created => "CREATED"
  | .requiresPaymentMethod => "REQUIRES_PAYMENT_METHOD"
  | .requiresConfirmation => "REQUIRES_CONFIRMATION"
  | .preFlight => "PRE_FLIGHT"
  | .requiresAction => "REQUIRES_ACTION"
  | .processing => "PROCESSING"
  | .requiresCapture => "REQUIRES_CAPTURE"
  | .succeeded => "SUCCEEDED"
  | .failed => "FAILED"
  | .cancelled => "CANCELLED"
  | .reversalInitiated => "REVERSAL_INITIATED"
  | .reversalPending => "REVERSAL_PENDING"
  | .reversed => "REVERSED"
  | .refundInitiated => "REFUND_INITIATED"
  | .partiallyRefunded => "PARTIALLY_REFUNDED"
  | .refunded => "REFUNDED"

inductive IntentTrigger where
  | methodSupplied | confirm | ttlExpired | cancelRequested | preflightPassed | actionRequired | sanctionsHit | amlBlock
  | limitExceeded | actionCompleted | actionFailed | attemptAuthorized | attemptCharged | attemptFailedRetryable
  | attemptHardDeclined | attemptTimedOut | reversalTriggered | captureRequested | voidRequested
  | reversalDispatchClaimed | reversalConfirmed | reversalFailed | refundInitiated | refundPartialSucceeded
  | refundFullSucceeded | refundFailed
deriving DecidableEq

def IntentTrigger.value : IntentTrigger → String
  | .methodSupplied => "method_supplied"
  | .confirm => "confirm"
  | .ttlExpired => "ttl_expired"
  | .cancelRequested => "cancel_requested"
  | .preflightPassed => "preflight_passed"
  | .actionRequired => "action_required"
  | .sanctionsHit => "sanctions_hit"
  | .amlBlock => "aml_block"
  | .limitExceeded => "limit_exceeded"
  | .actionCompleted => "action_completed"
  | .actionFailed => "action_failed"
  | .attemptAuthorized => "attempt_authorized"
  | .attemptCharged => "attempt_charged"
  | .attemptFailedRetryable => "attempt_failed_retryable"
  | .attemptHardDeclined => "attempt_hard_declined"
  | .attemptTimedOut => "attempt_timed_out"
  | .reversalTriggered => "reversal_triggered"
  | .captureRequested => "capture_requested"
  | .voidRequested => "void_requested"
  | .reversalDispatchClaimed => "reversal_dispatch_claimed"
  | .reversalConfirmed => "reversal_confirmed"
  | .reversalFailed => "reversal_failed"
  | .refundInitiated => "refund_initiated"
  | .refundPartialSucceeded => "refund_partial_succeeded"
  | .refundFullSucceeded => "refund_full_succeeded"
  | .refundFailed => "refund_failed"

def intentRules : List (TransitionRule IntentStatus IntentTrigger Guard) := [
  ⟨.created, .methodSupplied, .requiresPaymentMethod, none⟩,
  ⟨.created, .confirm, .preFlight, none⟩,
  ⟨.created, .ttlExpired, .cancelled, none⟩,
  ⟨.created, .cancelRequested, .cancelled, none⟩,
  ⟨.requiresPaymentMethod, .methodSupplied, .requiresConfirmation, none⟩,
  ⟨.requiresPaymentMethod, .ttlExpired, .cancelled, none⟩,
  ⟨.requiresPaymentMethod, .cancelRequested, .cancelled, none⟩,
  ⟨.requiresConfirmation, .confirm, .preFlight, none⟩,
  ⟨.requiresConfirmation, .ttlExpired, .cancelled, none⟩,
  ⟨.requiresConfirmation, .cancelRequested, .cancelled, none⟩,
  ⟨.preFlight, .preflightPassed, .processing, none⟩,
  ⟨.preFlight, .actionRequired, .requiresAction, none⟩,
  ⟨.preFlight, .sanctionsHit, .failed, none⟩,
  ⟨.preFlight, .amlBlock, .failed, none⟩,
  ⟨.preFlight, .limitExceeded, .failed, none⟩,
  ⟨.requiresAction, .actionCompleted, .processing, none⟩,
  ⟨.requiresAction, .actionFailed, .failed, none⟩,
  ⟨.requiresAction, .ttlExpired, .failed, none⟩,
  ⟨.processing, .attemptAuthorized, .requiresCapture, none⟩,
  ⟨.processing, .attemptCharged, .succeeded, none⟩,
  ⟨.processing, .attemptFailedRetryable, .processing, none⟩,
  ⟨.processing, .attemptHardDeclined, .failed, none⟩,
  ⟨.processing, .attemptTimedOut, .processing, none⟩,
  ⟨.processing, .reversalTriggered, .reversalInitiated, none⟩,
  ⟨.processing, .ttlExpired, .reversalInitiated, none⟩,
  ⟨.requiresCapture, .captureRequested, .succeeded, none⟩,
  ⟨.requiresCapture, .voidRequested, .cancelled, none⟩,
  ⟨.requiresCapture, .ttlExpired, .reversalInitiated, none⟩,
  ⟨.reversalInitiated, .reversalDispatchClaimed, .reversalPending, none⟩,
  ⟨.reversalInitiated, .reversalConfirmed, .reversed, none⟩,
  ⟨.reversalInitiated, .reversalFailed, .failed, none⟩,
  ⟨.reversalPending, .reversalDispatchClaimed, .reversalPending, none⟩,
  ⟨.reversalPending, .reversalConfirmed, .reversed, none⟩,
  ⟨.reversalPending, .reversalFailed, .failed, none⟩,
  ⟨.succeeded, .refundInitiated, .refundInitiated, none⟩,
  ⟨.refundInitiated, .refundPartialSucceeded, .partiallyRefunded, none⟩,
  ⟨.refundInitiated, .refundFullSucceeded, .refunded, none⟩,
  ⟨.refundInitiated, .refundFailed, .succeeded, some .noPriorPartial⟩,
  ⟨.refundInitiated, .refundFailed, .partiallyRefunded, some .priorPartial⟩,
  ⟨.partiallyRefunded, .refundInitiated, .refundInitiated, none⟩,
  ⟨.partiallyRefunded, .refundFullSucceeded, .refunded, none⟩]

def intentTable : TransitionTable IntentStatus IntentTrigger Guard where
  name := "PaymentIntent"
  stateName := IntentStatus.value
  triggerName := IntentTrigger.value
  guardName := Guard.value
  terminalStates := [.failed, .cancelled, .reversed, .refunded]
  rules := intentRules
  terminalsFinal := by decide
  guardsDiffer := by decide

inductive AttemptStatus where
  | started | authenticationPending | authenticationFailed | authorizationPending | authorizationFailed | timedOut
  | authorized | captureInitiated | charged | captureFailed | voided | reversed
deriving DecidableEq

def AttemptStatus.value : AttemptStatus → String
  | .started => "STARTED"
  | .authenticationPending => "AUTHENTICATION_PENDING"
  | .authenticationFailed => "AUTHENTICATION_FAILED"
  | .authorizationPending => "AUTHORIZATION_PENDING"
  | .authorizationFailed => "AUTHORIZATION_FAILED"
  | .timedOut => "TIMED_OUT"
  | .authorized => "AUTHORIZED"
  | .captureInitiated => "CAPTURE_INITIATED"
  | .charged => "CHARGED"
  | .captureFailed => "CAPTURE_FAILED"
  | .voided => "VOIDED"
  | .reversed => "REVERSED"

inductive AttemptTrigger where
  | authenticationRequired | submitted | authSuccess | authFailure | authTimeout | connectorAuthorized
  | connectorSuccessDirect | connectorFailed | connectorRejected | connectorTimeout | pollSuccess | pollPending
  | pollFailed | pollExhausted | pollReversed | captureSubmitted | voidSubmitted | authExpired | captureConfirmed
  | captureFailed | reversalSubmitted
deriving DecidableEq

def AttemptTrigger.value : AttemptTrigger → String
  | .authenticationRequired => "authentication_required"
  | .submitted => "submitted"
  | .authSuccess => "auth_success"
  | .authFailure => "auth_failure"
  | .authTimeout => "auth_timeout"
  | .connectorAuthorized => "connector_authorized"
  | .connectorSuccessDirect => "connector_success_direct"
  | .connectorFailed => "connector_failed"
  | .connectorRejected => "connector_rejected"
  | .connectorTimeout => "connector_timeout"
  | .pollSuccess => "poll_success"
  | .pollPending => "poll_pending"
  | .pollFailed => "poll_failed"
  | .pollExhausted => "poll_exhausted"
  | .pollReversed => "poll_reversed"
  | .captureSubmitted => "capture_submitted"
  | .voidSubmitted => "void_submitted"
  | .authExpired => "auth_expired"
  | .captureConfirmed => "capture_confirmed"
  | .captureFailed => "capture_failed"
  | .reversalSubmitted => "reversal_submitted"

def attemptRules : List (TransitionRule AttemptStatus AttemptTrigger Guard) := [
  ⟨.started, .authenticationRequired, .authenticationPending, none⟩,
  ⟨.started, .submitted, .authorizationPending, none⟩,
  ⟨.authenticationPending, .authSuccess, .authorizationPending, none⟩,
  ⟨.authenticationPending, .authFailure, .authenticationFailed, none⟩,
  ⟨.authenticationPending, .authTimeout, .authenticationFailed, none⟩,
  ⟨.authorizationPending, .connectorAuthorized, .authorized, none⟩,
  ⟨.authorizationPending, .connectorSuccessDirect, .charged, none⟩,
  ⟨.authorizationPending, .connectorFailed, .authorizationFailed, none⟩,
  ⟨.authorizationPending, .connectorRejected, .authorizationFailed, none⟩,
  ⟨.authorizationPending, .connectorTimeout, .timedOut, none⟩,
  ⟨.timedOut, .pollSuccess, .authorized, some .authorized⟩,
  ⟨.timedOut, .pollSuccess, .charged, some .charged⟩,
  ⟨.timedOut, .pollPending, .timedOut, none⟩,
  ⟨.timedOut, .pollFailed, .authorizationFailed, none⟩,
  ⟨.timedOut, .pollExhausted, .authorizationFailed, none⟩,
  ⟨.timedOut, .pollReversed, .reversed, none⟩,
  ⟨.authorized, .captureSubmitted, .captureInitiated, none⟩,
  ⟨.authorized, .voidSubmitted, .voided, none⟩,
  ⟨.authorized, .authExpired, .voided, none⟩,
  ⟨.captureInitiated, .captureConfirmed, .charged, none⟩,
  ⟨.captureInitiated, .captureFailed, .captureFailed, none⟩,
  ⟨.charged, .reversalSubmitted, .reversed, none⟩]

def attemptTable : TransitionTable AttemptStatus AttemptTrigger Guard where
  name := "PaymentAttempt"
  stateName := AttemptStatus.value
  triggerName := AttemptTrigger.value
  guardName := Guard.value
  terminalStates := [.authenticationFailed, .authorizationFailed, .captureFailed, .voided, .reversed]
  rules := attemptRules
  terminalsFinal := by decide
  guardsDiffer := by decide

inductive RefundStatus where
  | refundInitiated | refundPendingConnector | refundSucceeded | refundFailed
deriving DecidableEq

def RefundStatus.value : RefundStatus → String
  | .refundInitiated => "REFUND_INITIATED"
  | .refundPendingConnector => "REFUND_PENDING_CONNECTOR"
  | .refundSucceeded => "REFUND_SUCCEEDED"
  | .refundFailed => "REFUND_FAILED"

inductive RefundTrigger where
  | connectorDispatched | railNotSupported | connectorSuccess | connectorFailed | connectorRejected | retriesExhausted
  | connectorTimeout
deriving DecidableEq

def RefundTrigger.value : RefundTrigger → String
  | .connectorDispatched => "connector_dispatched"
  | .railNotSupported => "rail_not_supported"
  | .connectorSuccess => "connector_success"
  | .connectorFailed => "connector_failed"
  | .connectorRejected => "connector_rejected"
  | .retriesExhausted => "retries_exhausted"
  | .connectorTimeout => "connector_timeout"

def refundRules : List (TransitionRule RefundStatus RefundTrigger Guard) := [
  ⟨.refundInitiated, .connectorDispatched, .refundPendingConnector, none⟩,
  ⟨.refundInitiated, .railNotSupported, .refundFailed, none⟩,
  ⟨.refundPendingConnector, .connectorSuccess, .refundSucceeded, none⟩,
  ⟨.refundPendingConnector, .connectorFailed, .refundPendingConnector, none⟩,
  ⟨.refundPendingConnector, .connectorRejected, .refundFailed, none⟩,
  ⟨.refundPendingConnector, .retriesExhausted, .refundFailed, none⟩,
  ⟨.refundPendingConnector, .connectorTimeout, .refundPendingConnector, none⟩]

def refundTable : TransitionTable RefundStatus RefundTrigger Guard where
  name := "Refund"
  stateName := RefundStatus.value
  triggerName := RefundTrigger.value
  guardName := Guard.value
  terminalStates := [.refundSucceeded, .refundFailed]
  rules := refundRules
  terminalsFinal := by decide
  guardsDiffer := by decide

end BdPay.Kernel
