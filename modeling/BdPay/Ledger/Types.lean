import BdPay.Platform.Canonical

namespace BdPay.Ledger

open Platform

/-! Vocabularies, input specs and stored rows of the ledger.

Sides, types and statuses arrive as plain strings and are checked against these
vocabularies at run time, so they stay strings here.
-/

def producerName : String := "ledger-service@1"

def sides : List String :=
  ["DEBIT", "CREDIT"]

def accountTypes : List String :=
  ["ASSET", "LIABILITY", "EQUITY", "INCOME", "EXPENSE"]

def accountSubtypes : List String :=
  ["SPONSOR_BANK_TCSA", "IN_TRANSIT", "FEE_RECEIVABLE", "SUSPENSE", "CONNECTOR_CLEARING", "CUSTOMER_FLOAT",
    "CUSTOMER_HOLD_RESERVE", "MERCHANT_SETTLEMENT", "MERCHANT_HOLD_RESERVE", "MERCHANT_ROLLING_RESERVE",
    "REFUND_RESERVE", "PARTICIPANT_POSITION", "NET_DEBIT_CAP", "RETAINED_EARNINGS", "PAID_UP_CAPITAL",
    "MDR_INCOME", "SWITCHING_FEE_INCOME", "INTERCHANGE_INCOME", "FLOAT_INTEREST_INCOME",
    "OFFER_COMMISSION_INCOME", "SPONSOR_BANK_FEE", "NETWORK_FEE", "REFUND_EXPENSE", "CONNECTIVITY_EXPENSE",
    "OFFER_MARKETING_EXPENSE"]

def ownerTypes : List String :=
  ["MERCHANT", "CUSTOMER", "PARTICIPANT", "SYSTEM"]

def holdStatuses : List String :=
  ["OPEN", "CAPTURED", "VOIDED", "EXPIRED"]

def entryTypes : List String :=
  ["payment_authorized", "payment_captured", "payment_failed", "payment_reversed", "refund_initiated",
    "refund_settled", "fee_collected", "hold_opened", "hold_captured", "hold_voided", "hold_expired",
    "rolling_reserve_withheld", "rolling_reserve_released", "settlement_batch_open",
    "settlement_batch_close", "settlement_confirmed", "tcsa_balance_update", "participant_debit_cap_set",
    "position_updated", "suspense_entry", "suspense_cleared", "connector_clearing_in",
    "connector_clearing_out", "adjustment_debit", "adjustment_credit", "offer_commission_collected",
    "offer_commission_reversed", "offer_subsidy_granted", "offer_subsidy_reversed", "disbursement_funded",
    "disbursement_item_paid", "disbursement_item_returned", "disbursement_failed_release",
    "settlement_batch_open_reversal"]

def referenceTypes : List String :=
  ["PAYMENT", "SETTLEMENT", "REFUND", "FEE", "REVERSAL", "ADJUSTMENT", "TCSA", "HOLD", "RESERVE"]

def genesisEntryType : String := "genesis"

def auditEventTypes : List String :=
  ["PAYMENT_STATE_TRANSITION", "PAYMENT_ATTEMPT_STATE_TRANSITION", "REFUND_STATE_TRANSITION", "HOLD_OPENED",
    "HOLD_CAPTURED", "HOLD_VOIDED", "HOLD_EXPIRED", "KYC_VERIFIED", "KYC_TIER_ASSIGNED",
    "KYC_REVIEW_TRIGGERED", "KYB_VERIFIED", "MERCHANT_STATE_TRANSITION", "MERCHANT_SUSPENDED",
    "MERCHANT_TERMINATED", "RULE_ACTIVATED", "RULE_DEACTIVATED", "CONFIG_CHANGED", "APPROVAL_REQUESTED",
    "APPROVAL_GRANTED", "APPROVAL_DENIED", "APPROVAL_EXECUTED", "SANCTIONS_HIT", "SANCTIONS_CLEARED",
    "AML_ALERT_RAISED", "STR_FILED", "CTR_FILED", "CONNECTOR_CALL", "CONNECTOR_RESULT",
    "CHAIN_VERIFY_STARTED", "CHAIN_VERIFY_COMPLETED", "CHAIN_TAMPER_DETECTED", "CHAIN_VERIFY_ERROR",
    "REPLAY_STARTED", "REPLAY_COMPLETED", "REPLAY_FAILED", "SETTLEMENT_BATCH_STATE_TRANSITION",
    "TCSA_SHORTFALL_DETECTED", "POSITION_LIMIT_BREACHED", "ARCHIVAL_STARTED", "ARCHIVAL_COMPLETED",
    "OPERATOR_LOGIN", "OPERATOR_ACTION", "BB_INSPECTOR_ACCESS", "SETTLEMENT_INSTRUCTION_STATE_TRANSITION",
    "RECONCILIATION_RECORD_STATE_TRANSITION", "RECONCILIATION_EXCEPTION_STATE_TRANSITION",
    "SETTLEMENT_WINDOW_STATE_TRANSITION", "NDC_BREACH_BLOCKED", "TCSA_SHORTFALL_RESOLVED",
    "SANCTIONS_LIST_INGESTED", "SANCTIONS_SCREENING_COMPLETED", "SANCTIONS_HIT_DETECTED",
    "SANCTIONS_HIT_STATE_TRANSITION", "AML_ALERT_STATE_TRANSITION", "AML_PREFLIGHT_RULE_PACK_MISSING",
    "MONITOR_EVALUATION_FAILED", "AML_MONITOR_RULE_PACK_MISSING", "RULE_PACK_LOADED", "RULE_PACK_ACTIVATED",
    "CAMLCO_EXPORT_STARTED", "CAMLCO_EXPORT_COMPLETED", "FACT_CORRECTION_VERIFIED", "DOSSIER_EXPORT_STARTED",
    "DOSSIER_EXPORT_COMPLETED", "DOSSIER_ASSEMBLY_STARTED", "DOSSIER_ASSEMBLY_COMPLETED",
    "DOSSIER_ASSEMBLY_FAILED", "FACT_CORRECTION_RECORDED", "FACT_CORRECTION_RETRACTED", "QR_ISSUED",
    "QR_SUSPEND", "QR_REACTIVATE", "QR_REVOKE", "QR_PAY_INITIATED", "KYB_STATE_TRANSITION",
    "KYB_DOCUMENT_UPLOADED", "KYB_UBO_ADDED", "KYB_UBO_VERIFICATION", "KYB_AGREEMENT_SIGNED",
    "PAYMENT_LINK_CREATED", "PAYMENT_LINK_PAID", "PAYMENT_LINK_EXPIRED", "PAYMENT_LINK_CANCELLED",
    "SANDBOX_SIGNUP_CREATED", "SANDBOX_SIGNUP_VERIFIED", "SANDBOX_SIGNUP_PROVISIONED",
    "SANDBOX_SIGNUP_EXPIRED", "SANDBOX_SIGNUP_REVOKED", "OFFER_STATE_TRANSITION",
    "SUBSCRIPTION_STATE_TRANSITION", "SUBSCRIPTION_CYCLE_STATE_TRANSITION",
    "DISBURSEMENT_BATCH_STATE_TRANSITION", "DISBURSEMENT_ITEM_STATE_TRANSITION",
    "PARTICIPANT_APPLICATION_SUBMITTED", "PARTICIPANT_DOCS_REQUESTED", "PARTICIPANT_DOCUMENT_UPLOADED",
    "PARTICIPANT_DOCUMENT_VERIFIED", "PARTICIPANT_DOCUMENT_REJECTED", "PARTICIPANT_LICENSE_INVALID",
    "PARTICIPANT_MOU_SIGNED", "PARTICIPANT_CONFORMANCE_STARTED", "PARTICIPANT_CONFORMANCE_PASSED",
    "PARTICIPANT_CONFORMANCE_FAILED", "PARTICIPANT_CONFORMANCE_EXHAUSTED",
    "PARTICIPANT_ACTIVATION_REQUESTED", "PARTICIPANT_ACTIVATED", "PARTICIPANT_SUSPENDED",
    "PARTICIPANT_REINSTATED", "PARTICIPANT_TERMINATED", "PARTICIPANT_REJECTED",
    "CONFORMANCE_RUN_EVIDENCE_MISMATCH", "CONFORMANCE_RUN_STARTED", "CONFORMANCE_RUN_COMPLETED",
    "NETTING_COMPLETED", "NETTING_INTEGRITY_FAILURE", "WINDOW_PARTICIPANT_SUSPENDED", "WINDOW_UNWOUND"]

def actorTypes : List String :=
  ["OPERATOR", "CUSTOMER", "MERCHANT", "SERVICE", "BB_INSPECTOR"]

/-- The closed topic registry of the outbox. -/
def topics : List String :=
  ["payment.events", "settlement.events", "aml.events", "recon.events", "kyc.events", "connector.events",
    "qr.events", "vault.events", "platform.events", "notification.events", "offer.events"]

structure PostingSpec where
  (accountId side : String)
  amountMinor : Int
  currency : String := "BDT"

structure JournalEntrySpec where
  (referenceId referenceType entryType description producedBy idempotencyKey : String)
  postings : List PostingSpec

structure AuditEventSpec where
  (eventType actorId actorType subjectType subjectId : String)
  fromState : Option String := none
  toState : Option String := none
  payload : PyValue := .dict []

structure AccountSpec where
  (accountType accountSubtype : String)
  ownerId : Option String := none
  ownerType : Option String := none
  parentId : Option String := none
  purposeTag : Option String := none
  isSystem : Bool := false
  currency : String := "BDT"

structure AccountRow where
  (accountId accountType accountSubtype currency : String)
  (ownerId ownerType parentId purposeTag : Option String)
  isSystem : Bool
  createdAt : DateTime
  closedAt : Option DateTime := none
  schemaVersion : Int := 1

structure JournalEntryRow where
  entryId : String
  entryIndex : Int
  (referenceId referenceType entryType description producedBy : String)
  producedAt : DateTime
  idempotencyKey : String
  schemaVersion : Int := 1

structure PostingRow where
  (postingId entryId accountId side : String)
  amountMinor : Int
  currency : String
  producedAt : DateTime
  schemaVersion : Int := 1
deriving DecidableEq

structure AccountHoldRow where
  (holdId accountId holdReserveAccountId sourceAccountId referenceId : String)
  amountMinor : Int
  (holdReason status : String)
  (holdOpenedAt holdExpiresAt : DateTime)
  holdClosedAt : Option DateTime
  openJeId : String
  closeJeId : Option String := none
  schemaVersion : Int := 1

structure ChainEntryRow where
  chainDomain : String
  chainIndex : Int
  (entryType payloadHash payloadPointer prevChainHash : String)
  amountMinorSum : Int
  chainHash : String
  isCheckpoint : Bool
  checkpointSequenceInDomain : Option Int
  (checkpointSig checkpointPublicKeyB64 : Option String)
  producer : String
  producedAt : DateTime
  schemaVersion : Int := 1

structure CheckpointRow where
  (checkpointId chainDomain : String)
  (checkpointSequenceInDomain chainIndexFrom chainIndexTo : Int)
  (chainHashAtCheckpoint checkpointSig checkpointPublicKeyB64 : String)
  entriesInSegment : Int
  signedAt : DateTime
  schemaVersion : Int := 1

structure OutboxRow where
  (eventId topic eventType subjectType subjectId payloadJson producer : String)
  occurredAt : DateTime
  published : Bool := false
  schemaVersion : Int := 1

structure AuditEventRow where
  eventId : String
  entryIndex : Int
  (eventType actorId actorType subjectType subjectId : String)
  (fromState toState : Option String)
  (payloadHash payloadPointer payloadJson prevChainHash chainHash : String)
  piiRedacted : Bool
  occurredAt : DateTime
  schemaVersion : Int := 1

inductive VerifyStatus where
  | completed | failedBrokenChain | failedInvalidCheckpointSig | failedError
deriving DecidableEq

structure ChainVerificationResult where
  status : VerifyStatus
  entriesChecked : Int := 0
  firstBrokenIndex : Option Int := none
  checkpointsVerified : Int := 0
  detail : Option String := none

structure TrialBalance where
  (totalDebitMinor totalCreditMinor : Int)

def TrialBalance.balanced (balance : TrialBalance) : Bool :=
  balance.totalDebitMinor == balance.totalCreditMinor

structure WriteGateState where
  engaged : Bool
  reason : Option String := none
  engagedAt : Option DateTime := none

structure ChainTip where
  chainIndex : Int
  chainHash : String

/-- The exceptions a ledger call can raise, by class. -/
inductive LedgerError where
  | memoryConstraint (message : String)
  | imbalance (message : String)
  | duplicate (idempotencyKey existingEntryId : String)
  | duplicateEvent (eventId : String)
  | accountNotFound (message : String)
  | amount (message : String)
  | validation (message : String)
  | trialBalanceViolation (totalDebitMinor totalCreditMinor : Int)
  | writeGateEngaged (message : String)
  | hashChain (message : String)
  | canonical (error : CanonicalError)
  | idPrefix (text : String)
  | keyError (key : String)
  | overflow

namespace LedgerError

def className : LedgerError → String
  | .memoryConstraint _ => "MemoryConstraintError"
  | .imbalance _ => "LedgerImbalanceError"
  | .duplicate .. => "LedgerDuplicateError"
  | .duplicateEvent _ => "LedgerDuplicateEventError"
  | .accountNotFound _ => "LedgerAccountNotFoundError"
  | .amount _ => "LedgerAmountError"
  | .validation _ => "LedgerValidationError"
  | .trialBalanceViolation .. => "TrialBalanceViolationError"
  | .writeGateEngaged _ => "LedgerWriteGateEngagedError"
  | .hashChain _ => "HashChainError"
  | .canonical _ => "CanonicalError"
  | .idPrefix _ => "IdPrefixError"
  | .keyError _ => "KeyError"
  | .overflow => "OverflowError"

/-- The text of an exception; `repr` is Python's `repr` of a string. -/
def message (repr : String → String) : LedgerError → String
  | .memoryConstraint message | .imbalance message | .accountNotFound message | .amount message
  | .validation message | .writeGateEngaged message | .hashChain message => message
  | .duplicate key existing =>
    s!"journal entry with idempotency_key {repr key} already exists as {repr existing}"
  | .duplicateEvent eventId => s!"event {repr eventId} already exists"
  | .trialBalanceViolation debit credit =>
    s!"trial balance violated: debit={debit} credit={credit} delta={debit - credit}"
  | .canonical error => error.message
  | .idPrefix text => s!"unknown id prefix {repr text}; allowed prefixes are the spec 00 §3 table"
  | .keyError key => repr key
  | .overflow => "date value out of range"

end LedgerError

end BdPay.Ledger
