import BdPay.Compliance.Desk

namespace BdPay.Compliance

open Platform Data Effect

/-! The alert service and the sanctions screener. -/

structure ComplianceService where
  /-- Thresholds of the screener, in ten-thousandths. -/
  tHit : Nat
  tReview : Nat
  approvalsWired : Bool
  /-- `make_id("aml", ...)` of rule, subject and start of the window. -/
  alertKey : String → String → DateTime → String
  /-- `make_id("aml", ...)` of rule, subject, instant and payments. -/
  alertId : String → Subject → DateTime → List String → String
  /-- `make_id("sanc", ...)` of screening and entry. -/
  sancId : String → String → String

def analystRoles : List ActorRole := [.complianceAnalyst, .camlco]

def closeReasons : List String := ["FALSE_POSITIVE", "RESOLVED", "BELOW_THRESHOLD", "OTHER"]

/-! Alerts. -/

def requireAlert (desk : Desk) (alertId : String) : Except ComplianceError AmlAlert :=
  match desk.alerts.get? alertId with
  | some alert => .ok alert
  | none => .error (.invalidRequest "alert_not_found")

def denyUnless (condition : Bool) (error : ComplianceError) : Except ComplianceError Unit :=
  if condition then .ok () else .error error

def saveAlert (alert : AmlAlert) : DeskM Unit := do
  raiseIf ((← get).alerts.get? alert.alertId = none) (.conflict "unknown_alert")
  modify fun desk => { desk with alerts := desk.alerts.set alert.alertId alert }

def insertAlert (alert : AmlAlert) : DeskM Unit := do
  let desk ← get
  raiseIf (desk.alerts.contains alert.alertId) (.conflict "conflict")
  raiseIf (desk.alertByKey.contains alert.idempotencyKey) (.conflict "duplicate_alert")
  set { desk with
    alerts := desk.alerts.set alert.alertId alert
    alertByKey := desk.alertByKey.set alert.idempotencyKey alert.alertId }

structure AlertRequest where
  subject : Subject
  (ruleId rulePackId : String)
  riskTier : RiskTier
  windowStart : DateTime
  contributingPaymentIds : List String
  notes : Option String

variable (around : Surroundings)

def triaged (desk : Desk) (alertId : String) (role : ActorRole) (assignedTo : String)
    (notes : Option String) : Except ComplianceError AmlAlert := do
  let alert ← requireAlert desk alertId
  denyUnless (alert.status = .raised) (.conflict "fsm_transition_denied")
  denyUnless (role ∈ analystRoles) .authorization
  pure { alert with
    status := .triaging, assignedTo := some assignedTo, triagedAt := some around.now, notes := notes.or alert.notes }

def triage (alertId : String) (role : ActorRole) (assignedTo : String) (notes : Option String) :
    DeskM AmlAlert := do
  let updated ← attempt (triaged around (← get) alertId role assignedTo notes)
  saveAlert updated
  pure updated

/-- The alert a case may be opened on. -/
def openable (desk : Desk) (alertId : String) (role : ActorRole) : Except ComplianceError AmlAlert := do
  let alert ← requireAlert desk alertId
  denyUnless (alert.status = .triaging) (.conflict "fsm_transition_denied")
  denyUnless (role ∈ analystRoles) .authorization
  denyUnless (alert.contributingPaymentIds ≠ []) (.conflict "fsm_guard_failed")
  pure alert

/-- The freeze comes first: if it raises, nothing is saved. -/
def openCase (alertId : String) (role : ActorRole) (caseNotes : String) (freeze : Bool) :
    DeskM AmlAlert := do
  let alert ← attempt (openable (← get) alertId role)
  if freeze then freezeSubject around alert.subject "AML_CASE" alert.alertId
  let updated := { alert with
    status := .inCase, caseOpenedAt := some around.now, notes := some caseNotes
    freezeApplied := alert.freezeApplied || freeze }
  saveAlert updated
  pure updated

def strFiled (desk : Desk) (alertId : String) (role : ActorRole) (strReportId : String) (camlcoDeclaration : Bool) :
    Except ComplianceError AmlAlert := do
  let alert ← requireAlert desk alertId
  denyUnless (alert.status = .inCase) (.conflict "fsm_transition_denied")
  denyUnless (role = .camlco) .authorization
  denyUnless camlcoDeclaration (.invalidRequest "camlco_declaration_required")
  pure { alert with status := .strFiled, strReportId := some strReportId }

def markStrFiled (alertId : String) (role : ActorRole) (strReportId : String) (camlcoDeclaration : Bool) :
    DeskM AmlAlert := do
  let updated ← attempt (strFiled (← get) alertId role strReportId camlcoDeclaration)
  saveAlert updated
  pure updated

def releaseCase (alert : AmlAlert) : DeskM Unit :=
  if alert.freezeApplied then unfreezeSubject around alert.subject "AML_CASE_CLOSED" alert.alertId else pure ()

def closed (around : Surroundings) (alert : AmlAlert) (closeReason : String) (notes : Option String) : AmlAlert :=
  { alert with
    status := .closed, closedAt := some around.now, closeReason := some closeReason
    notes := notes.or alert.notes, freezeApplied := false }

def finalizeClose (alert : AmlAlert) (closeReason : String) (notes : Option String) :
    DeskM Unit := do
  releaseCase around alert
  saveAlert (closed around alert closeReason notes)

/-- The alert `close` is about, if it may be closed. -/
def closing (desk : Desk) (alertId : String) (role : ActorRole) (closeReason : String) :
    Except ComplianceError AmlAlert := do
  let alert ← requireAlert desk alertId
  denyUnless (alert.status = .triaging || alert.status = .inCase) (.conflict "fsm_transition_denied")
  denyUnless (role ∈ analystRoles) .authorization
  denyUnless (closeReason ∈ closeReasons) (.invalidRequest "close_reason_required")
  pure alert

/-- An open case is not closed here: an approval is requested for it. -/
def close (alertId : String) (role : ActorRole) (closeReason : String) (notes : Option String) :
    DeskM Unit := do
  let alert ← attempt (closing (← get) alertId role closeReason)
  if alert.status = .inCase then pure ()
  else finalizeClose around alert closeReason notes

/-- The case and the approval that closes it. -/
def caseClosing (desk : Desk) (alertId approvalRequestId : String) :
    Except ComplianceError (AmlAlert × ApprovalRecord) := do
  let alert ← requireAlert desk alertId
  denyUnless (alert.status = .inCase) (.conflict "fsm_transition_denied")
  match around.approval? approvalRequestId with
  | none => .error (.conflict "approval_not_granted")
  | some record => do
      denyUnless record.approved (.conflict "approval_not_granted")
      denyUnless (record.subjectId = alert.alertId && record.actionType = "aml_case_close") (.conflict "approval_mismatch")
      pure (alert, record)

def completeInCaseClose (alertId approvalRequestId : String) : DeskM Unit := do
  let (alert, record) ← attempt (caseClosing around (← get) alertId approvalRequestId)
  finalizeClose around alert record.closeReason (if record.notes = "" then none else some record.notes)

/-! Sanctions screening. -/

/-- An entry that scored high enough to be reported. -/
structure Match where
  entry : ListEntry
  score : Nat
  matchedAlias : String
  identifierExact : Bool

/-- A call of `screen_subject`, with what the matcher found on the active lists, best
match first. -/
structure ScreenRequest where
  subjectType : SubjectType
  subjectId : Option String
  names : List String
  paymentIntentId : Option String
  screeningId : String
  watchlistEmpty : Bool
  found : List Match

def WhitelistRow.active (row : WhitelistRow) (now : DateTime) : Bool := now.micros < row.expiresAt.micros

namespace ComplianceService

variable (service : ComplianceService) (around : Surroundings)

def raiseAlert (request : AlertRequest) : DeskM AmlAlert := do
  let desk ← get
  let idempotencyKey := service.alertKey request.ruleId request.subject.subjectId request.windowStart
  match (desk.alertByKey.get? idempotencyKey).bind desk.alerts.get? with
  | some existing => pure existing
  | none => do
      raiseIf (request.subject.subjectType ≠ .customer ∧ request.subject.subjectType ≠ .merchant)
        (.invalidRequest "subject_type must be Customer|Merchant")
      let alert : AmlAlert := {
        alertId := service.alertId request.ruleId request.subject around.now request.contributingPaymentIds
        subject := request.subject, ruleId := request.ruleId, rulePackId := request.rulePackId, status := .raised
        riskTier := request.riskTier, raisedAt := around.now, idempotencyKey
        contributingPaymentIds := request.contributingPaymentIds, notes := request.notes }
      insertAlert alert
      pure alert

/-- A match strong enough for a hit. -/
def strong (candidate : Match) : Bool := service.tHit ≤ candidate.score || candidate.identifierExact

variable (desk : Desk)

variable (request : ScreenRequest)

/-- The whitelist takes strong matches away, and only while it is in force. -/
def suppressed (candidate : Match) : Bool :=
  match request.subjectId with
  | none => false
  | some subjectId =>
    service.strong candidate &&
      ((desk.whitelist.get? (⟨request.subjectType, subjectId⟩, candidate.entry.entryContentHash)).map
        (·.active around.now)).getD false

def top : Option Match :=
  (request.found.filter fun candidate => !service.suppressed around desk request candidate).head?

def decision (candidate : Option Match) : Decision :=
  match candidate with
  | none => .clear
  | some candidate =>
    if service.strong candidate then .hit else if service.tReview ≤ candidate.score then .potentialMatch else .clear

def screeningRecord (sanctionsHitId : Option String) : ScreeningRecord :=
  { screeningId := request.screeningId, subjectType := request.subjectType, subjectId := request.subjectId
    paymentIntentId := request.paymentIntentId, namesScreened := request.names
    decision := service.decision (service.top around desk request)
    topScore := (service.top around desk request).map (·.score), matchCount := request.found.length
    sanctionsHitId, screenedAt := around.now }

def insertScreening (record : ScreeningRecord) : DeskM Unit :=
  modify fun desk => { desk with screenings := desk.screenings.set record.screeningId record }

variable (hit : SanctionsHit)

def insertHit : DeskM Unit := do
  raiseIf ((← get).hits.contains hit.sancId) (.conflict "conflict")
  modify fun desk => { desk with hits := desk.hits.set hit.sancId hit }

/-- The hit a strong top match makes; it is born frozen. -/
def bornHit (candidate : Match) : SanctionsHit :=
  { sancId := service.sancId request.screeningId candidate.entry.entryId, screeningId := request.screeningId
    entry := candidate.entry, subjectType := request.subjectType, subjectId := request.subjectId
    status := .detectedFrozen, score := candidate.score, matchedAlias := candidate.matchedAlias
    detectedAt := around.now, paymentIntentId := request.paymentIntentId
    freezeApplied := request.subjectId.isSome }

def freezeHit : DeskM Unit :=
  match hit.subject? with
  | some subject => freezeSubject around subject "SANCTIONS_HIT" hit.screeningId
  | none => pure ()

/-- A new hit: the freeze comes first, so that a failed freeze leaves nothing behind. -/
def detect (hit : SanctionsHit) : DeskM Unit := do
  freezeHit around hit
  insertScreening (service.screeningRecord around desk request (some hit.sancId))
  insertHit hit

def screenSubject : DeskM Unit := do
  raiseIf (request.names = []) (.invalidRequest "names_required")
  raiseIf request.watchlistEmpty (.sanctionsBlock "sanctions_screening_refused")
  let desk ← get
  match service.top around desk request with
  | none => insertScreening (service.screeningRecord around desk request none)
  | some candidate =>
    let hit := service.bornHit around request candidate
    if service.strong candidate then
      -- The same screening again: the hit that exists is left as it is.
      if desk.hits.contains hit.sancId then
        insertScreening (service.screeningRecord around desk request (some hit.sancId))
      else service.detect around desk request hit
    else insertScreening (service.screeningRecord around desk request none)

def requireHit (sancId : String) : Except ComplianceError SanctionsHit :=
  match desk.hits.get? sancId with
  | some hit => .ok hit
  | none => .error (.invalidRequest "hit_not_found")

def saveHit : DeskM Unit := do
  raiseIf ((← get).hits.get? hit.sancId = none) (.conflict "unknown_hit")
  modify fun desk => { desk with hits := desk.hits.set hit.sancId hit }

def reviewable (sancId : String) (role : ActorRole) : Except ComplianceError SanctionsHit := do
  let hit ← requireHit desk sancId
  denyUnless (hit.status = .detectedFrozen) (.conflict "fsm_transition_denied")
  denyUnless (role ∈ analystRoles) .authorization
  pure hit

def startReview (sancId actorId : String) (role : ActorRole) : DeskM Unit := do
  let hit ← attempt (reviewable (← get) sancId role)
  saveHit { hit with status := .underReview, reviewedBy := some actorId, reviewStartedAt := some around.now }

def confirmable (sancId : String) (role : ActorRole) (camlcoDeclaration : Bool) :
    Except ComplianceError (SanctionsHit × String) := do
  let hit ← requireHit desk sancId
  denyUnless (hit.status = .underReview) (.conflict "fsm_transition_denied")
  denyUnless (role = .camlco) .authorization
  denyUnless camlcoDeclaration (.invalidRequest "camlco_declaration_required")
  match hit.subjectId with
  | none => .error (.conflict "external_party_hit")
  | some subjectId => pure (hit, subjectId)

/-- Alerts know customers and merchants only. -/
def alertSubject (subjectId : String) : Subject :=
  ⟨if hit.subjectType = .merchant then .merchant else .customer, subjectId⟩

/-- The case of a confirmed hit is opened at once when a payment is involved. -/
def escalate (alert : AmlAlert) (actorId : String) : DeskM AmlAlert := do
  match hit.paymentIntentId with
  | none => pure alert
  | some _ => do
      let _ ← triage around alert.alertId .camlco actorId none
      openCase around alert.alertId .camlco s!"auto-opened on sanctions hit confirmation {hit.sancId}" false

/-- `str_workflow.create_from_alert` gives the identifier of the report, or raises. -/
def confirm (sancId actorId : String) (role : ActorRole) (camlcoDeclaration : Bool) (rulePackId : String)
    (report : Option String) : DeskM Unit := do
  let (hit, subjectId) ← attempt (confirmable (← get) sancId role camlcoDeclaration)
  let raised ← service.raiseAlert around {
    subject := alertSubject hit subjectId, ruleId := "rule_sanctions_confirmed_hit", rulePackId
    riskTier := .high, windowStart := hit.detectedAt, contributingPaymentIds := hit.paymentIntentId.toList
    notes := some s!"CAMLCO-confirmed sanctions hit {hit.sancId}" }
  let alert ← escalate around hit raised actorId
  match report with
  | none => throw .strUnavailable
  | some strReportId =>
    saveHit { hit with
      status := .confirmed, confirmedBy := some actorId, resolvedAt := some around.now
      amlAlertId := some alert.alertId, strReportId := some strReportId }

/-- The hit and the approval that clears it. -/
def clearable (sancId approvalRequestId rationale : String) :
    Except ComplianceError (SanctionsHit × ApprovalRecord) := do
  let hit ← requireHit desk sancId
  denyUnless (hit.status = .underReview) (.conflict "fsm_transition_denied")
  denyUnless service.approvalsWired (.conflict "approval_port_missing")
  denyUnless (rationale ≠ "") (.invalidRequest "rationale_required")
  match around.approval? approvalRequestId with
  | none => .error (.conflict "approval_not_granted")
  | some record => do
      denyUnless record.approved (.conflict "approval_not_granted")
      denyUnless (record.actionType = "sanctions_clear_or_unfreeze" && record.subjectId = sancId)
        (.conflict "approval_mismatch")
      pure (hit, record)

/-- The freeze a hit holds, by its own record. -/
def heldSubject : Option Subject := if hit.freezeApplied then hit.subject? else none

def insertWhitelist (row : WhitelistRow) : DeskM Unit := do
  raiseIf ((← get).whitelist.contains (row.subject, row.entryContentHash)) (.conflict "conflict")
  modify fun desk => { desk with whitelist := desk.whitelist.set (row.subject, row.entryContentHash) row }

def releaseHit : DeskM Unit :=
  match heldSubject hit with
  | some subject => unfreezeSubject around subject "SANCTIONS_HIT_CLEARED" hit.sancId
  | none => pure ()

def whitelistExpiry : Except ComplianceError DateTime :=
  match around.now.addDays? (30 * 24) with
  | some expiry => .ok expiry
  | none => .error .overflow

/-- A cleared hit may keep its entry from matching the subject again, for two years at most. -/
def whitelistHit (record : ApprovalRecord) (approvalRequestId : String) (whitelist : Bool) :
    DeskM Unit :=
  match whitelist, hit.subject? with
  | true, some subject => do
    let expiresAt ← attempt (whitelistExpiry around)
    insertWhitelist {
      subject, entryContentHash := hit.entry.entryContentHash, listCode := hit.entry.listCode
      sourceSancId := hit.sancId, approvalRequestId, approvedBy := record.approverId.getD ""
      createdAt := around.now, expiresAt }
  | _, _ => pure ()

def cleared (approvalRequestId : String) : SanctionsHit :=
  { hit with
    status := .clearedFalsePositive, approvalRequestId := some approvalRequestId, resolvedAt := some around.now
    freezeReleasedAt := if hit.freezeApplied then some around.now else none, freezeApplied := false }

/-- The audit event, whose constructor refuses an empty name, and the event in the outbox. -/
def hitEffects (actorId : String) : DeskM Unit := do
  raiseIf (actorId = "" ∨ hit.sancId = "") .emptyField
  raiseIf (around.recordsUp = false) .unrecorded

def clear (sancId actorId approvalRequestId rationale : String) (whitelist : Bool) : DeskM Unit := do
  let (hit, record) ← attempt (service.clearable around (← get) sancId approvalRequestId rationale)
  releaseHit around hit
  saveHit (cleared around hit approvalRequestId)
  whitelistHit around hit record approvalRequestId whitelist
  hitEffects around (cleared around hit approvalRequestId) actorId

end ComplianceService

/-! Runs. -/

inductive Event where
  | screenSubject (request : ScreenRequest)
  | startReview (sancId actorId : String) (role : ActorRole)
  | confirm (sancId actorId : String) (role : ActorRole) (camlcoDeclaration : Bool) (rulePackId : String)
      (report : Option String)
  | clear (sancId actorId approvalRequestId rationale : String) (whitelist : Bool)
  | raiseAlert (request : AlertRequest)
  | triage (alertId : String) (role : ActorRole) (assignedTo : String) (notes : Option String)
  | openCase (alertId : String) (role : ActorRole) (caseNotes : String) (freeze : Bool)
  | markStrFiled (alertId : String) (role : ActorRole) (strReportId : String) (camlcoDeclaration : Bool)
  | close (alertId : String) (role : ActorRole) (closeReason : String) (notes : Option String)
  | completeInCaseClose (alertId approvalRequestId : String)

structure Step where
  around : Surroundings
  event : Event

namespace ComplianceService

variable (service : ComplianceService)

def perform (around : Surroundings) : Event → DeskM Unit
  | .screenSubject request => service.screenSubject around request
  | .startReview sancId actorId role => startReview around sancId actorId role
  | .confirm sancId actorId role camlcoDeclaration rulePackId report =>
    service.confirm around sancId actorId role camlcoDeclaration rulePackId report
  | .clear sancId actorId approvalRequestId rationale whitelist =>
    service.clear around sancId actorId approvalRequestId rationale whitelist
  | .raiseAlert request => do let _ ← service.raiseAlert around request
  | .triage alertId role assignedTo notes => do let _ ← triage around alertId role assignedTo notes
  | .openCase alertId role caseNotes freeze => do let _ ← openCase around alertId role caseNotes freeze
  | .markStrFiled alertId role strReportId camlcoDeclaration => do
      let _ ← markStrFiled alertId role strReportId camlcoDeclaration
  | .close alertId role closeReason notes => close around alertId role closeReason notes
  | .completeInCaseClose alertId approvalRequestId => completeInCaseClose around alertId approvalRequestId

/-- A step keeps what it wrote, whether it returned or raised. -/
def after (desk : Desk) (step : Step) : Desk := leaves (service.perform step.around step.event) desk

def run (steps : List Step) : Desk := steps.foldl service.after .empty

end ComplianceService

end BdPay.Compliance
