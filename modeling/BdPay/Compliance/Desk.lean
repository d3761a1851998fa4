import BdPay.Data.Dict
import BdPay.Data.Effect
import BdPay.Platform.Clock

namespace BdPay.Compliance

open Platform Data Effect

/-! What the compliance services keep: the controls on subjects, the alerts, the
sanctions hits and the whitelist. -/

inductive SubjectType where
  | customer | merchant | participant | ubo | externalParty
deriving DecidableEq

structure Subject where
  subjectType : SubjectType
  subjectId : String
deriving DecidableEq

inductive ControlType where
  | freezeSubject | haltOnboarding | freezePayouts
deriving DecidableEq

structure Release where
  releasedAt : DateTime
  (reason referenceId : String)

/-- A row of `subject_controls`: applying it again renews it. -/
structure Control where
  (reason referenceId : String)
  appliedAt : DateTime
  released : Option Release

inductive AlertStatus where
  | raised | triaging | inCase | strFiled | closed
deriving DecidableEq

inductive RiskTier where
  | high | medium | low

structure AmlAlert where
  alertId : String
  subject : Subject
  (ruleId rulePackId : String)
  status : AlertStatus
  riskTier : RiskTier
  raisedAt : DateTime
  idempotencyKey : String
  contributingPaymentIds : List String
  notes : Option String
  assignedTo : Option String := none
  triagedAt : Option DateTime := none
  caseOpenedAt : Option DateTime := none
  strReportId : Option String := none
  closedAt : Option DateTime := none
  closeReason : Option String := none
  freezeApplied : Bool := false

inductive HitStatus where
  | detectedFrozen | underReview | confirmed | clearedFalsePositive
deriving DecidableEq

/-- The part of a list entry that a hit copies. -/
structure ListEntry where
  (entryId entryContentHash listCode listVersionId : String)

structure SanctionsHit where
  (sancId screeningId : String)
  entry : ListEntry
  subjectType : SubjectType
  subjectId : Option String
  status : HitStatus
  /-- In ten-thousandths. -/
  score : Nat
  matchedAlias : String
  detectedAt : DateTime
  paymentIntentId : Option String
  freezeApplied : Bool
  freezeReleasedAt : Option DateTime := none
  amlAlertId : Option String := none
  strReportId : Option String := none
  approvalRequestId : Option String := none
  reviewedBy : Option String := none
  confirmedBy : Option String := none
  reviewStartedAt : Option DateTime := none
  resolvedAt : Option DateTime := none

/-- The platform subject of a hit, if it has one. -/
def SanctionsHit.subject? (hit : SanctionsHit) : Option Subject :=
  hit.subjectId.map fun subjectId => ⟨hit.subjectType, subjectId⟩

structure WhitelistRow where
  subject : Subject
  (entryContentHash listCode sourceSancId approvalRequestId approvedBy : String)
  (createdAt expiresAt : DateTime)

inductive Decision where
  | clear | potentialMatch | hit

structure ScreeningRecord where
  screeningId : String
  subjectType : SubjectType
  (subjectId paymentIntentId : Option String)
  namesScreened : List String
  decision : Decision
  topScore : Option Nat
  matchCount : Nat
  sanctionsHitId : Option String
  screenedAt : DateTime

structure Desk where
  controls : Dict (Subject × ControlType) Control
  alerts : Dict String AmlAlert
  alertByKey : Dict String String
  hits : Dict String SanctionsHit
  /-- A row's identifier is computed from its subject and entry hash. -/
  whitelist : Dict (Subject × String) WhitelistRow
  screenings : Dict String ScreeningRecord

def Desk.empty : Desk := ⟨.empty, .empty, .empty, .empty, .empty, .empty⟩

inductive ComplianceError where
  | invalidRequest (code : String)
  | conflict (code : String)
  | authorization
  | sanctionsBlock (code : String)
  | controlUnavailable | strUnavailable | overflow | emptyField | unrecorded

abbrev DeskM := EStateM ComplianceError Desk

inductive ActorRole where
  | complianceAnalyst | camlco | other
deriving DecidableEq

structure ApprovalRecord where
  approved : Bool
  (actionType subjectId : String)
  approverId : Option String
  (closeReason notes : String)

/-- What an operation finds around it: the clock, whether the control service answers,
and the approval requests. -/
structure Surroundings where
  now : DateTime
  controlUp : Bool
  approval? : String → Option ApprovalRecord
  /-- Whether the audit journal and the outbox take what they are given. -/
  recordsUp : Bool := true

namespace Desk

/-! Subject controls. -/

def isActive (desk : Desk) (subject : Subject) (controlType : ControlType) : Bool :=
  ((desk.controls.get? (subject, controlType)).map fun control => control.released.isNone).getD false

def isFrozen (desk : Desk) (subject : Subject) : Bool := desk.isActive subject .freezeSubject

/-- A control is applied, or applied anew. -/
def applied (now : DateTime) (subject : Subject) (controlType : ControlType) (reason referenceId : String)
    (desk : Desk) : Desk :=
  { desk with controls := desk.controls.set (subject, controlType) ⟨reason, referenceId, now, none⟩ }

/-- One control of the subject is released, if it is in force. -/
def released (now : DateTime) (subject : Subject) (reason referenceId : String) (controlType : ControlType)
    (desk : Desk) : Desk :=
  match desk.controls.get? (subject, controlType) with
  | some control =>
    let ended := { control with released := some ⟨now, reason, referenceId⟩ }
    if control.released.isNone then { desk with controls := desk.controls.set (subject, controlType) ended } else desk
  | none => desk

/-- Every control of the subject that is in force is released. -/
def releasedAll (now : DateTime) (subject : Subject) (reason referenceId : String) (desk : Desk) : Desk :=
  (((desk.released now subject reason referenceId .freezePayouts).released now subject reason referenceId
    .freezeSubject).released now subject reason referenceId .haltOnboarding)

end Desk

def freezeSubject (around : Surroundings) (subject : Subject) (reason referenceId : String) : DeskM Unit := do
  raiseIf (around.controlUp = false) .controlUnavailable
  modify (Desk.applied around.now subject .freezeSubject reason referenceId)

def unfreezeSubject (around : Surroundings) (subject : Subject) (reason referenceId : String) : DeskM Unit := do
  raiseIf (around.controlUp = false) .controlUnavailable
  modify (Desk.releasedAll around.now subject reason referenceId)

section

variable (desk : Desk) (now : DateTime)

theorem isFrozen_applied (subject other : Subject) (reason referenceId : String) :
    (desk.applied now subject .freezeSubject reason referenceId).isFrozen other =
      (decide (other = subject) || desk.isFrozen other) := by
  simp only [Desk.isFrozen, Desk.isActive, Desk.applied, Dict.get?_set, Prod.mk.injEq, and_true]
  by_cases same : other = subject <;> simp [same]

theorem released_controls (subject : Subject) (reason referenceId : String) (controlType : ControlType) :
    ∃ controls, desk.released now subject reason referenceId controlType = { desk with controls } := by
  rw [Desk.released]
  split
  · split_ifs
    · exact ⟨_, rfl⟩
    · exact ⟨desk.controls, rfl⟩
  · exact ⟨desk.controls, rfl⟩

theorem releasedAll_controls (subject : Subject) (reason referenceId : String) :
    ∃ controls, desk.releasedAll now subject reason referenceId = { desk with controls } := by
  obtain ⟨first, payouts⟩ := released_controls desk now subject reason referenceId .freezePayouts
  obtain ⟨second, freeze⟩ := released_controls { desk with controls := first } now subject reason referenceId
    .freezeSubject
  obtain ⟨third, onboarding⟩ := released_controls { desk with controls := second } now subject reason referenceId
    .haltOnboarding
  exact ⟨third, by rw [Desk.releasedAll, payouts, freeze, onboarding]⟩

theorem isActive_released (subject other : Subject) (reason referenceId : String)
    (controlType otherType : ControlType) :
    (desk.released now subject reason referenceId controlType).isActive other otherType =
      (decide ((other, otherType) ≠ (subject, controlType)) && desk.isActive other otherType) := by
  rw [Desk.released]
  by_cases same : (other, otherType) = (subject, controlType)
  · cases found : desk.controls.get? (subject, controlType) with
    | none => simp [Desk.isActive, same, found]
    | some control =>
      by_cases free : control.released.isNone = true
      · simp [Desk.isActive, same, free]
      · simp [Desk.isActive, same, free, found]
  · cases found : desk.controls.get? (subject, controlType) with
    | none => simp [same]
    | some control =>
      by_cases free : control.released.isNone = true
      · simp [Desk.isActive, same, free, Dict.get?_set_of_ne same]
      · simp [same, free]

theorem isFrozen_releasedAll (subject other : Subject) (reason referenceId : String) :
    (desk.releasedAll now subject reason referenceId).isFrozen other =
      (decide (other ≠ subject) && desk.isFrozen other) := by
  simp only [Desk.isFrozen, Desk.releasedAll, isActive_released, ne_eq, Prod.mk.injEq, and_true, reduceCtorEq,
    and_false, not_false_eq_true, decide_true, Bool.true_and]

end

end BdPay.Compliance
