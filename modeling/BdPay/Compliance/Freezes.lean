import BdPay.Compliance.Services
import BdPay.Data.Guarantee

namespace BdPay.Compliance

open Platform Data Effect ComplianceService Desk

/-! Who holds the freeze of a subject, and who lifts it.

Hits and cases share one freeze per subject.  Each of them lifts it when it
ends, whoever else still needs it.
-/

/-- What needs a subject frozen: an open sanctions hit, or an open case that froze it. -/
inductive Holder where
  | hit (sancId : String)
  | case (alertId : String)
deriving DecidableEq

def Holds (desk : Desk) (subject : Subject) : Holder → Prop
  | .hit sancId => ∃ hit, desk.hits.get? sancId = some hit ∧ hit.subject? = some subject ∧
      hit.status ≠ .clearedFalsePositive
  | .case alertId => ∃ alert, desk.alerts.get? alertId = some alert ∧ alert.subject = subject ∧
      alert.status = .inCase ∧ alert.freezeApplied = true

/-- Whoever is held is frozen. -/
def Secured (desk : Desk) : Prop := ∀ subject holder, Holds desk subject holder → desk.isFrozen subject = true

/-- Rows sit under their own identifiers, and no alert has frozen anyone before its case opened. -/
structure Tidy (desk : Desk) : Prop where
  hitKey : ∀ {sancId hit}, desk.hits.get? sancId = some hit → hit.sancId = sancId
  alertKey : ∀ {alertId alert}, desk.alerts.get? alertId = some alert → alert.alertId = alertId
  unfrozen : ∀ {alertId alert}, desk.alerts.get? alertId = some alert →
    alert.status = .raised ∨ alert.status = .triaging → alert.freezeApplied = false

/-- A write that lifts no freeze and makes nobody a holder of a subject that is not frozen. -/
def Quiet (before after : Desk) : Prop :=
  Tidy before → Tidy after ∧ (∀ subject, before.isFrozen subject = true → after.isFrozen subject = true) ∧
    ∀ subject holder, Holds after subject holder → Holds before subject holder ∨ after.isFrozen subject = true

variable {service : ComplianceService} {around : Surroundings} {before after : Desk}

theorem tidy_empty : Tidy .empty := ⟨by simp [empty], by simp [empty], by simp [empty]⟩

theorem Secured.quiet (secured : Secured before) (tidy : Tidy before) (quiet : Quiet before after) :
    Secured after ∧ Tidy after := by
  obtain ⟨tidyAfter, stays, holders⟩ := quiet tidy
  refine ⟨fun subject holder holds => ?_, tidyAfter⟩
  rcases holders subject holder holds with held | frozen
  · exact stays subject (secured subject holder held)
  · exact frozen

theorem secured_of_quiets (writes : Relation.ReflTransGen Quiet before after) (secured : Secured before)
    (tidy : Tidy before) : Secured after ∧ Tidy after := by
  induction writes with
  | refl => exact ⟨secured, tidy⟩
  | tail _ last ih => exact ih.1.quiet ih.2 last

variable {subject : Subject} {holder : Holder}

theorem holds_congr (alerts : after.alerts = before.alerts)
    (hits : after.hits = before.hits) : Holds after subject holder ↔ Holds before subject holder := by
  cases holder <;> simp [Holds, alerts, hits]

theorem Tidy.congr (tidy : Tidy before) (alerts : after.alerts = before.alerts) (hits : after.hits = before.hits) :
    Tidy after :=
  ⟨hits ▸ tidy.hitKey, alerts ▸ tidy.alertKey, alerts ▸ tidy.unfrozen⟩

theorem quiet_beside (alerts : after.alerts = before.alerts) (hits : after.hits = before.hits)
    (controls : after.controls = before.controls) : Quiet before after := fun tidy =>
  ⟨tidy.congr alerts hits, fun subject frozen => by simpa [isFrozen, isActive, controls] using frozen,
    fun _ _ holds => .inl ((holds_congr alerts hits).mp holds)⟩

theorem guarantees_freezeSubject :
    Guarantees Quiet (freezeSubject around subject reason referenceId) before fun _ after =>
      after.isFrozen subject = true ∧ after.hits = before.hits ∧ after.alerts = before.alerts := by
  rw [freezeSubject]
  refine guarantees_raiseIf_bind fun _ => guarantees_modify (.single fun tidy => ?_) ?_
  · refine ⟨tidy.congr rfl rfl, fun other frozen => ?_, fun _ _ holds => .inl ((holds_congr rfl rfl).mp holds)⟩
    rw [isFrozen_applied, frozen, Bool.or_true]
  · exact ⟨by simp [isFrozen_applied], rfl, rfl⟩

variable {alert : AmlAlert}

theorem Tidy.setAlert (tidy : Tidy before) (alerts : after.alerts = before.alerts.set alert.alertId alert)
    (hits : after.hits = before.hits)
    (unfrozen : alert.status = .raised ∨ alert.status = .triaging → alert.freezeApplied = false) : Tidy after :=
  ⟨hits ▸ tidy.hitKey, alerts ▸ Dict.forall_set tidy.alertKey rfl, alerts ▸ Dict.forall_set tidy.unfrozen unfrozen⟩

/-- An alert may be written that holds nobody, or somebody who is frozen. -/
theorem quiet_alert (alerts : after.alerts = before.alerts.set alert.alertId alert)
    (hits : after.hits = before.hits) (controls : after.controls = before.controls)
    (unfrozen : alert.status = .raised ∨ alert.status = .triaging → alert.freezeApplied = false)
    (frozen : alert.status = .inCase → alert.freezeApplied = true → before.isFrozen alert.subject = true) :
    Quiet before after := by
  intro tidy
  have same : ∀ subject, after.isFrozen subject = before.isFrozen subject := fun subject => by
    simp [isFrozen, isActive, controls]
  refine ⟨tidy.setAlert alerts hits unfrozen, fun subject froze => (same subject).trans froze, ?_⟩
  · intro subject holder holds
    cases holder with
    | hit => exact .inl (by simpa [Holds, hits] using holds)
    | case =>
      obtain ⟨found, stored, about, opened, froze⟩ := holds
      rw [alerts, Dict.get?_set] at stored
      split_ifs at stored
      · cases stored
        exact .inr ((same subject).trans (about ▸ frozen opened froze))
      · exact .inl ⟨found, stored, about, opened, froze⟩

theorem guarantees_saveAlert (unfrozen : alert.status = .raised ∨ alert.status = .triaging → alert.freezeApplied = false)
    (frozen : alert.status = .inCase → alert.freezeApplied = true → before.isFrozen alert.subject = true) :
    Guarantees Quiet (saveAlert alert) before fun _ after => after.hits = before.hits := by
  rw [saveAlert]
  exact guarantees_get_bind (guarantees_raiseIf_bind fun _ =>
    guarantees_modify (.single (quiet_alert rfl rfl rfl unfrozen frozen)) rfl)

variable {hit : SanctionsHit}

theorem Tidy.setHit (tidy : Tidy before) (hits : after.hits = before.hits.set hit.sancId hit)
    (alerts : after.alerts = before.alerts) : Tidy after :=
  ⟨hits ▸ Dict.forall_set tidy.hitKey rfl, alerts ▸ tidy.alertKey, alerts ▸ tidy.unfrozen⟩

/-- A hit may be written whose subject is frozen, or that was a holder already. -/
theorem quiet_hit (hits : after.hits = before.hits.set hit.sancId hit)
    (alerts : after.alerts = before.alerts) (controls : after.controls = before.controls)
    (held : ∀ subject, hit.subject? = some subject → hit.status ≠ .clearedFalsePositive →
      Holds before subject (.hit hit.sancId) ∨ before.isFrozen subject = true) : Quiet before after := by
  intro tidy
  have same : ∀ subject, after.isFrozen subject = before.isFrozen subject := fun subject => by
    simp [isFrozen, isActive, controls]
  refine ⟨tidy.setHit hits alerts, fun subject froze => (same subject).trans froze, ?_⟩
  · intro subject holder holds
    cases holder with
    | case => exact .inl (by simpa [Holds, alerts] using holds)
    | hit =>
      obtain ⟨found, stored, about, opened⟩ := holds
      rw [hits, Dict.get?_set] at stored
      split_ifs at stored with own
      · cases stored
        rw [own, same]
        exact held subject about opened
      · exact .inl ⟨found, stored, about, opened⟩

theorem guarantees_saveHit (held : ∀ subject, hit.subject? = some subject → hit.status ≠ .clearedFalsePositive →
      Holds before subject (.hit hit.sancId) ∨ before.isFrozen subject = true) :
    Guarantees Quiet (saveHit hit) before fun _ _ => True := by
  rw [saveHit]
  exact guarantees_get_bind (guarantees_raiseIf_bind fun _ =>
    guarantees_modify (.single (quiet_hit rfl rfl rfl held)) trivial)

theorem tidy_of_quiets (writes : Relation.ReflTransGen Quiet before after) (tidy : Tidy before) : Tidy after := by
  induction writes with
  | refl => exact tidy
  | tail _ last ih => exact (last ih).1

theorem denyUnless_eq_ok : denyUnless condition error = .ok done ↔ condition = true := by
  cases condition <;> simp [denyUnless]

variable {alertId : String} {desk : Desk}

theorem requireAlert_eq_ok : requireAlert desk alertId = .ok alert ↔ desk.alerts.get? alertId = some alert := by
  rw [requireAlert]
  cases desk.alerts.get? alertId <;> simp

variable {sancId : String}

theorem requireHit_eq_ok : requireHit desk sancId = .ok hit ↔ desk.hits.get? sancId = some hit := by
  rw [requireHit]
  cases desk.hits.get? sancId <;> simp

variable {role : ActorRole} {now : DateTime}

theorem guarantees_triage (tidy : Tidy before) :
    Guarantees Quiet (triage around alertId role assignedTo notes) before fun _ after => after.hits = before.hits := by
  rw [triage]
  refine guarantees_get_bind (guarantees_attempt_bind fun updated made => ?_)
  simp only [triaged, except_bind_eq_ok, denyUnless_eq_ok, requireAlert_eq_ok] at made
  obtain ⟨alert, stored, -, raised, -, -, made⟩ := made
  cases made
  have unfrozen : alert.freezeApplied = false := tidy.unfrozen stored (.inl (by simpa using raised))
  refine .bind (guarantees_saveAlert ?_ ?_) fun _ _ _ same => guarantees_pure same
  · exact fun _ => unfrozen
  · simp

theorem guarantees_openCase (tidy : Tidy before) :
    Guarantees Quiet (openCase around alertId role caseNotes freeze) before fun _ after => after.hits = before.hits := by
  rw [openCase]
  refine guarantees_get_bind (guarantees_attempt_bind fun alert made => ?_)
  simp only [openable, except_bind_eq_ok, denyUnless_eq_ok, requireAlert_eq_ok] at made
  obtain ⟨_, stored, -, triaging, -, -, -, -, made⟩ := made
  cases made
  have unfrozen : alert.freezeApplied = false := tidy.unfrozen stored (.inr (by simpa using triaging))
  cases freeze with
  | false =>
    simp only [Bool.false_eq_true, if_false]
    refine .bind (guarantees_saveAlert ?_ ?_) fun _ _ _ same => guarantees_pure same
    · simp
    · simp [unfrozen]
  | true =>
    simp only [if_true]
    refine guarantees_freezeSubject.bind fun _ middle _ froze => ?_
    refine .bind (guarantees_saveAlert ?_ ?_) fun _ _ _ same => guarantees_pure (same.trans froze.2.1)
    · simp
    · exact fun _ _ => froze.1

theorem guarantees_markStrFiled :
    Guarantees Quiet (markStrFiled alertId role strReportId camlcoDeclaration) before fun _ _ => True := by
  rw [markStrFiled]
  refine guarantees_get_bind (guarantees_attempt_bind fun updated made => ?_)
  simp only [strFiled, except_bind_eq_ok, denyUnless_eq_ok, requireAlert_eq_ok] at made
  obtain ⟨alert, -, -, -, -, -, -, -, made⟩ := made
  cases made
  refine .bind (guarantees_saveAlert ?_ ?_) fun _ _ _ _ => guarantees_pure trivial
  · simp
  · simp

theorem guarantees_raiseAlert {request : AlertRequest} :
    Guarantees Quiet (service.raiseAlert around request) before fun _ after => after.hits = before.hits := by
  rw [raiseAlert]
  refine guarantees_get_bind ?_
  dsimp only
  split
  · exact guarantees_pure rfl
  · refine guarantees_raiseIf_bind fun _ => ?_
    have inserted : ∀ alert : AmlAlert, alert.status = .raised → alert.freezeApplied = false →
        Guarantees Quiet (insertAlert alert) before fun _ after => after.hits = before.hits := by
      intro alert raised unfrozen
      rw [insertAlert]
      refine guarantees_get_bind (guarantees_raiseIf_bind fun _ => guarantees_raiseIf_bind fun _ => ?_)
      exact guarantees_set (.single (quiet_alert rfl rfl rfl (fun _ => unfrozen) (by simp [raised]))) rfl
    exact (inserted _ rfl rfl).bind fun _ _ _ same => guarantees_pure same

theorem guarantees_insertScreening : Guarantees Quiet (insertScreening record) before fun _ after =>
      after.controls = before.controls ∧ after.hits = before.hits :=
  guarantees_modify (.single (quiet_beside rfl rfl rfl)) ⟨rfl, rfl⟩

theorem guarantees_detect : Guarantees Quiet (service.detect around desk request hit) before fun _ _ => True := by
  have frozen : Guarantees Quiet (freezeHit around hit) before fun _ after =>
      ∀ subject, hit.subject? = some subject → after.isFrozen subject = true := by
    rw [freezeHit]
    cases about : hit.subject? with
    | none => exact guarantees_pure (by simp)
    | some =>
      refine guarantees_freezeSubject.weaken fun _ after _ froze => ?_
      rintro _ ⟨⟩
      exact froze.1
  rw [detect]
  refine frozen.bind fun _ middle _ froze => guarantees_insertScreening.bind fun _ later _ same => ?_
  have still : ∀ subject, hit.subject? = some subject → later.isFrozen subject = true := by
    intro subject about
    simpa [isFrozen, isActive, same.1] using froze subject about
  rw [insertHit]
  exact guarantees_get_bind (guarantees_raiseIf_bind fun _ => guarantees_modify
    (.single (quiet_hit rfl rfl rfl fun subject about _ => .inr (still subject about))) trivial)

theorem guarantees_screenSubject : Guarantees Quiet (service.screenSubject around request) before fun _ _ => True := by
  rw [screenSubject]
  refine guarantees_raiseIf_bind fun _ => guarantees_raiseIf_bind fun _ => guarantees_get_bind ?_
  have recorded : ∀ record, Guarantees Quiet (insertScreening record) before fun _ _ => True :=
    fun record => guarantees_insertScreening.weaken fun _ _ _ _ => trivial
  split
  · exact recorded _
  · dsimp only
    split_ifs
    · exact recorded _
    · exact guarantees_detect
    · exact recorded _

theorem guarantees_startReview (tidy : Tidy before) :
    Guarantees Quiet (startReview around sancId actorId role) before fun _ _ => True := by
  rw [startReview]
  refine guarantees_get_bind (guarantees_attempt_bind fun hit made => ?_)
  simp only [reviewable, except_bind_eq_ok, denyUnless_eq_ok, requireHit_eq_ok] at made
  obtain ⟨_, stored, -, detected, -, -, made⟩ := made
  cases made
  have detected : hit.status = .detectedFrozen := by simpa using detected
  refine guarantees_saveHit fun subject about _ => .inl ⟨hit, ?_, about, by simp [detected]⟩
  rw [tidy.hitKey stored]
  exact stored

theorem guarantees_confirm (tidy : Tidy before) :
    Guarantees Quiet (service.confirm around sancId actorId role camlcoDeclaration rulePackId report) before
      fun _ _ => True := by
  rw [confirm]
  refine guarantees_get_bind (guarantees_attempt_bind fun found made => ?_)
  obtain ⟨hit, subjectId⟩ := found
  simp only [confirmable, except_bind_eq_ok, denyUnless_eq_ok, requireHit_eq_ok] at made
  obtain ⟨own, stored, -, reviewed, -, -, -, -, made⟩ := made
  have same : own = hit := by
    cases about : own.subjectId with
    | none => simp [about] at made
    | some =>
      simp only [about] at made
      cases made
      rfl
  subst same
  have reviewed : own.status = .underReview := by simpa using reviewed
  refine guarantees_raiseAlert.bind fun raised middle steps sameHits => ?_
  have escalated : Guarantees Quiet (escalate around own raised actorId) middle fun _ after =>
      after.hits = before.hits := by
    rw [escalate]
    split
    · exact guarantees_pure sameHits
    · refine (guarantees_triage (tidy_of_quiets steps tidy)).bind fun _ later further kept => ?_
      refine (guarantees_openCase (tidy_of_quiets (steps.trans further) tidy)).weaken fun _ last _ opened => ?_
      exact opened.trans (kept.trans sameHits)
  refine escalated.bind fun alert later _ sameHits => ?_
  split
  · exact guarantees_throw
  · refine guarantees_saveHit fun subject about _ => .inl ⟨own, ?_, about, by simp [reviewed]⟩
    rw [sameHits]
    exact (congrArg before.hits.get? (tidy.hitKey stored)).trans stored

namespace ComplianceService

/-- The freeze a call would lift, and for whom: it passes every check of its own and
the control service answers. -/
def lifts (service : ComplianceService) (around : Surroundings) (desk : Desk) : Event → Option (Subject × Holder)
  | .clear sancId _ approvalRequestId rationale _ =>
    match service.clearable around desk sancId approvalRequestId rationale with
    | .ok (hit, _) => if around.controlUp then (heldSubject hit).map fun subject => (subject, .hit sancId) else none
    | .error _ => none
  | .close alertId role closeReason _ =>
    match closing desk alertId role closeReason with
    | .ok alert =>
      if alert.status ≠ .inCase ∧ alert.freezeApplied ∧ around.controlUp then some (alert.subject, .case alertId)
      else none
    | .error _ => none
  | .completeInCaseClose alertId approvalRequestId =>
    match caseClosing around desk alertId approvalRequestId with
    | .ok (alert, _) =>
      if alert.freezeApplied ∧ around.controlUp then some (alert.subject, .case alertId) else none
    | .error _ => none
  | _ => none

/-- A freeze is lifted only for the last one who holds it. -/
def LastHolder (service : ComplianceService) (desk : Desk) (step : Step) : Prop :=
  ∀ subject holder, service.lifts step.around desk step.event = some (subject, holder) →
    ∀ other, Holds desk subject other → other = holder

end ComplianceService

/-- A holder is gone and the freeze with it; everybody else is as before. -/
structure Lifted (before after : Desk) (subject : Subject) (holder : Holder) : Prop where
  tidy : Tidy after
  frozen : ∀ other, after.isFrozen other = (decide (other ≠ subject) && before.isFrozen other)
  holds : ∀ other who, Holds after other who ↔ Holds before other who ∧ who ≠ holder

theorem lifted_hit (hit : SanctionsHit)
    (tidy : Tidy before) (hits : after.hits = before.hits.set hit.sancId hit) (alerts : after.alerts = before.alerts)
    (controls : after.controls = (before.releasedAll now subject reason referenceId).controls)
    (cleared : hit.status = .clearedFalsePositive) : Lifted before after subject (.hit hit.sancId) where
  tidy := tidy.setHit hits alerts
  frozen := by
    intro other
    rw [← isFrozen_releasedAll before now subject other reason referenceId]
    simp only [isFrozen, isActive, controls]
  holds := by
    intro other who
    cases who with
    | case => simp [Holds, alerts]
    | hit sancId =>
      simp only [Holds, hits, Dict.get?_set]
      by_cases own : sancId = hit.sancId
      · simp [own, cleared]
      · simp [own]

theorem lifted_case (alert : AmlAlert)
    (tidy : Tidy before) (alerts : after.alerts = before.alerts.set alert.alertId alert)
    (hits : after.hits = before.hits)
    (controls : after.controls = (before.releasedAll now subject reason referenceId).controls)
    (closed : alert.status = .closed) : Lifted before after subject (.case alert.alertId) where
  tidy := tidy.setAlert alerts hits (by simp [closed])
  frozen := by
    intro other
    rw [← isFrozen_releasedAll before now subject other reason referenceId]
    simp only [isFrozen, isActive, controls]
  holds := by
    intro other who
    cases who with
    | hit => simp [Holds, hits]
    | case alertId =>
      simp only [Holds, alerts, Dict.get?_set]
      by_cases own : alertId = alert.alertId
      · simp [own, closed]
      · simp [own]

theorem unfreezeSubject_run (up : around.controlUp = true) : unfreezeSubject around subject reason referenceId before =
      .ok () (before.releasedAll around.now subject reason referenceId) := by
  rw [unfreezeSubject, bind_of_ok (raiseIf_passes (by simp [up]))]
  rfl

theorem finalizeClose_lifted (closeReason : String) (notes : Option String)
    (tidy : Tidy before) (stored : before.alerts.get? alertId = some alert) (up : around.controlUp = true)
    (froze : alert.freezeApplied = true) :
    Lifted before (leaves (finalizeClose around alert closeReason notes) before) alert.subject (.case alertId) := by
  obtain rfl := tidy.alertKey stored
  obtain ⟨controls, kept⟩ := releasedAll_controls before around.now alert.subject "AML_CASE_CLOSED" alert.alertId
  have released : releaseCase around alert before = .ok () { before with controls } := by
    rw [releaseCase, if_pos froze, unfreezeSubject_run up, kept]
  have saved : saveAlert (closed around alert closeReason notes) { before with controls } = .ok () { before with
      controls, alerts := before.alerts.set alert.alertId (closed around alert closeReason notes) } := by
    rw [saveAlert, get_bind, bind_of_ok (raiseIf_passes (by simp [closed, stored]))]
    rfl
  rw [finalizeClose, leaves_bind_of_ok released, leaves_of_ok saved]
  exact lifted_case (closed around alert closeReason notes) tidy rfl rfl (by rw [kept]) rfl

variable {whitelist : Bool} {step : Step}

/-- What follows the saving of a cleared hit writes to the whitelist only. -/
theorem whitelistHit_leaves {record : ApprovalRecord} {whitelist : Bool} (desk : Desk) :
    ∃ rows, leaves (do whitelistHit around hit record approval whitelist; hitEffects around own actor) desk =
      { desk with whitelist := rows } := by
  let whitelisted (after : Desk) : Prop := ∃ rows, after = { desk with whitelist := rows }
  suffices Stops (do whitelistHit around hit record approval whitelist; hitEffects around own actor) desk
      (fun _ => whitelisted) fun _ => whitelisted from stops_iff_leaves.mp this
  have kept : whitelisted desk := ⟨_, rfl⟩
  unfold whitelistHit
  split
  · cases whitelistExpiry around <;>
      simp [kept, insertWhitelist, hitEffects, stops_bind, stops_attempt, stops_get, stops_raiseIf, stops_modify,
        whitelisted]
  · simp [kept, hitEffects, stops_bind, stops_raiseIf]

theorem reviewed_of_clearable (passed : service.clearable around before sancId approval rationale = .ok (hit, record)) :
    before.hits.get? sancId = some hit ∧ hit.status = .underReview := by
  simp only [clearable, except_bind_eq_ok, denyUnless_eq_ok, requireHit_eq_ok] at passed
  obtain ⟨own, stored, -, reviewed, -, -, -, -, passed⟩ := passed
  split at passed
  · cases passed
  · simp only [except_bind_eq_ok] at passed
    obtain ⟨_, -, _, -, passed⟩ := passed
    cases passed
    exact ⟨stored, by simpa using reviewed⟩

theorem stored_of_caseClosing (passed : caseClosing around before alertId approval = .ok (alert, record)) :
    before.alerts.get? alertId = some alert := by
  simp only [caseClosing, except_bind_eq_ok, denyUnless_eq_ok, requireAlert_eq_ok] at passed
  obtain ⟨own, stored, -, -, passed⟩ := passed
  split at passed
  · cases passed
  · simp only [except_bind_eq_ok] at passed
    obtain ⟨_, -, _, -, passed⟩ := passed
    cases passed
    exact stored

theorem stored_of_closing
    (passed : closing before alertId role closeReason = .ok alert) : before.alerts.get? alertId = some alert := by
  simp only [closing, except_bind_eq_ok, denyUnless_eq_ok, requireAlert_eq_ok] at passed
  obtain ⟨own, stored, -, -, -, -, -, -, passed⟩ := passed
  cases passed
  exact stored

theorem clear_lifted (tidy : Tidy before)
    (passed : service.clearable around before sancId approval rationale = .ok (hit, record))
    (up : around.controlUp = true) (held : heldSubject hit = some subject) :
    Lifted before (leaves (service.clear around sancId actor approval rationale whitelist) before) subject (.hit sancId) := by
  have stored := (reviewed_of_clearable passed).1
  obtain rfl := tidy.hitKey stored
  obtain ⟨controls, kept⟩ := releasedAll_controls before around.now subject "SANCTIONS_HIT_CLEARED" hit.sancId
  let cleared := cleared around hit approval
  have released : releaseHit around hit before = .ok () { before with controls } := by
    rw [releaseHit, held]
    exact (unfreezeSubject_run up).trans (by rw [kept])
  have saved : saveHit cleared { before with controls } =
      .ok () { before with controls, hits := before.hits.set hit.sancId cleared } := by
    rw [ComplianceService.saveHit, get_bind,
      bind_of_ok (raiseIf_passes (by simp [cleared, ComplianceService.cleared, stored]))]
    rfl
  have checked : (attempt (service.clearable around before hit.sancId approval rationale) : DeskM _) before =
      .ok (hit, record) before := attempt_eq_ok.mpr ⟨passed, rfl⟩
  -- The whitelist row may be refused; the freeze is lifted all the same.
  obtain ⟨rows, written⟩ := @whitelistHit_leaves around hit approval cleared actor record whitelist
    { before with controls, hits := before.hits.set hit.sancId cleared }
  rw [clear, leaves, get_bind, ← leaves, leaves_bind_of_ok checked, leaves_bind_of_ok released,
    leaves_bind_of_ok saved, written]
  exact lifted_hit cleared tidy rfl rfl (by rw [kept]) rfl

theorem unfreezeSubject_down (down : around.controlUp = false) :
    unfreezeSubject around subject reason referenceId before = .error .controlUnavailable before := by
  simp only [unfreezeSubject, raiseIf, if_pos down]
  rfl

theorem guarantees_finalizeClose (keeps : ¬ (alert.freezeApplied = true ∧ around.controlUp = true)) :
    Guarantees Quiet (finalizeClose around alert closeReason notes) before fun _ _ => True := by
  rw [finalizeClose, releaseCase]
  by_cases froze : alert.freezeApplied = true
  · have down : around.controlUp = false := by simpa [froze] using keeps
    rw [if_pos froze]
    exact guarantees_of_error (bind_eq_error.mpr (.inl (unfreezeSubject_down down))) .refl
  · rw [if_neg froze, pure_bind]
    refine .weaken (guarantees_saveAlert ?_ ?_) ?_
    · simp [closed]
    · simp [closed]
    · simp

theorem guarantees_clear
    (keeps : ∀ hit record, service.clearable around before sancId approval rationale = .ok (hit, record) →
      around.controlUp = true → heldSubject hit = none) :
    Guarantees Quiet (service.clear around sancId actor approval rationale whitelist) before fun _ _ => True := by
  rw [clear]
  refine guarantees_get_bind (guarantees_attempt_bind fun found passed => ?_)
  obtain ⟨hit, record⟩ := found
  dsimp only
  rw [releaseHit]
  cases held : heldSubject hit with
  | some =>
    have down : around.controlUp = false := by
      by_contra up
      simp [keeps hit record passed (by simpa using up)] at held
    exact guarantees_of_error (bind_eq_error.mpr (.inl (unfreezeSubject_down down))) .refl
  | none =>
    rw [pure_bind]
    refine .bind (guarantees_saveHit ?_) fun _ middle _ _ => ?_
    · simp [cleared]
    · obtain ⟨rows, written⟩ :=
        @whitelistHit_leaves around hit approval (cleared around hit approval) actor record whitelist middle
      exact guarantees_of_leaves (.single (by rw [written]; exact quiet_beside rfl rfl rfl))

/-- What lifts no freeze only writes quietly. -/
theorem quiets_of_lifts_none (tidy : Tidy before) (none : service.lifts around before event = none) :
    Relation.ReflTransGen Quiet before (leaves (service.perform around event) before) := by
  cases event with
  | screenSubject => exact guarantees_screenSubject.leaves
  | startReview => exact (guarantees_startReview tidy).leaves
  | confirm => exact (guarantees_confirm tidy).leaves
  | raiseAlert =>
    exact (guarantees_raiseAlert.bind fun _ _ _ _ => guarantees_done).leaves
  | triage =>
    exact ((guarantees_triage tidy).bind fun _ _ _ _ => guarantees_done).leaves
  | openCase =>
    exact ((guarantees_openCase tidy).bind fun _ _ _ _ => guarantees_done).leaves
  | markStrFiled =>
    exact (guarantees_markStrFiled.bind fun _ _ _ _ => guarantees_done).leaves
  | clear =>
    refine (guarantees_clear fun hit record passed up => ?_).leaves
    simpa [lifts, passed, up] using none
  | close alertId role closeReason notes =>
    have closes : Guarantees Quiet (close around alertId role closeReason notes) before fun _ _ => True := by
      rw [close]
      refine guarantees_get_bind (guarantees_attempt_bind fun alert passed => ?_)
      split_ifs with opened
      · exact guarantees_pure trivial
      · exact guarantees_finalizeClose (by simpa [lifts, passed, opened] using none)
    exact closes.leaves
  | completeInCaseClose alertId approval =>
    have closes : Guarantees Quiet (completeInCaseClose around alertId approval) before fun _ _ => True := by
      rw [completeInCaseClose]
      refine guarantees_get_bind (guarantees_attempt_bind fun found passed => ?_)
      exact guarantees_finalizeClose (by simpa [lifts, passed] using none)
    exact closes.leaves

theorem lifted_of_lifts (tidy : Tidy before) (lifts : service.lifts around before event = some (subject, holder)) :
    Lifted before (leaves (service.perform around event) before) subject holder := by
  cases event with
  | clear sancId _ approval rationale =>
    cases passed : service.clearable around before sancId approval rationale with
    | error => simp [ComplianceService.lifts, passed] at lifts
    | ok found =>
      obtain ⟨hit, record⟩ := found
      by_cases up : around.controlUp = true
      · simp only [ComplianceService.lifts, passed, up, if_true, Option.map_eq_some_iff, Prod.mk.injEq] at lifts
        obtain ⟨_, held, rfl, rfl⟩ := lifts
        exact clear_lifted tidy passed up held
      · simp [ComplianceService.lifts, passed, up] at lifts
  | close alertId role closeReason notes =>
    cases passed : closing before alertId role closeReason with
    | error => simp [ComplianceService.lifts, passed] at lifts
    | ok alert =>
      simp only [ComplianceService.lifts, passed, Option.ite_none_right_eq_some, Option.some.injEq,
        Prod.mk.injEq] at lifts
      obtain ⟨⟨opened, froze, up⟩, rfl, rfl⟩ := lifts
      have checked : (attempt (closing before alertId role closeReason) : DeskM _) before = .ok alert before :=
        attempt_eq_ok.mpr ⟨passed, rfl⟩
      change Lifted before (leaves (close around alertId role closeReason notes) before) _ _
      rw [close, leaves, get_bind, ← leaves, leaves_bind_of_ok checked, if_neg opened]
      exact finalizeClose_lifted closeReason notes tidy (stored_of_closing passed) up froze
  | completeInCaseClose alertId approval =>
    cases passed : caseClosing around before alertId approval with
    | error => simp [ComplianceService.lifts, passed] at lifts
    | ok found =>
      obtain ⟨alert, record⟩ := found
      simp only [ComplianceService.lifts, passed, Option.ite_none_right_eq_some, Option.some.injEq,
        Prod.mk.injEq] at lifts
      obtain ⟨⟨froze, up⟩, rfl, rfl⟩ := lifts
      have checked : (attempt (caseClosing around before alertId approval) : DeskM _) before =
          .ok (alert, record) before := attempt_eq_ok.mpr ⟨passed, rfl⟩
      change Lifted before (leaves (completeInCaseClose around alertId approval) before) _ _
      rw [completeInCaseClose, leaves, get_bind, ← leaves, leaves_bind_of_ok checked]
      exact finalizeClose_lifted _ _ tidy (stored_of_caseClosing passed) up froze
  | _ => simp [ComplianceService.lifts] at lifts

theorem Lifted.secured_iff (lifted : Lifted before after subject holder)
    (secured : Secured before) : Secured after ↔ ∀ other, Holds before subject other → other = holder := by
  constructor
  · intro still other holds
    by_contra different
    have frozen := still subject other ((lifted.holds subject other).mpr ⟨holds, different⟩)
    simp [lifted.frozen] at frozen
  · intro last other who holds
    obtain ⟨held, different⟩ := (lifted.holds other who).mp holds
    rw [lifted.frozen, secured other who held, Bool.and_true, decide_eq_true_eq]
    rintro rfl
    exact different (last who held)

theorem tidy_after (tidy : Tidy before) : Tidy (service.after before step) := by
  cases lifts : service.lifts step.around before step.event with
  | none => exact tidy_of_quiets (quiets_of_lifts_none tidy lifts) tidy
  | some => exact (lifted_of_lifts tidy lifts).tidy

/-- One step keeps the holders' subjects frozen exactly when it lifts no freeze that somebody else holds. -/
theorem secured_after_iff (tidy : Tidy before) (secured : Secured before) :
    Secured (service.after before step) ↔ service.LastHolder before step := by
  cases lifts : service.lifts step.around before step.event with
  | none =>
    have stays := (secured_of_quiets (quiets_of_lifts_none tidy lifts) secured tidy).1
    exact ⟨fun _ => by simp [ComplianceService.LastHolder, lifts], fun _ => stays⟩
  | some found =>
    obtain ⟨subject, holder⟩ := found
    rw [after, (lifted_of_lifts tidy lifts).secured_iff secured]
    simp [ComplianceService.LastHolder, lifts]

theorem run_append_singleton (steps : List Step) (step : Step) :
    service.run (steps ++ [step]) = service.after (service.run steps) step := by
  simp [run]

theorem tidy_run (steps : List Step) : Tidy (service.run steps) := by
  induction steps using List.reverseRecOn with
  | nil => exact tidy_empty
  | append_singleton _ _ ih =>
    rw [run_append_singleton]
    exact tidy_after ih

/-- Everybody held is frozen throughout a run exactly when every freeze that is lifted in it
is lifted for the last one who holds it. -/
theorem secured_throughout_iff_lastHolder (service : ComplianceService) (steps : List Step) :
    (∀ earlier, earlier <+: steps → Secured (service.run earlier)) ↔
      ∀ earlier step, earlier ++ [step] <+: steps → service.LastHolder (service.run earlier) step := by
  constructor
  · intro secured earlier step reached
    have before := secured earlier ((List.prefix_append _ _).trans reached)
    have after := secured _ reached
    rw [run_append_singleton] at after
    exact (secured_after_iff (tidy_run earlier) before).mp after
  · intro last earlier
    -- Along the run: each step is allowed by what it lifts.
    induction earlier using List.reverseRecOn with
    | nil =>
      intro _ subject holder holds
      cases holder <;> simp [run, Desk.empty, Holds] at holds
    | append_singleton earlier step ih =>
      intro reached
      rw [run_append_singleton]
      have before := ih ((List.prefix_append _ _).trans reached)
      exact (secured_after_iff (tidy_run earlier) before).mpr (last earlier step reached)

section Sample

set_option maxRecDepth 20000

def sampleService : ComplianceService where
  tHit := 9000
  tReview := 7500
  approvalsWired := true
  alertKey ruleId subjectId _ := ruleId ++ subjectId
  alertId ruleId subject _ _ := ruleId ++ subject.subjectId
  sancId screeningId entryId := screeningId ++ entryId

def sampleAround : Surroundings where
  now := ⟨63000000000000000, DateTime.year1997_inRange⟩
  controlUp := true
  approval? _ := some ⟨true, "sanctions_clear_or_unfreeze", "scr_1ent_1", some "approver", "", ""⟩

def sampleScreening (screeningId entryId : String) : Event :=
  .screenSubject {
    subjectType := .customer, subjectId := some "cust_1", names := ["Name"], paymentIntentId := none, screeningId
    watchlistEmpty := false, found := [⟨⟨entryId, entryId, "UN", "v1"⟩, 9500, "Name", false⟩] }

/-- Two screenings find the customer on two lists; one hit is reviewed and cleared as a false positive. -/
def sampleSteps : List Step :=
  [⟨sampleAround, sampleScreening "scr_1" "ent_1"⟩, ⟨sampleAround, sampleScreening "scr_2" "ent_2"⟩,
    ⟨sampleAround, .startReview "scr_1ent_1" "analyst" .complianceAnalyst⟩,
    ⟨sampleAround, .clear "scr_1ent_1" "analyst" "apr_1" "not the same person" false⟩]

/-- The other hit is open, and the customer is not frozen. -/
theorem open_hit_left_unfrozen :
    (((sampleService.run sampleSteps).hits.get? "scr_2ent_2").any fun hit =>
        hit.subject? = some ⟨.customer, "cust_1"⟩ ∧ hit.status = .detectedFrozen) = true ∧
      (sampleService.run sampleSteps).isFrozen ⟨.customer, "cust_1"⟩ = false := by
  decide +kernel

end Sample

end BdPay.Compliance
