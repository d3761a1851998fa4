import BdPay.Compliance.Freezes

namespace BdPay.Compliance

open Data Effect ComplianceService Desk

/-! Clearing a hit whose entry is whitelisted already.

`clear` unfreezes the subject and saves the cleared hit before it inserts the
whitelist row, which is refused when the subject has one for the entry.
-/

section Clearing

variable (service : ComplianceService) (around : Surroundings) (sancId actorId approvalRequestId rationale : String)
  (whitelist : Bool) (desk : Desk)

/-- A `clear` that raises leaves the hits, the whitelist and the freezes as they were. -/
def ClearsCleanly : Prop :=
  Stops (service.clear around sancId actorId approvalRequestId rationale whitelist) desk (fun _ _ => True)
    fun _ after => after.hits = desk.hits ∧ after.whitelist = desk.whitelist ∧ after.controls = desk.controls

/-- If the clearance gets as far as the freeze, the subject has no row for the entry it would whitelist, and the
clearance can be recorded. -/
def Recordable : Prop :=
  ∀ hit record, service.clearable around desk sancId approvalRequestId rationale = .ok (hit, record) →
    (∀ subject ∈ hit.subject?, hit.freezeApplied = true → around.controlUp = true) →
      (whitelist = true → ∀ subject ∈ hit.subject?, (∃ expiry, whitelistExpiry around = .ok expiry) ∧
        desk.whitelist.contains (subject, hit.entry.entryContentHash) = false) ∧
      actorId ≠ "" ∧ sancId ≠ "" ∧ around.recordsUp = true

end Clearing

variable {service : ComplianceService} {around : Surroundings} {desk : Desk}

/-- The cleared hit differs from the one it replaces. -/
theorem set_cleared_ne (passed : service.clearable around desk hit.sancId approval rationale = .ok (hit, record)) :
    desk.hits.set hit.sancId (cleared around hit approval) ≠ desk.hits := by
  intro same
  obtain ⟨stored, reviewed⟩ := reviewed_of_clearable passed
  rw [← same, Dict.get?_set_self] at stored
  have status := congrArg SanctionsHit.status (Option.some.inj stored)
  rw [reviewed] at status
  cases status

theorem stops_hitEffects : Stops (hitEffects around own actorId) desk (fun _ _ => True) (fun _ => clean) ↔
    clean desk ∨ actorId ≠ "" ∧ own.sancId ≠ "" ∧ around.recordsUp = true := by
  simp only [hitEffects, stops_bind, stops_raiseIf]
  grind

/-- In every history, a clearance that raises changes nothing exactly when it never meets a whitelist row it would
insert again, or an audit event that is refused, once the freeze is lifted. -/
theorem clearsCleanly_iff (service : ComplianceService) (steps : List Step) (around : Surroundings)
    (sancId actorId approvalRequestId rationale : String) (whitelist : Bool) :
    ClearsCleanly service around sancId actorId approvalRequestId rationale whitelist (service.run steps) ↔
      Recordable service around sancId actorId approvalRequestId rationale whitelist (service.run steps) := by
  have tidy : Tidy (service.run steps) := tidy_run steps
  generalize service.run steps = desk at tidy ⊢
  rw [ClearsCleanly, Recordable, clear, stops_bind, stops_get, stops_bind, stops_attempt]
  cases passed : service.clearable around desk sancId approvalRequestId rationale with
  | error => simp
  | ok found =>
    obtain ⟨hit, record⟩ := found
    have stored := (reviewed_of_clearable passed).1
    obtain rfl := tidy.hitKey stored
    have moved := set_cleared_ne passed
    have kept : (cleared around hit approvalRequestId).sancId = hit.sancId := rfl
    simp only [stops_bind, releaseHit, heldSubject, saveHit, stops_hitEffects]
    unfold whitelistHit
    cases about : hit.subject? with
    | none => simp [stops_pure, stops_get, stops_raiseIf, stops_modify, stored, moved, about, kept]
    | some subject =>
      obtain ⟨controls, released⟩ := releasedAll_controls desk around.now subject "SANCTIONS_HIT_CLEARED" hit.sancId
      cases frozen : hit.freezeApplied <;> cases whitelist <;> cases up : around.controlUp <;>
        cases whitelistExpiry around <;>
        simp [unfreezeSubject, insertWhitelist, stops_pure, stops_bind, stops_get, stops_raiseIf, stops_modify,
          stops_attempt, stored, released, moved, about, frozen, up, kept] <;> exact .inl

/-! The row of an earlier clearance has expired, and the entry matches again. -/

section Sample

set_option maxRecDepth 20000

def laterAround : Surroundings where
  now := ⟨63100000000000000, by decide⟩
  controlUp := true
  approval? _ := some ⟨true, "sanctions_clear_or_unfreeze", "scr_2ent_1", some "approver", "", ""⟩

def rematchedSteps : List Step :=
  [⟨sampleAround, sampleScreening "scr_1" "ent_1"⟩, ⟨sampleAround, .startReview "scr_1ent_1" "analyst" .complianceAnalyst⟩,
    ⟨sampleAround, .clear "scr_1ent_1" "analyst" "apr_1" "not the same person" true⟩,
    ⟨laterAround, sampleScreening "scr_2" "ent_1"⟩, ⟨laterAround, .startReview "scr_2ent_1" "analyst" .complianceAnalyst⟩]

def clearAgain : DeskM Unit := sampleService.clear laterAround "scr_2ent_1" "analyst" "apr_2" "not the same person" true

theorem clearAgain_rematched : (sampleService.run rematchedSteps).isFrozen ⟨.customer, "cust_1"⟩ = true ∧
    (value? clearAgain (sampleService.run rematchedSteps)).isNone ∧
    (leaves clearAgain (sampleService.run rematchedSteps)).isFrozen ⟨.customer, "cust_1"⟩ = false := by
  decide +kernel

/-- The call fails, and the customer it was about is no longer frozen. -/
theorem failed_clear_unfreezes : ¬ ClearsCleanly sampleService laterAround "scr_2ent_1" "analyst" "apr_2"
    "not the same person" true (sampleService.run rematchedSteps) := by
  obtain ⟨frozen, raises, unfrozen⟩ := clearAgain_rematched
  intro clean
  cases ran : clearAgain (sampleService.run rematchedSteps) with
  | ok => simp [value?, ran] at raises
  | error =>
    obtain ⟨-, -, controls⟩ := (stops_iff_of_error ran).mp clean
    rw [leaves_of_error ran, isFrozen, isActive, controls] at unfrozen
    rw [isFrozen, isActive, unfrozen] at frozen
    cases frozen

end Sample

end BdPay.Compliance
