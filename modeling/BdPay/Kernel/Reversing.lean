import BdPay.Kernel.Polling

namespace BdPay.Kernel

open Data Effect Connectors PaymentSystem PaymentOrchestrator PortsOnly

/-! Captures, voids, reversals and the sweep. -/

section Reversals

variable {service : PaymentOrchestrator} {regime : Regime} {moment : Moment} {attempt : PaymentAttemptRecord}

theorem obeys_settleAuthorizedCharge (coherent : Coherent before) :
    Obeys service regime (service.settleAuthorizedCharge moment intent attempt) before := by
  unfold settleAuthorizedCharge
  refine .bind (PortsOnly.requirePspLicense.guarantees _) fun _ _ steps _ => ?_
  have coherent := coherent.writes steps
  refine guarantees_attempt_bind fun accounts _ => ?_
  refine guarantees_attempt_bind fun fee _ => ?_
  obtain ⟨feeMinor, feeRuleId⟩ := fee
  refine .bind ((PortsOnly.openHold? _).guarantees _) fun hold _ steps _ => ?_
  have coherent := coherent.writes steps
  cases hold with
  | none => exact guarantees_throw
  | some hold =>
    have posts : PortsOnly (do
        askLedger moment (.releaseHold hold "CAPTURED" (some attempt.amountMinor))
        service.postFee moment intent attempt accounts feeMinor feeRuleId) :=
      (PortsOnly.askLedger _).bind fun _ => PortsOnly.postFee ..
    refine .bind ((posts.onRaise fun _ => PortsOnly.recordLedgerPostFailure ..).guarantees _)
      fun _ _ steps _ => ?_
    refine .bind (obeys_advance_free (coherent.writes steps).owning (by decide)) fun _ _ _ _ => ?_
    exact .done ((PortsOnly.emitSucceeded ..).guarantees _)

section

variable (coherent : Coherent before)
include coherent

theorem obeys_capture : Obeys service regime (service.capture moment intentId amount) before := by
  unfold capture
  refine .read (obeys_requireIntent coherent.owning) fun intent ⟨intentStored, _⟩ => ?_
  refine guarantees_raiseIf_bind fun _ => ?_
  refine .read obeys_latestAttempt fun latest isLatest => ?_
  cases latest with
  | none => exact guarantees_throw
  | some =>
    obtain ⟨stored, -⟩ := hasAttempt_of_latest coherent.numbering isLatest.symm
    refine guarantees_raiseIf_bind fun _ => ?_
    refine guarantees_attempt_bind fun captured _ => ?_
    refine requirePspLicense.first coherent fun _ _ coherent => ?_
    refine .bind (obeys_advanceAttempt_free coherent.numbering (by decide) (.inl (by decide))
      (continues_of_hasAttempt stored rfl id)) fun initiated _ steps advanced => ?_
    have coherent := coherent.writes steps
    refine .bind (obeys_advanceAttempt_free coherent.numbering (by decide) (.inl (by decide))
      (continues_of_hasAttempt advanced.hasAttempt rfl id)) fun charged middle steps advanced => ?_
    have coherent := coherent.writes steps
    split
    · exact .done (obeys_settleAuthorizedCharge coherent)
    · refine .bind (obeys_updateIntent coherent.owning ?_) fun _ _ steps wrote => ?_
      · exact fun old _ same status => .of_status_eq same.symm status.symm
      · obtain ⟨_, rfl⟩ := wrote
        have coherent := coherent.writes steps
        refine .bind (obeys_updateAttempt coherent.numbering ?_) fun _ _ steps _ => ?_
        · intro old oldStored same status
          obtain rfl := oldStored.unique advanced.hasAttempt same
          exact .of_status_eq rfl id (fun _ => rfl) rfl
        · exact .done (obeys_settleAuthorizedCharge (coherent.writes steps))

theorem obeys_voidAttempt (stored : before.HasAttempt attempt) :
    Obeys service regime (service.voidAttempt moment intent attempt) before := by
  unfold voidAttempt
  refine .bind (obeys_advanceAttempt_free coherent.numbering (by decide) (.inl (by decide))
    (continues_of_hasAttempt stored rfl id)) fun _ _ _ _ => ?_
  exact (PortsOnly.emit ..).any

theorem obeys_voidAuthorized (stored : before.HasAttempt attempt) :
    Obeys service regime (service.voidAuthorized moment intent attempt) before := by
  unfold voidAuthorized
  refine (PortsOnly.openHold? _).first coherent fun hold _ coherent => ?_
  cases hold with
  | none => exact guarantees_throw
  | some =>
    refine .bind ((PortsOnly.askLedger _).guarantees _) fun _ _ steps wrote => ?_
    obtain ⟨_, rfl⟩ := wrote
    exact obeys_voidAttempt (coherent.writes steps) stored

theorem obeys_voidLatest (stored : ∀ attempt, latest = some attempt → before.HasAttempt attempt) :
    Obeys service regime (service.voidLatest moment intent latest) before := by
  cases latest with
  | none => exact guarantees_pure trivial
  | some attempt =>
    simp only [voidLatest]
    split
    · exact obeys_voidAuthorized coherent (stored attempt rfl)
    · exact guarantees_pure trivial

theorem obeys_cancel : Obeys service regime (service.cancel moment intentId) before := by
  unfold cancel
  refine .read (obeys_requireIntent coherent.owning) fun intent _ => ?_
  split
  · unfold voidIntent
    refine .read obeys_latestAttempt fun latest isLatest => ?_
    refine .bind (obeys_voidLatest coherent ?_) fun _ _ steps _ => ?_
    · exact fun attempt some => (hasAttempt_of_latest coherent.numbering (isLatest.symm.trans some)).1
    · exact obeys_advance_only (coherent.writes steps).owning (by decide) fun _ => .emit ..
  · exact obeys_advance_only coherent.owning (by decide) fun _ => .emit ..

theorem obeys_sweepIntent : Obeys service regime (service.sweepIntent moment intent) before := by
  unfold sweepIntent
  cases intent.status with
  | created | requiresPaymentMethod | requiresConfirmation | requiresAction | processing | requiresCapture =>
    exact obeys_advance_only coherent.owning (by decide) fun _ => .emit ..
  | preFlight | succeeded | failed | cancelled | reversalInitiated | reversalPending | reversed | refundInitiated
  | partiallyRefunded | refunded => exact guarantees_pure trivial

theorem obeys_sweepExpiredIntents : Obeys service regime (service.sweepExpiredIntents moment) before := by
  unfold sweepExpiredIntents
  refine guarantees_get_bind (guarantees_forEach Coherent (fun _ _ => Coherent.write) coherent ?_)
  exact fun intent _ state coherent => obeys_sweepIntent coherent

theorem obeys_confirmDelivery : Obeys service regime (service.confirmDelivery moment intentId deliveredAt) before := by
  unfold confirmDelivery
  refine .read (obeys_requireIntent coherent.owning) fun intent _ => ?_
  refine guarantees_raiseIf_bind fun _ => ?_
  refine guarantees_raiseIf_bind fun _ => ?_
  split
  · exact guarantees_pure trivial
  · refine .bind (obeys_updateIntent coherent.owning ?_) fun _ _ _ _ => ?_
    · exact fun old _ same status => .of_status_eq same.symm status.symm
    · refine .bind ((PortsOnly.audit _).guarantees _) fun _ _ _ _ => ?_
      exact (PortsOnly.emit ..).any

end

/-! Reversals -/

section

variable (coherent : Coherent before)
include coherent

theorem obeys_claimIntent : Guarantees (Write service regime) (claimIntent moment intent) before fun _ after =>
      after.store.attempts = before.store.attempts ∧ after.runner = before.runner := by
  have claims : Guarantees (Write service regime)
      (advanceIntent moment intent .reversalDispatchClaimed) before fun _ after =>
        after.store.attempts = before.store.attempts ∧ after.runner = before.runner := by
    refine (obeys_advance_free coherent.owning (by decide)).weaken fun _ _ _ advanced => ?_
    obtain ⟨_, rfl⟩ := advanced.written
    exact ⟨rfl, rfl⟩
  unfold claimIntent
  split
  · exact claims
  · refine guarantees_attempt_bind fun hot _ => ?_
    exact guarantees_raiseIf_bind fun _ => claims
  · exact guarantees_throw

theorem obeys_claimReversalDispatch : Guarantees (Write service regime) (claimReversalDispatch moment intentId) before
      fun attempt after => (before.store.listAttempts intentId).getLast? = some attempt ∧
        after.HasAttempt attempt ∧ attempt.paymentIntentId = intentId ∧ after.runner = before.runner := by
  unfold claimReversalDispatch
  refine .read (obeys_requireIntent coherent.owning) fun intent _ => ?_
  refine .bind (obeys_claimIntent coherent) fun _ middle steps kept => ?_
  obtain ⟨attempts, runner⟩ := kept
  refine .read obeys_latestAttempt fun latest isLatest => ?_
  cases latest with
  | none => exact guarantees_throw
  | some =>
    have coherent := coherent.writes steps
    obtain ⟨stored, owner⟩ := hasAttempt_of_latest coherent.numbering isLatest.symm
    refine guarantees_pure ⟨?_, stored, owner, runner⟩
    rw [isLatest]
    unfold PaymentStore.listAttempts
    rw [attempts]

theorem obeys_reverseAttempt (stored : before.HasAttempt attempt) :
    Obeys service regime (service.reverseAttempt moment intent attempt) before := by
  unfold reverseAttempt
  split
  · unfold reverseCharged
    refine .bind (obeys_advanceAttempt_free coherent.numbering (by decide) (.inl (by decide))
      (continues_of_hasAttempt stored rfl id)) fun _ _ _ _ => ?_
    refine .bind ((PortsOnly.postReversalEntries ..).guarantees _) fun _ _ _ _ => ?_
    exact (PortsOnly.emit ..).any
  · unfold reverseAuthorized
    refine (PortsOnly.openHold? _).first coherent fun hold _ coherent => ?_
    have releases : PortsOnly (releaseVoided moment hold) := by
      cases hold with
      | none => exact pure _
      | some => exact askLedger _
    refine .bind (releases.guarantees _) fun _ _ steps wrote => ?_
    obtain ⟨_, rfl⟩ := wrote
    exact obeys_voidAttempt (coherent.writes steps) stored
  · exact guarantees_pure trivial

theorem obeys_reversalConfirmed (stored : before.HasAttempt attempt) :
    Obeys service regime (service.reversalConfirmed moment intent attempt) before := by
  unfold reversalConfirmed
  refine .bind (obeys_reverseAttempt coherent stored) fun _ _ steps _ => ?_
  exact obeys_advance_only (coherent.writes steps).owning (by decide) fun _ => .emit ..

theorem obeys_reversalFailed (failed : ReversalFailed before intent.paymentIntentId) :
    Obeys service regime (service.reversalFailed moment intent attempt) before := by
  have fromReversal : ∀ rule ∈ intentRules, rule.trigger = .reversalFailed →
      rule.fromState ≠ .processing := by decide
  unfold reversalFailed
  refine .bind (obeys_advanceIntent coherent.owning ?_) fun _ _ _ _ => ?_
  · intro old new _ owner _ same declared
    obtain ⟨rule, listed, source, asked, target⟩ := declared
    have left : old.status ≠ .processing := source ▸ fromReversal rule listed asked
    exact ⟨same, .inr ⟨rule, listed, source, target⟩, fun processing => absurd processing left,
      fun _ _ => owner ▸ failed, fun processing => absurd processing left⟩
  · refine guarantees_attempt_bind fun _ _ => ?_
    exact (PortsOnly.emit ..).any

theorem obeys_applyReversalResult (told : ∃ attempt, before.HasAttempt attempt ∧ attempt.paymentIntentId = intentId ∧
      before.Told .reversal attempt result.status) :
    Obeys service regime (service.applyReversalResult moment intentId result) before := by
  unfold applyReversalResult
  refine .read (obeys_requireIntent coherent.owning) fun intent ⟨_, same⟩ => ?_
  refine guarantees_raiseIf_bind fun _ => ?_
  refine .read obeys_latestAttempt fun latest isLatest => ?_
  cases latest with
  | none => exact guarantees_throw
  | some =>
    obtain ⟨stored, -⟩ := hasAttempt_of_latest coherent.numbering isLatest.symm
    obtain ⟨reversed, reversedStored, owner, told⟩ := told
    cases status : result.status with
    | reversed | success => exact obeys_reversalConfirmed coherent stored
    | pending | failed | rejected | timedOut =>
      rw [status] at told
      exact obeys_reversalFailed coherent
        ⟨reversed, reversedStored, owner.trans same.symm, _, by decide, told⟩

end

/-- What a regime asks of a reversal that is about to be made. -/
def ReversalAdmitted (service : PaymentOrchestrator) (regime : Regime) (moment : Moment) (runner : ConnectorRunner)
    (attempt : PaymentAttemptRecord) : Prop :=
  ∀ registration, runner.registrations.get? attempt.connectorId = some registration → regime.closedCircuit →
    runner.refusal? (service.around moment) registration .reverse ≠ some .circuitOpen

theorem obeys_executeReversal (coherent : Coherent before)
    (admitted : ∀ attempt, (before.store.listAttempts intentId).getLast? = some attempt →
      ReversalAdmitted service regime moment before.runner attempt) :
    Obeys service regime (service.executeReversal moment intentId reason) before := by
  unfold executeReversal
  refine requirePspLicense.first coherent fun _ _ coherent => ?_
  refine .bind (obeys_claimReversalDispatch coherent) fun attempt middle steps claimed => ?_
  obtain ⟨isLatest, stored, owner, sameRunner⟩ := claimed
  have coherent := coherent.writes steps
  refine .bind obeys_onRunner fun admission _ steps ran => ?_
  obtain ⟨runner, ran, rfl⟩ := ran
  have fits := ConnectorRunner.call_fits ran
  have coherent := coherent.writes steps
  cases admission with
  | refused =>
    obtain ⟨⟨registration, registered, refused⟩, failed, -⟩ := fits
    rw [sameRunner] at registered refused
    refine .bind (obeys_observe ?_ trivial) fun _ _ steps observed => ?_
    · intro closed isOpen
      exact admitted attempt isLatest registration registered closed (isOpen ▸ refused)
    · have coherent := coherent.writes steps
      subst observed
      refine .done (obeys_applyReversalResult coherent ?_)
      exact ⟨attempt, stored, owner, told_now ⟨rfl, rfl, failed⟩⟩
  | invoked =>
    refine .bind (obeys_observe trivial trivial) fun _ _ steps observed => ?_
    subst observed
    exact .done (obeys_suspend ⟨attempt, stored, owner, rfl⟩)

end Reversals

end BdPay.Kernel
