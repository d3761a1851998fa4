import BdPay.Kernel.Reversing

namespace BdPay.Kernel

open Data Effect Connectors PaymentSystem PaymentOrchestrator PaymentStore PortsOnly

/-! Refunds, and the callbacks that may belong to one. -/

section Refunds

variable {service : PaymentOrchestrator} {regime : Regime} {moment : Moment} {before : PaymentSystem}
  {refund : RefundRecord}

theorem obeys_requireRefund (coherent : Coherent before) {id : String} :
    Guarantees step (requireRefund id) before fun refund after =>
      after = before ∧ before.HasRefund refund ∧ refund.refundId = id :=
  obeys_requireRow fun _ found => ⟨Dict.row_of_key found (coherent.refundKeys found), coherent.refundKeys found⟩

theorem refundRules_not_from_succeeded : ∀ rule ∈ refundRules, rule.fromState ≠ .refundSucceeded := by
  decide

/-- A stored refund moves along its table; only a success sets its rail reference. -/
theorem obeys_advanceRefund (stored : before.HasRefund refund)
    (same : record.identity = refund.identity) (status : record.status = refund.status)
    (reference : record.railTransactionId = refund.railTransactionId ∨ trigger = .connectorSuccess) :
    Guarantees (Write service regime) (advanceRefund moment record trigger) before
      fun updated after => (after.HasRefund updated ∧ ∃ ports, after = { before.putRefund updated with ports }) ∧
        refundRequest updated = refundRequest record := by
  have succeeds : ∀ rule ∈ refundRules, rule.trigger = .connectorSuccess → rule.toState = .refundSucceeded := by
    decide
  unfold advanceRefund
  refine guarantees_attempt_bind fun toState found => ?_
  obtain ⟨rule, listed, source, asked, target⟩ := resolved_ok found
  have moves : RefundMoves refund { record with status := toState, updatedAt := moment.now } := by
    refine ⟨same, ?_, ?_⟩
    · intro succeeded
      exact absurd (source.trans (status.trans succeeded)) (refundRules_not_from_succeeded rule listed)
    · refine reference.imp id fun success => ?_
      exact target.symm.trans (succeeds rule listed (asked.trans success))
  have written : ∀ store, before.store.updateRefund { record with status := toState, updatedAt := moment.now }
      record.status = .ok store → ({ before with store } : PaymentSystem) =
        before.putRefund { record with status := toState, updatedAt := moment.now } := by
    intro store updated
    obtain ⟨old, -, -, rfl⟩ := replaced_ok updated
    rfl
  refine .bind (obeys_writeStore ?_) fun _ _ _ wrote => ?_
  · intro store updated
    rw [written store updated]
    exact .single (.store (.refundMoved stored moves))
  · obtain ⟨store, updated, rfl⟩ := wrote
    rw [written store updated]
    refine .bind ((PortsOnly.audit _).guarantees _) fun _ _ _ audited => ?_
    obtain ⟨ports, rfl⟩ := audited
    exact guarantees_pure ⟨⟨hasRefund_putRefund.mpr (.inl rfl), ports, rfl⟩, rfl⟩

section

variable (coherent : Coherent before) {refundId : String}
include coherent

theorem obeys_returnIntentAfterRefundFailure :
    Obeys service regime (service.returnIntentAfterRefundFailure moment intent refund) before := by
  unfold returnIntentAfterRefundFailure refundedTotal
  refine guarantees_get_bind ?_
  exact obeys_advance_only coherent.owning (by decide) fun _ => .emit ..

section

variable (stored : before.HasRefund refund)

include stored

theorem obeys_refundSettled : Obeys service regime (service.refundSettled moment intent refund result) before := by
  unfold refundSettled refundedTotal
  refine guarantees_get_bind ?_
  refine guarantees_raiseIf_bind fun _ => ?_
  refine .bind (obeys_advanceRefund stored rfl rfl (.inr rfl)) fun settled _ steps _ => ?_
  have coherent := coherent.writes steps
  refine coherent.bind ((PortsOnly.postRefundEntries ..).guarantees _) fun _ _ coherent _ => ?_
  refine guarantees_get_bind ?_
  refine .bind (obeys_advance_free coherent.owning ?_) fun _ _ _ _ => ?_
  · split <;> decide
  · exact (PortsOnly.emit ..).any

theorem obeys_refundRejected : Obeys service regime (service.refundRejected moment intent refund) before := by
  unfold refundRejected
  refine .bind (obeys_advanceRefund stored rfl rfl (.inl rfl)) fun _ _ steps _ => ?_
  exact obeys_returnIntentAfterRefundFailure (coherent.writes steps)

theorem obeys_refundRetried : Obeys service regime (service.refundRetried moment intent refund status) before := by
  unfold refundRetried
  simp only
  split
  · refine .bind (obeys_advanceRefund stored rfl rfl (.inl rfl)) fun _ _ steps _ => ?_
    exact obeys_returnIntentAfterRefundFailure (coherent.writes steps)
  · exact .done (obeys_advanceRefund stored rfl rfl (.inl rfl))

end

theorem obeys_applyRefundResult : Obeys service regime (service.applyRefundResult moment refundId result) before := by
  unfold applyRefundResult
  refine .read (obeys_requireRefund coherent) fun refund ⟨stored, _⟩ => ?_
  refine .read (obeys_requireIntent coherent.owning) fun intent _ => ?_
  cases result.status with
  | success | reversed => exact obeys_refundSettled coherent stored
  | rejected => exact obeys_refundRejected coherent stored
  | pending | failed | timedOut => exact obeys_refundRetried coherent stored

theorem obeys_dispatchRefund (stored : before.HasRefund refund) :
    Guarantees (Write service regime) (dispatchRefund moment refund) before
      fun dispatched after => Coherent after ∧ after.history = before.history ∧
        refundRequest dispatched = refundRequest refund := by
  unfold dispatchRefund
  split
  · refine (obeys_advanceRefund stored rfl rfl (.inl rfl)).weaken fun updated after steps advanced => ?_
    have coherent := coherent.writes steps
    obtain ⟨⟨-, _, rfl⟩, request⟩ := advanced
    exact ⟨coherent, rfl, request⟩
  · exact guarantees_pure ⟨coherent, rfl, rfl⟩

/-- A refund that waits for its adapter asked it to reverse the stored refund's request. -/
theorem obeys_processRefund {refundId : String} :
    Guarantees (Write service regime) (service.processRefund moment refundId) before fun progress after =>
      progress = .suspended → ∃ refund, before.HasRefund refund ∧ refund.refundId = refundId ∧
        after.history = before.history ++ [.invoked .refund (refundRequest refund)] := by
  unfold processRefund
  refine requirePspLicense.first coherent fun _ _ coherent => ?_
  refine .read (obeys_requireRefund coherent) fun refund ⟨stored, sameId⟩ => ?_
  refine .read (obeys_requireIntent coherent.owning) fun _ _ => ?_
  refine .bind (obeys_dispatchRefund coherent stored) fun dispatched _ _ moved => ?_
  obtain ⟨coherent, history, request⟩ := moved
  refine .bind obeys_onRunner fun admission _ steps ran => ?_
  have coherent := coherent.writes steps
  obtain ⟨_, -, rfl⟩ := ran
  cases admission with
  | refused =>
    refine .bind (obeys_observe trivial trivial) fun _ _ steps _ => ?_
    refine .bind (obeys_applyRefundResult (coherent.writes steps)) fun _ _ _ _ => ?_
    refine guarantees_pure fun waits => ?_
    cases waits
  | invoked =>
    refine .bind (obeys_observe trivial trivial) fun _ _ _ observed => ?_
    subst observed
    refine .bind (obeys_suspend trivial) fun _ _ _ suspended => ?_
    subst suspended
    refine guarantees_pure fun _ => ⟨refund, stored, sameId, ?_⟩
    rw [history, request]

end

/-! Creating a refund -/

theorem refundIds_minted (minted : service.refundIds moment intent charged amount = .ok ids) :
    service.makeKernelId "cref" [("refund_id", .str ids.refundId), ("connector_id", .str charged.connectorId)] =
      .ok ids.connectorRef := by
  unfold refundIds at minted
  obtain ⟨refundId, -, minted⟩ := except_bind_eq_ok.mp minted
  obtain ⟨connectorRef, made, minted⟩ := except_bind_eq_ok.mp minted
  obtain ⟨instructionId, -, minted⟩ := except_bind_eq_ok.mp minted
  cases minted
  exact made

theorem PaymentStore.insertRefund_ok {store next : PaymentStore} (inserted : store.insertRefund record = .ok next) :
    store.refunds.get? record.refundId = none ∧
      next = { store with refunds := store.refunds.set record.refundId record } := by
  unfold insertRefund at inserted
  split at inserted
  · cases inserted
  · rename_i absent
    split at inserted
    · cases inserted
    · cases inserted
      exact ⟨Dict.contains_eq_false_iff.mp (by simpa using absent), rfl⟩

theorem obeys_openRefund (coherent : Coherent before) :
    Obeys service regime (service.openRefund moment intent amount reason idempotencyKey) before := by
  unfold openRefund reservedRefundTotal
  refine guarantees_raiseIf_bind fun _ => ?_
  refine .bind (obeys_chargedAttempt coherent.numbering) fun charged middle _ found => ?_
  obtain ⟨rfl, stored⟩ := found
  cases charged with
  | none => exact guarantees_throw
  | some charged =>
    obtain ⟨stored, owner⟩ := stored charged rfl
    refine guarantees_get_bind ?_
    refine guarantees_raiseIf_bind fun _ => ?_
    refine guarantees_attempt_bind fun ids minted => ?_
    split
    · refine .bind (obeys_writeStore ?_) fun _ _ steps _ => ?_
      · intro store inserted
        obtain ⟨fresh, rfl⟩ := insertRefund_ok inserted
        refine .single (.store (.refundOpened ⟨fresh, rfl, rfl, ?_⟩))
        exact ⟨charged, ids.connectorRef, stored, rfl, owner, rfl, rfl, refundIds_minted minted⟩
      · refine .bind (obeys_advance_free (coherent.writes steps).owning (by decide))
          fun _ _ _ _ => ?_
        exact .done ((PortsOnly.emit ..).guarantees _)
    · exact guarantees_throw

theorem obeys_createRefund (coherent : Coherent before) :
    Obeys service regime (service.createRefund moment intentId amount reason idempotencyKey) before := by
  unfold createRefund
  refine requirePspLicense.first coherent fun _ _ coherent => ?_
  refine guarantees_raiseIf_bind fun _ => ?_
  refine .read (obeys_requireIntent coherent.owning) fun intent _ => ?_
  refine guarantees_get_bind ?_
  split
  · refine guarantees_raiseIf_bind fun _ => ?_
    exact guarantees_pure trivial
  · exact obeys_openRefund coherent

/-! Callbacks -/

theorem obeys_applyInboundConnectorResult (coherent : Coherent before)
    (allowed : regime.railPolls → result.status ≠ .timedOut) :
    Obeys service regime (service.applyInboundConnectorResult moment connectorId result) before := by
  unfold applyInboundConnectorResult
  refine coherent.bind (obeys_observe allowed trivial) fun _ middle coherent observed => ?_
  refine guarantees_get_bind ?_
  cases found : middle.store.findAttemptByConnectorRef connectorId result.connectorRef with
  | some attempt =>
    have matched := List.find?_some found
    simp only [decide_eq_true_eq] at matched
    have stored := hasAttempt_of_mem coherent.numbering (List.mem_of_find?_eq_some found)
    simp only
    unfold inboundAttempt
    split
    · exact guarantees_pure trivial
    · rename_i sameInstruction
      have sameInstruction : result.instructionId = attempt.instructionId := by
        simpa [eq_comm] using sameInstruction
      have told : ∀ purpose, purpose = .submit ∨ purpose = .poll → middle.Told purpose attempt result.status := by
        intro purpose either
        subst observed
        exact told_now ⟨either, matched.1.symm, matched.2.symm, sameInstruction, rfl⟩
      split
      · rename_i waiting
        refine .read (obeys_requireIntent coherent.owning) fun intent ⟨_, owner⟩ => ?_
        have opened : attempt.status ∈ openAttempts := by rw [waiting]; decide
        exact obeys_applyConnectorResult coherent
          ⟨⟨attempt, stored, rfl⟩, owner, coherent.numbering.open_polls stored opened, by rw [waiting]; decide⟩
          (told .submit (.inl rfl))
          obeys_redispatch
      · refine .done (obeys_applyStatusPollResult coherent ?_)
        intro other otherStored sameId
        rw [otherStored.unique stored sameId]
        exact told .poll (.inr rfl)
      · exact guarantees_pure trivial
  | none =>
    simp only
    unfold inboundRefund
    split
    · exact guarantees_pure trivial
    · split
      · exact guarantees_pure trivial
      · split
        · exact guarantees_pure trivial
        · exact .done (obeys_applyRefundResult coherent)

end Refunds

end BdPay.Kernel
