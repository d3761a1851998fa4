import BdPay.Kernel.OpenCircuit

namespace BdPay.Kernel

open Platform Data Effect Connectors PaymentSystem PaymentOrchestrator

/-! What a refund asks the rail to reverse.

An adapter finds an instruction by the connector reference it was submitted
under, or by the rail's own transaction identifier.  A refund carries a reference
of its own and no rail identifier. -/

/-- The adapter can find the attempt's instruction by what it is given. -/
def Request.Identifies (request : Request) (attempt : PaymentAttemptRecord) : Prop :=
  request.connectorRef = attempt.connectorRef ∨
    ∃ railTransactionId, request.railTransactionId = some railTransactionId ∧
      attempt.railTransactionId = some railTransactionId

namespace PaymentOrchestrator

variable (service : PaymentOrchestrator)

/-- The reference an attempt is submitted under. -/
def attemptRef (attempt : PaymentAttemptRecord) : Except KernelError String :=
  service.makeKernelId "cref" [("attempt_id", .str attempt.attemptId), ("connector_id", .str attempt.connectorId)]

/-- The reference a refund of the attempt is given. -/
def refundRef (refund : RefundRecord) (charged : PaymentAttemptRecord) : Except KernelError String :=
  service.makeKernelId "cref" [("refund_id", .str refund.refundId), ("connector_id", .str charged.connectorId)]

end PaymentOrchestrator

/-- A refund belongs to a stored attempt, under a reference minted for it. -/
def RefundMinted (service : PaymentOrchestrator) (system : PaymentSystem) (refund : RefundRecord) : Prop :=
  ∃ charged ref, system.HasAttempt charged ∧ charged.attemptId = refund.attemptId ∧
    refund.connectorRef = some ref ∧ service.refundRef refund charged = .ok ref

/-- Where the references of the store come from. -/
structure Minted (service : PaymentOrchestrator) (system : PaymentSystem) : Prop where
  attempts : ∀ attempt, system.HasAttempt attempt → service.attemptRef attempt = .ok attempt.connectorRef
  refunds : ∀ refund, system.HasRefund refund → RefundMinted service system refund
  unsettled : ∀ refund, system.HasRefund refund → refund.status ≠ .refundSucceeded → refund.railTransactionId = none

section Minting

variable {service : PaymentOrchestrator}

theorem attemptRef_congr (same : first.identity = second.identity) :
    service.attemptRef first = service.attemptRef second := by
  simp only [PaymentAttemptRecord.identity, Prod.mk.injEq] at same
  simp only [attemptRef, same.1, same.2.2.2.1]

theorem RefundMinted.extends (minted : RefundMinted service system refund)
    (extended : Extends system next) : RefundMinted service next refund := by
  obtain ⟨charged, ref, stored, owner, isRef, made⟩ := minted
  obtain ⟨current, inNext, same⟩ := extended.attempts stored
  simp only [PaymentAttemptRecord.identity, Prod.mk.injEq] at same
  refine ⟨current, ref, inNext, same.1.trans owner, isRef, ?_⟩
  rw [← made, refundRef, refundRef, same.2.2.2.1]

theorem RefundMinted.moved (minted : RefundMinted service system old)
    (moves : RefundMoves old new) : RefundMinted service system new := by
  have same := moves.same
  simp only [RefundRecord.identity, Prod.mk.injEq] at same
  obtain ⟨charged, ref, stored, owner, isRef, made⟩ := minted
  refine ⟨charged, ref, stored, owner.trans same.2.2.1.symm, same.2.2.2.2.trans isRef, ?_⟩
  rw [← made, refundRef, refundRef, same.1]

namespace Minted

section

variable (minted : Minted service system) (write : StoreWrite service system next)

include minted write

theorem attempts_next {attempt : PaymentAttemptRecord} (stored : next.HasAttempt attempt) :
    service.attemptRef attempt = .ok attempt.connectorRef := by
  rcases write.origin stored with ⟨earlier, earlierStored, same⟩ | opens
  · rw [attemptRef_congr same, minted.attempts earlier earlierStored, (identity_eq same).2.2.2]
  · exact opens.minted

theorem store_write : Minted service next := by
  have extended := write.extends
  refine ⟨fun attempt stored => minted.attempts_next write stored, ?_, ?_⟩
  · intro refund stored
    have known : system.HasRefund refund → RefundMinted service next refund := fun inSystem =>
      (minted.refunds refund inSystem).extends extended
    cases write with
    | ports | intentCreated | intentMoved | attemptOpened | attemptMoved | pollEnded => exact known stored
    | refundOpened opens =>
      rcases hasRefund_putRefund.mp stored with rfl | ⟨inSystem, -⟩
      · obtain ⟨charged, ref, chargedStored, owner, -, -, isRef, made⟩ := opens.minted
        exact ⟨charged, ref, chargedStored, owner, isRef, made⟩
      · exact known inSystem
    | refundMoved old moves =>
      rcases hasRefund_putRefund.mp stored with rfl | ⟨inSystem, -⟩
      · exact ((minted.refunds _ old).moved moves).extends extended
      · exact known inSystem
  · intro refund stored unfinished
    cases write with
    | ports | intentCreated | intentMoved | attemptOpened | attemptMoved | pollEnded =>
      exact minted.unsettled refund stored unfinished
    | refundOpened opens =>
      rcases hasRefund_putRefund.mp stored with rfl | ⟨inSystem, -⟩
      · exact opens.unsettled
      · exact minted.unsettled refund inSystem unfinished
    | refundMoved old moves =>
      rcases hasRefund_putRefund.mp stored with rfl | ⟨inSystem, -⟩
      · rw [moves.kept.resolve_right unfinished]
        exact minted.unsettled _ old fun succeeded => unfinished (moves.final succeeded)
      · exact minted.unsettled refund inSystem unfinished

end

theorem writes (minted : Minted service system) (steps : Relation.ReflTransGen (Write service regime) system next) :
    Minted service next := by
  induction steps with
  | refl => exact minted
  | tail _ last ih =>
    have extended := last.extends
    cases last with
    | store write => exact ih.store_write write
    | runner | observed | suspended | resumed =>
      exact ⟨ih.attempts, fun refund stored => (ih.refunds refund stored).extends extended, ih.unsettled⟩

end Minted

theorem minted_run {runner : ConnectorRunner} : Minted service (service.run (start runner) steps) := by
  have nothing : Minted service (start runner) := by
    refine ⟨?_, ?_, ?_⟩
    · intro attempt stored
      cases stored
    · intro refund stored
      cases stored
    · intro refund stored
      cases stored
  exact nothing.writes (writes_run (coherent_start runner) compliant_free)

theorem makeKernelId_ne_empty (made : service.makeKernelId label payload = .ok minted) : minted ≠ "" := by
  have raised : ∀ {result : Except IdError String}, raiseId result = .ok minted →
      result = .ok minted := by
    intro result same
    cases result with
    | ok =>
      cases same
      rfl
    | error => cases same
  unfold makeKernelId at made
  split at made
  · rename_i listed
    simp only [PaymentOrchestrator.makeId, Platform.makeId, listed, ↓reduceIte] at made
    exact mintId_ne_empty (raised made)
  · split at made
    · exact mintId_ne_empty (raised made)
    · cases made

/-- A refund's request names the charge only if the two references collide, or it was settled before. -/
theorem Minted.identifies_iff (minted : Minted service system)
    (stored : system.HasRefund refund) (chargedStored : system.HasAttempt charged)
    (owner : charged.attemptId = refund.attemptId) : (refundRequest refund).Identifies charged ↔
      service.refundRef refund charged = service.attemptRef charged ∨
        (refund.status = .refundSucceeded ∧ ∃ railTransactionId,
          refund.railTransactionId = some railTransactionId ∧ charged.railTransactionId = some railTransactionId) := by
  obtain ⟨other, ref, otherStored, otherOwner, isRef, made⟩ := minted.refunds refund stored
  have same := otherStored.unique chargedStored (otherOwner.trans owner.symm)
  subst same
  have asked : (refundRequest refund).connectorRef = ref := by
    simp only [refundRequest, isRef, orElse, makeKernelId_ne_empty made, ↓reduceIte]
  unfold Request.Identifies
  rw [asked, made, minted.attempts other otherStored, Except.ok.injEq]
  refine or_congr_right ⟨?_, ?_⟩
  · rintro ⟨railTransactionId, given, charge⟩
    refine ⟨?_, railTransactionId, given, charge⟩
    by_contra unfinished
    have nothing := minted.unsettled refund stored unfinished
    rw [refundRequest, nothing] at given
    cases given
  · exact fun settled => settled.2

end Minting

/-- In every state a run reaches, what a refund asks the adapter to reverse names the charged attempt
exactly when its minted reference collides with the charge's, or a settled refund is processed again
and has the charge's rail identifier. -/
theorem refund_identifies_charge_iff (service : PaymentOrchestrator) (runner : ConnectorRunner) (steps : List Step)
    (moment : Moment) (refund : RefundRecord) (charged : PaymentAttemptRecord) (after : PaymentSystem)
    (stored : (service.run (start runner) steps).HasRefund refund)
    (chargedStored : (service.run (start runner) steps).HasAttempt charged)
    (owner : charged.attemptId = refund.attemptId)
    (asked : service.processRefund moment refund.refundId (service.run (start runner) steps) = .ok .suspended after) :
    ∃ request, after.history = (service.run (start runner) steps).history ++ [.invoked .refund request] ∧
      (request.Identifies charged ↔
        service.refundRef refund charged = service.attemptRef charged ∨
          (refund.status = .refundSucceeded ∧ ∃ railTransactionId,
            refund.railTransactionId = some railTransactionId ∧ charged.railTransactionId = some railTransactionId)) := by
  have coherent : Coherent (service.run (start runner) steps) := coherent_run compliant_free
  obtain ⟨-, invoked⟩ := (@obeys_processRefund service {} moment _ coherent refund.refundId).returned asked
  obtain ⟨other, otherStored, sameId, history⟩ := invoked rfl
  obtain rfl := Dict.row_unique RefundRecord.refundId otherStored stored sameId
  exact ⟨_, history, minted_run.identifies_iff stored chargedStored owner⟩

/-! The sample payment is charged and refunded in part. -/

section Sample

set_option maxRecDepth 20000

def refundingSteps : List Step := [create, pay, answer (verdict .success),
  ⟨sampleMoment, .createRefund sampleIntentId 40 .duplicate none⟩]

def refunding : PaymentSystem := sampleService.run sampleStart refundingSteps

def refundAsked (refundId : String) : PaymentSystem :=
  match sampleService.processRefund sampleMoment refundId refunding with
  | .ok _ after => after
  | .error _ after => after

/-- The request of a refund of 40 paisa, under its own reference. -/
def askedFor (refund : RefundRecord) : Request where
  connectorId := npsb
  connectorRef := refund.connectorRef.getD ""
  amountMinor := some 40
  reason := some refund.reason.value

theorem refunding_observed : ∃ refund ∈ refunding.store.refunds.values.head?, ∃ charged ∈ attemptNumbered refunding 1,
      refunding.HasRefund refund ∧ refunding.HasAttempt charged ∧ charged.attemptId = refund.attemptId ∧
        charged.status = .charged ∧ refund.connectorRef.getD "" ≠ charged.connectorRef ∧
        (sampleService.processRefund sampleMoment refund.refundId refunding matches .ok .suspended _) ∧
        (refundAsked refund.refundId).history = refunding.history ++ [.invoked .refund (askedFor refund)] := by
  decide +kernel

/-- The adapter is asked to reverse a reference it was never given. -/
theorem refund_asks_for_unknown_reference :
    ∃ refund charged, refunding.HasRefund refund ∧ refunding.HasAttempt charged ∧
      charged.attemptId = refund.attemptId ∧ charged.status = .charged ∧
      ∃ request, .invoked .refund request ∈ (refundAsked refund.refundId).history ∧ ¬ request.Identifies charged := by
  obtain ⟨refund, -, charged, -, stored, chargedStored, owner, status, different, -, history⟩ := refunding_observed
  refine ⟨refund, charged, stored, chargedStored, owner, status, askedFor refund, by simp [history], ?_⟩
  rintro (same | ⟨_, given, -⟩)
  · exact different same
  · cases given

theorem refunding_identifies_iff :
    ∃ refund charged after request, refunding.HasRefund refund ∧ refunding.HasAttempt charged ∧
      sampleService.processRefund sampleMoment refund.refundId refunding = .ok .suspended after ∧
      after.history = refunding.history ++ [.invoked .refund request] ∧
      (request.Identifies charged ↔
        sampleService.refundRef refund charged = sampleService.attemptRef charged ∨
          (refund.status = .refundSucceeded ∧ ∃ railTransactionId,
            refund.railTransactionId = some railTransactionId ∧ charged.railTransactionId = some railTransactionId)) := by
  obtain ⟨refund, -, charged, -, stored, chargedStored, owner, -, -, waits, -⟩ := refunding_observed
  cases ran : sampleService.processRefund sampleMoment refund.refundId refunding with
  | error => simp [ran] at waits
  | ok progress after =>
    cases progress with
    | done => simp [ran] at waits
    | suspended =>
      obtain ⟨request, history, identifies⟩ := refund_identifies_charge_iff sampleService (sampleRunner .empty)
        refundingSteps sampleMoment refund charged after stored chargedStored owner ran
      exact ⟨refund, charged, after, request, stored, chargedStored, ran, history, identifies⟩

end Sample

end BdPay.Kernel
