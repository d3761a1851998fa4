import BdPay.Kernel.Reachable
import BdPay.Platform.Digest

namespace BdPay.Kernel

open Platform Data Effect Connectors PaymentSystem List

/-! A customer is charged at most once, as long as a failed submit means that the
rail did not take the instruction. -/

/-- The rail itself said that it did not take the attempt's money. -/
def Observation.Declines (attempt : PaymentAttemptRecord) : Observation → Prop
  | .answered purpose ref (.answered result verdict) =>
    (purpose = .submit ∨ purpose = .poll) ∧ ref = attempt.connectorRef ∧ verdict = true ∧
      (result.status = .failed ∨ result.status = .rejected)
  | .calledBack connectorId result =>
    connectorId = attempt.connectorId ∧ result.connectorRef = attempt.connectorRef ∧
      result.instructionId = attempt.instructionId ∧ (result.status = .failed ∨ result.status = .rejected)
  | _ => False

def DeclinedIn (history : List Observation) (attempt : PaymentAttemptRecord) : Prop :=
  ∃ observation ∈ history, observation.Declines attempt

/-- Whenever a submit is handed over, the attempts of the intent before it were declined by then or not handed over. -/
def HandedInTurn (system : PaymentSystem) : Prop :=
  ∀ front request rest, system.history = front ++ .invoked .submit request :: rest →
    ∀ earlier later, system.HasAttempt earlier → system.HasAttempt later →
      earlier.paymentIntentId = later.paymentIntentId → earlier.attemptNumber < later.attemptNumber →
      later.connectorRef = request.connectorRef →
        DeclinedIn front earlier ∨ ¬ HandedIn front earlier.connectorRef

/-- The rail may have executed the attempt's instruction. -/
def MayBeCharged (system : PaymentSystem) (attempt : PaymentAttemptRecord) : Prop :=
  system.HasAttempt attempt ∧ system.Handed attempt.connectorRef ∧ ¬ DeclinedIn system.history attempt

/-- At most one attempt of an intent can have been charged. -/
def ChargedOnce (system : PaymentSystem) : Prop :=
  ∀ first second, MayBeCharged system first → MayBeCharged system second →
    first.paymentIntentId = second.paymentIntentId → first = second

theorem DeclinedIn.congr {history : List Observation}
    (declined : DeclinedIn history first) (same : first.identity = second.identity) : DeclinedIn history second := by
  obtain ⟨observation, member, declines⟩ := declined
  simp only [PaymentAttemptRecord.identity, Prod.mk.injEq] at same
  obtain ⟨-, -, -, connector, instruction, ref⟩ := same
  refine ⟨observation, member, ?_⟩
  cases observation with
  | answered _ _ outcome =>
    cases outcome with
    | answered =>
      simp only [Observation.Declines, ref] at declines ⊢
      exact declines
    | timedOut | raised => exact declines
  | calledBack =>
    simp only [Observation.Declines, connector, instruction, ref] at declines ⊢
    exact declines
  | replayed | refused | invoked => exact declines

/-- The submits are certain. -/
def certain : Regime := { certainSubmits := true }

section Turns

variable {next : PaymentSystem} {attempt : PaymentAttemptRecord}

theorem declined_of_submitFailed (lawful : Lawful certain system)
    (failed : system.SubmitFailed attempt.connectorRef) : DeclinedIn system.history attempt := by
  obtain ⟨outcome, member, status⟩ := failed
  have sure := lawful _ member rfl
  refine ⟨_, member, ?_⟩
  cases outcome with
  | timedOut => cases status
  | raised => cases sure
  | answered result =>
    have isFailed : result.status = .failed := status
    simp only [AdapterOutcome.ambiguous, isFailed, beq_self_eq_true, Bool.true_and, Bool.not_eq_false'] at sure
    exact ⟨.inl rfl, rfl, sure, .inl isFailed⟩

/-- A failure the kernel was told of is a decline, or the attempt never went out. -/
theorem declined_or_unhanded (coherent : Coherent system) (lawful : Lawful certain system)
    (told : system.Told .submit attempt .failed) :
    DeclinedIn system.history attempt ∨ ¬ HandedIn system.history attempt.connectorRef := by
  obtain ⟨observation, member, tells⟩ := told
  cases observation with
  | answered _ _ outcome =>
    obtain ⟨rfl, rfl, status⟩ := tells
    exact .inl (declined_of_submitFailed lawful ⟨outcome, member, status⟩)
  | refused _ _ refusal =>
    obtain ⟨rfl, rfl, -⟩ := tells
    by_cases handed : HandedIn system.history attempt.connectorRef
    · have failed := coherent.handling.exclusive handed ⟨refusal, member⟩
      exact .inl (declined_of_submitFailed lawful failed)
    · exact .inr handed
  | replayed => exact absurd tells.2.2 (lawful _ member)
  | calledBack =>
    obtain ⟨-, connector, ref, instruction, status⟩ := tells
    exact .inl ⟨_, member, connector, ref, instruction, .inl status⟩
  | invoked => exact tells.elim

theorem chargedOnce_of_lawful (coherent : Coherent system) (lawful : Lawful certain system) : ChargedOnce system := by
  -- Of two attempts of one intent, the one with the lower number was told to have failed.
  have below : ∀ {first second}, MayBeCharged system first → system.HasAttempt second →
      first.paymentIntentId = second.paymentIntentId → ¬ first.attemptNumber < second.attemptNumber := by
    intro first second charged stored owner less
    obtain ⟨-, told⟩ := coherent.numbering.passed charged.1 stored owner less
    rcases declined_or_unhanded coherent lawful told with declined | unhanded
    · exact charged.2.2 declined
    · exact unhanded charged.2.1
  intro first second firstCharged secondCharged owner
  have notBelow := below firstCharged secondCharged.1 owner
  have notAbove := below secondCharged firstCharged.1 owner.symm
  exact firstCharged.1.unique secondCharged.1
    (coherent.numbering.numbers firstCharged.1 secondCharged.1 owner (by omega))

section

variable (inTurn : HandedInTurn system) (coherent : Coherent system)
include inTurn coherent

theorem HandedInTurn.store_write (write : StoreWrite service system next) : HandedInTurn next := by
  have kept : next.history = system.history := by cases write <;> rfl
  intro front request rest split earlier later earlierStored laterStored owner less ref
  rw [kept] at split
  rcases write.origin laterStored with ⟨laterOld, laterOldStored, laterSame⟩ | opens
  · obtain ⟨-, laterOwner, laterNumber, laterRef⟩ := identity_eq laterSame
    rcases write.origin earlierStored with ⟨earlierOld, earlierOldStored, earlierSame⟩ | opens
    · obtain ⟨-, earlierOwner, earlierNumber, earlierRef⟩ := identity_eq earlierSame
      have turn := inTurn front request rest split earlierOld laterOld earlierOldStored laterOldStored
        (by rw [← earlierOwner, ← laterOwner, owner]) (by omega) (laterRef.symm.trans ref)
      rw [← earlierRef] at turn
      exact turn.imp_left (·.congr earlierSame.symm)
    · have spent := (opens.spent laterOld laterOldStored (laterOwner.symm.trans owner.symm)).1
      omega
  · -- A new reference was not handed over before.
    obtain ⟨holder, holderStored, holds⟩ :=
      coherent.handling.known (.inl ⟨request, by rw [split]; simp, rfl⟩ : system.Handed _ ∨ _)
    exact absurd (holds.trans ref.symm) (opens.freshRef holder holderStored)

theorem HandedInTurn.write (lawful : Lawful certain system) (write : Write service certain system next) :
    HandedInTurn next := by
  cases write with
  | store write => exact inTurn.store_write coherent write
  | runner | suspended | resumed => exact inTurn
  | observed =>
    intro front request rest split earlier later earlierStored laterStored owner less ref
    rcases eq_nil_or_concat' rest with rfl | ⟨others, last, rfl⟩
    · -- The submit goes out now: the failures of the attempts before it are known.
      have same := append_inj_left' split rfl
      rw [← same]
      exact declined_or_unhanded coherent lawful (coherent.numbering.passed earlierStored laterStored owner less).2
    · rw [← cons_append, ← append_assoc] at split
      exact inTurn front request others (append_inj_left' split rfl) earlier later earlierStored laterStored
        owner less ref

theorem HandedInTurn.writes (lawful : Lawful certain system)
    (steps : Relation.ReflTransGen (Write service certain) system next) : HandedInTurn next := by
  induction steps with
  | refl => exact inTurn
  | tail earlier last ih => exact ih.write (coherent.writes earlier) (lawful.writes coherent earlier) last

end

theorem handedInTurn_start (runner : ConnectorRunner) : HandedInTurn (start runner) := by
  intro front request rest split
  have empty : ([] : List Observation) = front ++ .invoked .submit request :: rest := split
  simp at empty

end Turns

/-- With certain submits, in every state a run reaches, an attempt was handed over only after those before it
were declined or had not gone out, and an intent is charged at most once. -/
theorem handedInTurn_of_certain_submits (service : PaymentOrchestrator) (runner : ConnectorRunner) (steps : List Step)
    (compliant : Compliant service certain (start runner) steps) :
    HandedInTurn (service.run (start runner) steps) ∧ ChargedOnce (service.run (start runner) steps) := by
  have coherent := coherent_start runner
  exact ⟨(handedInTurn_start runner).writes coherent (lawful_start runner) (writes_run coherent compliant),
    chargedOnce_of_lawful (coherent_run compliant) (lawful_run compliant)⟩

/-! A service with one connector, and an intent of one taka that is paid through it. -/

section Sample

set_option maxRecDepth 20000

def sampleService : PaymentOrchestrator where
  sha256 := standInDigest
  redact := id
  pspLicenseActive := true
  nextRailWindow := fun _ now => now
  resolveCaptureFee := fun _ _ _ => .ok (2, "flat")

/-- 1 January 2026, UTC. -/
def sampleMoment : Moment where
  now := ⟨739616 * 86400000000, DateTime.year2026_inRange⟩

def npsb : String := "npsb_iso8583_v28"

def sampleRunner (records : Dict String BreakerRecord) : ConnectorRunner where
  registrations := Dict.empty.set npsb { connectorId := npsb, activeMode := .production, enabled := true }
  adapters := [(npsb, .production)]
  simulatorOnly := false
  breaker := { configs := .empty, records }
  recorded := .empty
  results := []

def sampleStart : PaymentSystem := start (sampleRunner .empty)

def sampleRequest : PaymentIntentRequest where
  merchantId := "mrch_1"
  amountMinor := 100
  method := .npsbIbft
  idempotencyKey := "order-1"

def create : Step := ⟨sampleMoment, .createIntent sampleRequest⟩

/-- The identifier the intent is created under. -/
def sampleIntentId : String := (sampleService.after create sampleStart).store.intents.keys.headD ""

def pay : Step := ⟨sampleMoment, .confirm sampleIntentId .passed⟩

def answer (outcome : AdapterOutcome) : Step := ⟨sampleMoment, .answer 0 outcome⟩

def attemptNumbered (system : PaymentSystem) (number : Nat) : Option PaymentAttemptRecord :=
  system.store.attempts.values.find? (·.attemptNumber = number)

/-- What the adapter is handed for an attempt. -/
def handedOver (attempt : PaymentAttemptRecord) : Request where
  connectorId := npsb
  connectorRef := attempt.connectorRef
  amountMinor := some 100

/-- The adapter raised after it had sent the first attempt's instruction. -/
def raisedAfterSending : PaymentSystem := sampleService.run sampleStart [create, pay, answer .raised]

theorem raisedAfterSending_observed :
    ∃ first ∈ attemptNumbered raisedAfterSending 1, ∃ second ∈ attemptNumbered raisedAfterSending 2,
      raisedAfterSending.HasAttempt first ∧ raisedAfterSending.HasAttempt second ∧
        first.paymentIntentId = second.paymentIntentId ∧ first.attemptNumber < second.attemptNumber ∧
        raisedAfterSending.history = [
          .invoked .submit (handedOver first), .answered .submit first.connectorRef .raised,
          .invoked .submit (handedOver second)] := by
  decide +kernel

/-- A second instruction goes out while the first may have been executed. -/
theorem raisedAfterSending_charged_twice : ¬ HandedInTurn raisedAfterSending ∧ ¬ ChargedOnce raisedAfterSending := by
  obtain ⟨first, -, second, -, firstStored, secondStored, owner, less, history⟩ := raisedAfterSending_observed
  constructor
  · intro inTurn
    rcases inTurn [_, _] (handedOver second) [] history first second firstStored secondStored owner less rfl with
      ⟨observation, member, declines⟩ | unhanded
    · simp only [List.mem_cons, List.not_mem_nil, or_false] at member
      rcases member with rfl | rfl <;> exact declines
    · exact unhanded ⟨handedOver first, List.mem_cons_self, rfl⟩
  · intro once
    have undeclined : ∀ attempt, ¬ DeclinedIn raisedAfterSending.history attempt := by
      rintro attempt ⟨observation, member, declines⟩
      simp only [history, List.mem_cons, List.not_mem_nil, or_false] at member
      rcases member with rfl | rfl | rfl <;> exact declines
    have same := once first second
      ⟨firstStored, ⟨handedOver first, by simp [history], rfl⟩, undeclined first⟩
      ⟨secondStored, ⟨handedOver second, by simp [history], rfl⟩, undeclined second⟩ owner
    rw [same] at less
    omega

/-- The rail answers with the given status. -/
def verdict (status : ConnectorStatus) : AdapterOutcome :=
  .answered {
    instructionId := "", connectorRef := "", status, railTransactionId := some "310012345678", respondedAt := none
    errorCode := none, rawResponseHash := "" } true

def declinedSteps : List Step := [create, pay, answer (verdict .failed), answer (verdict .success)]

/-- The rail declines the first attempt and takes the second. -/
theorem declined_then_charged :
    Compliant sampleService certain sampleStart declinedSteps ∧
      HandedInTurn (sampleService.run sampleStart declinedSteps) ∧
      ChargedOnce (sampleService.run sampleStart declinedSteps) := by
  have compliant : ∀ service system, Compliant service certain system declinedSteps := fun service system =>
    ⟨trivial, fun closed => absurd closed (by decide), meets_answer rfl rfl, meets_answer rfl rfl, trivial⟩
  exact ⟨compliant _ _, handedInTurn_of_certain_submits sampleService _ declinedSteps (compliant _ _)⟩

end Sample

end BdPay.Kernel
