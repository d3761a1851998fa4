import BdPay.Kernel.Submitting

namespace BdPay.Kernel

open Data Effect Connectors PaymentSystem PaymentOrchestrator

/-! Status polls.  A poll that ends a timed-out attempt moves the attempt and its
intent in one operation, so the two writes are taken together. -/

section Polls

variable {service : PaymentOrchestrator} {regime : Regime} {moment : Moment} {record old : PaymentAttemptRecord}

theorem PaymentSystem.HasAttempt.updateAttempt (stored : before.HasAttempt old)
    (same : record.attemptId = old.attemptId) :
    writeStore (·.updateAttempt record old.status) before = .ok () (before.putAttempt record) := by
  have found : before.store.attempts.get? record.attemptId = some old := same ▸ stored
  simp only [writeStore, get_bind, PaymentStore.updateAttempt, PaymentStore.replaced, found, ne_eq, not_true, if_false]
  rfl

theorem PaymentSystem.HasIntent.updateIntent {record old : PaymentIntentRecord} (stored : before.HasIntent old)
    (same : record.paymentIntentId = old.paymentIntentId) :
    writeStore (·.updateIntent record old.status) before = .ok () (before.putIntent record) := by
  have found : before.store.intents.get? record.paymentIntentId = some old := same ▸ stored
  simp only [writeStore, get_bind, PaymentStore.updateIntent, PaymentStore.replaced, found, ne_eq, not_true, if_false]
  rfl

theorem advanceAttempt_run (toState : AttemptStatus)
    (stored : before.HasAttempt old) (same : record.attemptId = old.attemptId) (status : record.status = old.status)
    (resolves : resolved attemptTable old.status trigger none = .ok toState) :
    ∃ ports, advanceAttempt moment record trigger none before =
      .ok { record with status := toState, updatedAt := moment.now }
        { before.putAttempt { record with status := toState, updatedAt := moment.now } with ports } := by
  unfold advanceAttempt
  rw [status]
  apply Exists.intro
  refine bind_eq_ok.mpr ⟨toState, before, attempt_eq_ok.mpr ⟨resolves, rfl⟩, ?_⟩
  exact bind_eq_ok.mpr ⟨(), _, stored.updateAttempt same, rfl⟩

theorem advanceIntent_run (toState : IntentStatus)
    (stored : before.HasIntent intent) (resolves : resolved intentTable intent.status trigger none = .ok toState) :
    ∃ ports, advanceIntent moment intent trigger none false before =
      .ok { intent with status := toState, updatedAt := moment.now }
        { before.putIntent { intent with status := toState, updatedAt := moment.now } with ports } := by
  unfold advanceIntent
  apply Exists.intro
  refine bind_eq_ok.mpr ⟨toState, before, attempt_eq_ok.mpr ⟨resolves, rfl⟩, ?_⟩
  exact bind_eq_ok.mpr ⟨(), _, stored.updateIntent rfl, rfl⟩

/-- The two ways a poll ends an attempt whose intent is processing. -/
inductive Ending (system : PaymentSystem) (old record : PaymentAttemptRecord) :
    AttemptTrigger → IntentTrigger → IntentStatus → Prop where
  | failed {status : ConnectorStatus} (polls : record.pollCount = old.pollCount) (listed : status ∈ pollFailures)
      (told : system.Told .poll record status) : Ending system old record .pollFailed .attemptHardDeclined .failed
  | exhausted (spent : maxStatusPolls ≤ record.pollCount) :
      Ending system old record .pollExhausted .reversalTriggered .reversalInitiated

theorem Ending.resolves (ending : Ending before old record trigger intentTrigger toState) :
    resolved attemptTable .timedOut trigger none = .ok .authorizationFailed ∧
      resolved intentTable .processing intentTrigger none = .ok toState := by
  cases ending <;> exact ⟨rfl, rfl⟩

/-- The two moves of a poll that ends a processing intent's attempt. -/
theorem obeys_pollEnds
    {next : PaymentAttemptRecord → PaymentIntentRecord → KernelM Unit} (stored : before.HasAttempt old)
    (same : record.identity = old.identity) (status : record.status = old.status) (timedOut : old.status = .timedOut)
    (intentStored : before.HasIntent intent) (owner : intent.paymentIntentId = old.paymentIntentId)
    (processing : intent.status = .processing) (ending : Ending before old record trigger intentTrigger toState)
    (rest : ∀ updated moved, PortsOnly (next updated moved)) : Obeys service regime (do
      let updated ← advanceAttempt moment record trigger none
      let moved ← advanceIntent moment intent intentTrigger none false
      next updated moved) before := by
  obtain ⟨ports, attemptRan⟩ := advanceAttempt_run .authorizationFailed stored
    (identity_eq same).1 status (by rw [timedOut]; exact ending.resolves.1)
  have stillStored : ({ before.putAttempt { record with status := .authorizationFailed, updatedAt := moment.now } with
      ports } : PaymentSystem).HasIntent intent := intentStored
  obtain ⟨ports', intentRan⟩ := advanceIntent_run toState stillStored (by rw [processing]; exact ending.resolves.2)
  have ends : PollEnds before old { record with status := .authorizationFailed, updatedAt := moment.now } intent
      { intent with status := toState, updatedAt := moment.now } := by
    refine ⟨same, timedOut, rfl, owner, rfl, processing, ?_⟩
    cases ending with
    | failed polls listed told => exact .inl ⟨rfl, polls, _, listed, told.congr rfl⟩
    | exhausted spent => exact .inr ⟨rfl, spent⟩
  have ended : Write service regime before _ := .store (.pollEnded stored intentStored ends)
  exact guarantees_of_run_eq (.tail (.single ended) (.store (.ports ports')))
    ((bind_of_ok attemptRan).trans (bind_of_ok intentRan))
    (((rest _ _).guarantees _).weaken fun _ _ _ _ => trivial)

theorem attemptRules_ending : ∀ rule ∈ attemptRules, rule.trigger ∈ endingTriggers →
    rule.fromState = .timedOut ∧ rule.toState = .authorizationFailed := by
  decide

/-- Ending an attempt alone: only a timed-out one, of an intent that has left PROCESSING. -/
theorem obeys_advanceAttempt_ended (coherent : Coherent before) {attempt record : PaymentAttemptRecord}
    (ending : trigger ∈ endingTriggers) (stored : before.HasAttempt attempt)
    (same : record.identity = attempt.identity) (status : record.status = attempt.status)
    (intentStored : before.HasIntent intent) (owner : intent.paymentIntentId = attempt.paymentIntentId)
    (decided : ¬ (attempt.status = .timedOut ∧ intent.status = .processing)) (spent : PollSpent before record) :
    Guarantees (Write service regime) (advanceAttempt moment record trigger) before
      (AttemptAdvanced before record trigger) := by
  refine obeys_advanceAttempt coherent.numbering ?_
  intro old new oldStored sameId _ identity polls declared
  have isOld := oldStored.unique stored (sameId.trans (identity_eq same).1)
  subst isOld
  obtain ⟨rule, listed, source, asked, target⟩ := declared
  obtain ⟨timedOut, failed⟩ := attemptRules_ending rule listed (asked ▸ ending)
  rw [source] at timedOut
  rw [target] at failed
  constructor
  case same => exact identity.trans same
  case declared => exact .inr ⟨rule, listed, source, target⟩
  case ended =>
    intro _ _
    constructor
    · refine spent.imp (fun told => ?_) (fun count => polls ▸ count)
      obtain ⟨reported, member, told⟩ := told
      exact ⟨reported, member, told.congr identity.symm⟩
    · intro other otherStored otherOwner processing
      rw [otherStored.unique intentStored (otherOwner.trans owner.symm)] at processing
      exact decided ⟨timedOut, processing⟩
  case counted => exact fun _ => .inr ⟨timedOut, failed⟩
  case stands =>
    rw [timedOut]
    exact fun never => absurd never (by decide)
  case heard => exact fun _ _ => .inl failed

variable {attempt : PaymentAttemptRecord}

section

variable (coherent : Coherent before)
include coherent

theorem obeys_pollSucceeded (stored : before.HasAttempt attempt)
    (owner : intent.paymentIntentId = attempt.paymentIntentId) (told : before.Told .poll attempt .success) :
    Obeys service regime (service.pollSucceeded moment intent attempt result) before := by
  unfold pollSucceeded
  refine .bind (obeys_advanceAttempt_free coherent.numbering (by decide)
    (.inr (.inr (.inl (told.congr rfl)))) (continues_of_hasAttempt stored rfl id)) fun charged _ steps advanced => ?_
  have sameOwner : charged.paymentIntentId = intent.paymentIntentId :=
    (identity_eq advanced.same).2.1.trans owner.symm
  exact .done (obeys_settleCharge (coherent.writes steps)
    ⟨charged, advanced.hasAttempt, sameOwner, advanced.settled (by decide)⟩)

theorem obeys_pollReversed (stored : before.HasAttempt attempt) (told : before.Told .poll attempt .reversed) :
    Obeys service regime (service.pollReversed moment intent attempt result) before := by
  unfold pollReversed
  refine .bind (obeys_advanceAttempt_free coherent.numbering (by decide)
    (.inr (.inr (.inr (told.congr rfl)))) (continues_of_hasAttempt stored rfl id)) fun _ _ steps _ => ?_
  exact obeys_advance_only (coherent.writes steps).owning (by decide) fun _ => .emit ..

section

variable (stored : before.HasAttempt attempt) (intentStored : before.HasIntent intent)
  (owner : intent.paymentIntentId = attempt.paymentIntentId)
include stored intentStored owner

theorem obeys_pollPending : Obeys service regime (service.pollPending moment intent attempt) before := by
  unfold pollPending
  simp only
  split
  · rename_i spent
    by_cases ends : attempt.status = .timedOut ∧ intent.status = .processing
    · exact obeys_pollEnds stored rfl rfl ends.1 intentStored owner ends.2 (.exhausted spent)
        fun _ _ => .emit ..
    · refine .bind (obeys_advanceAttempt_ended coherent (by decide) stored rfl rfl intentStored owner
        ends (.inr spent)) fun _ _ steps _ => ?_
      exact obeys_advance_only (coherent.writes steps).owning (by decide) fun _ => .emit ..
  · rename_i left
    exact .done (obeys_advanceAttempt_free coherent.numbering (by decide) (.inl (by decide))
      (continues_of_hasAttempt stored rfl fun spent => absurd spent left))

/-- The intent of an attempt that is not timed out, or that is not processing, is not failed by a poll. -/
theorem obeys_pollFailed
    {status : ConnectorStatus} (listed : status ∈ pollFailures) (told : before.Told .poll attempt status) :
    Obeys service regime (service.pollFailed moment intent attempt result) before := by
  unfold pollFailed
  by_cases ends : attempt.status = .timedOut ∧ intent.status = .processing
  · exact obeys_pollEnds stored rfl rfl ends.1 intentStored owner ends.2
      (.failed rfl listed (told.congr rfl)) fun _ _ => .emit ..
  · refine coherent.bind (obeys_advanceAttempt_ended coherent (by decide) stored rfl rfl intentStored owner
      ends (.inl ⟨status, listed, told.congr rfl⟩)) fun _ middle coherent advanced => ?_
    obtain ⟨rule, member, source, asked, -⟩ := advanced.rule
    have timedOut : attempt.status = .timedOut :=
      source.symm.trans (attemptRules_ending rule member (by rw [asked]; decide)).1
    refine .bind (obeys_advanceIntent coherent.owning ?_) fun _ _ _ _ => ?_
    · intro old new _ _ kept _ declared
      obtain ⟨moved, movedListed, movedSource, movedAsked, -⟩ := declared
      have fromProcessing : ∀ rule ∈ intentRules, rule.trigger = .attemptHardDeclined →
          rule.fromState = .processing := by decide
      exact absurd ⟨timedOut, by rw [← kept, ← movedSource, fromProcessing moved movedListed movedAsked]⟩ ends
    · exact (PortsOnly.emit ..).any

end

theorem obeys_applyStatusPollResult (told : ∀ attempt, before.HasAttempt attempt → attempt.attemptId = attemptId →
      before.Told .poll attempt result.status) :
    Obeys service regime (service.applyStatusPollResult moment attemptId result) before := by
  unfold applyStatusPollResult
  refine .read (obeys_requireAttempt coherent.numbering) fun attempt ⟨stored, sameId⟩ => ?_
  refine .read (obeys_requireIntent coherent.owning) fun intent ⟨intentStored, owner⟩ => ?_
  have told := told attempt stored sameId
  cases status : result.status with
  | success => exact obeys_pollSucceeded coherent stored owner (status ▸ told)
  | reversed => exact obeys_pollReversed coherent stored (status ▸ told)
  | pending => exact obeys_pollPending coherent stored intentStored owner
  | failed | rejected | timedOut =>
    rw [status] at told
    exact obeys_pollFailed coherent stored intentStored owner (by decide) told

end

/-- What a regime asks of a status poll that is about to be made. -/
def PollAdmitted (service : PaymentOrchestrator) (regime : Regime) (moment : Moment) (runner : ConnectorRunner)
    (attempt : PaymentAttemptRecord) : Prop :=
  ∀ registration refusal, runner.registrations.get? attempt.connectorId = some registration →
    runner.refusal? (service.around moment) registration .queryStatus = some refusal →
      regime.railPolls = false ∧ (regime.closedCircuit → refusal ≠ .circuitOpen)

theorem obeys_pollTimedOutAttempt (coherent : Coherent before)
    (admitted : ∀ attempt, before.HasAttempt attempt → attempt.attemptId = attemptId →
      PollAdmitted service regime moment before.runner attempt) :
    Obeys service regime (service.pollTimedOutAttempt moment attemptId) before := by
  unfold pollTimedOutAttempt
  refine .read (obeys_requireAttempt coherent.numbering) fun attempt ⟨stored, sameId⟩ => ?_
  refine .read (obeys_requireIntent coherent.owning) fun _ _ => ?_
  refine .bind obeys_onRunner fun admission middle steps ran => ?_
  obtain ⟨runner, ran, rfl⟩ := ran
  have fits := ConnectorRunner.call_fits ran
  have coherent := coherent.writes steps
  cases admission with
  | refused refusal =>
    obtain ⟨⟨registration, registered, refused⟩, failed, -⟩ := fits
    have allowed := admitted attempt stored sameId registration refusal registered refused
    refine coherent.bind (obeys_observe allowed trivial) fun _ _ coherent observed => ?_
    subst observed
    refine .done (obeys_applyStatusPollResult coherent ?_)
    intro other otherStored otherId
    obtain rfl := otherStored.unique stored (otherId.trans sameId.symm)
    exact told_now ⟨rfl, rfl, failed⟩
  | invoked =>
    refine .bind (obeys_observe trivial trivial) fun _ _ steps observed => ?_
    subst observed
    exact .done (obeys_suspend ⟨attempt, stored, sameId, rfl⟩)

theorem obeys_railAnswered (coherent : Coherent before)
    (allowed : regime.Allows before (.answered purpose connectorRef outcome))
    {apply : ConnectorResult → KernelM Unit} (applied : ∀ result runner, result.status = outcome.status →
      let heard := { before with history := before.history ++ [.answered purpose connectorRef outcome], runner }
      Coherent heard → Obeys service regime (apply result) heard) :
    Obeys service regime (service.railAnswered moment purpose kind registration connectorRef outcome apply) before := by
  unfold railAnswered
  refine coherent.bind (obeys_observe allowed trivial) fun _ _ coherent observed => ?_
  subst observed
  refine .bind obeys_onRunner fun result _ steps ran => ?_
  obtain ⟨runner, ran, rfl⟩ := ran
  exact .done (applied result runner (ConnectorRunner.called_ok ran) (coherent.writes steps))

end Polls

end BdPay.Kernel
