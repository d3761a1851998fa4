import BdPay.Kernel.Advance

namespace BdPay.Kernel

open Data Effect PaymentSystem PaymentOrchestrator AttemptAdvanced PortsOnly

/-! Every operation up to the answer of a submit is a sequence of the listed writes. -/

section Reads

variable {id : String}

theorem obeys_requireRow {row? : PaymentStore → Option α} {holds : α → Prop}
    (rows : ∀ row, row? before.store = some row → holds row) :
    Guarantees step (requireRow row? message) before fun row after => after = before ∧ holds row := by
  refine guarantees_get_bind ?_
  cases found : row? before.store with
  | none => exact guarantees_throw
  | some row => exact guarantees_pure ⟨rfl, rows row found⟩

theorem obeys_requireIntent (owning : Owning before) : Guarantees step (requireIntent id) before fun intent after =>
      after = before ∧ before.HasIntent intent ∧ intent.paymentIntentId = id :=
  obeys_requireRow fun _ => hasIntent_of_get? owning

theorem obeys_requireAttempt (numbering : Numbering before) :
    Guarantees step (requireAttempt id) before fun attempt after =>
      after = before ∧ before.HasAttempt attempt ∧ attempt.attemptId = id :=
  obeys_requireRow fun _ => hasAttempt_of_get? numbering

variable {attempt : PaymentAttemptRecord}

theorem mem_listAttempts {store : PaymentStore} : attempt ∈ store.listAttempts paymentIntentId ↔
      attempt ∈ store.attempts.values ∧ attempt.paymentIntentId = paymentIntentId := by
  simp [PaymentStore.listAttempts]

theorem obeys_latestAttempt : Guarantees step (latestAttempt paymentIntentId) before fun latest after =>
      after = before ∧ latest = (before.store.listAttempts paymentIntentId).getLast? :=
  guarantees_get_bind (guarantees_pure ⟨rfl, rfl⟩)

theorem hasAttempt_of_latest (numbering : Numbering before)
    (latest : (before.store.listAttempts paymentIntentId).getLast? = some attempt) :
    before.HasAttempt attempt ∧ attempt.paymentIntentId = paymentIntentId := by
  obtain ⟨member, owner⟩ := mem_listAttempts.mp (List.mem_of_getLast? latest)
  exact ⟨hasAttempt_of_mem numbering member, owner⟩

theorem obeys_chargedAttempt (numbering : Numbering before) :
    Guarantees step (chargedAttempt paymentIntentId) before fun charged after =>
      after = before ∧ ∀ attempt, charged = some attempt →
        before.HasAttempt attempt ∧ attempt.paymentIntentId = paymentIntentId := by
  unfold chargedAttempt
  refine guarantees_get_bind (guarantees_pure ⟨rfl, ?_⟩)
  intro attempt found
  have listed := List.mem_reverse.mp (List.mem_of_find?_eq_some found)
  obtain ⟨member, owner⟩ := mem_listAttempts.mp listed
  exact ⟨hasAttempt_of_mem numbering member, owner⟩

end Reads

/-! Successes -/

section Successes

variable {attempt : PaymentAttemptRecord}

theorem Held.continues (held : Held before intent attempt) (kept : record.identity = attempt.identity)
    (polls : record.pollCount = attempt.pollCount) : Continues before record := by
  intro old stored same
  obtain ⟨current, currentStored, identity⟩ := held.stored
  have identity := identity.trans kept.symm
  have sameId := (identity_eq identity).1
  rw [currentStored.unique stored (sameId.trans same.symm)] at identity
  have unpolled := held.unpolled
  exact ⟨identity.symm, fun spent => by omega⟩

variable {after : PaymentSystem}

theorem AttemptAdvanced.hasAttempt (advanced : AttemptAdvanced before attempt trigger updated after) :
    after.HasAttempt updated := by
  obtain ⟨ports, rfl⟩ := advanced.written
  exact hasAttempt_putAttempt.mpr (.inl rfl)

theorem attemptRules_settling : ∀ rule ∈ attemptRules,
    rule.trigger ∈ [.connectorSuccessDirect, .connectorAuthorized, .pollSuccess] →
      rule.toState = .charged ∨ rule.toState = .authorized := by
  decide

theorem AttemptAdvanced.settled (advanced : AttemptAdvanced before attempt trigger updated after)
    (settling : trigger ∈ [.connectorSuccessDirect, .connectorAuthorized, .pollSuccess]) :
    updated.status = .charged ∨ updated.status = .authorized := by
  obtain ⟨rule, listed, -, asked, target⟩ := advanced.rule
  rw [← target]
  exact attemptRules_settling rule listed (asked ▸ settling)

/-- The attempt that a success of its intent rests on. -/
def Charged (system : PaymentSystem) (paymentIntentId : String) : Prop :=
  ∃ attempt, system.HasAttempt attempt ∧ attempt.paymentIntentId = paymentIntentId ∧
    (attempt.status = .charged ∨ attempt.status = .authorized)

theorem intentRules_success : ∀ rule ∈ intentRules, rule.trigger = .attemptCharged ∨ rule.trigger = .attemptAuthorized →
      rule.toState ≠ .failed := by
  decide

theorem obeys_advance_charged (owning : Owning before) {trigger : IntentTrigger}
    (success : trigger = .attemptCharged ∨ trigger = .attemptAuthorized)
    (charged : Charged before intent.paymentIntentId) :
    Guarantees (Write service regime) (advanceIntent moment intent trigger) before
      (IntentAdvanced before intent trigger) := by
  refine obeys_advanceIntent owning ?_
  intro old new _ owner _ same declared
  obtain ⟨rule, listed, source, asked, target⟩ := declared
  have alive : new.status ≠ .failed := target ▸ intentRules_success rule listed (asked ▸ success)
  constructor
  case same => exact same
  case declared => exact .inr ⟨rule, listed, source, target⟩
  case declined => exact fun _ failed => absurd failed alive
  case unreversed => exact fun _ failed => absurd failed alive
  case charged => exact fun _ _ => owner ▸ charged

theorem obeys_settleCharge (coherent : Coherent before) (charged : Charged before intent.paymentIntentId) :
    Obeys service regime (service.settleCharge moment intent attempt) before := by
  unfold settleCharge
  refine PortsOnly.requirePspLicense.first coherent fun _ _ coherent => ?_
  refine guarantees_attempt_bind fun accounts _ => ?_
  refine guarantees_attempt_bind fun fee _ => ?_
  obtain ⟨feeMinor, feeRuleId⟩ := fee
  have posts : PortsOnly (do
      service.postCapture moment intent attempt accounts
      service.postFee moment intent attempt accounts feeMinor feeRuleId) :=
    (PortsOnly.postEntry ..).bind fun _ => PortsOnly.postFee ..
  refine (posts.onRaise fun _ => PortsOnly.recordLedgerPostFailure ..).first coherent fun _ _ coherent => ?_
  refine .bind (obeys_advance_charged coherent.owning (.inl rfl) charged) fun _ _ _ _ => ?_
  exact .done ((PortsOnly.emitSucceeded ..).guarantees _)

variable (coherent : Coherent before) (held : Held before intent attempt) (told : before.Told .submit attempt .success)
include coherent held told

theorem obeys_applyCharged : Obeys service regime (service.applyCharged moment intent attempt) before := by
  unfold applyCharged
  refine .bind (obeys_advanceAttempt_free coherent.numbering (by decide)
    (.inr (.inl (told.congr rfl))) (held.continues rfl rfl)) fun charged middle steps advanced => ?_
  have owner : charged.paymentIntentId = intent.paymentIntentId :=
    (identity_eq advanced.same).2.1.trans held.owner.symm
  exact .done (obeys_settleCharge (coherent.writes steps)
    ⟨charged, advanced.hasAttempt, owner, advanced.settled (by decide)⟩)

theorem obeys_applyAuthorized : Obeys service regime (service.applyAuthorized moment intent attempt) before := by
  unfold applyAuthorized
  refine guarantees_attempt_bind fun authExpiresAt _ => ?_
  refine coherent.bind (obeys_advanceAttempt_free coherent.numbering (by decide)
    (.inr (.inl (told.congr rfl))) (held.continues rfl rfl)) fun authorized middle coherent advanced => ?_
  have owner : authorized.paymentIntentId = intent.paymentIntentId :=
    (identity_eq advanced.same).2.1.trans held.owner.symm
  have charged : Charged middle intent.paymentIntentId :=
    ⟨authorized, advanced.hasAttempt, owner, advanced.settled (by decide)⟩
  have holds : PortsOnly (onRaise (service.openAuthorizationHold moment intent authorized)
      (service.recordLedgerPostFailure moment intent authorized)) :=
    onRaise (openAuthorizationHold ..) fun _ => recordLedgerPostFailure ..
  refine holds.first coherent fun _ _ coherent => ?_
  refine (PortsOnly.emit ..).first coherent fun _ _ coherent => ?_
  exact .done (obeys_advance_charged coherent.owning (.inr rfl) charged)

theorem obeys_applySuccess : Obeys service regime (service.applySuccess moment intent attempt) before := by
  unfold applySuccess
  split
  · exact obeys_applyAuthorized coherent held told
  · exact obeys_applyCharged coherent held told

end Successes

/-! Failures, and the next attempt -/

section Failures

/-- An intent whose earlier attempts are all over may be dispatched under the number. -/
structure Ready (system : PaymentSystem) (intent : PaymentIntentRecord) (attemptNumber : Nat) : Prop where
  processing : intent.status = .processing
  stored : ∃ current, system.HasIntent current ∧ current.paymentIntentId = intent.paymentIntentId ∧
    current.status = .processing
  spent : ∀ other, system.HasAttempt other → other.paymentIntentId = intent.paymentIntentId →
    other.attemptNumber < attemptNumber ∧ other.status = .authorizationFailed ∧ system.Told .submit other .failed
  follows : attemptNumber = 1 ∨
    ∃ other, system.HasAttempt other ∧ other.paymentIntentId = intent.paymentIntentId

/-- Dispatching again, behind an attempt that failed, makes writes of the list only. -/
abbrev Resubmits (service : PaymentOrchestrator) (regime : Regime)
    (redispatch : PaymentIntentRecord → Nat → KernelM Progress) : Prop :=
  ∀ middle next number, Coherent middle → Ready middle next number → number ≠ 1 →
    Obeys service regime (redispatch next number) middle

theorem attemptRules_declined : ∀ rule ∈ attemptRules,
    rule.trigger = .connectorFailed ∨ rule.trigger = .connectorRejected →
      rule.fromState = .authorizationPending ∧ rule.toState = .authorizationFailed := by
  decide

variable {attempt : PaymentAttemptRecord}

/-- The attempt that just failed is the last of its intent, and the ones before it are spent. -/
theorem AttemptAdvanced.last {after : PaymentSystem}
    (advanced : AttemptAdvanced before attempt trigger updated after) (numbering : Numbering before)
    (continues : Continues before attempt) (declined : trigger = .connectorFailed ∨ trigger = .connectorRejected) :
    updated.status = .authorizationFailed ∧
      ∀ other, after.HasAttempt other → other.paymentIntentId = updated.paymentIntentId → other = updated ∨
        (other.attemptNumber < updated.attemptNumber ∧ other.status = .authorizationFailed ∧
          before.Told .submit other .failed) := by
  obtain ⟨rule, listed, source, asked, target⟩ := advanced.rule
  obtain ⟨waiting, failed⟩ := attemptRules_declined rule listed (asked ▸ declined)
  refine ⟨target.symm.trans failed, ?_⟩
  obtain ⟨old, stored, sameId, status⟩ := advanced.stored
  have identity : updated.identity = old.identity := advanced.same.trans (continues old stored sameId).1
  obtain ⟨updatedId, updatedOwner, updatedNumber, -⟩ := identity_eq identity
  have alive : old.status ≠ .authorizationFailed := by
    rw [status, ← source, waiting]
    decide
  obtain ⟨ports, rfl⟩ := advanced.written
  intro other inAfter owner
  rcases hasAttempt_putAttempt.mp inAfter with rfl | ⟨otherStored, different⟩
  · exact .inl rfl
  · have sameOwner : other.paymentIntentId = old.paymentIntentId := owner.trans updatedOwner
    have below := numbering.last stored otherStored sameOwner alive
    have notSame : other.attemptNumber ≠ old.attemptNumber := fun number =>
      different ((numbering.numbers otherStored stored sameOwner number).trans updatedId.symm)
    have less : other.attemptNumber < old.attemptNumber := by omega
    exact .inr ⟨updatedNumber ▸ less, numbering.passed otherStored stored sameOwner less⟩

theorem obeys_advance_declined (owning : Owning before) (declined : HardDeclined before intent.paymentIntentId) :
    Guarantees (Write service regime) (advanceIntent moment intent .attemptHardDeclined) before
      (IntentAdvanced before intent .attemptHardDeclined) := by
  have fromProcessing : ∀ rule ∈ intentRules, rule.trigger = .attemptHardDeclined →
      rule.fromState = .processing ∧ rule.toState = .failed := by decide
  refine obeys_advanceIntent owning ?_
  intro old new _ owner _ same moved
  obtain ⟨rule, listed, source, asked, target⟩ := moved
  obtain ⟨processing, failed⟩ := fromProcessing rule listed asked
  rw [source] at processing
  rw [target] at failed
  constructor
  case same => exact same
  case declared => exact .inr ⟨rule, listed, source, target⟩
  case declined => exact fun _ _ => owner ▸ declined
  case unreversed =>
    intro reversing _
    rw [processing] at reversing
    rcases reversing with other | other <;> cases other
  case charged =>
    intro _ settled
    rw [failed] at settled
    rcases settled with other | other <;> cases other

variable (coherent : Coherent before) (held : Held before intent attempt)
include coherent held

theorem obeys_applyRejected (told : before.Told .submit attempt .rejected) :
    Obeys service regime (service.applyRejected moment intent attempt) before := by
  unfold applyRejected
  refine .bind (obeys_advanceAttempt_free coherent.numbering (by decide) (.inl (by decide))
    (held.continues rfl rfl)) fun rejected middle steps advanced => ?_
  obtain ⟨failed, others⟩ := advanced.last coherent.numbering (held.continues rfl rfl) (.inr rfl)
  have extended := extends_of_writes steps
  have coherent := coherent.writes steps
  have declined : HardDeclined middle intent.paymentIntentId := by
    have owner : rejected.paymentIntentId = intent.paymentIntentId :=
      (identity_eq advanced.same).2.1.trans held.owner.symm
    refine ⟨rejected, advanced.hasAttempt, owner, failed, ?_, .inl ((extended.told told).congr advanced.same.symm)⟩
    intro other stored otherOwner
    rcases others other stored (otherOwner.trans owner.symm) with rfl | ⟨less, -⟩
    · exact Nat.le_refl _
    · omega
  refine (PortsOnly.emit ..).first coherent fun _ _ coherent => ?_
  refine .bind (obeys_advance_declined coherent.owning declined) fun _ _ _ _ => ?_
  exact (PortsOnly.emit ..).any

theorem obeys_applyFailed (told : before.Told .submit attempt .failed)
    (redispatches : Resubmits service regime redispatch) :
    Obeys service regime (service.applyFailed moment redispatch intent attempt) before := by
  unfold applyFailed
  refine .bind (obeys_advanceAttempt_free coherent.numbering (by decide) (.inl (by decide))
    (held.continues rfl rfl)) fun failed middle steps advanced => ?_
  obtain ⟨status, others⟩ := advanced.last coherent.numbering (held.continues rfl rfl) (.inl rfl)
  have extended := extends_of_writes steps
  have coherent := coherent.writes steps
  have told : middle.Told .submit failed .failed := (extended.told told).congr advanced.same.symm
  have owner : failed.paymentIntentId = intent.paymentIntentId :=
    (identity_eq advanced.same).2.1.trans held.owner.symm
  split
  · -- The next attempt: this one and those before it are spent.
    refine coherent.bind (obeys_advance_free coherent.owning (by decide)) fun next last coherent moved => ?_
    have positive := failed.numbered.1
    refine redispatches last next _ coherent ?_ (by omega)
    have retryable : ∀ rule ∈ intentRules, rule.trigger = .attemptFailedRetryable → rule.toState = .processing := by
      decide
    obtain ⟨rule, listed, -, asked, target⟩ := moved.rule
    have processing : next.status = .processing := target.symm.trans (retryable rule listed asked)
    obtain ⟨ports, rfl⟩ := moved.written
    constructor
    case processing => exact processing
    case stored => exact ⟨next, hasIntent_putIntent.mpr (.inl rfl), rfl, processing⟩
    case spent =>
      intro other stored otherOwner
      rcases others other stored (by rw [otherOwner, moved.same, owner]) with rfl | ⟨less, ended, wasTold⟩
      · exact ⟨by omega, status, told⟩
      · exact ⟨by omega, ended, extended.told wasTold⟩
    case follows => exact .inr ⟨failed, advanced.hasAttempt, by rw [owner, moved.same]⟩
  · have declined : HardDeclined middle intent.paymentIntentId := by
      refine ⟨failed, advanced.hasAttempt, owner, status, ?_, .inr ⟨told, by omega⟩⟩
      intro other stored otherOwner
      rcases others other stored (otherOwner.trans owner.symm) with rfl | ⟨less, -⟩
      · exact Nat.le_refl _
      · omega
    refine .bind (obeys_advance_declined coherent.owning declined) fun _ _ _ _ => ?_
    exact .done ((PortsOnly.emit ..).guarantees _)

theorem obeys_applyTimedOut : Obeys service regime (applyTimedOut moment intent attempt) before := by
  unfold applyTimedOut
  refine .bind (obeys_advanceAttempt_free coherent.numbering (by decide) (.inl (by decide))
    (held.continues rfl rfl)) fun _ _ steps _ => ?_
  exact .done (obeys_advance_free (coherent.writes steps).owning (by decide))

/-- A connector result, applied to snapshots that are about a stored attempt. -/
theorem obeys_applyConnectorResult (told : before.Told .submit attempt result.status)
    (redispatches : Resubmits service regime redispatch) :
    Obeys service regime (service.applyConnectorResult moment redispatch intent attempt result) before := by
  unfold applyConnectorResult
  have held : Held before intent (withResult moment attempt result) :=
    ⟨held.stored, held.owner, held.unpolled, held.live⟩
  have told : before.Told .submit (withResult moment attempt result) result.status :=
    told.congr rfl
  cases status : result.status with
  | success =>
    rw [status] at told
    exact .done (obeys_applySuccess coherent held told)
  | pending =>
    refine .bind (obeys_updateAttempt coherent.numbering ?_) fun _ _ _ _ => ?_
    · intro old stored same kept
      obtain ⟨identity, counted⟩ := held.continues rfl rfl old stored same
      exact .of_status_eq identity counted (fun failed => absurd (kept.symm.trans failed) held.live) kept.symm
    · exact guarantees_pure trivial
  | rejected =>
    rw [status] at told
    exact .done (obeys_applyRejected coherent held told)
  | failed =>
    rw [status] at told
    exact obeys_applyFailed coherent held told redispatches
  | timedOut =>
    exact .done (obeys_applyTimedOut coherent held)
  | reversed => exact guarantees_throw

end Failures

end BdPay.Kernel
