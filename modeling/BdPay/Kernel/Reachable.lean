import BdPay.Kernel.Refunding

namespace BdPay.Kernel

open Data Effect Connectors PaymentSystem PaymentOrchestrator PaymentStore PortsOnly

/-! Whole runs: every step of a run is a sequence of the listed writes, and a run
whose steps keep to a regime stays lawful. -/

section Starting

variable {regime : Regime} {moment : Moment} {before : PaymentSystem} {intent : PaymentIntentRecord}
  {after : PaymentSystem}

theorem PaymentStore.insertIntent_ok {store next : PaymentStore}
    (inserted : store.insertIntent record = .ok next) : store.intents.get? record.paymentIntentId = none ∧
      next = { store with intents := store.intents.set record.paymentIntentId record } := by
  unfold insertIntent at inserted
  split at inserted
  · cases inserted
  · rename_i absent
    split at inserted
    · cases inserted
    · cases inserted
      exact ⟨Dict.contains_eq_false_iff.mp (by simpa using absent), rfl⟩

theorem obeys_createIntent {request : PaymentIntentRequest} :
    Obeys service regime (service.createIntent moment request) before := by
  unfold createIntent
  refine guarantees_raiseIf_bind fun _ => ?_
  refine guarantees_get_bind ?_
  split
  · refine guarantees_raiseIf_bind fun _ => ?_
    exact guarantees_pure trivial
  · refine guarantees_attempt_bind fun intentId _ => ?_
    refine guarantees_attempt_bind fun clientSecretHash _ => ?_
    refine guarantees_attempt_bind fun expiresAt _ => ?_
    split
    · refine guarantees_raiseIf_bind fun _ => ?_
      split
      · refine (obeys_writeStore ?_).bind fun _ _ _ _ => ?_
        · intro store inserted
          obtain ⟨fresh, rfl⟩ := insertIntent_ok inserted
          exact .single (.store (.intentCreated fresh rfl))
        · refine ((PortsOnly.audit _).guarantees _).bind fun _ _ _ _ => ?_
          exact .done ((PortsOnly.emit ..).guarantees _)
      · exact guarantees_throw
    · exact guarantees_throw

theorem obeys_supplyMethod (coherent : Coherent before) :
    Obeys service regime (supplyMethod moment intentId method) before := by
  unfold supplyMethod
  refine .read (obeys_requireIntent coherent.owning) fun _ _ => ?_
  exact (obeys_advance_free coherent.owning (by decide)).weaken fun _ _ _ _ => trivial

/-- A first dispatch may begin: the intent is processing, and it has no attempt yet. -/
structure Begins (before : PaymentSystem) (paymentIntentId : String) (intent : PaymentIntentRecord)
    (after : PaymentSystem) : Prop where
  ready : Ready after intent 1
  runner : after.runner = before.runner
  method : ∃ stored, before.HasIntent stored ∧ stored.paymentIntentId = paymentIntentId ∧ intent.method = stored.method

theorem Owning.unused (owning : Owning before) (stored : before.HasIntent intent)
    (early : intent.status ∈ undispatched) {attempt : PaymentAttemptRecord}
    (attemptStored : before.HasAttempt attempt) :
    attempt.paymentIntentId ≠ intent.paymentIntentId := by
  intro owner
  obtain ⟨other, otherStored, owned, late⟩ := owning.dispatched attemptStored
  exact late (otherStored.unique stored (owned.trans owner) ▸ early)

theorem IntentAdvanced.ready (advanced : IntentAdvanced before intent trigger updated after)
    (target : ∀ rule ∈ intentRules, rule.trigger = trigger → rule.toState = .processing)
    (unused : ∀ rule ∈ intentRules, rule.fromState = intent.status → rule.trigger = trigger →
      ∀ attempt, before.HasAttempt attempt → attempt.paymentIntentId ≠ intent.paymentIntentId) :
    Ready after updated 1 := by
  obtain ⟨rule, listed, source, asked, reached⟩ := advanced.rule
  have processing : updated.status = .processing := reached.symm.trans (target rule listed asked)
  obtain ⟨_, rfl⟩ := advanced.written
  constructor
  case processing => exact processing
  case stored => exact ⟨updated, hasIntent_putIntent.mpr (.inl rfl), rfl, processing⟩
  case spent => exact fun other stored owner => absurd (owner.trans advanced.same) (unused rule listed source asked other stored)
  case follows => exact .inl rfl

section

variable (coherent : Coherent before)

include coherent

theorem obeys_startProcessing (free : trigger ∉ decidingTriggers)
    (target : ∀ rule ∈ intentRules, rule.trigger = trigger → rule.toState = .processing)
    (unused : ∀ rule ∈ intentRules, rule.fromState = intent.status → rule.trigger = trigger →
      ∀ attempt, before.HasAttempt attempt → attempt.paymentIntentId ≠ intent.paymentIntentId) :
    Guarantees (Write service regime) (service.startProcessing moment intent trigger) before fun updated after =>
      Ready after updated 1 ∧ after.runner = before.runner ∧ updated.method = intent.method := by
  unfold startProcessing
  refine (obeys_advance_free coherent.owning free).bind fun updated middle _ advanced => ?_
  have ready := advanced.ready target unused
  have runner : middle.runner = before.runner := by
    obtain ⟨_, rfl⟩ := advanced.written
    rfl
  refine ((PortsOnly.emit ..).guarantees _).bind fun _ _ _ wrote => ?_
  obtain ⟨_, rfl⟩ := wrote
  exact guarantees_pure ⟨⟨ready.processing, ready.stored, ready.spent, ready.follows⟩, runner, advanced.method⟩

theorem obeys_failPreflight
    (free : trigger ∉ decidingTriggers) :
    Obeys service regime (service.failPreflight moment intent trigger) before := by
  unfold failPreflight
  exact obeys_advance_only coherent.owning free fun _ => .emit ..

theorem obeys_preflighted : Guarantees (Write service regime) (service.preflighted moment intentId preflight) before
      fun passed after => ∀ given, passed = some given → Begins before intentId given after := by
  have early : ∀ rule ∈ intentRules, rule.trigger = .confirm → rule.fromState ∈ undispatched := by decide
  unfold preflighted confirming
  refine (obeys_requireIntent coherent.owning).bind fun intent start _ found => ?_
  obtain ⟨rfl, stored, same⟩ := found
  refine guarantees_raiseIf_bind fun _ => ?_
  refine requirePspLicense.first coherent fun _ _ coherent => ?_
  refine (obeys_advance_free coherent.owning (by decide)).bind fun advanced middle steps moved => ?_
  have coherentNow := coherent.writes steps
  obtain ⟨rule, listed, source, asked, -⟩ := moved.rule
  have unused : ∀ attempt, middle.HasAttempt attempt → attempt.paymentIntentId ≠ advanced.paymentIntentId := by
    intro attempt attemptStored owner
    obtain ⟨_, rfl⟩ := moved.written
    exact coherent.owning.unused stored (source ▸ early rule listed asked) attemptStored (owner.trans moved.same)
  have runner : middle.runner = start.runner := by
    obtain ⟨_, rfl⟩ := moved.written
    rfl
  have refuses : ∀ {trigger : IntentTrigger} {error : KernelError}, trigger ∉ decidingTriggers →
      Guarantees (Write service regime) (do
        auditTransition advanced (some intent.status) advanced.status
        service.failPreflight moment advanced trigger
        throw error) middle fun passed after =>
          ∀ given, passed = some given → Begins start intentId given after := by
    intro trigger error free
    refine ((PortsOnly.audit _).guarantees _).bind fun _ _ steps _ => ?_
    refine (obeys_failPreflight (coherentNow.writes steps) free).bind fun _ _ _ _ => ?_
    exact guarantees_throw
  cases preflight with
  | raised => exact guarantees_throw
  | passed =>
    refine ((PortsOnly.audit _).guarantees _).bind fun _ _ steps wrote => ?_
    obtain ⟨_, rfl⟩ := wrote
    rw [map_eq_pure_bind]
    refine (obeys_startProcessing (coherentNow.writes steps) (by decide) (by decide)
      fun _ _ _ _ => unused).bind fun updated _ _ began => ?_
    obtain ⟨ready, sameRunner, method⟩ := began
    refine guarantees_pure fun given found => ?_
    cases found
    exact ⟨ready, sameRunner.trans runner, intent, stored, same, method.trans moved.method⟩
  | actionRequired =>
    refine ((PortsOnly.audit _).guarantees _).bind fun _ _ steps _ => ?_
    refine (obeys_advance_free (coherentNow.writes steps).owning (by decide)).bind fun _ _ _ _ => ?_
    refine guarantees_pure fun given found => ?_
    cases found
  | limitExceeded | sanctionsHit | amlBlock => exact refuses (by decide)

theorem obeys_actionCompleted :
    Guarantees (Write service regime) (service.actionCompleted moment intentId success) before
      fun passed after => ∀ given, passed = some given → Begins before intentId given after := by
  have early : ∀ rule ∈ intentRules, rule.trigger = .actionCompleted → rule.fromState ∈ undispatched := by decide
  unfold actionCompleted
  refine (obeys_requireIntent coherent.owning).bind fun intent start _ found => ?_
  obtain ⟨rfl, stored, same⟩ := found
  split
  · refine requirePspLicense.first coherent fun _ _ coherent => ?_
    rw [map_eq_pure_bind]
    refine (obeys_startProcessing coherent (by decide) (by decide) ?_).bind fun _ _ _ began => ?_
    · intro rule listed source asked attempt attemptStored
      exact coherent.owning.unused stored (source ▸ early rule listed asked) attemptStored
    · obtain ⟨ready, sameRunner, method⟩ := began
      refine guarantees_pure fun given found => ?_
      cases found
      exact ⟨ready, sameRunner, intent, stored, same, method⟩
  · refine (obeys_advance_free coherent.owning (by decide)).bind fun _ _ _ _ => ?_
    refine ((PortsOnly.emit ..).guarantees _).bind fun _ _ _ _ => ?_
    refine guarantees_pure fun given found => ?_
    cases found

end

theorem obeys_begin
    (coherent : Coherent after) (begins : ∀ given, passed = some given → Begins before intentId given after)
    (admitted : regime.closedCircuit → ∀ stored, before.HasIntent stored → stored.paymentIntentId = intentId →
      SubmitAdmitted service moment before.runner stored.method) : Obeys service regime (match passed with
      | none => pure .done
      | some intent => service.dispatch moment maxAttemptsPerIntent intent 1) after := by
  cases passed with
  | none => exact guarantees_pure trivial
  | some intent =>
    obtain ⟨ready, runner, stored, isStored, same, method⟩ := begins intent rfl
    refine obeys_dispatch coherent ready fun closed _ => ?_
    rw [runner, method]
    exact admitted closed stored isStored same

end Starting

/-! Steps -/

/-- What a regime asks of a step, before it is taken. -/
def Meets (service : PaymentOrchestrator) (regime : Regime) (system : PaymentSystem) (step : Step) : Prop :=
  match step.event with
  | .confirm paymentIntentId _ | .completeAction paymentIntentId _ =>
    regime.closedCircuit → ∀ intent, system.HasIntent intent → intent.paymentIntentId = paymentIntentId →
      SubmitAdmitted service step.moment system.runner intent.method
  | .poll attemptId =>
    ∀ attempt, system.HasAttempt attempt → attempt.attemptId = attemptId →
      PollAdmitted service regime step.moment system.runner attempt
  | .executeReversal paymentIntentId _ =>
    ∀ attempt, (system.store.listAttempts paymentIntentId).getLast? = some attempt →
      ReversalAdmitted service regime step.moment system.runner attempt
  | .callback _ result => regime.railPolls → result.status ≠ .timedOut
  | .answer index outcome =>
    match system.calls[index]? with
    | some (.submit ..) => regime.certainSubmits → outcome.ambiguous = false
    | some (.poll ..) => regime.railPolls → outcome.isVerdict = true
    | _ => True
  | _ => True

variable {index : Nat}

/-- A verdict of the rail meets every regime. -/
theorem meets_answer (certain : outcome.ambiguous = false) (verdict : outcome.isVerdict = true) :
    Meets service regime system ⟨moment, .answer index outcome⟩ := by
  unfold Meets
  simp only
  split
  · exact fun _ => certain
  · exact fun _ => verdict
  · trivial

section Steps

variable {regime : Regime} {moment : Moment}

variable (coherent : Coherent before) {call : Call} {step : Step}
include coherent

theorem obeys_takeCall : Guarantees (Write service regime) (takeCall index) before fun taken after =>
      taken = before.calls[index]? ∧ ∀ call, taken = some call → call.Coherent after := by
  unfold takeCall
  refine guarantees_get_bind ?_
  cases found : before.calls[index]? with
  | none =>
    refine guarantees_pure ⟨rfl, fun call some => ?_⟩
    cases some
  | some call =>
    have resumed : Write service regime before { before with calls := before.calls.eraseIdx index } := .resumed index
    refine guarantees_of_ok rfl (.single resumed) ⟨rfl, fun taken same => ?_⟩
    cases same
    exact resumed.extends.call (coherent.calls call (List.mem_of_getElem? found))

theorem obeys_resume (asked : call.Coherent before)
    (meets : match call with
      | .submit .. => regime.certainSubmits → outcome.ambiguous = false
      | .poll .. => regime.railPolls → outcome.isVerdict = true
      | _ => True) : Obeys service regime (service.resume moment outcome call) before := by
  cases call with
  | submit intent attempt instruction =>
    have taken : Snapshots before intent attempt instruction := asked
    unfold resume
    exact obeys_submitAnswered coherent taken meets
  | backoff =>
    exact .done (obeys_suspend asked)
  | poll =>
    obtain ⟨attempt, stored, sameId, ref⟩ := asked
    refine obeys_railAnswered coherent (by exact meets)
      fun result _ status coherent => obeys_applyStatusPollResult coherent ?_
    intro other otherStored otherId
    obtain rfl := otherStored.unique stored (otherId.trans sameId.symm)
    exact told_now ⟨rfl, ref.symm, status.symm⟩
  | reversal =>
    obtain ⟨attempt, stored, owner, ref⟩ := asked
    exact obeys_railAnswered coherent (by trivial) fun _ _ status coherent =>
      obeys_applyReversalResult coherent ⟨attempt, stored, owner, told_now ⟨rfl, ref.symm, status.symm⟩⟩
  | refund => exact obeys_railAnswered coherent (by trivial) fun _ _ _ coherent => obeys_applyRefundResult coherent

theorem obeys_awaken (asked : call.Coherent before) : Obeys service regime (service.awaken moment call) before := by
  cases call with
  | backoff intent attempt instruction =>
    have taken : Snapshots before intent attempt instruction := asked.1
    unfold awaken
    exact obeys_submitRetried coherent taken asked.2
  | submit | poll | reversal | refund =>
    exact .done (obeys_suspend asked)

/-- Every step is a sequence of the listed writes. -/
theorem obeys_perform (meets : Meets service regime before step) :
    Obeys service regime (service.perform step) before := by
  obtain ⟨moment, event⟩ := step
  unfold perform
  cases event with
  | createIntent =>
    exact .done obeys_createIntent
  | supplyMethod =>
    exact .done (obeys_supplyMethod coherent)
  | confirm =>
    exact (obeys_preflighted coherent).bind fun _ _ steps begins =>
      obeys_begin (coherent.writes steps) begins meets
  | completeAction =>
    exact (obeys_actionCompleted coherent).bind fun _ _ steps begins =>
      obeys_begin (coherent.writes steps) begins meets
  | cancel => exact .done (obeys_cancel coherent)
  | capture => exact .done (obeys_capture coherent)
  | poll => exact obeys_pollTimedOutAttempt coherent meets
  | callback => exact obeys_applyInboundConnectorResult coherent meets
  | executeReversal => exact obeys_executeReversal coherent meets
  | sweep => exact .done (obeys_sweepExpiredIntents coherent)
  | confirmDelivery =>
    exact .done (obeys_confirmDelivery coherent)
  | createRefund => exact .done (obeys_createRefund coherent)
  | processRefund => exact (obeys_processRefund coherent).weaken fun _ _ _ _ => trivial
  | answer =>
    refine (obeys_takeCall coherent).bind fun taken _ steps found => ?_
    obtain ⟨isTaken, coherentCall⟩ := found
    cases taken with
    | none => exact guarantees_pure trivial
    | some call =>
      refine obeys_resume (coherent.writes steps) (coherentCall call rfl) ?_
      simp only [Meets, ← isTaken] at meets
      cases call <;> exact meets
  | wake =>
    refine (obeys_takeCall coherent).bind fun taken _ steps found => ?_
    cases taken with
    | none => exact guarantees_pure trivial
    | some call => exact obeys_awaken (coherent.writes steps) (found.2 call rfl)
  | reconfigure =>
    exact guarantees_of_ok rfl (.single (.runner _)) trivial

theorem writes_after (meets : Meets service regime before step) :
    Relation.ReflTransGen (Write service regime) before (service.after step before) := by
  have performed := obeys_perform coherent meets
  unfold after
  cases ran : service.perform step before with
  | ok => exact (performed.returned ran).1
  | error => exact performed.raised ran

end Steps

/-! Runs -/

/-- Every step of the run meets the regime, in the state it is taken in. -/
def Compliant (service : PaymentOrchestrator) (regime : Regime) : PaymentSystem → List Step → Prop
  | _, [] => True
  | system, step :: rest => Meets service regime system step ∧ Compliant service regime (service.after step system) rest

section Runs

variable {regime : Regime} {runner : ConnectorRunner}

theorem writes_run (coherent : Coherent system) (compliant : Compliant service regime system steps) :
    Relation.ReflTransGen (Write service regime) system (service.run system steps) := by
  induction steps generalizing system with
  | nil => exact .refl
  | cons _ _ ih =>
    have first := writes_after coherent compliant.1
    exact first.trans (ih (coherent.writes first) compliant.2)

theorem coherent_run (compliant : Compliant service regime (start runner) steps) :
    Coherent (service.run (start runner) steps) :=
  (coherent_start runner).writes (writes_run (coherent_start runner) compliant)

theorem lawful_start (runner : ConnectorRunner) : Lawful regime (start runner) :=
  fun _ member => absurd member List.not_mem_nil

theorem lawful_run (compliant : Compliant service regime (start runner) steps) :
    Lawful regime (service.run (start runner) steps) :=
  (lawful_start runner).writes (coherent_start runner) (writes_run (coherent_start runner) compliant)

theorem compliant_free : Compliant service {} system steps := by
  induction steps generalizing system with
  | nil => trivial
  | cons step _ ih =>
    refine ⟨?_, ih⟩
    obtain ⟨moment, event⟩ := step
    cases event with
    | answer =>
      simp only [Meets]
      split <;> simp
    | poll => exact fun _ _ _ _ _ _ _ => ⟨rfl, fun closed => absurd closed (by simp)⟩
    | executeReversal => exact fun _ _ _ _ closed => absurd closed (by simp)
    | confirm | completeAction | callback => exact fun asked => absurd asked (by simp)
    | _ => trivial

/-- At most one attempt of an intent has not failed. -/
def SingleFile (system : PaymentSystem) : Prop :=
  ∀ first second, system.HasAttempt first → system.HasAttempt second → first.paymentIntentId = second.paymentIntentId →
    first.status ≠ .authorizationFailed → second.status ≠ .authorizationFailed → first = second

theorem run_singleFile (service : PaymentOrchestrator) (runner : ConnectorRunner) (steps : List Step) :
    SingleFile (service.run (start runner) steps) := by
  have numbering := (coherent_run (@compliant_free service (start runner) steps)).numbering
  intro first second inFirst inSecond owner live alive
  rcases Nat.lt_trichotomy first.attemptNumber second.attemptNumber with less | equal | more
  · exact absurd (numbering.passed inFirst inSecond owner less).1 live
  · exact inFirst.unique inSecond (numbering.numbers inFirst inSecond owner equal)
  · exact absurd (numbering.passed inSecond inFirst owner.symm more).1 alive

end Runs

end BdPay.Kernel
