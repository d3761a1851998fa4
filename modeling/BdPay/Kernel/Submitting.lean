import BdPay.Connectors.Calls
import BdPay.Kernel.Operations

namespace BdPay.Kernel

open Data Effect Connectors PaymentSystem PaymentOrchestrator PaymentStore

/-! Dispatches: the attempts they open, and the answers of submits. -/

section Primitives

theorem obeys_onRunner : Guarantees (Write service regime) (onRunner program) before fun value after =>
      ∃ runner, program before.runner = .ok value runner ∧ after = { before with runner } := by
  cases ran : program before.runner with
  | error reason runner =>
    have raised : onRunner program before = .error (.runner reason) { before with runner } := by
      simp only [onRunner, zoom, ran]
    exact guarantees_of_error raised (.single (.runner runner))
  | ok value runner =>
    have returned : onRunner program before = .ok value { before with runner } := by
      simp only [onRunner, zoom, ran]
    exact guarantees_of_ok returned (.single (.runner runner)) ⟨runner, rfl, rfl⟩

theorem obeys_observe (allowed : regime.Allows before observation) (sound : observation.Sound before) :
    Guarantees (Write service regime) (observe observation) before fun _ after =>
      after = { before with history := before.history ++ [observation] } :=
  guarantees_of_ok rfl (.single (.observed allowed sound)) rfl

theorem obeys_suspend (coherent : call.Coherent before) :
    Guarantees (Write service regime) (suspend call) before fun _ after =>
      after = { before with calls := before.calls ++ [call] } :=
  guarantees_of_ok rfl (.single (.suspended coherent)) rfl

variable {attempt : PaymentAttemptRecord}

theorem told_now {before : PaymentSystem} {observation : Observation}
    (tells : observation.Tells purpose attempt status) :
    ({ before with history := before.history ++ [observation] } : PaymentSystem).Told purpose attempt status :=
  ⟨observation, by simp, tells⟩

end Primitives

/-! Opening an attempt -/

section Opening

theorem PaymentStore.insertAttempt_ok {store next : PaymentStore}
    (inserted : store.insertAttempt record = .ok next) :
    store.attempts.get? record.attemptId = none ∧
      (∀ other ∈ store.attempts.values, other.connectorRef ≠ record.connectorRef) ∧
      ((store.intents.get? record.paymentIntentId = none ∧
          next = { store with attempts := store.attempts.set record.attemptId record }) ∨
        ∃ intent, store.intents.get? record.paymentIntentId = some intent ∧
          next = { store with
            attempts := store.attempts.set record.attemptId record
            intents := store.intents.set record.paymentIntentId
              { intent with latestAttemptId := some record.attemptId } }) := by
  unfold insertAttempt at inserted
  split at inserted
  · cases inserted
  · rename_i absent
    split at inserted
    · cases inserted
    · rename_i unused
      refine ⟨Dict.contains_eq_false_iff.mp (by simpa using absent), by simpa using unused, ?_⟩
      split at inserted
      · rename_i missing
        cases inserted
        exact .inl ⟨missing, rfl⟩
      · rename_i intent found
        cases inserted
        exact .inr ⟨intent, found, rfl⟩

variable {number : Nat}

/-- A new attempt goes into the store, and its intent points at it. -/
theorem obeys_insertAttempt (ready : Ready before intent number)
    (owner : record.paymentIntentId = intent.paymentIntentId) (numbered : record.attemptNumber = number)
    (started : record.status = .started) (unpolled : record.pollCount = 0) (minted : service.makeKernelId "cref"
      [("attempt_id", .str record.attemptId), ("connector_id", .str record.connectorId)] = .ok record.connectorRef) :
    Guarantees (Write service regime) (writeStore (·.insertAttempt record)) before fun _ after =>
      (∀ other, before.HasAttempt other → other.connectorRef ≠ record.connectorRef) ∧ after.HasAttempt record ∧
        after.runner = before.runner ∧ after.history = before.history := by
  obtain ⟨current, currentStored, currentOwner, processing⟩ := ready.stored
  have located : ∀ store, before.store.insertAttempt record = .ok store → Opens service before record ∧
      ({ before with store } : PaymentSystem) = (before.putAttempt record).putIntent
        { current with latestAttemptId := some record.attemptId } := by
    intro store inserted
    obtain ⟨freshId, freshRef, written⟩ := insertAttempt_ok inserted
    have owned : current.paymentIntentId = record.paymentIntentId := currentOwner.trans owner.symm
    refine ⟨⟨freshId, ?_, started, unpolled, ⟨current, currentStored, owned, processing⟩, ?_, ?_, minted⟩, ?_⟩
    · exact fun other stored => freshRef other (Dict.mem_values_of_get? stored)
    · intro other stored otherOwner
      rw [numbered]
      exact ready.spent other stored (otherOwner.trans owner)
    · rw [numbered]
      refine ready.follows.imp_right fun earlier => ?_
      obtain ⟨other, stored, otherOwner⟩ := earlier
      exact ⟨other, stored, otherOwner.trans owner.symm⟩
    · have found : before.store.intents.get? record.paymentIntentId = some current := owned ▸ currentStored
      rcases written with ⟨missing, -⟩ | ⟨found', located, rfl⟩
      · rw [found] at missing
        cases missing
      · rw [found] at located
        cases located
        rw [← owned]
        rfl
  refine (obeys_writeStore ?_).weaken ?_
  · intro store inserted
    obtain ⟨opens, written⟩ := located store inserted
    rw [written]
    have opened : Write service regime before (before.putAttempt record) := .store (.attemptOpened opens)
    have pointed : Write service regime (before.putAttempt record)
        ((before.putAttempt record).putIntent { current with latestAttemptId := some record.attemptId }) :=
      .store (.intentMoved currentStored (.of_status_eq rfl rfl))
    exact .tail (.single opened) pointed
  · intro _ after _ wrote
    obtain ⟨store, inserted, rfl⟩ := wrote
    obtain ⟨opens, written⟩ := located store inserted
    rw [written]
    exact ⟨opens.freshRef, hasAttempt_putAttempt.mpr (.inl rfl), rfl, rfl⟩

theorem attemptRules_submitted :
    ∀ rule ∈ attemptRules, rule.trigger = .submitted → rule.toState ≠ .authorizationFailed := by
  decide

/-- What `_dispatch` hands to the runner is about an attempt whose reference nobody has seen. -/
structure Opened (runner : ConnectorRunner) (method : PaymentMethod) (number : Nat)
    (prepared : PaymentOrchestrator.Prepared) (after : PaymentSystem) : Prop where
  taken : Snapshots after prepared.intent prepared.attempt prepared.instruction
  numbered : prepared.attempt.attemptNumber = number
  unseen : ¬ after.Handed prepared.instruction.connectorRef ∧ ¬ after.Refused prepared.instruction.connectorRef
  routed : selectConnector runner method = .ok (.connector prepared.instruction.rail)
  runner : after.runner = runner

theorem obeys_openAttempt (coherent : Coherent before) (ready : Ready before intent number)
    (routed : selectConnector before.runner method = .ok (.connector connectorId)) :
    Guarantees (Write service regime) (service.openAttempt moment intent number connectorId) before
      (Opened before.runner method number) := by
  unfold openAttempt
  refine guarantees_attempt_bind fun attemptId _ => ?_
  refine guarantees_attempt_bind fun connectorRef minted => ?_
  refine guarantees_attempt_bind fun instructionId _ => ?_
  split
  · rename_i numbered
    refine .bind (obeys_insertAttempt ready rfl rfl rfl rfl minted)
      fun _ middle steps wrote => ?_
    obtain ⟨fresh, stored, runner, history⟩ := wrote
    have coherentMiddle := coherent.writes steps
    refine .bind (obeys_advanceAttempt_free coherentMiddle.numbering (by decide) (.inl (by decide))
      (continues_of_hasAttempt stored rfl id)) fun submitted last steps advanced => ?_
    refine guarantees_pure ?_
    -- An attempt would have had the reference, had it been seen before.
    have unknown : ¬ (before.Handed connectorRef ∨ before.Refused connectorRef) := by
      intro seen
      obtain ⟨other, otherStored, same⟩ := coherent.handling.known seen
      exact fresh other otherStored same
    have kept : last.history = before.history := by
      obtain ⟨ports, rfl⟩ := advanced.written
      exact history
    obtain ⟨sameId, sameOwner, sameNumber, sameRef⟩ := identity_eq advanced.same
    constructor
    case taken =>
      have unpolled : submitted.pollCount = 0 := advanced.polls
      obtain ⟨rule, listed, -, asked, target⟩ := advanced.rule
      exact ⟨⟨⟨submitted, advanced.hasAttempt, rfl⟩, sameOwner.symm, by rw [unpolled]; decide,
        target ▸ attemptRules_submitted rule listed asked⟩, sameRef.symm⟩
    case numbered => exact sameNumber
    case unseen =>
      constructor
      · intro handed
        unfold Handed at handed
        rw [kept] at handed
        exact unknown (.inl handed)
      · intro refused
        unfold Refused at refused
        rw [kept] at refused
        exact unknown (.inr refused)
    case routed => exact routed
    case runner =>
      obtain ⟨ports, rfl⟩ := advanced.written
      exact runner
  · exact guarantees_throw

theorem Ready.intentWritten (ready : Ready before intent number)
    (same : updated.paymentIntentId = intent.paymentIntentId) (status : updated.status = intent.status) :
    Ready (before.putIntent updated) updated number := by
  have processing := status.trans ready.processing
  constructor
  case processing => exact processing
  case stored => exact ⟨updated, hasIntent_putIntent.mpr (.inl rfl), rfl, processing⟩
  case spent => exact fun other stored owner => ready.spent other stored (owner.trans same)
  case follows =>
    refine ready.follows.imp_right fun earlier => ?_
    obtain ⟨other, stored, owner⟩ := earlier
    exact ⟨other, stored, owner.trans same.symm⟩

theorem obeys_clearDeferral (coherent : Coherent before) (ready : Ready before intent number) :
    Guarantees (Write service regime) (clearDeferral moment intent) before fun cleared after =>
      Ready after cleared number ∧ after.runner = before.runner := by
  unfold clearDeferral
  split
  · refine .bind (obeys_updateIntent coherent.owning ?_) fun _ _ _ wrote => ?_
    · exact fun old _ same status => .of_status_eq same.symm status.symm
    · obtain ⟨_, rfl⟩ := wrote
      exact guarantees_pure ⟨ready.intentWritten rfl rfl, rfl⟩
  · exact guarantees_pure ⟨ready, rfl⟩

theorem obeys_deferIntent (coherent : Coherent before) :
    Obeys service regime (service.deferIntent moment intent) before := by
  unfold deferIntent
  refine .bind (obeys_updateIntent coherent.owning ?_) fun _ _ _ _ => ?_
  · exact fun old _ same status => .of_status_eq same.symm status.symm
  · exact (PortsOnly.emit ..).any

theorem obeys_prepare (coherent : Coherent before) (ready : Ready before intent number) :
    Guarantees (Write service regime) (service.prepare moment intent number) before fun prepared after =>
      ∀ given, prepared = some given → Opened before.runner intent.method number given after := by
  unfold prepare
  refine .bind (PortsOnly.requirePspLicense.guarantees _) fun _ _ steps wrote => ?_
  obtain ⟨ports, rfl⟩ := wrote
  have coherent := coherent.writes steps
  refine guarantees_get_bind ?_
  refine guarantees_attempt_bind fun route routed => ?_
  cases route with
  | storeAndForward =>
    refine .bind (obeys_deferIntent coherent) fun _ _ _ _ => guarantees_pure ?_
    intro given found
    cases found
  | connector connectorId =>
    have ready : Ready { before with ports := ports } intent number :=
      ⟨ready.processing, ready.stored, ready.spent, ready.follows⟩
    refine .bind (obeys_clearDeferral coherent ready) fun cleared middle steps wrote => ?_
    obtain ⟨ready, runner⟩ := wrote
    have routed : selectConnector middle.runner intent.method = .ok (.connector connectorId) := runner ▸ routed
    refine .bind (obeys_openAttempt (coherent.writes steps) ready routed) fun prepared _ _ opened => ?_
    refine guarantees_pure ?_
    intro given found
    cases found
    rw [runner] at opened
    exact opened

end Opening

/-! Handing it over -/

section Handing

variable {service : PaymentOrchestrator} {regime : Regime} {moment : Moment} {prepared : PaymentOrchestrator.Prepared}
  {attempts : Int}

theorem obeys_submitSettled (coherent : Coherent before)
    (taken : Snapshots before prepared.intent prepared.attempt prepared.instruction)
    (told : before.Told .submit prepared.attempt result.status)
    (sleeps : ConnectorRunner.retries result attempts budget = true → before.SubmitFailed prepared.attempt.connectorRef)
    (redispatches : Resubmits service regime redispatch) :
    Obeys service regime (service.submitSettled moment redispatch prepared budget attempts result) before := by
  unfold submitSettled
  split
  · rename_i retries
    exact .done (obeys_suspend ⟨taken, sleeps retries⟩)
  · exact obeys_applyConnectorResult coherent taken.toHeld told redispatches

/-- The circumstances under which the breaker may refuse a submit. -/
def Refusable (service : PaymentOrchestrator) (regime : Regime) (moment : Moment) (runner : ConnectorRunner)
    (system : PaymentSystem) (prepared : PaymentOrchestrator.Prepared) : Prop :=
  regime.closedCircuit → (∃ registration, runner.registrations.get? prepared.instruction.rail = some registration ∧
    runner.refusal? (service.around moment) registration .submit = some .circuitOpen) →
      system.SubmitFailed prepared.instruction.connectorRef ∨ prepared.attempt.attemptNumber ≠ 1

section

variable (coherent : Coherent before) (taken : Snapshots before prepared.intent prepared.attempt prepared.instruction)
  {runner : ConnectorRunner}
include coherent taken

theorem obeys_submitRefused
    (clear : before.Handed prepared.instruction.connectorRef → before.SubmitFailed prepared.instruction.connectorRef)
    (refusable : Refusable service regime moment runner before prepared)
    (refused : ∃ registration, runner.registrations.get? prepared.instruction.rail = some registration ∧
      runner.refusal? (service.around moment) registration .submit = some refusal) :
    Guarantees (Write service regime) (observe (.refused .submit prepared.instruction.connectorRef refusal)) before
      fun _ after => after =
        { before with history := before.history ++ [.refused .submit prepared.instruction.connectorRef refusal] } := by
  obtain ⟨current, stored, identity⟩ := taken.stored
  obtain ⟨-, -, number, ref⟩ := identity_eq identity
  have sameRef : current.connectorRef = prepared.instruction.connectorRef := ref.trans taken.reference.symm
  refine obeys_observe ?_ ⟨⟨current, stored, sameRef⟩, clear⟩
  intro closed isOpen
  subst isOpen
  refine (refusable closed refused).imp_right fun later attempt attemptStored attemptRef => ?_
  have same := attemptStored.unique stored
    (coherent.numbering.refs attemptStored stored (attemptRef.trans sameRef.symm))
  rw [same, number]
  exact later

theorem obeys_submitBegun
    (clear : before.Handed prepared.instruction.connectorRef ∨ before.Refused prepared.instruction.connectorRef →
      before.SubmitFailed prepared.instruction.connectorRef)
    (fits : begun.Fits (service.around moment) runner prepared.instruction.rail)
    (refusable : Refusable service regime moment runner before prepared)
    (redispatches : Resubmits service regime redispatch) :
    Obeys service regime (service.submitBegun moment redispatch prepared budget attempts begun) before := by
  cases begun with
  | replayed result =>
    have alive : result.status ≠ .failed := by
      intro failed
      simp only [ConnectorRunner.Begun.Fits, failed] at fits
      cases fits
    refine .bind (obeys_observe alive trivial) fun _ middle steps observed => ?_
    have coherent := coherent.writes steps
    have taken := (extends_of_writes steps).snapshots taken
    subst observed
    refine obeys_submitSettled coherent taken (told_now ⟨rfl, taken.reference, rfl⟩) ?_ redispatches
    exact fun retries => absurd (ConnectorRunner.retries_failed retries).1 alive
  | admission given =>
    cases given with
    | refused refusal =>
      obtain ⟨refused, failed, code⟩ := fits
      refine .bind (obeys_submitRefused coherent taken (fun handed => clear (.inl handed)) refusable
        refused) fun _ middle steps observed => ?_
      have coherent := coherent.writes steps
      have taken := (extends_of_writes steps).snapshots taken
      subst observed
      refine obeys_submitSettled coherent taken (told_now ⟨rfl, taken.reference, failed⟩) ?_ redispatches
      intro retries
      have transport := (ConnectorRunner.retries_failed retries).2
      rw [code] at transport
      exact absurd (Option.some.inj transport) refusal.code_ne_transport
    | invoked =>
      obtain ⟨current, stored, identity⟩ := taken.stored
      have sameRef : current.connectorRef = prepared.instruction.connectorRef :=
        (identity_eq identity).2.2.2.trans taken.reference.symm
      refine .bind (obeys_observe trivial
        ⟨⟨current, stored, sameRef⟩, fun refused => clear (.inr refused)⟩) fun _ middle steps observed => ?_
      exact .done (obeys_suspend ((extends_of_writes steps).snapshots taken))

end

/-- The breaker lets a submit through the connector that a method is routed to. -/
def SubmitAdmitted (service : PaymentOrchestrator) (moment : Moment) (runner : ConnectorRunner)
    (method : PaymentMethod) : Prop :=
  ∀ connectorId registration, selectConnector runner method = .ok (.connector connectorId) →
    runner.registrations.get? connectorId = some registration →
      runner.refusal? (service.around moment) registration .submit ≠ some .circuitOpen

/-- A dispatch opens an attempt, or goes on through the ones that are left. -/
theorem obeys_dispatch (coherent : Coherent before) (ready : Ready before intent number)
    (admitted : regime.closedCircuit → number = 1 → SubmitAdmitted service moment before.runner intent.method) :
    Obeys service regime (service.dispatch moment left intent number) before := by
  induction left generalizing before intent number with
  | zero => exact guarantees_throw
  | succ _ ih =>
    unfold dispatch
    refine .bind (obeys_prepare coherent ready) fun prepared middle steps opened => ?_
    have coherent := coherent.writes steps
    cases prepared with
    | none => exact guarantees_pure trivial
    | some prepared =>
      have opened := opened prepared rfl
      refine .bind obeys_onRunner fun submitted last steps ran => ?_
      obtain ⟨budget, begun⟩ := submitted
      obtain ⟨runner, ran, rfl⟩ := ran
      have fits := ConnectorRunner.submit_fits ran
      refine obeys_submitBegun (coherent.writes steps) ((extends_of_writes steps).snapshots opened.taken)
        ?_ fits ?_ ?_
      · exact fun seen => absurd seen (not_or.mpr opened.unseen)
      · intro closed refused
        by_cases first : number = 1
        · obtain ⟨registration, registered, isOpen⟩ := refused
          rw [opened.runner] at registered isOpen
          exact absurd isOpen (admitted closed first _ registration opened.routed registered)
        · exact .inr (opened.numbered ▸ first)
      · exact fun middle next number coherent ready later =>
          ih coherent ready fun _ first => absurd first later

theorem obeys_redispatch {attempt : PaymentAttemptRecord} (middle : PaymentSystem) (next : PaymentIntentRecord)
    (number : Nat) (coherent : Coherent middle) (ready : Ready middle next number) (later : number ≠ 1) :
    Obeys service regime (service.redispatchAfter moment attempt next number) middle :=
  obeys_dispatch coherent ready fun _ first => absurd first later

variable (coherent : Coherent before) (taken : Snapshots before prepared.intent prepared.attempt prepared.instruction)
include coherent taken

/-- An adapter came back from a submit. -/
theorem obeys_submitAnswered (certain : regime.certainSubmits → outcome.ambiguous = false) :
    Obeys service regime (service.submitAnswered moment prepared registration budget attempts outcome) before := by
  unfold submitAnswered
  refine .bind (obeys_observe certain trivial) fun _ middle steps observed => ?_
  have coherent := coherent.writes steps
  have taken := (extends_of_writes steps).snapshots taken
  subst observed
  refine .bind obeys_onRunner fun result last steps ran => ?_
  obtain ⟨runner, ran, rfl⟩ := ran
  have status := ConnectorRunner.dispatched_ok ran
  have coherent := coherent.writes steps
  have taken := (extends_of_writes steps).snapshots taken
  refine obeys_submitSettled coherent taken (told_now ⟨rfl, taken.reference, status.symm⟩) ?_
    obeys_redispatch
  intro retries
  have failed := (ConnectorRunner.retries_failed retries).1
  exact ⟨outcome, by simp [taken.reference], status.symm.trans failed⟩

theorem obeys_submitRetried (failed : before.SubmitFailed prepared.attempt.connectorRef) :
    Obeys service regime (service.submitRetried moment prepared budget attempts) before := by
  unfold submitRetried
  refine .bind obeys_onRunner fun begun middle steps ran => ?_
  obtain ⟨runner, ran, rfl⟩ := ran
  have failed : before.SubmitFailed prepared.instruction.connectorRef := taken.reference ▸ failed
  refine obeys_submitBegun (coherent.writes steps) ((extends_of_writes steps).snapshots taken) (fun _ => failed)
    (ConnectorRunner.dispatch_fits ran) (fun _ _ => .inl failed) obeys_redispatch

end Handing

end BdPay.Kernel
