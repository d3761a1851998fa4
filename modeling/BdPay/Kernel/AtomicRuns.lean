import BdPay.Kernel.Returning

namespace BdPay.Kernel

open Data Effect Connectors PaymentSystem PaymentOrchestrator Books Goes ConnectorRunner

/-! Runs of atomic operations: every step is a sequence of deeds, within what it is licensed to do. -/

namespace Step

variable (service : PaymentOrchestrator) (step : Step) (system : PaymentSystem)

/-- A success arrives for a timed-out attempt of an intent that is captured by hand. -/
def LateSuccess : Prop :=
  match step.event with
  | .callback connectorId result => result.status = .success ∧ ∃ attempt,
      system.store.findAttemptByConnectorRef connectorId result.connectorRef = some attempt ∧
        LateFor system.books attempt.attemptId
  | .answer index outcome => outcome.status = .success ∧ ∃ attemptId registration connectorRef,
      system.calls[index]? = some (.poll attemptId registration connectorRef) ∧ LateFor system.books attemptId
  | _ => False

/-- A reversal is refused by the runner, or answered with anything but a success, while the hold is open. -/
def StuckReversal : Prop :=
  match step.event with
  | .executeReversal paymentIntentId _ => paymentIntentId ∈ system.ports.openHolds ∧ ∃ attempt registration refusal,
      system.books.latest paymentIntentId = some attempt ∧
      system.runner.registrations.get? attempt.connectorId = some registration ∧
      system.runner.refusal? (service.around step.moment) registration .reverse = some refusal
  | .answer index outcome => outcome.status ≠ .reversed ∧ outcome.status ≠ .success ∧
      ∃ paymentIntentId registration connectorRef,
        system.calls[index]? = some (.reversal paymentIntentId registration connectorRef) ∧
          paymentIntentId ∈ system.ports.openHolds
  | _ => False

/-- The sweep finds an intent in PROCESSING that has no attempt. -/
def OrphanSweep : Prop :=
  match step.event with
  | .sweep => ∃ intent ∈ system.store.listExpiredIntents step.moment.now, intent.status = .processing ∧
      ¬ system.books.Sent intent.paymentIntentId
  | _ => False

/-- What a step may do, from what it is and the state it starts in. -/
def licence : Licence where
  late := step.LateSuccess system
  stuck := step.StuckReversal service system
  orphan := step.OrphanSweep system
  capture paymentIntentId := ∃ amountMinor, step.event = .capture paymentIntentId amountMinor

end Step

/-! One step -/

section

variable {licence : Licence} {moment : Moment} {before : PaymentSystem} {call : Call}

/-- The adapter is called, and the coroutine waits for its answer. -/
theorem Goes.invoked (there : Goes service licence before middle)
    (fresh : ∀ books, call.Fresh books) :
    Yields (do observe observation; suspend call; pure Progress.suspended) middle fun _ => Goes service licence before := by
  refine yields_bind.mpr (yields_observe fun third seen idle => yields_bind.mpr ?_)
  have here : Goes service licence before third := there.trans (.idle seen idle)
  exact yields_suspend fun after last calls => yields_pure.mpr (here.suspended last calls (fresh _))

theorem yields_pollTimedOutAttempt (ordered : before.books.Ordered) :
    Proceeds service licence (service.pollTimedOutAttempt moment attemptId) before := by
  simp only [pollTimedOutAttempt, yields_bind, yields_requireAttempt, yields_requireIntent]
  intro attempt tried intent stored
  refine yields_onRunner fun admission runner first called same kept => ?_
  have there : Goes service licence before first := idle same kept
  cases admission with
  | refused _ result =>
    have failed : result.status = .failed := (call_fits called).2.1
    refine yields_bind.mpr (yields_observe fun second seen idle => yields_bind.mpr ?_)
    rw [← same, ← seen] at ordered
    have here : Goes service licence before second := there.trans (.idle seen idle)
    refine (here.follow (yields_applyStatusPollResult ordered fun success _ => ?_)).then_pure
    rw [failed] at success
    cases success
  | invoked => exact there.invoked fun _ => trivial

theorem yields_advanceIntent_runner :
    Yields (advanceIntent moment intent trigger) before fun _ after => after.runner = before.runner := by
  simp only [advanceIntent, auditUnless, auditTransition,
    audit, writeStore, writePorts, yields_bind, yields_attempt, yields_get, yields_set, yields_ite,
    yields_modify, yields_pure]
  exact fun _ _ _ _ => ⟨fun _ => trivial, fun _ => trivial⟩

theorem yields_claimReversalDispatch_runner : Yields (claimReversalDispatch moment intentId) before fun _ after =>
      after.runner = before.runner := by
  simp only [claimReversalDispatch, yields_bind, yields_requireIntent]
  intro intent _
  rw [claimIntent]
  split
  case h_3 => exact yields_throw.mpr trivial
  case' h_2 =>
    simp only [yields_bind, yields_attempt, yields_raiseIf]
    intro _ _ _
  all_goals
    refine yields_advanceIntent_runner.mono fun _ middle same => ?_
    rw [yields_latestAttempt]
    cases middle.books.latest intentId with
    | none => exact yields_throw.mpr trivial
    | some => exact yields_pure.mpr same

section

variable (ordered : before.books.Ordered)

include ordered

theorem yields_executeReversal (stuck : ∀ attempt registration refusal, before.books.latest intentId = some attempt →
      before.runner.registrations.get? attempt.connectorId = some registration →
      before.runner.refusal? (service.around moment) registration .reverse = some refusal →
      intentId ∈ before.books.openHolds → licence.stuck) :
    Proceeds service licence (service.executeReversal moment intentId reason) before := by
  simp only [executeReversal, yields_bind]
  refine yields_requirePspLicense ?_
  have claim := @yields_claimReversalDispatch service licence moment before intentId ordered
  refine (claim.both yields_claimReversalDispatch_runner).mono fun attempt first claimed => ?_
  obtain ⟨⟨there, holds, latest⟩, sameRunner⟩ := claimed
  refine yields_onRunner fun admission runner second called same kept => ?_
  cases admission with
  | refused refusal =>
    obtain ⟨⟨registration, registered, refused⟩, failed, -⟩ := call_fits called
    refine yields_bind.mpr (yields_observe fun third seen idle => yields_bind.mpr ?_)
    have here : Goes service licence before third := there.trans ((Goes.idle same kept).trans (Goes.idle seen idle))
    refine (here.follow (yields_applyReversalResult (deeds_ordered ordered here.deeds) fun _ _ held => ?_)).then_pure
    rw [seen, same, holds] at held
    rw [sameRunner] at registered refused
    exact stuck attempt registration refusal latest registered refused held
  | invoked => exact (there.trans (idle same kept)).invoked fun _ => trivial

theorem yields_processRefund {refundId : String} :
    Proceeds service licence (service.processRefund moment refundId) before := by
  simp only [processRefund, yields_bind, yields_requireRefund, yields_requireIntent]
  refine yields_requirePspLicense fun refund stored intent _ => ?_
  have dispatched := @yields_dispatchRefund service licence moment before refund (ordered.hasRefund stored)
  refine dispatched.mono fun refund first there => ?_
  refine yields_onRunner fun admission runner second called same kept => ?_
  cases admission with
  | refused =>
    refine yields_bind.mpr (yields_observe fun third seen idle => yields_bind.mpr ?_)
    have here : Goes service licence before third := there.trans ((Goes.idle same kept).trans (Goes.idle seen idle))
    exact (here.follow (yields_applyRefundResult (deeds_ordered ordered here.deeds))).then_pure
  | invoked => exact (there.trans (idle same kept)).invoked fun _ => trivial

theorem yields_railAnswered {registration : ConnectorRegistration} {apply : ConnectorResult → KernelM Unit}
    (applied : ∀ result middle, result.status = outcome.status → middle.books = before.books → middle.books.Ordered →
      Proceeds service licence (apply result) middle) :
    Proceeds service licence (service.railAnswered moment purpose kind registration connectorRef outcome apply) before := by
  simp only [Proceeds, railAnswered, yields_bind]
  refine yields_observe fun first seen idle => yields_onRunner fun result _ second came same kept => ?_
  have there : Goes service licence before second := (Goes.idle seen idle).trans (Goes.idle same kept)
  have books := same.trans seen
  exact (there.follow (applied result second (called_ok came) books (books ▸ ordered))).then_pure

/-- A coroutine that an adapter answers. -/
theorem yields_resume (fresh : call.Fresh before.books)
    (late : ∀ attemptId registration connectorRef, call = .poll attemptId registration connectorRef →
      outcome.status = .success → LateFor before.books attemptId → licence.late)
    (stuck : ∀ intentId registration connectorRef, call = .reversal intentId registration connectorRef →
      outcome.status ≠ .reversed → outcome.status ≠ .success → intentId ∈ before.books.openHolds → licence.stuck) :
    Proceeds service licence (service.resume moment outcome call) before := by
  cases call with
  | submit intent attempt instruction =>
    exact @yields_submitAnswered service licence moment before ⟨intent, attempt, instruction⟩ ordered fresh _ _ _ _
  | backoff =>
    simp only [resume, yields_bind]
    exact yields_suspend fun after last calls => yields_pure.mpr ((idle rfl rfl).suspended last calls fresh)
  | poll attemptId registration connectorRef =>
    refine yields_railAnswered ordered fun result middle status same ordered => yields_applyStatusPollResult ordered ?_
    rw [status, same]
    exact late attemptId registration connectorRef rfl
  | reversal intentId registration connectorRef =>
    refine yields_railAnswered ordered fun result middle status same ordered => yields_applyReversalResult ordered ?_
    rw [status, same]
    exact stuck intentId registration connectorRef rfl
  | refund => exact yields_railAnswered ordered fun _ _ _ _ ordered => yields_applyRefundResult ordered

theorem yields_awaken (fresh : call.Fresh before.books) :
    Proceeds service licence (service.awaken moment call) before := by
  have sleeps : Proceeds service licence (do suspend call; pure Progress.suspended) before := by
    rw [Proceeds, yields_bind]
    exact yields_suspend fun after last calls => yields_pure.mpr ((idle rfl rfl).suspended last calls fresh)
  cases call with
  | backoff intent attempt instruction =>
    exact @yields_submitRetried service licence moment before ⟨intent, attempt, instruction⟩ ordered fresh _ _
  | submit | poll | reversal | refund => exact sleeps

end

/-- The call that is resumed is gone from the list. -/
theorem yields_takeCall (none : before.calls[index]? = none → Proceeds service licence (rest none) before)
    (taken : ∀ call middle, before.calls[index]? = some call → middle.books = before.books →
      (∀ other ∈ middle.calls, other ∈ before.calls) → Proceeds service licence (rest (some call)) middle) :
    Proceeds service licence (takeCall index >>= rest) before := by
  simp only [takeCall, yields_bind, yields_get]
  cases found : before.calls[index]? with
  | none => exact yields_pure.mpr (none found)
  | some call =>
    simp only [yields_bind, yields_set, yields_pure]
    have kept : ∀ other ∈ before.calls.eraseIdx index, other ∈ before.calls := fun other => List.mem_of_mem_eraseIdx
    have there : Goes service licence before { before with calls := before.calls.eraseIdx index } :=
      ⟨.refl, fun other member => .inl (kept other member)⟩
    exact there.follow (taken call _ found rfl kept)

/-- A system whose books are in order and whose coroutines know their rows. -/
structure Sound (system : PaymentSystem) : Prop where
  ordered : system.books.Ordered
  fresh : ∀ call ∈ system.calls, call.Fresh system.books

theorem yields_perform (sound : Sound before) (step : Step) :
    Yields (service.perform step) before fun _ after => Goes service (step.licence service before) before after := by
  have ordered := sound.ordered
  obtain ⟨moment, event⟩ := step
  have done : ∀ {α : Type} {program : KernelM α} {licence : Licence},
      Proceeds service licence program before →
      Proceeds service licence (do let _ ← program; pure Progress.done) before := by
    intro α program licence yields
    rw [Proceeds, yields_bind]
    exact yields.then_pure
  unfold perform
  cases event with
  | createIntent => exact done (.mono yields_createIntent fun _ _ made => made.1)
  | supplyMethod => exact done (yields_supplyMethod ordered)
  | confirm => exact yields_confirm ordered
  | completeAction => exact yields_completeAction ordered
  | cancel => exact done (yields_cancel ordered)
  | capture _ amount => exact done (yields_capture ordered ⟨amount, rfl⟩)
  | poll => exact yields_pollTimedOutAttempt ordered
  | callback =>
    exact yields_applyInbound ordered fun attempt found success late => ⟨success, attempt, found, late⟩
  | executeReversal =>
    exact yields_executeReversal ordered fun attempt registration refusal latest registered refused held =>
      ⟨held, attempt, registration, refusal, latest, registered, refused⟩
  | sweep =>
    refine done (yields_sweepExpiredIntents ordered fun intent listed processing => ?_)
    by_cases sent : before.books.Sent intent.paymentIntentId
    · exact .inr sent
    · exact .inl ⟨intent, listed, processing, sent⟩
  | confirmDelivery => exact done (yields_confirmDelivery ordered)
  | createRefund => exact done (yields_createRefund ordered)
  | processRefund => exact yields_processRefund ordered
  | answer =>
    refine yields_takeCall (fun _ => yields_pure.mpr (idle rfl rfl)) fun call middle found same _ => ?_
    have fresh := sound.fresh call (List.mem_of_getElem? found)
    rw [← same] at ordered fresh
    refine yields_resume ordered fresh ?_ ?_
    · rintro attemptId registration connectorRef rfl success late
      rw [same] at late
      exact ⟨success, attemptId, registration, connectorRef, found, late⟩
    · rintro intentId registration connectorRef rfl unreversed unsuccessful held
      rw [same] at held
      exact ⟨unreversed, unsuccessful, intentId, registration, connectorRef, found, held⟩
  | wake =>
    refine yields_takeCall (fun _ => yields_pure.mpr (idle rfl rfl)) fun call middle found same _ => ?_
    have fresh := sound.fresh call (List.mem_of_getElem? found)
    rw [← same] at ordered fresh
    exact yields_awaken ordered fresh
  | reconfigure =>
    rw [yields_bind, yields_modify]
    exact yields_pure.mpr (idle rfl rfl)

theorem yields_committed (sound : Sound before) (step : Step) :
    Yields (service.committed step) before fun _ after => Goes service (step.licence service before) before after := by
  have ordered := sound.ordered
  obtain ⟨moment, event⟩ := step
  have idle : Yields (pure () : KernelM Unit) before fun _ after =>
      Goes service (Step.licence service ⟨moment, event⟩ before) before after := yields_pure.mpr (idle rfl rfl)
  unfold committed
  cases event with
  | confirm _ preflight =>
    cases preflight with
    | raised => exact idle
    | passed | actionRequired =>
      rw [yields_bind]
      exact (yields_preflighted ordered).mono fun _ _ begins => yields_pure.mpr begins.1
    | limitExceeded | sanctionsHit | amlBlock => exact yields_confirmRefused ordered (by decide) (by decide)
  | completeAction =>
    rw [yields_bind]
    exact (yields_actionCompleted ordered).mono fun _ _ begins => yields_pure.mpr begins.1
  | executeReversal =>
    simp only [yields_bind]
    refine yields_requirePspLicense ?_
    exact (yields_claimReversalDispatch ordered).mono fun _ _ claimed => yields_pure.mpr claimed.1
  | processRefund =>
    simp only [yields_bind, yields_requireRefund, yields_requireIntent]
    refine yields_requirePspLicense fun refund stored _ _ => ?_
    exact (yields_dispatchRefund (ordered.hasRefund stored)).then_pure
  | createIntent | supplyMethod | cancel | capture | poll | callback | sweep | confirmDelivery | createRefund | answer | wake
  | reconfigure => exact idle

theorem Event.mem_remaining {event : Event} {calls : List Call} (member : call ∈ event.remaining calls) :
    call ∈ calls := by
  cases event with
  | answer | wake => exact List.mem_of_mem_eraseIdx member
  | createIntent | supplyMethod | confirm | completeAction | cancel | capture | poll | callback | executeReversal | sweep
  | confirmDelivery | createRefund | processRefund | reconfigure => exact member

theorem Goes.sound {after : PaymentSystem} (goes : Goes service licence before after)
    (sound : Sound before) : Sound after where
  ordered := deeds_ordered sound.ordered goes.deeds
  fresh := fun call member =>
    (goes.calls call member).elim (fun earlier => (sound.fresh call earlier).deeds goes.deeds) fun fresh => fresh

/-- A step is a sequence of deeds, whether it returns or is rolled back. -/
theorem goes_atomically (sound : Sound before) (step : Step) :
    Goes service (step.licence service before) before (service.atomically step before) := by
  unfold atomically
  cases ran : service.perform step before with
  | ok => exact (yields_perform sound step).ok ran
  | error reason =>
    cases committed : service.committed step before with
    | ok =>
      have goes := (yields_committed sound step).ok committed
      exact ⟨goes.deeds, fun call member => .inl (Event.mem_remaining member)⟩
    | error => exact ⟨.refl, fun call member => .inl (Event.mem_remaining member)⟩

end

/-! Runs -/

/-- Every step of a run is allowed in the state it is taken in. -/
def Along (service : PaymentOrchestrator) (allowed : PaymentSystem → Step → Prop) : PaymentSystem → List Step → Prop
  | _, [] => True
  | system, step :: rest => allowed system step ∧ Along service allowed (service.atomically step system) rest

theorem sound_start (runner : ConnectorRunner) : Sound (start runner) where
  ordered := by
    refine ⟨⟨?_, ?_, ?_⟩, ?_, ?_, fun found => by cases found⟩
    all_goals
      intro _ _ found
      cases found
  fresh := fun _ member => absurd member List.not_mem_nil

theorem along_any (service : PaymentOrchestrator) (steps : List Step) (system : PaymentSystem) :
    Along service (fun _ _ => True) system steps := by
  induction steps generalizing system with
  | nil => trivial
  | cons _ _ ih => exact ⟨trivial, ih _⟩

/-- What the deeds of allowed steps keep, a run of them keeps. -/
theorem atomicRun_keeps {service : PaymentOrchestrator} {allowed : PaymentSystem → Step → Prop} {keeps : Books → Prop}
    (each : ∀ {system : PaymentSystem} {step : Step} {books next : Books}, allowed system step → books.Ordered →
      Deed service (step.licence service system) books next → keeps books → keeps next)
    {system : PaymentSystem} (sound : Sound system) (kept : keeps system.books) {steps : List Step}
    (along : Along service allowed system steps) :
    Sound (service.atomicRun system steps) ∧ keeps (service.atomicRun system steps).books := by
  induction steps generalizing system with
  | nil => exact ⟨sound, kept⟩
  | cons step _ ih =>
    have goes : Goes service _ system (service.atomically step system) := goes_atomically sound step
    refine ih (goes.sound sound) ?_ along.2
    have both : ∀ {books}, Relation.ReflTransGen (Deed service (step.licence service system)) system.books books →
        books.Ordered ∧ keeps books := by
      intro books deeds
      induction deeds with
      | refl => exact ⟨sound.ordered, kept⟩
      | tail _ deed held => exact ⟨deed.ordered held.1, each along.1 held.1 deed held.2⟩
    exact (both goes.deeds).2

end BdPay.Kernel
