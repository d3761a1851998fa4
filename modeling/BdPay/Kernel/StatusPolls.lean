import BdPay.Kernel.DoubleCharge

namespace BdPay.Kernel

open Platform Data Effect Connectors PaymentSystem

/-! A charge that timed out is failed by the rail's own answers only, as long as
the rail is what answers the status polls. -/

/-- Every poll reaches the rail and comes back with what it decided. -/
def railPolled : Regime := { railPolls := true }

/-- The statuses of an attempt whose submit is not over. -/
def pendingAttempts : List AttemptStatus := [.started, .authenticationPending, .authorizationPending]

/-- The failure of an attempt and of its intent came from the rail, and spent polls ended in the reversal path. -/
structure DecidedByRail (system : PaymentSystem) (attempt : PaymentAttemptRecord) : Prop where
  failed : attempt.status = .authorizationFailed →
    DeclinedIn system.history attempt ∨ maxStatusPolls ≤ attempt.pollCount
  intentFailed : ∀ intent, system.HasIntent intent → intent.paymentIntentId = attempt.paymentIntentId →
    intent.status = .failed → DeclinedIn system.history attempt ∨ ReversalFailed system intent.paymentIntentId
  exhausted : maxStatusPolls ≤ attempt.pollCount → ∀ intent, system.HasIntent intent →
    intent.paymentIntentId = attempt.paymentIntentId → GivenUp system intent

/-- What is kept up while an attempt that timed out is polled. -/
structure Polled (system : PaymentSystem) (attempt : PaymentAttemptRecord) : Prop where
  stored : system.HasAttempt attempt
  sent : attempt.status ∉ pendingAttempts
  decided : DecidedByRail system attempt
  live : ∀ intent, system.HasIntent intent → intent.paymentIntentId = attempt.paymentIntentId →
    intent.status = .processing → attempt.status ≠ .authorizationFailed

theorem intentRules_to_processing : ∀ rule ∈ intentRules, rule.toState = .processing →
    rule.fromState ∈ undispatched ∨ rule.fromState = .processing := by
  decide

theorem intentRules_to_failed : ∀ rule ∈ intentRules, rule.toState = .failed →
    rule.fromState ∈ undispatched ∨ rule.fromState = .processing ∨
      rule.fromState = .reversalInitiated ∨ rule.fromState = .reversalPending := by
  decide

theorem attemptRules_stay_sent : ∀ rule ∈ attemptRules, rule.fromState ∉ pendingAttempts →
    rule.toState ∉ pendingAttempts ∧ (rule.toState = .authorizationFailed → rule.fromState = .timedOut) := by
  decide

theorem DeclinedIn.extends (extended : Extends system next)
    {attempt : PaymentAttemptRecord} (declined : DeclinedIn system.history attempt) : DeclinedIn next.history attempt := by
  obtain ⟨observation, member, declines⟩ := declined
  exact ⟨observation, extended.history member, declines⟩

section Polls

variable {attempt : PaymentAttemptRecord}

/-- A failure that a poll reported was the rail's. -/
theorem declined_of_poll (lawful : Lawful railPolled system) (listed : status ∈ pollFailures)
    (told : system.Told .poll attempt status) : DeclinedIn system.history attempt := by
  have verdicts : ∀ status ∈ pollFailures, status ≠ .timedOut → status = .failed ∨ status = .rejected := by decide
  obtain ⟨observation, member, tells⟩ := told
  have allowed := lawful observation member
  refine ⟨observation, member, ?_⟩
  cases observation with
  | answered _ _ outcome =>
    obtain ⟨rfl, rfl, rfl⟩ := tells
    have isVerdict := allowed rfl
    cases outcome with
    | timedOut | raised => cases isVerdict
    | answered =>
      simp only [AdapterOutcome.isVerdict, Bool.and_eq_true, bne_iff_ne] at isVerdict
      exact ⟨.inr rfl, rfl, isVerdict.1, verdicts _ listed isVerdict.2⟩
  | refused =>
    obtain ⟨rfl, -, -⟩ := tells
    cases allowed.1
  | replayed => cases tells.1
  | calledBack =>
    obtain ⟨-, connector, ref, instruction, rfl⟩ := tells
    exact ⟨connector, ref, instruction, verdicts _ listed (allowed rfl)⟩
  | invoked => exact tells.elim

namespace Polled

section

variable (polled : Polled system attempt)
include polled

/-- The attempt is not written, and its intents are the ones there were. -/
theorem of_intents (extended : Extends system next) (stored : next.HasAttempt attempt)
    (intents : ∀ intent, next.HasIntent intent → intent.paymentIntentId = attempt.paymentIntentId →
      system.HasIntent intent) : Polled next attempt := by
  obtain ⟨-, sent, ⟨failed, intentFailed, exhausted⟩, live⟩ := polled
  refine ⟨stored, sent, ⟨?_, ?_, ?_⟩, ?_⟩
  · exact fun status => (failed status).imp_left (·.extends extended)
  · intro intent intentStored owner status
    exact (intentFailed intent (intents intent intentStored owner) owner status).imp (·.extends extended)
      extended.reversalFailed
  · intro spent intent intentStored owner
    exact extended.givenUp (exhausted spent intent (intents intent intentStored owner) owner)
  · exact fun intent intentStored owner => live intent (intents intent intentStored owner) owner

variable (coherent : Coherent system)
include coherent

theorem intent_moved {old new : PaymentIntentRecord}
    (stored : system.HasIntent old) (moves : IntentMoves system old new)
    (owned : new.paymentIntentId = attempt.paymentIntentId) :
    Polled (system.putIntent new) attempt := by
  have oldOwned := moves.same.symm.trans owned
  have dispatched : old.status ∉ undispatched := by
    obtain ⟨intent, intentStored, owner, late⟩ := coherent.owning.dispatched polled.stored
    exact intentStored.unique stored (owner.trans oldOwned.symm) ▸ late
  have mine : ∀ intent, (system.putIntent new).HasIntent intent → intent.paymentIntentId = attempt.paymentIntentId →
      intent = new := by
    intro intent inNext owner
    rcases hasIntent_putIntent.mp inNext with rfl | ⟨-, different⟩
    · rfl
    · exact absurd (owner.trans owned.symm) different
  have isProcessing : new.status = .processing → old.status = .processing := by
    intro processing
    rcases moves.declared with same | ⟨rule, listed, source, target⟩
    · exact same.symm.trans processing
    · rw [← source] at dispatched ⊢
      exact (intentRules_to_processing rule listed (target.trans processing)).resolve_left dispatched
  refine ⟨polled.stored, polled.sent, ⟨?_, ?_, ?_⟩, ?_⟩
  · exact polled.decided.failed
  · intro intent inNext owner failed
    rw [mine intent inNext owner] at failed ⊢
    rcases moves.declared with same | ⟨rule, listed, source, target⟩
    · rw [moves.same]
      exact polled.decided.intentFailed old stored oldOwned (same ▸ failed)
    · rcases intentRules_to_failed rule listed (target.trans failed) with early | processing | reversing
      · exact absurd (source ▸ early) dispatched
      · -- A hard decline would have failed this attempt, and then the intent was not processing.
        rw [source] at processing
        have declined := moves.declined processing failed
        exact absurd (declined.all_failed coherent.numbering polled.stored oldOwned.symm)
          (polled.live old stored oldOwned processing)
      · rw [source] at reversing
        rw [moves.same]
        exact .inr (moves.unreversed reversing failed)
  · intro spent intent inNext owner
    rw [mine intent inNext owner]
    exact (polled.decided.exhausted spent old stored oldOwned).moved moves
  · intro intent inNext owner processing
    rw [mine intent inNext owner] at processing
    exact polled.live old stored oldOwned (isProcessing processing)

theorem attempt_moved (lawful : Lawful railPolled system) (moves : AttemptMoves system attempt new) :
    Polled (system.putAttempt new) new := by
  have extended := extends_of_moves polled.stored moves.same
  have nextOwning := coherent.owning.attempt_moved polled.stored moves
  have inNext : (system.putAttempt new).HasAttempt new := hasAttempt_putAttempt.mpr (.inl rfl)
  obtain ⟨-, owned, -, -⟩ := identity_eq moves.same
  have declines : DeclinedIn system.history attempt → DeclinedIn (system.putAttempt new).history new :=
    fun declined => (declined.congr moves.same.symm).extends extended
  -- Either it had failed before, or a poll of the timed-out attempt fails it now.
  have origin : new.status = .authorizationFailed → attempt.status = .authorizationFailed ∨ attempt.status = .timedOut := by
    intro failed
    rcases moves.declared with same | ⟨rule, listed, source, target⟩
    · exact .inl (same.symm.trans failed)
    · exact .inr (source ▸ (attemptRules_stay_sent rule listed (source ▸ polled.sent)).2 (target.trans failed))
  refine ⟨inNext, ?_, ⟨?_, ?_, ?_⟩, ?_⟩
  · rcases moves.declared with same | ⟨rule, listed, source, target⟩
    · exact same ▸ polled.sent
    · exact target ▸ (attemptRules_stay_sent rule listed (source ▸ polled.sent)).1
  · intro failed
    rcases origin failed with already | timedOut
    · exact (polled.decided.failed already).imp declines (·.trans_eq (moves.stands already).symm)
    · rcases (moves.ended timedOut failed).1 with ⟨status, listed, told⟩ | spent
      · exact .inl ((declined_of_poll lawful listed told).extends extended)
      · exact .inr spent
  · intro intent stored owner failed
    exact (polled.decided.intentFailed intent stored (owner.trans owned) failed).imp declines extended.reversalFailed
  · exact fun spent intent stored owner => nextOwning.exhausted inNext spent stored owner
  · intro intent stored owner processing failed
    rcases origin failed with already | timedOut
    · exact polled.live intent stored (owner.trans owned) processing already
    · exact (moves.ended timedOut failed).2 intent stored (owner.trans owned) processing

theorem poll_ended (lawful : Lawful railPolled system) (owner : system.HasIntent before)
    (ends : PollEnds system attempt new before after) : Polled ((system.putAttempt new).putIntent after) new := by
  have nextOwning := coherent.owning.poll_ended coherent.numbering polled.stored owner ends
  have inNext : ((system.putAttempt new).putIntent after).HasAttempt new := hasAttempt_putAttempt.mpr (.inl rfl)
  obtain ⟨-, sameOwner, -, -⟩ := identity_eq ends.same
  have owned : after.paymentIntentId = new.paymentIntentId := by rw [ends.kept, ends.owner, sameOwner]
  have mine : ∀ intent, ((system.putAttempt new).putIntent after).HasIntent intent →
      intent.paymentIntentId = new.paymentIntentId → intent = after := by
    intro intent stored same
    rcases hasIntent_putIntent.mp stored with rfl | ⟨-, different⟩
    · rfl
    · exact absurd (same.trans owned.symm) different
  have outcome : (after.status = .failed ∧ DeclinedIn system.history new) ∨
      (after.status = .reversalInitiated ∧ maxStatusPolls ≤ new.pollCount) := by
    refine ends.ends.imp_left ?_
    rintro ⟨status, -, told, listed, isTold⟩
    exact ⟨status, declined_of_poll lawful listed isTold⟩
  refine ⟨inNext, by rw [ends.failed]; decide, ⟨?_, ?_, ?_⟩, ?_⟩
  · exact fun _ => outcome.imp And.right And.right
  · intro intent stored same failed
    rw [mine intent stored same] at failed
    rcases outcome with ⟨-, declined⟩ | ⟨status, -⟩
    · exact .inl declined
    · rw [status] at failed
      cases failed
  · exact fun spent intent stored same => nextOwning.exhausted inNext spent stored same
  · intro intent stored same processing
    rw [mine intent stored same] at processing
    rcases outcome with ⟨status, -⟩ | ⟨status, -⟩ <;> rw [status] at processing <;> cases processing

theorem other_poll_ended (stored : system.HasAttempt old)
    (owner : system.HasIntent before) (ends : PollEnds system old new before after)
    (different : attempt.attemptId ≠ new.attemptId) : attempt.paymentIntentId ≠ after.paymentIntentId := by
  intro same
  obtain ⟨sameId, -, -, -⟩ := identity_eq ends.same
  have alive := polled.live before owner (ends.kept.symm.trans same.symm) ends.processing
  have isOld := coherent.numbering.alive_unique polled.stored stored (by rw [same, ends.kept, ends.owner]) alive
    (by rw [ends.timedOut]; decide)
  exact different (by rw [isOld, sameId])

section

variable (lawful : Lawful railPolled system)

include lawful

theorem store_write
    (write : StoreWrite service system next) :
    ∃ current, Polled next current ∧ current.identity = attempt.identity := by
  have extended := write.extends
  have keeps : ∀ {written : PaymentAttemptRecord}, written.attemptId ≠ attempt.attemptId →
      (system.putAttempt written).HasAttempt attempt := fun different =>
    hasAttempt_putAttempt.mpr (.inr ⟨polled.stored, different.symm⟩)
  cases write with
  | ports | refundOpened | refundMoved =>
    exact ⟨attempt, polled.of_intents extended polled.stored fun _ stored _ => stored, rfl⟩
  | intentCreated fresh =>
    refine ⟨attempt, polled.of_intents extended polled.stored ?_, rfl⟩
    intro intent stored owner
    rcases hasIntent_putIntent.mp stored with rfl | ⟨stored, -⟩
    · obtain ⟨old, oldStored, oldOwner, -⟩ := coherent.owning.dispatched polled.stored
      exact absurd (oldOwner.trans owner.symm) (oldStored.ne_of_fresh fresh)
    · exact stored
  | @intentMoved old new stored moves =>
    by_cases mine : new.paymentIntentId = attempt.paymentIntentId
    · exact ⟨attempt, polled.intent_moved coherent stored moves mine, rfl⟩
    · refine ⟨attempt, polled.of_intents extended polled.stored ?_, rfl⟩
      intro intent inNext owner
      rcases hasIntent_putIntent.mp inNext with rfl | ⟨inSystem, -⟩
      · exact absurd owner mine
      · exact inSystem
  | @attemptOpened written opens =>
    have different : written.attemptId ≠ attempt.attemptId := (polled.stored.ne_of_fresh opens.freshId).symm
    exact ⟨attempt, polled.of_intents extended (keeps different) fun _ stored _ => stored, rfl⟩
  | @attemptMoved old new stored moves =>
    by_cases mine : new.attemptId = attempt.attemptId
    · have isOld := stored.unique polled.stored ((identity_eq moves.same).1.symm.trans mine)
      subst isOld
      exact ⟨new, polled.attempt_moved coherent lawful moves, moves.same⟩
    · exact ⟨attempt, polled.of_intents extended (keeps mine) fun _ stored _ => stored, rfl⟩
  | @pollEnded old new before after stored owner ends =>
    by_cases mine : new.attemptId = attempt.attemptId
    · have isOld := stored.unique polled.stored ((identity_eq ends.same).1.symm.trans mine)
      subst isOld
      exact ⟨new, polled.poll_ended coherent lawful owner ends, ends.same⟩
    · have elsewhere := polled.other_poll_ended coherent stored owner ends (Ne.symm mine)
      refine ⟨attempt, polled.of_intents extended (keeps mine) ?_, rfl⟩
      intro intent inNext owned
      rcases hasIntent_putIntent.mp inNext with rfl | ⟨inSystem, -⟩
      · exact absurd owned.symm elsewhere
      · exact inSystem

theorem write (write : Write service railPolled system next) :
    ∃ current, Polled next current ∧ current.identity = attempt.identity := by
  have extended := write.extends
  cases write with
  | store write => exact polled.store_write coherent lawful write
  | runner | observed | suspended | resumed =>
    exact ⟨attempt, polled.of_intents extended polled.stored fun _ stored _ => stored, rfl⟩

theorem writes (steps : Relation.ReflTransGen (Write service railPolled) system next) :
    ∃ current, Polled next current ∧ current.identity = attempt.identity := by
  induction steps with
  | refl => exact ⟨attempt, polled, rfl⟩
  | tail earlier last ih =>
    obtain ⟨current, polledNow, same⟩ := ih
    obtain ⟨newer, polledNext, again⟩ :=
      polledNow.write (coherent.writes earlier) (lawful.writes coherent earlier) last
    exact ⟨newer, polledNext, again.trans same⟩

end

end

/-- A timed-out attempt waits for its polls; nothing has failed yet but by a reversal. -/
theorem of_timedOut (coherent : Coherent system) (stored : system.HasAttempt attempt)
    (timedOut : attempt.status = .timedOut) : Polled system attempt := by
  have opened : attempt.status ∈ openAttempts := by rw [timedOut]; decide
  refine ⟨stored, by rw [timedOut]; decide, ⟨?_, ?_, ?_⟩, ?_⟩
  · intro failed
    rw [timedOut] at failed
    cases failed
  · intro intent intentStored owner failed
    rcases coherent.owning.undecided stored opened intentStored owner with processing | given
    · rw [processing] at failed
      cases failed
    · exact .inr (given.2 failed)
  · exact fun spent intent intentStored owner => coherent.owning.exhausted stored spent intentStored owner
  · intro _ _ _ _ failed
    rw [timedOut] at failed
    cases failed

end Polled

end Polls

variable {service : PaymentOrchestrator}

theorem compliant_append : Compliant service regime system (first ++ later) ↔
      Compliant service regime system first ∧ Compliant service regime (service.run system first) later := by
  induction first generalizing system with
  | nil => simp [Compliant, PaymentOrchestrator.run]
  | cons _ _ ih => simp [Compliant, PaymentOrchestrator.run, ih, and_assoc]

/-- In every run whose polls are answered by the rail, an attempt that timed out, and its intent, are
failed by the rail's own answer or by a reversal only. -/
theorem decidedByRail_of_rail_polls (service : PaymentOrchestrator) (runner : ConnectorRunner) (first later : List Step)
    (attempt current : PaymentAttemptRecord) (compliant : Compliant service railPolled (start runner) (first ++ later))
    (stored : (service.run (start runner) first).HasAttempt attempt) (timedOut : attempt.status = .timedOut)
    (storedNow : (service.run (start runner) (first ++ later)).HasAttempt current)
    (same : current.attemptId = attempt.attemptId) :
    DecidedByRail (service.run (start runner) (first ++ later)) current := by
  obtain ⟨compliantFirst, compliantLater⟩ := compliant_append.mp compliant
  have coherent := coherent_run compliantFirst
  have polled := Polled.of_timedOut coherent stored timedOut
  obtain ⟨newest, polledNow, identity⟩ :=
    polled.writes coherent (lawful_run compliantFirst) (writes_run coherent compliantLater)
  have joined : service.run (start runner) (first ++ later) = service.run (service.run (start runner) first) later :=
    List.foldl_append
  rw [joined] at storedNow ⊢
  have isNewest := storedNow.unique polledNow.stored (same.trans (identity_eq identity).1.symm)
  exact isNewest ▸ polledNow.decided

/-- The answer to a submit is nothing to a poll. -/
theorem meets_answer_submit (waiting : ∀ call ∈ system.calls[index]?, call matches .submit ..) :
    Meets service railPolled system ⟨moment, .answer index outcome⟩ := by
  unfold Meets
  simp only
  split
  · exact fun certain => absurd certain (by decide)
  · rename_i found
    exact absurd (waiting _ found) (by simp)
  · trivial

/-! The sample payment times out at the rail and is polled. -/

section Sample

set_option maxRecDepth 20000

def timingOut : List Step := [create, pay, answer .timedOut]

def timedOut : PaymentSystem := sampleService.run sampleStart timingOut

/-- The identifier of the attempt that timed out. -/
def timedOutId : String := ((attemptNumbered timedOut 1).map (·.attemptId)).getD ""

def poll : Step := ⟨sampleMoment, .poll timedOutId⟩

/-- The poll runs into the runner's own timeout. -/
def unheard : PaymentSystem := sampleService.run sampleStart (timingOut ++ [poll, answer .timedOut])

theorem unheard_observed : ∃ attempt ∈ attemptNumbered timedOut 1, ∃ current ∈ attemptNumbered unheard 1,
      timedOut.HasAttempt attempt ∧ attempt.status = .timedOut ∧ unheard.HasAttempt current ∧
        current.attemptId = attempt.attemptId ∧
        (unheard.store.intents.get? current.paymentIntentId).map (·.status) = some .failed ∧ unheard.history = [
          .invoked .submit (handedOver current), .answered .submit current.connectorRef .timedOut,
          .invoked .poll { connectorId := npsb, connectorRef := current.connectorRef },
          .answered .poll current.connectorRef .timedOut] := by
  decide +kernel

/-- The rail said nothing, and the payment is failed. -/
theorem unheard_poll_fails_payment :
    ∃ attempt current, timedOut.HasAttempt attempt ∧ attempt.status = .timedOut ∧ unheard.HasAttempt current ∧
      current.attemptId = attempt.attemptId ∧ ¬ DecidedByRail unheard current := by
  obtain ⟨attempt, -, current, -, stored, status, storedNow, same, intentStatus, history⟩ := unheard_observed
  refine ⟨attempt, current, stored, status, storedNow, same, fun decided => ?_⟩
  obtain ⟨intent, found, failed⟩ := Option.map_eq_some_iff.mp intentStatus
  have coherent : Coherent unheard := coherent_run compliant_free
  obtain ⟨intentStored, owner⟩ := hasIntent_of_get? coherent.owning found
  rcases decided.intentFailed intent intentStored owner failed with
    ⟨observation, member, declines⟩ | ⟨other, -, -, told, -, observation, member, tells⟩
  · simp only [history, List.mem_cons, List.not_mem_nil, or_false] at member
    rcases member with rfl | rfl | rfl | rfl <;> exact declines
  · simp only [history, List.mem_cons, List.not_mem_nil, or_false] at member
    rcases member with rfl | rfl | rfl | rfl <;> simp [Observation.Tells] at tells

def declining : List Step := [poll, answer (verdict .failed)]

/-- The rail answers the poll with a decline. -/
def declined : PaymentSystem := sampleService.run sampleStart (timingOut ++ declining)

theorem timedOut_polled : (∀ call ∈ (sampleService.run sampleStart [create, pay]).calls[0]?, call matches .submit ..) ∧
      ∃ attempt ∈ attemptNumbered timedOut 1, ∃ current ∈ attemptNumbered declined 1,
        timedOut.HasAttempt attempt ∧ attempt.status = .timedOut ∧ attempt.attemptId = timedOutId ∧
          declined.HasAttempt current ∧ current.attemptId = attempt.attemptId ∧
          ∀ registration ∈ timedOut.runner.registrations.get? attempt.connectorId,
            timedOut.runner.refusal? (sampleService.around sampleMoment) registration .queryStatus = none := by
  decide +kernel

theorem meets_poll : Meets sampleService railPolled timedOut poll := by
  obtain ⟨-, attempt, -, -, -, stored, -, sameId, -, -, admitted⟩ := timedOut_polled
  intro other otherStored otherId registration refusal found refused
  rw [otherStored.unique stored (otherId.trans sameId.symm)] at found
  cases (admitted registration found).symm.trans refused

theorem compliant_declining : Compliant sampleService railPolled sampleStart (timingOut ++ declining) := by
  have submitted : ∀ system, Compliant sampleService railPolled system [create, pay] := fun _ =>
    ⟨trivial, fun closed => absurd closed (by decide), trivial⟩
  have answered : ∀ system, Compliant sampleService railPolled system [answer (verdict .failed)] := fun _ =>
    ⟨meets_answer rfl rfl, trivial⟩
  have timesOut : Compliant sampleService railPolled sampleStart ([create, pay] ++ [answer .timedOut]) :=
    compliant_append.mpr ⟨submitted sampleStart, meets_answer_submit timedOut_polled.1, trivial⟩
  exact compliant_append.mpr ⟨timesOut, meets_poll, answered _⟩

theorem declined_decidedByRail :
    ∃ attempt current, timedOut.HasAttempt attempt ∧ attempt.status = .timedOut ∧ declined.HasAttempt current ∧
      DecidedByRail declined current := by
  obtain ⟨-, attempt, -, current, -, stored, status, -, storedNow, same, -⟩ := timedOut_polled
  exact ⟨attempt, current, stored, status, storedNow,
    decidedByRail_of_rail_polls sampleService (sampleRunner .empty) timingOut declining attempt current
      compliant_declining stored status storedNow same⟩

end Sample

end BdPay.Kernel
