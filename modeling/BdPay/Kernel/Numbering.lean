import BdPay.Kernel.Writes

namespace BdPay.Kernel

open Platform Data Effect Connectors PaymentSystem

/-! What holds of the payment system after every write.

The attempts of an intent are numbered in the order in which they were opened,
and only the last of them can be undecided: the ones before it failed, and the
kernel was told so before it opened the next.
-/

variable {first second : PaymentAttemptRecord}

theorem identity_eq (same : first.identity = second.identity) :
    first.attemptId = second.attemptId ∧ first.paymentIntentId = second.paymentIntentId ∧
      first.attemptNumber = second.attemptNumber ∧ first.connectorRef = second.connectorRef := by
  simp only [PaymentAttemptRecord.identity, Prod.mk.injEq] at same
  exact ⟨same.1, same.2.1, same.2.2.1, same.2.2.2.2.2⟩

variable {status : ConnectorStatus}

variable {purpose : Purpose}

theorem Observation.Tells.congr {observation : Observation} (tells : observation.Tells purpose first status)
    (same : first.identity = second.identity) : observation.Tells purpose second status := by
  simp only [PaymentAttemptRecord.identity, Prod.mk.injEq] at same
  obtain ⟨-, -, -, connector, instruction, ref⟩ := same
  cases observation <;> simp only [Observation.Tells, connector, instruction, ref] at tells ⊢ <;> exact tells

variable {system : PaymentSystem}

theorem PaymentSystem.Told.congr (told : system.Told purpose first status)
    (same : first.identity = second.identity) : system.Told purpose second status := by
  obtain ⟨observation, member, tells⟩ := told
  exact ⟨observation, member, tells.congr same⟩

theorem Settled.congr (settled : Settled system first) (same : first.identity = second.identity) :
    Settled system second :=
  settled.imp (·.congr same) (Or.imp (·.congr same) (·.congr same))

/-! What no write takes away -/

/-- Attempts keep their identity, and history is only added to. -/
structure Extends (system next : PaymentSystem) : Prop where
  attempts : ∀ {attempt}, system.HasAttempt attempt →
    ∃ current, next.HasAttempt current ∧ current.identity = attempt.identity
  history : ∀ {observation}, observation ∈ system.history → observation ∈ next.history

namespace Extends

variable {system next last : PaymentSystem}

theorem refl (system : PaymentSystem) : Extends system system :=
  ⟨fun stored => ⟨_, stored, rfl⟩, id⟩

theorem trans (first : Extends system next) (second : Extends next last) : Extends system last := by
  constructor
  · intro attempt stored
    obtain ⟨middle, inMiddle, same⟩ := first.attempts stored
    obtain ⟨current, inLast, again⟩ := second.attempts inMiddle
    exact ⟨current, inLast, again.trans same⟩
  · exact fun member => second.history (first.history member)

variable (extended : Extends system next)
include extended

variable {attempt : PaymentAttemptRecord}

theorem told (told : system.Told purpose attempt status) : next.Told purpose attempt status := by
  obtain ⟨observation, member, tells⟩ := told
  exact ⟨observation, extended.history member, tells⟩

theorem settled (settled : Settled system attempt) : Settled next attempt :=
  settled.imp extended.told (Or.imp extended.told extended.told)

theorem submitFailed (failed : system.SubmitFailed ref) : next.SubmitFailed ref := by
  obtain ⟨outcome, member, status⟩ := failed
  exact ⟨outcome, extended.history member, status⟩

theorem reversalFailed (failed : ReversalFailed system paymentIntentId) : ReversalFailed next paymentIntentId := by
  obtain ⟨attempt, stored, owner, status, listed, told⟩ := failed
  obtain ⟨current, inNext, same⟩ := extended.attempts stored
  obtain ⟨-, sameIntent, -, -⟩ := identity_eq same
  exact ⟨current, inNext, sameIntent.trans owner, status, listed, (extended.told told).congr same.symm⟩

theorem snapshots (taken : Snapshots system intent attempt instruction) :
    Snapshots next intent attempt instruction := by
  obtain ⟨current, stored, same⟩ := taken.stored
  obtain ⟨newer, inNext, again⟩ := extended.attempts stored
  exact { taken with stored := ⟨newer, inNext, again.trans same⟩ }

theorem call {call : Call} (coherent : call.Coherent system) : call.Coherent next := by
  cases call with
  | submit => exact extended.snapshots coherent
  | backoff => exact ⟨extended.snapshots coherent.1, extended.submitFailed coherent.2⟩
  | poll =>
    obtain ⟨attempt, stored, sameId, ref⟩ := coherent
    obtain ⟨current, inNext, same⟩ := extended.attempts stored
    obtain ⟨keptId, -, -, keptRef⟩ := identity_eq same
    exact ⟨current, inNext, keptId.trans sameId, keptRef.trans ref⟩
  | reversal =>
    obtain ⟨attempt, stored, owner, ref⟩ := coherent
    obtain ⟨current, inNext, same⟩ := extended.attempts stored
    obtain ⟨-, keptIntent, -, keptRef⟩ := identity_eq same
    exact ⟨current, inNext, keptIntent.trans owner, keptRef.trans ref⟩
  | refund => exact coherent

end Extends

variable {attempt : PaymentAttemptRecord}

theorem extends_putAttempt
    (kept : ∀ old, system.HasAttempt old → old.attemptId = attempt.attemptId → attempt.identity = old.identity) :
    Extends system (system.putAttempt attempt) := by
  constructor
  · intro old stored
    by_cases same : old.attemptId = attempt.attemptId
    · exact ⟨attempt, hasAttempt_putAttempt.mpr (.inl rfl), kept old stored same⟩
    · exact ⟨old, hasAttempt_putAttempt.mpr (.inr ⟨stored, same⟩), rfl⟩
  · exact id

variable {old new : PaymentAttemptRecord}

theorem extends_of_moves (stored : system.HasAttempt old)
    (same : new.identity = old.identity) : Extends system (system.putAttempt new) := by
  apply extends_putAttempt
  intro other inSystem sameId
  rw [stored.unique inSystem ((identity_eq same).1.symm.trans sameId.symm)] at same
  exact same

variable {service : PaymentOrchestrator} {regime : Regime}

theorem extends_of_opens (opens : Opens service system attempt) : Extends system (system.putAttempt attempt) := by
  apply extends_putAttempt
  intro old stored same
  have bound : system.store.attempts.get? attempt.attemptId = some old := same ▸ stored
  rw [opens.freshId] at bound
  cases bound

variable {next : PaymentSystem}

theorem StoreWrite.extends (write : StoreWrite service system next) : Extends system next := by
  cases write with
  | ports | intentCreated | intentMoved | refundOpened | refundMoved => exact ⟨fun stored => ⟨_, stored, rfl⟩, id⟩
  | attemptOpened opens => exact extends_of_opens opens
  | attemptMoved stored moves => exact extends_of_moves stored moves.same
  | pollEnded stored _ ends =>
    obtain ⟨attempts, history⟩ := extends_of_moves stored ends.same
    exact ⟨attempts, history⟩

theorem Write.extends (write : Write service regime system next) : Extends system next := by
  cases write with
  | store write => exact write.extends
  | runner | suspended | resumed => exact ⟨fun stored => ⟨_, stored, rfl⟩, id⟩
  | observed => exact ⟨fun stored => ⟨_, stored, rfl⟩, fun member => List.mem_append_left _ member⟩

theorem extends_of_writes
    (writes : Relation.ReflTransGen (Write service regime) system next) : Extends system next := by
  induction writes with
  | refl => exact .refl system
  | tail _ last ih => exact ih.trans last.extends

/-! Attempts -/

/-- The attempts of one intent are told apart by their numbers, all attempts by
their references, and only the last attempt of an intent is undecided. -/
structure Numbering (system : PaymentSystem) : Prop extends system.store.Ranked
    (fun attempt => attempt.status = .authorizationFailed ∧ system.Told .submit attempt .failed) where
  refs : ∀ {first second}, system.HasAttempt first → system.HasAttempt second →
    first.connectorRef = second.connectorRef → first.attemptId = second.attemptId
  one : ∀ {attempt}, system.HasAttempt attempt →
    ∃ first, system.HasAttempt first ∧ first.paymentIntentId = attempt.paymentIntentId ∧ first.attemptNumber = 1
  polls : ∀ {attempt}, system.HasAttempt attempt → maxStatusPolls ≤ attempt.pollCount →
    attempt.status = .authorizationFailed
  heard : ∀ {attempt}, system.HasAttempt attempt → attempt.status ∉ openAttempts →
    attempt.status = .authorizationFailed ∨ Settled system attempt

theorem attemptRules_from_open :
    ∀ rule ∈ attemptRules, rule.toState ∈ openAttempts → rule.fromState ∈ openAttempts := by
  decide

theorem attemptRules_not_from_failed : ∀ rule ∈ attemptRules, rule.fromState ≠ .authorizationFailed := by
  decide

namespace AttemptMoves

variable {system : PaymentSystem} {old new : PaymentAttemptRecord}

theorem from_open (moves : AttemptMoves system old new) (opened : new.status ∈ openAttempts) :
    old.status ∈ openAttempts := by
  rcases moves.declared with same | ⟨rule, listed, source, target⟩
  · rwa [← same]
  · rw [← source]
    exact attemptRules_from_open rule listed (target ▸ opened)

theorem failed_stays (moves : AttemptMoves system old new) (failed : old.status = .authorizationFailed) :
    new.status = .authorizationFailed := by
  rcases moves.declared with same | ⟨rule, listed, source, -⟩
  · exact same.trans failed
  · exact absurd (source.trans failed) (attemptRules_not_from_failed rule listed)

end AttemptMoves

namespace Numbering

variable {system : PaymentSystem}

variable (numbering : Numbering system)
include numbering

variable {attempt : PaymentAttemptRecord}

theorem open_polls (stored : system.HasAttempt attempt)
    (opened : attempt.status ∈ openAttempts) : attempt.pollCount < maxStatusPolls := by
  by_contra spent
  rw [numbering.polls stored (by omega)] at opened
  exact absurd opened (by decide)

/-- What is written for a stored attempt may be read as that attempt. -/
theorem moved (stored : system.HasAttempt old)
    (same : new.identity = old.identity) (failed : old.status = .authorizationFailed → new.status = .authorizationFailed)
    (polled : maxStatusPolls ≤ new.pollCount → new.status = .authorizationFailed)
    (heard : new.status ∉ openAttempts → new.status = .authorizationFailed ∨ Settled system new) :
    Numbering (system.putAttempt new) := by
  have extended := extends_of_moves stored same
  -- Every attempt of the new store is an old one, but for `new`, which was `old`.
  have origin : ∀ {attempt}, (system.putAttempt new).HasAttempt attempt → ∃ earlier, system.HasAttempt earlier ∧
      attempt.identity = earlier.identity ∧
      (earlier.status = .authorizationFailed → attempt.status = .authorizationFailed) := by
    intro attempt inNext
    rcases hasAttempt_putAttempt.mp inNext with rfl | ⟨inSystem, -⟩
    · exact ⟨old, stored, same, failed⟩
    · exact ⟨attempt, inSystem, rfl, id⟩
  constructor
  case toRanked =>
    refine numbering.toRanked.moved (Dict.forall_set numbering.keys rfl) fun inNext => ?_
    obtain ⟨earlier, wasStored, same, stays⟩ := origin inNext
    obtain ⟨id, owner, number, -⟩ := identity_eq same
    exact ⟨earlier, wasStored, id, owner, number,
      fun ⟨ended, told⟩ => ⟨stays ended, (extended.told told).congr same.symm⟩⟩
  case refs =>
    intro first second inFirst inSecond ref
    obtain ⟨firstOld, firstStored, firstSame, -⟩ := origin inFirst
    obtain ⟨secondOld, secondStored, secondSame, -⟩ := origin inSecond
    obtain ⟨firstId, -, -, firstRef⟩ := identity_eq firstSame
    obtain ⟨secondId, -, -, secondRef⟩ := identity_eq secondSame
    rw [firstId, secondId]
    exact numbering.refs firstStored secondStored (by rw [← firstRef, ← secondRef, ref])
  case one =>
    intro attempt inNext
    obtain ⟨earlier, earlierStored, earlierSame, -⟩ := origin inNext
    obtain ⟨first, firstStored, owner, number⟩ := numbering.one earlierStored
    obtain ⟨current, currentStored, currentSame⟩ := extended.attempts firstStored
    obtain ⟨-, currentOwner, currentNumber, -⟩ := identity_eq currentSame
    obtain ⟨-, earlierOwner, -, -⟩ := identity_eq earlierSame
    exact ⟨current, currentStored, by rw [currentOwner, owner, earlierOwner], currentNumber.trans number⟩
  case polls =>
    intro attempt inNext spent
    rcases hasAttempt_putAttempt.mp inNext with rfl | ⟨inSystem, -⟩
    · exact polled spent
    · exact numbering.polls inSystem spent
  case heard =>
    intro attempt inNext decided
    rcases hasAttempt_putAttempt.mp inNext with rfl | ⟨inSystem, -⟩
    · exact (heard decided).imp_right extended.settled
    · exact (numbering.heard inSystem decided).imp_right extended.settled

theorem attempt_moved (stored : system.HasAttempt old)
    (moves : AttemptMoves system old new) : Numbering (system.putAttempt new) := by
  refine numbering.moved stored moves.same moves.failed_stays ?_ ?_
  · intro spent
    rcases moves.counted spent with already | ⟨-, failed⟩
    · exact moves.failed_stays (numbering.polls stored already)
    · exact failed
  · intro decided
    by_cases opened : old.status ∈ openAttempts
    · exact moves.heard opened decided
    · exact (numbering.heard stored opened).imp moves.failed_stays (·.congr moves.same.symm)

theorem opened {service : PaymentOrchestrator}
    (opens : Opens service system attempt) : Numbering (system.putAttempt attempt) := by
  have extended := extends_of_opens opens
  constructor
  case toRanked => exact numbering.toRanked.opened rfl opens.spent
  case refs =>
    intro first second inFirst inSecond ref
    rcases hasAttempt_putAttempt.mp inFirst with rfl | ⟨firstStored, -⟩ <;>
      rcases hasAttempt_putAttempt.mp inSecond with rfl | ⟨secondStored, -⟩
    · rfl
    · exact absurd ref.symm (opens.freshRef second secondStored)
    · exact absurd ref (opens.freshRef first firstStored)
    · exact numbering.refs firstStored secondStored ref
  case one =>
    intro other inNext
    rcases hasAttempt_putAttempt.mp inNext with rfl | ⟨inSystem, -⟩
    · rcases opens.follows with number | ⟨before, beforeStored, owner⟩
      · exact ⟨other, inNext, rfl, number⟩
      · obtain ⟨first, firstStored, firstOwner, number⟩ := numbering.one beforeStored
        obtain ⟨current, currentStored, same⟩ := extended.attempts firstStored
        obtain ⟨-, keptOwner, keptNumber, -⟩ := identity_eq same
        exact ⟨current, currentStored, by rw [keptOwner, firstOwner, owner], keptNumber.trans number⟩
    · obtain ⟨first, firstStored, firstOwner, number⟩ := numbering.one inSystem
      obtain ⟨current, currentStored, same⟩ := extended.attempts firstStored
      obtain ⟨-, keptOwner, keptNumber, -⟩ := identity_eq same
      exact ⟨current, currentStored, keptOwner.trans firstOwner, keptNumber.trans number⟩
  case polls =>
    intro other inNext spent
    rcases hasAttempt_putAttempt.mp inNext with rfl | ⟨inSystem, -⟩
    · rw [opens.unpolled] at spent
      exact absurd spent (by decide)
    · exact numbering.polls inSystem spent
  case heard =>
    intro other inNext decided
    rcases hasAttempt_putAttempt.mp inNext with rfl | ⟨inSystem, -⟩
    · rw [opens.started] at decided
      exact absurd (by decide) decided
    · exact (numbering.heard inSystem decided).imp_right extended.settled

/-- An attempt whose status is not a failure is the last of its intent. -/
theorem last (stored : system.HasAttempt attempt)
    (otherStored : system.HasAttempt other) (owner : other.paymentIntentId = attempt.paymentIntentId)
    (alive : attempt.status ≠ .authorizationFailed) : other.attemptNumber ≤ attempt.attemptNumber := by
  by_contra later
  exact alive (numbering.passed stored otherStored owner.symm (by omega)).1

theorem alive_unique (firstStored : system.HasAttempt first) (secondStored : system.HasAttempt second)
    (owner : first.paymentIntentId = second.paymentIntentId) (firstAlive : first.status ≠ .authorizationFailed)
    (secondAlive : second.status ≠ .authorizationFailed) : first = second := by
  have below := numbering.last firstStored secondStored owner.symm firstAlive
  have above := numbering.last secondStored firstStored owner secondAlive
  exact firstStored.unique secondStored
    (numbering.numbers firstStored secondStored owner (by omega))

/-- Nothing here reads more than the attempts and what the kernel was told. -/
theorem of_attempts_eq (extended : Extends system next)
    (same : next.store.attempts = system.store.attempts) : Numbering next := by
  have back : ∀ {attempt}, next.HasAttempt attempt → system.HasAttempt attempt := by
    intro attempt stored
    rwa [HasAttempt, PaymentStore.HasAttempt, ← same]
  have forth : ∀ {attempt}, system.HasAttempt attempt → next.HasAttempt attempt := by
    intro attempt stored
    rwa [HasAttempt, PaymentStore.HasAttempt, same]
  constructor
  case toRanked =>
    refine numbering.toRanked.moved (fun found => numbering.keys (same ▸ found)) fun stored => ?_
    exact ⟨_, back stored, rfl, rfl, rfl, fun passed => passed.imp_right extended.told⟩
  case refs => exact fun inFirst inSecond => numbering.refs (back inFirst) (back inSecond)
  case one =>
    intro attempt stored
    obtain ⟨first, firstStored, owner, number⟩ := numbering.one (back stored)
    exact ⟨first, forth firstStored, owner, number⟩
  case polls => exact fun stored => numbering.polls (back stored)
  case heard => exact fun stored decided => (numbering.heard (back stored) decided).imp_right extended.settled

end Numbering

end BdPay.Kernel
