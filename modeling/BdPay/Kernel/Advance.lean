import BdPay.Kernel.Coherence

namespace BdPay.Kernel

open Platform Data Effect PaymentSystem PaymentOrchestrator

/-! What the shared internals of the orchestrator write. -/

/-- What comes after a program that writes starts from coherent rows. -/
theorem Coherent.bind (coherent : Coherent before) (first : Guarantees (Write service regime) program before post)
    (rest : ∀ value middle, Coherent middle → post value middle →
      Guarantees (Write service regime) (next value) middle final) :
    Guarantees (Write service regime) (program >>= next) before final :=
  first.bind fun value middle steps => rest value middle (coherent.writes steps)

/-- Wherever the program stops, it has written what the regime allows. -/
abbrev Obeys {α : Type} (service : PaymentOrchestrator) (regime : Regime) (program : KernelM α)
    (before : PaymentSystem) : Prop :=
  Guarantees (Write service regime) program before fun _ _ => True

/-! Programs that write ports only -/

/-- Only the ports differ. -/
def PortWrite (system next : PaymentSystem) : Prop := ∃ ports, next = { system with ports }

/-- Wherever the program stops, only the ports differ. -/
structure PortsOnly {α : Type} (program : KernelM α) : Prop where
  writes : ∀ before, Guarantees PortWrite program before fun _ _ => True

theorem portWrite_of_steps (steps : Relation.ReflTransGen PortWrite system next) :
    ∃ ports, next = { system with ports } := by
  induction steps with
  | refl => exact ⟨system.ports, rfl⟩
  | tail _ last ih =>
    obtain ⟨_, rfl⟩ := ih
    obtain ⟨ports, rfl⟩ := last
    exact ⟨ports, rfl⟩

namespace PortsOnly

variable {α β : Type} {service : PaymentOrchestrator} {moment : Moment}

theorem bind (first : PortsOnly program) (rest : ∀ value, PortsOnly (next value)) : PortsOnly (program >>= next) :=
  ⟨fun before => (first.writes before).bind fun value middle _ _ => (rest value).writes middle⟩

theorem pure (value : α) : PortsOnly (pure value) := ⟨fun _ => guarantees_pure trivial⟩

theorem raiseIf (condition : Prop) [Decidable condition] (error : KernelError) :
    PortsOnly (raiseIf condition error) := by
  constructor
  intro before
  unfold Effect.raiseIf
  split
  · exact guarantees_throw
  · exact guarantees_pure trivial

theorem attempt (computed : Except KernelError α) : PortsOnly (attempt computed) := by
  constructor
  intro before
  cases computed with
  | error => exact guarantees_throw
  | ok => exact guarantees_pure trivial

theorem onRaise (runs : PortsOnly body)
    (records : ∀ error, PortsOnly (record error)) : PortsOnly (onRaise body record) :=
  ⟨fun before => guarantees_onRaise (runs.writes before) fun error after _ => (records error).writes after⟩

theorem writePorts (write : Ports → Ports) : PortsOnly (writePorts write) :=
  ⟨fun _ => guarantees_of_ok rfl (.single ⟨_, rfl⟩) trivial⟩

/-- What writes ports only can be run between any two writes. -/
theorem guarantees (only : PortsOnly program) (before : PaymentSystem) :
    Guarantees (Write service regime) program before fun _ after => ∃ ports, after = { before with ports } := by
  have tracked := (only.writes before).weaken fun _ _ steps _ => portWrite_of_steps steps
  refine tracked.mono ?_
  intro first second written
  obtain ⟨ports, rfl⟩ := written
  exact .store (.ports ports)

theorem any (only : PortsOnly program) : Obeys service regime program before :=
  (only.guarantees _).weaken fun _ _ _ _ => trivial

theorem first (only : PortsOnly program) (coherent : Coherent before)
    (rest : ∀ value ports, Coherent { before with ports } →
      Guarantees (Write service regime) (next value) { before with ports } returns) :
    Guarantees (Write service regime) (program >>= next) before returns := by
  refine (only.guarantees _).bind fun value _ steps wrote => ?_
  obtain ⟨ports, rfl⟩ := wrote
  exact rest value ports (coherent.writes steps)

theorem askLedger (call : LedgerCall) : PortsOnly (askLedger moment call) :=
  (raiseIf _ _).bind fun _ => writePorts _

theorem audit (entry : AuditEntry) : PortsOnly (audit entry) := writePorts _

theorem auditUnless (deferred : Bool) (intent : PaymentIntentRecord) (fromState toState : IntentStatus) :
    PortsOnly (auditUnless deferred intent fromState toState) := by
  cases deferred with
  | true => exact pure _
  | false => exact audit _

theorem emit (eventType : String) (intent : PaymentIntentRecord) (payload : List (String × PyValue))
    (subjectType : String) (subjectId : Option String) (topic : String) :
    PortsOnly (service.emit moment eventType intent payload subjectType subjectId topic) := by
  unfold PaymentOrchestrator.emit
  exact writePorts _

theorem openHold? (referenceId : String) : PortsOnly (openHold? referenceId) :=
  ⟨fun _ => guarantees_get_bind (guarantees_pure trivial)⟩

theorem requirePspLicense : PortsOnly service.requirePspLicense := raiseIf _ _

theorem postEntry (referenceId referenceType entryType description keyField keyId debited credited : String)
    (amount : Int) : PortsOnly (service.postEntry moment referenceId referenceType entryType description
      keyField keyId debited credited amount) :=
  (attempt _).bind fun _ => askLedger _

section

variable (intent : PaymentIntentRecord)

theorem postFee (charged : PaymentAttemptRecord) (accounts : KernelAccounts) (feeMinor : Int) (feeRuleId : String) :
    PortsOnly (service.postFee moment intent charged accounts feeMinor feeRuleId) := by
  unfold PaymentOrchestrator.postFee
  split
  · exact postEntry ..
  · exact pure _

theorem postReversalEntries (charged : PaymentAttemptRecord) :
    PortsOnly (service.postReversalEntries moment intent charged) :=
  (attempt _).bind fun _ => postEntry ..

theorem postRefundEntries (refund : RefundRecord) : PortsOnly (service.postRefundEntries moment intent refund) :=
  (attempt _).bind fun _ => postEntry ..

section

variable (charged : PaymentAttemptRecord)

include charged

theorem recordLedgerPostFailure (error : KernelError) :
    PortsOnly (service.recordLedgerPostFailure moment intent charged error) :=
  (attempt _).bind fun _ => emit ..

theorem emitSucceeded (feeMinor : Int)
    (feeRuleId : String) : PortsOnly (service.emitSucceeded moment intent charged feeMinor feeRuleId) :=
  (emit ..).bind fun _ => emit ..

theorem openAuthorizationHold : PortsOnly (service.openAuthorizationHold moment intent charged) :=
  (attempt _).bind fun _ => askLedger _

end

end

end PortsOnly

/-! Writes of the store -/

section Stores

variable {before : PaymentSystem} {intent : PaymentIntentRecord} {id : String}

theorem obeys_writeStore {write : PaymentStore → Except KernelError PaymentStore}
    (writes : ∀ store, write before.store = .ok store → Relation.ReflTransGen step before { before with store }) :
    Guarantees step (writeStore write) before fun _ after =>
      ∃ store, write before.store = .ok store ∧ after = { before with store } :=
  guarantees_get_bind (guarantees_attempt_bind fun store computed =>
    guarantees_set (writes store computed) ⟨store, computed, rfl⟩)

/-- A store write that finds what it expects and replaces one row. -/
theorem obeys_writeRow {write : PaymentStore → Except KernelError PaymentStore}
    (located : ∀ store, write before.store = .ok store →
      expected ∧ ({ before with store } : PaymentSystem) = put ∧ StoreWrite service before put) :
    Guarantees (Write service regime) (writeStore write) before fun _ after => expected ∧ after = put := by
  refine (obeys_writeStore fun store updated => ?_).weaken ?_
  · obtain ⟨-, written, row⟩ := located store updated
    rw [written]
    exact .single (.store row)
  · rintro _ _ _ ⟨store, updated, rfl⟩
    obtain ⟨found, written, -⟩ := located store updated
    exact ⟨found, written⟩

theorem hasIntent_of_get? (owning : Owning before)
    (found : before.store.intents.get? id = some intent) : before.HasIntent intent ∧ intent.paymentIntentId = id := by
  exact ⟨Dict.row_of_key found (owning.keys found), owning.keys found⟩

variable {attempt : PaymentAttemptRecord} {guard : Option Guard} {trigger : AttemptTrigger}

theorem hasAttempt_of_get? (numbering : Numbering before)
    (found : before.store.attempts.get? id = some attempt) : before.HasAttempt attempt ∧ attempt.attemptId = id := by
  exact ⟨Dict.row_of_key found (numbering.keys found), numbering.keys found⟩

theorem hasAttempt_of_mem (numbering : Numbering before)
    (member : attempt ∈ before.store.attempts.values) : before.HasAttempt attempt := by
  obtain ⟨id, found⟩ := Dict.get?_of_mem_values member
  exact (hasAttempt_of_get? numbering found).1

theorem obeys_updateIntent (owning : Owning before) {record : PaymentIntentRecord}
    (moves : ∀ old, before.HasIntent old → old.paymentIntentId = record.paymentIntentId → old.status = expected →
      IntentMoves before old record) :
    Guarantees (Write service regime) (writeStore (·.updateIntent record expected)) before fun _ after =>
      (∃ old, before.HasIntent old ∧ old.paymentIntentId = record.paymentIntentId ∧ old.status = expected) ∧
        after = before.putIntent record := by
  refine obeys_writeRow fun store updated => ?_
  obtain ⟨old, found, status, rfl⟩ := PaymentStore.replaced_ok updated
  obtain ⟨stored, same⟩ := hasIntent_of_get? owning found
  exact ⟨⟨old, stored, same, status⟩, rfl, .intentMoved stored (moves old stored same status)⟩

theorem obeys_updateAttempt (numbering : Numbering before)
    (moves : ∀ old, before.HasAttempt old → old.attemptId = record.attemptId → old.status = expected →
      AttemptMoves before old record) :
    Guarantees (Write service regime) (writeStore (·.updateAttempt record expected)) before fun _ after =>
      (∃ old, before.HasAttempt old ∧ old.attemptId = record.attemptId ∧ old.status = expected) ∧
        after = before.putAttempt record := by
  refine obeys_writeRow fun store updated => ?_
  obtain ⟨old, found, status, rfl⟩ := PaymentStore.replaced_ok updated
  obtain ⟨stored, same⟩ := hasAttempt_of_get? numbering found
  exact ⟨⟨old, stored, same, status⟩, rfl, .attemptMoved stored (moves old stored same status)⟩

/-! Moves along the tables -/

/-- An intent moved along its table; but for the ports nothing else changed. -/
structure IntentAdvanced (before : PaymentSystem) (intent : PaymentIntentRecord) (trigger : IntentTrigger)
    (updated : PaymentIntentRecord) (after : PaymentSystem) : Prop where
  rule : ∃ rule ∈ intentRules, rule.fromState = intent.status ∧ rule.trigger = trigger ∧ rule.toState = updated.status
  stored : ∃ old, before.HasIntent old ∧ old.paymentIntentId = intent.paymentIntentId ∧ old.status = intent.status
  same : updated.paymentIntentId = intent.paymentIntentId
  method : updated.method = intent.method
  written : ∃ ports, after = { before.putIntent updated with ports }

structure AttemptAdvanced (before : PaymentSystem) (attempt : PaymentAttemptRecord) (trigger : AttemptTrigger)
    (updated : PaymentAttemptRecord) (after : PaymentSystem) : Prop where
  rule : ∃ rule ∈ attemptRules, rule.fromState = attempt.status ∧ rule.trigger = trigger ∧
    rule.toState = updated.status
  stored : ∃ old, before.HasAttempt old ∧ old.attemptId = attempt.attemptId ∧ old.status = attempt.status
  same : updated.identity = attempt.identity
  polls : updated.pollCount = attempt.pollCount
  written : ∃ ports, after = { before.putAttempt updated with ports }

theorem obeys_advanceIntent (owning : Owning before) {trigger : IntentTrigger}
    (moves : ∀ old new, before.HasIntent old → old.paymentIntentId = intent.paymentIntentId →
      old.status = intent.status → new.paymentIntentId = old.paymentIntentId →
      (∃ rule ∈ intentRules, rule.fromState = old.status ∧ rule.trigger = trigger ∧ rule.toState = new.status) →
      IntentMoves before old new) :
    Guarantees (Write service regime) (advanceIntent moment intent trigger guard deferAudit) before
      (IntentAdvanced before intent trigger) := by
  unfold advanceIntent
  refine guarantees_attempt_bind fun toState found => ?_
  obtain ⟨rule, listed, source, asked, target⟩ := resolved_ok found
  refine (obeys_updateIntent owning ?_).bind fun _ middle _ wrote => ?_
  · intro old stored same status
    exact moves old _ stored same status same.symm ⟨rule, listed, source.trans status.symm, asked, target⟩
  · obtain ⟨⟨old, stored, same, status⟩, rfl⟩ := wrote
    refine ((PortsOnly.auditUnless ..).guarantees _).bind fun _ last _ audited => ?_
    exact guarantees_pure ⟨⟨rule, listed, source, asked, target⟩, ⟨old, stored, same, status⟩, rfl, rfl, audited⟩

theorem obeys_advanceAttempt (numbering : Numbering before)
    (moves : ∀ old new, before.HasAttempt old → old.attemptId = attempt.attemptId → old.status = attempt.status →
      new.identity = attempt.identity → new.pollCount = attempt.pollCount →
      (∃ rule ∈ attemptRules, rule.fromState = old.status ∧ rule.trigger = trigger ∧ rule.toState = new.status) →
      AttemptMoves before old new) :
    Guarantees (Write service regime) (advanceAttempt moment attempt trigger guard) before
      (AttemptAdvanced before attempt trigger) := by
  unfold advanceAttempt
  refine guarantees_attempt_bind fun toState found => ?_
  obtain ⟨rule, listed, source, asked, target⟩ := resolved_ok found
  refine (obeys_updateAttempt numbering ?_).bind fun _ middle _ wrote => ?_
  · intro old stored same status
    exact moves old _ stored same status rfl rfl ⟨rule, listed, source.trans status.symm, asked, target⟩
  · obtain ⟨⟨old, stored, same, status⟩, rfl⟩ := wrote
    refine ((PortsOnly.audit _).guarantees _).bind fun _ last _ audited => ?_
    exact guarantees_pure ⟨⟨rule, listed, source, asked, target⟩, ⟨old, stored, same, status⟩, rfl, rfl, audited⟩

/-! The triggers that no circumstance guards -/

/-- The triggers by which a dispatched intent is decided. -/
def decidingTriggers : List IntentTrigger :=
  [.attemptHardDeclined, .attemptCharged, .attemptAuthorized, .reversalFailed]

theorem intentRules_undecided : ∀ rule ∈ intentRules, rule.trigger ∉ decidingTriggers →
    (rule.fromState = .processing → rule.toState ≠ .failed ∧ rule.toState ≠ .succeeded ∧
      rule.toState ≠ .requiresCapture) ∧
    (rule.fromState = .reversalInitiated ∨ rule.fromState = .reversalPending → rule.toState ≠ .failed) := by
  decide

variable {old new : PaymentIntentRecord}

theorem IntentMoves.of_rule {trigger : IntentTrigger}
    (free : trigger ∉ decidingTriggers) (same : new.paymentIntentId = old.paymentIntentId)
    (declared : ∃ rule ∈ intentRules, rule.fromState = old.status ∧ rule.trigger = trigger ∧
      rule.toState = new.status) : IntentMoves before old new := by
  obtain ⟨rule, listed, source, asked, target⟩ := declared
  have undecided := intentRules_undecided rule listed (asked ▸ free)
  rw [source, target] at undecided
  constructor
  case same => exact same
  case declared => exact .inr ⟨rule, listed, source, target⟩
  case declined => exact fun processing failed => absurd failed (undecided.1 processing).1
  case unreversed => exact fun reversing failed => absurd failed (undecided.2 reversing)
  case charged =>
    intro processing settled
    rcases settled with status | status
    · exact absurd status (undecided.1 processing).2.1
    · exact absurd status (undecided.1 processing).2.2

theorem IntentMoves.of_status_eq (same : new.paymentIntentId = old.paymentIntentId)
    (status : new.status = old.status) : IntentMoves before old new := by
  constructor
  case same => exact same
  case declared => exact .inl status
  case declined =>
    intro processing failed
    rw [status, processing] at failed
    cases failed
  case unreversed =>
    intro reversing failed
    rw [status] at failed
    rcases reversing with initiated | pending
    · rw [initiated] at failed
      cases failed
    · rw [pending] at failed
      cases failed
  case charged =>
    intro processing settled
    rw [status, processing] at settled
    rcases settled with other | other <;> cases other

theorem obeys_advance_free (owning : Owning before) {trigger : IntentTrigger} (free : trigger ∉ decidingTriggers) :
    Guarantees (Write service regime) (advanceIntent moment intent trigger guard deferAudit) before
      (IntentAdvanced before intent trigger) :=
  obeys_advanceIntent owning fun _ _ _ _ _ same declared => .of_rule free same declared

/-- A free advance that is only announced. -/
theorem obeys_advance_only (owning : Owning before) {trigger : IntentTrigger} (free : trigger ∉ decidingTriggers)
    (only : ∀ updated, PortsOnly (next updated)) :
    Obeys service regime (advanceIntent moment intent trigger guard deferAudit >>= next) before :=
  .bind (obeys_advance_free owning free) fun _ _ _ _ => (only _).any

/-- A snapshot of an attempt that may be written back: it is about the stored one, and counted no poll more. -/
def Continues (before : PaymentSystem) (attempt : PaymentAttemptRecord) : Prop :=
  ∀ old, before.HasAttempt old → old.attemptId = attempt.attemptId →
    attempt.identity = old.identity ∧ (maxStatusPolls ≤ attempt.pollCount → maxStatusPolls ≤ old.pollCount)

theorem continues_of_hasAttempt (stored : before.HasAttempt attempt) (kept : record.identity = attempt.identity)
    (polls : maxStatusPolls ≤ record.pollCount → maxStatusPolls ≤ attempt.pollCount) : Continues before record := by
  intro old oldStored same
  rw [oldStored.unique stored (same.trans (identity_eq kept).1)]
  exact ⟨kept, polls⟩

/-- The triggers by which a poll ends an attempt. -/
def endingTriggers : List AttemptTrigger := [.pollFailed, .pollExhausted]

/-- The triggers that do not say the rail has the money. -/
def quietTriggers : List AttemptTrigger :=
  [.submitted, .connectorFailed, .connectorRejected, .connectorTimeout, .pollPending, .captureSubmitted,
    .captureConfirmed, .voidSubmitted, .reversalSubmitted]

theorem attemptRules_not_ended : ∀ rule ∈ attemptRules, rule.trigger ∉ endingTriggers →
    rule.fromState = .timedOut → rule.toState ≠ .authorizationFailed := by
  decide

theorem attemptRules_quiet : ∀ rule ∈ attemptRules, rule.trigger ∈ quietTriggers →
    rule.fromState ∈ openAttempts → rule.toState ∉ openAttempts → rule.toState = .authorizationFailed := by
  decide

variable {old new : PaymentAttemptRecord}

theorem AttemptMoves.of_rule (free : trigger ∉ endingTriggers) (same : new.identity = old.identity)
    (counted : maxStatusPolls ≤ new.pollCount → maxStatusPolls ≤ old.pollCount)
    (heard : trigger ∈ quietTriggers ∨ Settled before new)
    (declared : ∃ rule ∈ attemptRules, rule.fromState = old.status ∧ rule.trigger = trigger ∧
      rule.toState = new.status) : AttemptMoves before old new := by
  obtain ⟨rule, listed, source, asked, target⟩ := declared
  constructor
  case same => exact same
  case declared => exact .inr ⟨rule, listed, source, target⟩
  case ended =>
    intro timedOut failed
    exact absurd (target.trans failed) (attemptRules_not_ended rule listed (asked ▸ free) (source.trans timedOut))
  case counted => exact fun spent => .inl (counted spent)
  case stands => exact fun failed => absurd (source.trans failed) (attemptRules_not_from_failed rule listed)
  case heard =>
    intro opened closed
    rcases heard with quiet | settled
    · rw [← source] at opened
      rw [← target] at closed ⊢
      exact .inl (attemptRules_quiet rule listed (asked ▸ quiet) opened closed)
    · exact .inr settled

theorem AttemptMoves.of_status_eq (same : new.identity = old.identity)
    (counted : maxStatusPolls ≤ new.pollCount → maxStatusPolls ≤ old.pollCount)
    (stands : old.status = .authorizationFailed → new.pollCount = old.pollCount) (status : new.status = old.status) :
    AttemptMoves before old new := by
  constructor
  case same => exact same
  case declared => exact .inl status
  case ended =>
    intro timedOut failed
    rw [status, timedOut] at failed
    cases failed
  case counted => exact fun spent => .inl (counted spent)
  case stands => exact stands
  case heard => exact fun opened closed => absurd (status ▸ opened) closed

theorem obeys_advanceAttempt_free (numbering : Numbering before) (free : trigger ∉ endingTriggers)
    (heard : trigger ∈ quietTriggers ∨ Settled before attempt) (continues : Continues before attempt) :
    Guarantees (Write service regime) (advanceAttempt moment attempt trigger guard) before
      (AttemptAdvanced before attempt trigger) := by
  refine obeys_advanceAttempt numbering ?_
  intro old new stored sameId _ same polls declared
  obtain ⟨identity, counted⟩ := continues old stored sameId
  exact .of_rule free (same.trans identity) (polls ▸ counted) (heard.imp_right (·.congr same.symm)) declared

end Stores

end BdPay.Kernel
