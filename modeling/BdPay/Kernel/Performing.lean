import BdPay.Kernel.Bookings

namespace BdPay.Kernel

open Platform Data Effect PaymentSystem PaymentOrchestrator PaymentStore

/-! Every operation that returns has done deeds. -/

variable {service : PaymentOrchestrator} {before : PaymentSystem} {intent : PaymentIntentRecord}
  {attempt : PaymentAttemptRecord} {guard : Option Guard} {call : Call} {α : Type}

/-! Programs that write one row, one call, or nothing of the books. -/

section Primitives

variable {returns : Unit → PaymentSystem → Prop}

/-- What holds of a system with the same books and calls. -/
abbrev Idles (before : PaymentSystem) (returns : Unit → PaymentSystem → Prop) : Prop :=
  ∀ after, after.books = before.books → after.calls = before.calls → returns () after

theorem yields_writePorts {write : Ports → Ports} (ledger : (write before.ports).ledger = before.ports.ledger)
    (holds : (write before.ports).openHolds = before.ports.openHolds) (idle : Idles before returns) :
    Yields (writePorts write) before returns := by
  refine yields_modify.mpr (idle _ ?_ rfl)
  simp only [PaymentSystem.books, ledger, holds]

theorem yields_audit (idle : Idles before returns) : Yields (audit entry) before returns :=
  yields_writePorts rfl rfl idle

theorem yields_auditUnless (idle : Idles before returns) :
    Yields (auditUnless deferred intent fromState toState) before returns := by
  rw [auditUnless, yields_ite]
  exact ⟨fun _ => yields_pure.mpr (idle _ rfl rfl), fun _ => yields_audit idle⟩

theorem yields_emit (idle : Idles before returns) :
    Yields (service.emit moment eventType intent payload subjectType subjectId topic) before returns := by
  unfold emit
  exact yields_writePorts rfl rfl idle

theorem yields_emitAttempt (idle : Idles before returns) :
    Yields (service.emitAttempt moment eventType intent attempt) before returns :=
  yields_emit idle

theorem yields_observe (idle : Idles before returns) : Yields (observe observation) before returns :=
  yields_modify.mpr (idle _ rfl rfl)

theorem yields_suspend
    (added : ∀ after, after.books = before.books → after.calls = before.calls ++ [call] → returns () after) :
    Yields (suspend call) before returns :=
  yields_modify.mpr (added _ rfl rfl)

theorem yields_onRunner {returns : α → PaymentSystem → Prop}
    (idle : ∀ value runner after, program before.runner = .ok value runner → after.books = before.books →
      after.calls = before.calls → returns value after) : Yields (onRunner program) before returns := by
  refine yields_zoom.mpr (yields_of_forall fun value runner ran => ?_)
  exact idle value runner _ ran rfl rfl

theorem yields_askLedger {call : LedgerCall}
    (logged : ∀ after, after.books = before.books.log call → after.calls = before.calls → returns () after) :
    Yields (askLedger moment call) before returns := by
  rw [askLedger, yields_bind, yields_raiseIf]
  intro _
  refine yields_modify.mpr (logged _ ?_ rfl)
  cases call <;> rfl

theorem yields_writeStore {write : PaymentStore → Except KernelError PaymentStore} :
    Yields (writeStore write) before returns ↔
      ∀ store, write before.store = .ok store → returns () { before with store } := by
  simp only [writeStore, yields_bind, yields_get, yields_attempt, yields_set]

theorem yields_updateIntent
    (written : ∀ current after, before.books.store.intents.get? record.paymentIntentId = some current →
      current.status = expected → after.books = before.books.putIntent record → after.calls = before.calls →
        returns () after) : Yields (writeStore (·.updateIntent record expected)) before returns := by
  refine yields_writeStore.mpr fun store updated => ?_
  obtain ⟨current, found, fresh, rfl⟩ := replaced_ok updated
  exact written current _ found fresh rfl rfl

theorem yields_updateAttempt
    (written : ∀ current after, before.books.store.attempts.get? record.attemptId = some current →
      current.status = expected → after.books = before.books.putAttempt record → after.calls = before.calls →
        returns () after) : Yields (writeStore (·.updateAttempt record expected)) before returns := by
  refine yields_writeStore.mpr fun store updated => ?_
  obtain ⟨current, found, fresh, rfl⟩ := replaced_ok updated
  exact written current _ found fresh rfl rfl

theorem yields_updateRefund (written : ∀ current after, before.books.store.refunds.get? record.refundId = some current →
      current.status = expected → after.books = before.books.putRefund record → after.calls = before.calls →
        returns () after) : Yields (writeStore (·.updateRefund record expected)) before returns := by
  refine yields_writeStore.mpr fun store updated => ?_
  obtain ⟨current, found, fresh, rfl⟩ := replaced_ok updated
  exact written current _ found fresh rfl rfl

end Primitives

/-! Moves along the tables. -/

variable {σ τ γ : Type}

/-- What every rule of a trigger says of its two ends. -/
theorem resolved_rule [DecidableEq σ] [DecidableEq τ] [DecidableEq γ] {table : TransitionTable σ τ γ} {guard : Option γ}
    (found : resolved table fromState trigger guard = .ok target) (holds : σ → σ → Prop)
    (rules : ∀ rule ∈ table.rules, rule.trigger = trigger → holds rule.fromState rule.toState) :
    holds fromState target := by
  obtain ⟨rule, listed, rfl, triggered, rfl⟩ := resolved_ok found
  exact rules rule listed triggered

theorem resolved_move [DecidableEq σ] [DecidableEq τ] [DecidableEq γ] {table : TransitionTable σ τ γ} {guard : Option γ}
    (found : resolved table fromState trigger guard = .ok target) (old new : σ)
    (rules : ∀ rule ∈ table.rules, rule.trigger = trigger → rule.fromState = old ∧ rule.toState = new) :
    fromState = old ∧ target = new :=
  resolved_rule found (fun fromState target => fromState = old ∧ target = new) rules

theorem yields_advanceIntent {trigger : IntentTrigger} (moved : ∀ target current new after,
      resolved intentTable intent.status trigger guard = .ok target →
      before.books.store.intents.get? intent.paymentIntentId = some current → current.status = intent.status →
      new.terms = intent.terms → new.method = intent.method → new.status = target →
      after.books = before.books.putIntent new → after.calls = before.calls → returns new after) :
    Yields (advanceIntent moment intent trigger guard deferAudit) before returns := by
  simp only [advanceIntent, yields_bind, yields_attempt]
  intro target found
  refine yields_updateIntent fun current middle stored status books calls => ?_
  refine yields_auditUnless fun after same kept => yields_pure.mpr ?_
  exact moved target current _ after found stored status rfl rfl rfl (same.trans books) (kept.trans calls)

theorem yields_advanceAttempt {trigger : AttemptTrigger} (moved : ∀ target current new after,
      resolved attemptTable attempt.status trigger guard = .ok target →
      before.books.store.attempts.get? attempt.attemptId = some current → current.status = attempt.status →
      new.terms = attempt.terms → new.status = target → after.books = before.books.putAttempt new →
      after.calls = before.calls → returns new after) :
    Yields (advanceAttempt moment attempt trigger guard) before returns := by
  simp only [advanceAttempt, yields_bind, yields_attempt]
  intro target found
  refine yields_updateAttempt fun current middle stored status books calls => ?_
  refine yields_audit fun after same kept => yields_pure.mpr ?_
  exact moved target current _ after found stored status rfl rfl (same.trans books) (kept.trans calls)

theorem yields_advanceRefund {trigger : RefundTrigger} (moved : ∀ target current new after,
      resolved refundTable refund.status trigger none = .ok target →
      before.books.store.refunds.get? refund.refundId = some current → current.status = refund.status →
      new.terms = refund.terms → new.status = target → after.books = before.books.putRefund new →
      after.calls = before.calls → returns new after) :
    Yields (advanceRefund moment refund trigger) before returns := by
  simp only [advanceRefund, yields_bind, yields_attempt]
  intro target found
  refine yields_updateRefund fun current middle stored status books calls => ?_
  refine yields_audit fun after same kept => yields_pure.mpr ?_
  exact moved target current _ after found stored status rfl rfl (same.trans books) (kept.trans calls)

theorem yields_requireRow {α : Type} {row? : PaymentStore → Option α} {returns : α → PaymentSystem → Prop} :
    Yields (requireRow row? message) before returns ↔ ∀ row, row? before.store = some row → returns row before := by
  rw [requireRow, yields_bind, yields_get]
  cases row? before.store <;> simp [yields_pure, yields_throw]

theorem yields_requireIntent : Yields (requireIntent intentId) before returns ↔
      ∀ intent, before.books.store.intents.get? intentId = some intent → returns intent before :=
  yields_requireRow

theorem yields_requireAttempt : Yields (requireAttempt attemptId) before returns ↔
      ∀ attempt, before.books.store.attempts.get? attemptId = some attempt → returns attempt before :=
  yields_requireRow

theorem yields_requireRefund : Yields (requireRefund refundId) before returns ↔
      ∀ refund, before.books.store.refunds.get? refundId = some refund → returns refund before :=
  yields_requireRow

theorem yields_requirePspLicense (idle : returns () before) : Yields service.requirePspLicense before returns :=
  yields_raiseIf.mpr fun _ => idle

/-! Entries and fees. -/

theorem yields_postEntry (posted : ∀ call after,
      Entry call referenceId referenceType entryType debited credited amount →
      after.books = before.books.log call → after.calls = before.calls → returns () after) :
    Yields (service.postEntry moment referenceId referenceType entryType description keyField keyId debited credited
      amount) before returns := by
  simp only [postEntry, yields_bind, yields_attempt]
  intro key _
  exact yields_askLedger fun after books calls => posted _ after ⟨_, _, rfl⟩ books calls

theorem yields_postFee (posted : ∀ fee fees after, FeePosted accounts intent.paymentIntentId fee fees →
      after.books = fees.foldl Books.log before.books → after.calls = before.calls → returns () after) :
    Yields (service.postFee moment intent attempt accounts feeMinor feeRuleId) before returns := by
  rw [postFee, yields_ite]
  refine ⟨fun positive => ?_, fun _ => yields_pure.mpr (posted 0 [] _ .none rfl rfl)⟩
  refine yields_postEntry fun call after entry books calls => ?_
  exact posted feeMinor [call] after (.collected feeMinor call positive entry) books calls

/-! Where operations get to. -/

/-- What a suspended submit knows: the rows it may still write. -/
structure Snapped (books : Books) (intent : PaymentIntentRecord) (attempt : PaymentAttemptRecord) : Prop where
  intentRow : ∃ current, books.HasIntent current ∧ current.paymentIntentId = intent.paymentIntentId ∧
    current.status ∉ undispatched ∧ (current.status = .processing → intent.terms = current.terms ∧ intent.method = current.method)
  attemptRow : ∃ current, books.HasAttempt current ∧ current.attemptId = attempt.attemptId ∧
    (current.status = .authorizationPending → attempt.terms = current.terms)
  owner : attempt.paymentIntentId = intent.paymentIntentId
  waiting : attempt.status = .authorizationPending
  processing : intent.status = .processing

def Call.Fresh (books : Books) : Call → Prop
  | .submit intent attempt _ _ _ _ => Snapped books intent attempt
  | .backoff intent attempt _ _ _ => Snapped books intent attempt
  | _ => True

section Snapped

open Books

variable {books : Books}

structure AttemptMovesOn (old new : PaymentAttemptRecord) : Prop where
  id : new.attemptId = old.attemptId
  owner : new.paymentIntentId = old.paymentIntentId
  turn : new.status = old.status ∨ (old.status, new.status) ∈ attemptTurns
  terms : new.status = .authorizationPending → new.terms = old.terms

theorem AttemptMovesOn.kept (moves : AttemptMovesOn old new)
    (waiting : new.status = .authorizationPending) : old.status = .authorizationPending ∧ new.terms = old.terms := by
  have ends : ∀ turn ∈ attemptTurns, turn.2 ≠ .authorizationPending := by decide
  refine ⟨?_, moves.terms waiting⟩
  rcases moves.turn with same | turns
  · exact same.symm.trans waiting
  · exact absurd waiting (ends _ turns)

theorem Deed.attemptMoves (deed : Deed service licence books next)
    (stored : books.HasAttempt attempt) : ∃ moved, next.HasAttempt moved ∧ AttemptMovesOn attempt moved := by
  have self : AttemptMovesOn attempt attempt := ⟨rfl, rfl, .inl rfl, fun _ => rfl⟩
  cases deed.attempts with
  | kept same =>
    exact ⟨attempt, (hasAttempt_of_eq same).mpr stored, self⟩
  | opened _ new put _ _ fresh =>
    exact ⟨attempt, (hasAttempt_of_put put).mpr (.inr ⟨stored, stored.ne_of_fresh fresh⟩), self⟩
  | moved old new put held terms turn kept =>
    have id : new.attemptId = old.attemptId := congrArg AttemptTerms.attemptId terms
    by_cases here : attempt.attemptId = new.attemptId
    · obtain rfl := stored.unique held (here.trans id)
      exact ⟨new, (hasAttempt_of_put put).mpr (.inl rfl), id, congrArg AttemptTerms.paymentIntentId terms, turn, kept⟩
    · exact ⟨attempt, (hasAttempt_of_put put).mpr (.inr ⟨stored, here⟩), self⟩

theorem Snapped.deed (snapped : Snapped books intent attempt)
    (deed : Deed service licence books next) : Snapped next intent attempt where
  intentRow := by
    obtain ⟨current, stored, same, late, kept⟩ := snapped.intentRow
    obtain ⟨moved, held, moves⟩ := deed.intentMoves stored
    refine ⟨moved, held, moves.id.trans same, moves.late late, fun processing => ?_⟩
    obtain ⟨was, terms, method⟩ := moves.kept late processing
    rw [terms, method]
    exact kept was
  attemptRow := by
    obtain ⟨current, stored, same, kept⟩ := snapped.attemptRow
    obtain ⟨moved, held, moves⟩ := deed.attemptMoves stored
    refine ⟨moved, held, moves.id.trans same, fun waiting => ?_⟩
    obtain ⟨was, terms⟩ := moves.kept waiting
    rw [terms]
    exact kept was
  owner := snapped.owner
  waiting := snapped.waiting
  processing := snapped.processing

theorem Call.Fresh.deeds (fresh : call.Fresh books)
    (deeds : Relation.ReflTransGen (Deed service licence) books next) : call.Fresh next := by
  induction deeds with
  | refl => exact fresh
  | tail _ deed ih =>
    cases call with
    | submit | backoff => exact Snapped.deed ih deed
    | poll | reversal | refund => trivial

end Snapped

/-- An operation has done deeds, and the coroutines it left know their rows. -/
structure Goes (service : PaymentOrchestrator) (licence : Licence) (before after : PaymentSystem) : Prop where
  deeds : Relation.ReflTransGen (Deed service licence) before.books after.books
  calls : ∀ call ∈ after.calls, call ∈ before.calls ∨ call.Fresh after.books

abbrev Proceeds {α : Type} (service : PaymentOrchestrator) (licence : Licence) (program : KernelM α)
    (before : PaymentSystem) : Prop :=
  Yields program before fun _ => Goes service licence before

namespace Goes

variable {after : PaymentSystem}

theorem idle (books : after.books = before.books) (calls : after.calls = before.calls) :
    Goes service licence before after where
  deeds := books ▸ .refl
  calls := fun _ member => .inl (calls ▸ member)

theorem deed (deed : Deed service licence before.books after.books) (calls : after.calls = before.calls) :
    Goes service licence before after where
  deeds := .single deed
  calls := fun _ member => .inl (calls ▸ member)

theorem trans (first : Goes service licence before after) (second : Goes service licence after last) :
    Goes service licence before last where
  deeds := first.deeds.trans second.deeds
  calls := by
    intro call member
    rcases second.calls call member with earlier | fresh
    · exact (first.calls call earlier).imp_right fun fresh => fresh.deeds second.deeds
    · exact .inr fresh

theorem suspended (there : Goes service licence before after) (books : last.books = after.books)
    (calls : last.calls = after.calls ++ [call]) (fresh : call.Fresh after.books) :
    Goes service licence before last := by
  refine there.trans ⟨books ▸ .refl, fun other member => ?_⟩
  rw [calls, List.mem_append, List.mem_singleton] at member
  refine member.imp_right fun given => ?_
  rw [given, books]
  exact fresh

theorem follow (there : Goes service licence before after)
    (yields : Yields program after fun _ last => Goes service licence after last) :
    Yields program after fun _ last => Goes service licence before last :=
  yields.mono fun _ _ goes => there.trans goes

end Goes

end BdPay.Kernel
