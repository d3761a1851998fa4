import BdPay.Kernel.Answering

namespace BdPay.Kernel

open Data Effect PaymentSystem PaymentOrchestrator Books Goes

/-! The sweep of expired intents, refunds, and callbacks for either. -/

variable {service : PaymentOrchestrator} {licence : Licence} {moment : Moment} {before : PaymentSystem}
  {attempt : PaymentAttemptRecord} {refund : RefundRecord} {paymentIntentId : String} {books : Books}

/-! The sweep -/

theorem Listed.putIntent (row : Listed books intent)
    (swept : Listed books other) (terms : new.terms = other.terms) (method : new.method = other.method) :
    Listed (books.putIntent new) intent := by
  obtain ⟨current, held, id, sameTerms, sameMethod⟩ := row
  obtain ⟨old, was, oldId, oldTerms, oldMethod⟩ := swept
  have newId : new.paymentIntentId = other.paymentIntentId := congrArg IntentTerms.paymentIntentId terms
  by_cases here : current.paymentIntentId = new.paymentIntentId
  · obtain rfl := held.unique was (here.trans (newId.trans oldId.symm))
    refine ⟨new, hasIntent_putIntent.mpr (.inl rfl), here.symm.trans id, ?_, ?_⟩
    · rw [sameTerms, terms, oldTerms]
    · rw [sameMethod, method, oldMethod]
  · exact ⟨current, hasIntent_putIntent.mpr (.inr ⟨held, here⟩), id, sameTerms, sameMethod⟩

/-- The sweep of one intent writes its row at most. -/
theorem yields_sweepIntent (row : Listed before.books intent)
    (sent : intent.status = .processing → licence.orphan ∨ before.books.Sent intent.paymentIntentId) :
    Yields (service.sweepIntent moment intent) before fun _ after => Goes service licence before after ∧
      ∀ other, Listed before.books other → Listed after.books other := by
  have swept : ∀ (changed : PaymentIntentRecord) (announce : PaymentIntentRecord → KernelM Unit),
      changed.terms = intent.terms → changed.status = intent.status → changed.method = intent.method →
      (∀ new middle, Yields (announce new) middle fun _ after => after.books = middle.books ∧ after.calls = middle.calls) →
      Yields (do let updated ← advanceIntent moment changed .ttlExpired; announce updated) before
        fun _ after => Goes service licence before after ∧ ∀ other, Listed before.books other → Listed after.books other := by
    intro changed announce terms status method announces
    rw [yields_bind]
    refine yields_move service licence changed row terms status (fun _ => method) (by decide) (.inr sent)
      fun target new middle _ newTerms newMethod _ books deed calls => ?_
    refine (announces new middle).mono
      fun _ after quiet => ⟨(Goes.deed deed calls).trans (Goes.idle quiet.1 quiet.2), ?_⟩
    intro other listed
    rw [quiet.1, books]
    exact listed.putIntent row newTerms (newMethod.trans method)
  unfold sweepIntent
  have idle : Goes service licence before before ∧ ∀ other, Listed before.books other → Listed before.books other :=
    ⟨idle rfl rfl, fun _ listed => listed⟩
  split
  iterate 3
    · exact swept { intent with cancelledAt := some moment.now } _ rfl rfl rfl
        fun _ _ => yields_emit fun _ same kept => ⟨same, kept⟩
  · exact swept intent _ rfl rfl rfl fun _ _ => yields_emitFailed fun _ same kept => ⟨same, kept⟩
  · exact swept intent _ rfl rfl rfl fun _ _ => yields_emit fun _ same kept => ⟨same, kept⟩
  · exact swept intent _ rfl rfl rfl fun _ _ => yields_emit fun _ same kept => ⟨same, kept⟩
  · exact yields_pure.mpr idle

theorem Books.Sent.deeds (sent : books.Sent paymentIntentId)
    (deeds : Relation.ReflTransGen (Deed service licence) books next) : next.Sent paymentIntentId := by
  induction deeds with
  | refl => exact sent
  | tail _ deed ih =>
    obtain ⟨attempt, tried, owner⟩ := ih
    obtain ⟨moved, held, moves⟩ := deed.attemptMoves tried
    exact ⟨moved, held, moves.owner.trans owner⟩

theorem mem_listExpiredIntents (ordered : books.Ordered)
    (listed : intent ∈ books.store.listExpiredIntents now) : books.HasIntent intent := by
  rw [PaymentStore.listExpiredIntents, (List.perm_insertionSort _ _).mem_iff, List.mem_filter] at listed
  obtain ⟨key, found⟩ := Dict.get?_of_mem_values listed.1
  exact ordered.hasIntent found

theorem yields_sweepExpiredIntents (ordered : before.books.Ordered)
    (sent : ∀ intent ∈ before.store.listExpiredIntents moment.now, intent.status = .processing →
      licence.orphan ∨ before.books.Sent intent.paymentIntentId) :
    Proceeds service licence (service.sweepExpiredIntents moment) before := by
  simp only [sweepExpiredIntents, yields_bind, yields_get]
  -- The list is made once: what is left of it keeps its rows while the others are swept.
  refine (yields_forEach (fun rest state => Goes service licence before state ∧
    ∀ intent ∈ rest, Listed state.books intent ∧ (intent.status = .processing →
      licence.orphan ∨ state.books.Sent intent.paymentIntentId)) ⟨idle rfl rfl, fun intent member => ?_⟩ ?_).mono
        fun _ after swept => swept.1
  · exact ⟨(mem_listExpiredIntents ordered member).listed, sent intent member⟩
  · intro intent rest state inv
    obtain ⟨row, orphan⟩ := inv.2 intent List.mem_cons_self
    refine (yields_sweepIntent row orphan).mono fun _ after swept => ⟨inv.1.trans swept.1, fun other member => ?_⟩
    obtain ⟨listed, otherSent⟩ := inv.2 other (List.mem_cons_of_mem _ member)
    exact ⟨swept.2 other listed, fun processing => (otherSent processing).imp_right
      fun sent => sent.deeds swept.1.deeds⟩

/-! Refunds -/

theorem yields_refundedTotal :
    Yields (refundedTotal paymentIntentId) before returns ↔ returns (before.books.refunded paymentIntentId) before := by
  rw [refundedTotal, yields_bind, yields_get, yields_pure]
  rfl

theorem yields_createRefund (ordered : before.books.Ordered) :
    Proceeds service licence (service.createRefund moment paymentIntentId amount reason idempotencyKey) before := by
  simp only [createRefund, yields_bind, yields_raiseIf, yields_requireIntent, yields_get]
  refine yields_requirePspLicense fun _ intent stored => ?_
  split
  · simp only [yields_bind, yields_raiseIf, yields_pure]
    exact fun _ => idle rfl rfl
  · simp only [openRefund, chargedAttempt, reservedRefundTotal,
      yields_bind, yields_raiseIf, yields_get, yields_pure]
    intro refundable
    split
    · exact yields_throw.mpr trivial
    · simp only [yields_bind, yields_raiseIf, yields_attempt, yields_get, yields_pure]
      intro _ ids _
      split
      · simp only [yields_bind]
        refine yields_writeStore.mpr fun store inserted => ?_
        unfold PaymentStore.insertRefund at inserted
        split_ifs at inserted with known used
        cases inserted
        refine yields_advanceIntent fun target current new first found held status terms method reached books calls => ?_
        obtain rfl : target = .refundInitiated := resolved_rule found (fun _ new => new = .refundInitiated) (by decide)
        refine yields_emit fun after same kept => yields_pure.mpr (deed ?_ (kept.trans calls))
        rw [same, books]
        refine .refundOpened intent new _ (ordered.hasIntent stored) ⟨terms, fun _ => method⟩ ?_ reached
          (Dict.contains_eq_false_iff.mp (Bool.eq_false_iff.mpr known)) rfl rfl
        by_contra neither
        exact refundable (not_or.mp neither)
      · exact yields_throw.mpr trivial

theorem yields_dispatchRefund (stored : before.books.HasRefund refund) :
    Proceeds service licence (dispatchRefund moment refund) before := by
  rw [Proceeds, dispatchRefund, yields_ite]
  refine ⟨fun initiated => ?_, fun _ => yields_pure.mpr (idle rfl rfl)⟩
  refine yields_advanceRefund fun target _ new after found _ _ terms reached books calls => deed ?_ calls
  obtain rfl : target = .refundPendingConnector :=
    resolved_rule found (fun _ new => new = .refundPendingConnector) (by decide)
  rw [books]
  exact .refundKept refund new stored terms (.inl initiated) reached

theorem yields_refundSettled (stored : before.books.HasRefund refund) (owned : before.books.HasIntent intent)
    (owner : refund.paymentIntentId = intent.paymentIntentId) :
    Proceeds service licence (service.refundSettled moment intent refund result) before := by
  simp only [refundSettled, postRefundEntries, yields_bind, yields_refundedTotal,
    yields_raiseIf, yields_attempt]
  intro within
  refine yields_advanceRefund fun target _ new first found _ _ terms reached written started => ?_
  obtain ⟨waiting, rfl⟩ := resolved_move found .refundPendingConnector .refundSucceeded (by decide)
  intro accounts resolved
  refine yields_postEntry fun entry second posted logged kept => ?_
  refine yields_advanceIntent fun target _ after third found _ _ afterTerms method ended moved calls => ?_
  refine yields_emit fun last same idle => deed ?_ (idle.trans (calls.trans (kept.trans started)))
  have initiated : intent.status = .refundInitiated ∨ intent.status = .partiallyRefunded := by
    split at found
    · exact resolved_rule found (fun old _ => old = .refundInitiated ∨ old = .partiallyRefunded) (by decide)
    · exact resolved_rule found (fun old _ => old = .refundInitiated ∨ old = .partiallyRefunded) (by decide)
  have ends : target = if intent.amountMinor ≤ second.books.refunded intent.paymentIntentId then .refunded
      else .partiallyRefunded := by
    split at found
    · rename_i full
      rw [if_pos full]
      exact resolved_rule found (fun _ new => new = .refunded) (by decide)
    · rename_i part
      rw [if_neg part]
      exact resolved_rule found (fun _ new => new = .partiallyRefunded) (by decide)
  rw [same, moved, logged, written]
  rw [logged, written] at ends
  exact .refundSettled refund new intent after accounts entry _ _ stored terms waiting reached owned owner
    ⟨afterTerms, fun _ => method⟩ initiated rfl (not_lt.mp within) rfl (ended.trans ends) resolved posted

/-- A refund that failed gives its intent back. -/
theorem yields_returnIntent (stored : before.books.HasRefund old)
    (terms : new.terms = old.terms) (waiting : old.status = .refundPendingConnector)
    (failed : new.status = .refundFailed)
    (owned : before.books.HasIntent intent) (owner : old.paymentIntentId = intent.paymentIntentId)
    (written : middle.books = before.books.putRefund new) (calls : middle.calls = before.calls) :
    Yields (service.returnIntentAfterRefundFailure moment intent refund) middle fun _ => Goes service licence before := by
  simp only [returnIntentAfterRefundFailure, yields_bind, yields_refundedTotal]
  refine yields_advanceIntent fun target _ after first found _ _ afterTerms method ended moved kept => ?_
  refine yields_emit fun last same idle => deed ?_ (idle.trans (kept.trans calls))
  have initiated : intent.status = .refundInitiated :=
    resolved_rule found (fun old _ => old = .refundInitiated) (by decide)
  have back : target = if 0 < middle.books.refunded intent.paymentIntentId then .partiallyRefunded else .succeeded := by
    rw [initiated] at found
    split at found
    · rename_i partly
      rw [if_pos partly]
      exact (Except.ok.inj found).symm
    · rename_i nothing
      rw [if_neg nothing]
      exact (Except.ok.inj found).symm
  rw [same, moved, written]
  rw [written] at back
  exact .refundFailed old new intent after _ stored terms waiting failed owned owner
    ⟨afterTerms, fun _ => method⟩ initiated rfl (ended.trans back)

theorem yields_applyRefundResult (ordered : before.books.Ordered) {refundId : String} :
    Proceeds service licence (service.applyRefundResult moment refundId result) before := by
  simp only [applyRefundResult, yields_bind, yields_requireRefund, yields_requireIntent]
  intro refund found intent held
  have stored := ordered.hasRefund found
  have owned := ordered.hasIntent held
  have owner : refund.paymentIntentId = intent.paymentIntentId := (ordered.intentKeys held).symm
  have retried : ∀ status, Proceeds service licence (service.refundRetried moment intent refund status) before := by
    intro status
    simp only [refundRetried, yields_ite, yields_bind]
    constructor
    · intro _
      refine yields_advanceRefund fun target _ new middle found _ _ terms reached written calls => ?_
      obtain ⟨waiting, rfl⟩ := resolved_move found .refundPendingConnector .refundFailed (by decide)
      exact yields_returnIntent stored terms waiting reached owned owner written calls
    · intro _
      refine yields_advanceRefund fun target _ new after found _ _ terms reached written calls =>
        yields_pure.mpr (deed ?_ calls)
      have kept : refund.status = .refundPendingConnector ∧ target = .refundPendingConnector := by
        split at found <;>
          exact resolved_move found .refundPendingConnector .refundPendingConnector (by decide)
      rw [written]
      exact .refundKept refund new stored terms (.inr kept.1) (reached.trans kept.2)
  cases result.status with
  | success | reversed => exact yields_refundSettled stored owned owner
  | rejected =>
    simp only [refundRejected, yields_bind]
    refine yields_advanceRefund fun target _ new middle found _ _ terms reached written calls => ?_
    obtain ⟨waiting, rfl⟩ := resolved_move found .refundPendingConnector .refundFailed (by decide)
    exact yields_returnIntent stored terms waiting reached owned owner written calls
  | pending | failed | timedOut => exact retried _

/-! Callbacks -/

theorem Books.Ordered.found_by_connectorRef (ordered : books.Ordered)
    (found : books.store.findAttemptByConnectorRef connectorId connectorRef = some attempt) :
    books.HasAttempt attempt := by
  obtain ⟨key, stored⟩ := Dict.get?_of_mem_values (List.mem_of_find?_eq_some found)
  exact ordered.hasAttempt stored

theorem yields_applyInbound (ordered : before.books.Ordered)
    (late : ∀ attempt, before.store.findAttemptByConnectorRef connectorId result.connectorRef = some attempt →
      result.status = .success → LateFor before.books attempt.attemptId → licence.late) :
    Proceeds service licence (service.applyInboundConnectorResult moment connectorId result) before := by
  simp only [applyInboundConnectorResult, yields_bind]
  refine yields_observe fun middle same kept => ?_
  have there : Goes service licence before middle := idle same kept
  have store : middle.store = before.store := congrArg Books.store same
  rw [yields_get, store]
  rw [← same] at ordered
  cases found : before.store.findAttemptByConnectorRef connectorId result.connectorRef with
  | some attempt =>
    have tried : middle.books.HasAttempt attempt := by
      have located : middle.store.findAttemptByConnectorRef connectorId result.connectorRef = some attempt := by
        rw [store]
        exact found
      exact ordered.found_by_connectorRef located
    change Yields (service.inboundAttempt moment attempt result) middle _
    rw [inboundAttempt, yields_ite]
    refine ⟨fun _ => yields_pure.mpr there, fun _ => ?_⟩
    split
    · rw [yields_bind, yields_requireIntent]
      intro intent held
      have hand := InHand.of_stored tried (ordered.hasIntent held) (ordered.intentKeys held).symm
      exact there.follow (yields_applyConnectorResult (redispatches_dispatch _) ordered hand)
    · rw [yields_bind]
      refine (there.follow (yields_applyStatusPollResult ordered fun success lateFor => ?_)).then_pure
      rw [same] at lateFor
      exact late attempt found success lateFor
    · exact yields_pure.mpr there
  | none =>
    change Yields (service.inboundRefund moment result _) middle _
    cases before.store.findRefundByConnectorRef connectorId result.connectorRef with
    | none => exact yields_pure.mpr there
    | some =>
      simp only [inboundRefund, yields_ite, yields_bind]
      refine ⟨fun _ => yields_pure.mpr there, fun _ => ⟨fun _ => yields_pure.mpr there, fun _ => ?_⟩⟩
      exact (there.follow (yields_applyRefundResult ordered)).then_pure

end BdPay.Kernel
