import BdPay.Kernel.Dispatching

namespace BdPay.Kernel

open Data Effect PaymentSystem PaymentOrchestrator Books Goes

/-! After the dispatch: status polls, captures, voids and reversals. -/

variable {service : PaymentOrchestrator} {licence : Licence} {moment : Moment} {before : PaymentSystem}
  {intent : PaymentIntentRecord} {attempt : PaymentAttemptRecord}

/-! Status polls -/

section

variable (ordered : before.books.Ordered) (hand : InHand before.books intent attempt)
include ordered hand

theorem yields_pollSucceeded (late : intent.captureMethod = .manual → licence.late) :
    Proceeds service licence (service.pollSucceeded moment intent attempt result) before := by
  simp only [pollSucceeded, yields_bind]
  refine yields_advanceAttempt fun target old charged middle found stored same terms reached tried calls => ?_
  have waiting : attempt.status = .timedOut := resolved_rule found (fun old _ => old = .timedOut) (by decide)
  obtain rfl : target = .charged := by
    change PaymentOrchestrator.resolved attemptTable attempt.status _ _ = _ at found
    rw [waiting] at found
    exact (Except.ok.inj found).symm
  refine yields_settleCharge fun accounts capture fee fees current new after resolved entry feePosted held status processing
    sameTerms method succeeded booked kept => yields_pure.mpr ?_
  rw [tried] at held booked
  have rewrites : Rewrites before.books intent attempt old charged current new :=
    ⟨stored, same, terms, held, status, processing, sameTerms, method⟩
  refine deed ?_ (kept.trans calls)
  rw [booked]
  refine rewrites.charged ordered hand (.inr waiting) reached succeeded ?_ resolved entry feePosted
  cases given : intent.captureMethod with
  | automatic => exact .inl rfl
  | manual => exact .inr (late given)

theorem yields_pollReversed : Proceeds service licence (service.pollReversed moment intent attempt result) before := by
  simp only [pollReversed, yields_bind]
  refine yields_advanceAttempt fun target old reversed first found stored same terms reached tried started => ?_
  obtain ⟨waiting, rfl⟩ := resolved_move found .timedOut .reversed (by decide)
  refine yields_followAttempt service licence ordered hand stored same terms (.inr waiting) (.inr (.inr reached))
    tried started (by decide) fun _ _ goes => ?_
  exact yields_emit fun after books calls => goes.trans (idle books calls)

theorem yields_pollPending : Proceeds service licence (service.pollPending moment intent attempt) before := by
  simp only [pollPending, yields_ite, yields_bind]
  constructor
  · intro _
    refine yields_advanceAttempt fun target old exhausted first found stored same terms reached tried started => ?_
    obtain ⟨waiting, rfl⟩ := resolved_move found .timedOut .authorizationFailed (by decide)
    refine yields_followAttempt service licence ordered hand stored same terms (.inr waiting) (.inl reached)
      tried started (by decide) fun _ _ goes => ?_
    exact yields_emit fun after books calls => goes.trans (idle books calls)
  · intro _
    refine yields_advanceAttempt fun target old counted after found stored same terms reached tried calls =>
      yields_pure.mpr (deed ?_ calls)
    obtain ⟨waiting, rfl⟩ := resolved_move found .timedOut .timedOut (by decide)
    rw [tried]
    exact .attemptKept old counted (ordered.hasAttempt stored) (terms.trans (hand.attemptTerms old stored same))
      (reached.trans (same.trans waiting).symm)

theorem yields_pollFailed : Proceeds service licence (service.pollFailed moment intent attempt result) before := by
  simp only [pollFailed, yields_bind]
  refine yields_advanceAttempt fun target old failed first found stored same terms reached tried started => ?_
  obtain ⟨waiting, rfl⟩ := resolved_move found .timedOut .authorizationFailed (by decide)
  refine yields_followAttempt service licence ordered hand stored same terms (.inr waiting) (.inl reached)
    tried started (by decide) fun _ _ goes => ?_
  exact yields_emitFailed fun after books calls => goes.trans (idle books calls)

end

/-- A success is late for an intent that waits for its capture by hand. -/
def LateFor (books : Books) (attemptId : String) : Prop :=
  ∃ attempt intent, books.store.attempts.get? attemptId = some attempt ∧ attempt.status = .timedOut ∧
    books.store.intents.get? attempt.paymentIntentId = some intent ∧ intent.captureMethod = .manual

theorem yields_applyStatusPollResult (ordered : before.books.Ordered)
    (late : result.status = .success → LateFor before.books attemptId → licence.late) :
    Proceeds service licence (service.applyStatusPollResult moment attemptId result) before := by
  simp only [applyStatusPollResult, yields_bind, yields_requireAttempt, yields_requireIntent]
  intro attempt tried intent stored
  have owner : attempt.paymentIntentId = intent.paymentIntentId := (ordered.intentKeys stored).symm
  have hand := InHand.of_stored (ordered.hasAttempt tried) (ordered.hasIntent stored) owner
  cases outcome : result.status with
  | success =>
    -- Only a timed-out attempt takes the success, so the licence is asked for one only.
    by_cases waiting : attempt.status = .timedOut
    · exact yields_pollSucceeded ordered hand fun manual =>
        late outcome ⟨attempt, intent, tried, waiting, stored, manual⟩
    · simp only [pollSucceeded, yields_bind]
      refine yields_advanceAttempt fun target old charged middle found => absurd ?_ waiting
      exact resolved_rule found (fun old _ => old = .timedOut) (by decide)
  | reversed => exact yields_pollReversed ordered hand
  | pending => exact yields_pollPending ordered hand
  | failed | rejected | timedOut => exact yields_pollFailed ordered hand

/-! Captures -/

variable {books : Books}

theorem yields_latestAttempt :
    Yields (latestAttempt paymentIntentId) before returns ↔ returns (before.books.latest paymentIntentId) before := by
  rw [latestAttempt, yields_bind, yields_get, yields_pure]
  rfl

theorem Books.Ordered.latest_stored (ordered : books.Ordered) (latest : books.latest paymentIntentId = some attempt) :
    books.HasAttempt attempt ∧ attempt.paymentIntentId = paymentIntentId := by
  have listed := List.mem_of_getLast? latest
  rw [PaymentStore.listAttempts, (List.perm_insertionSort _ _).mem_iff, List.mem_filter, decide_eq_true_eq] at listed
  obtain ⟨key, found⟩ := Dict.get?_of_mem_values listed.1
  exact ⟨ordered.hasAttempt found, listed.2⟩

theorem yields_openHold (held : referenceId ∈ before.books.openHolds → returns (some referenceId) before)
    (free : referenceId ∉ before.books.openHolds → returns none before) :
    Yields (openHold? referenceId) before returns := by
  simp only [openHold?, yields_bind, yields_get, yields_pure]
  cases found : before.ports.openHolds.find? (· = referenceId) with
  | none =>
    refine free fun member => ?_
    have apart := List.find?_eq_none.mp found referenceId member
    simp at apart
  | some hold =>
    have same : hold = referenceId := by simpa using List.find?_some found
    rw [same]
    exact held (same ▸ List.mem_of_find?_eq_some found)

theorem Books.foldl_log_putIntent (calls : List LedgerCall) (intent : PaymentIntentRecord) :
    calls.foldl log (books.putIntent intent) = (calls.foldl log books).putIntent intent := by
  induction calls generalizing books with
  | nil => rfl
  | cons call _ ih => exact @ih (books.log call)

/-- A partial capture writes the attempt and the intent twice. -/
theorem Books.recaptured
    (sameAttempt : cut.attemptId = charged.attemptId) (sameIntent : new.paymentIntentId = lowered.paymentIntentId)
    (call : LedgerCall) (fees : List LedgerCall) :
    (fees.foldl log ((((books.putAttempt charged).putIntent lowered).putAttempt cut).log call)).putIntent new =
      (fees.foldl log ((books.putAttempt cut).log call)).putIntent new := by
  have swapped : (((books.putAttempt charged).putIntent lowered).putAttempt cut).log call =
      ((books.putAttempt cut).log call).putIntent lowered := by
    change (((books.putAttempt charged).putAttempt cut).log call).putIntent lowered = _
    rw [putAttempt_putAttempt sameAttempt]
  rw [swapped, foldl_log_putIntent, putIntent_putIntent sameIntent]

theorem yields_settleAuthorizedCharge (settled : ∀ accounts fee fees current new after,
      service.AccountsOf intent accounts →
      FeePosted accounts intent.paymentIntentId fee fees → intent.paymentIntentId ∈ before.books.openHolds →
      before.books.store.intents.get? intent.paymentIntentId = some current → current.status = intent.status →
      intent.status = .requiresCapture → new.terms = intent.terms → new.method = intent.method → new.status = .succeeded →
      after.books = (fees.foldl log (before.books.log
        (.releaseHold intent.paymentIntentId "CAPTURED" (some attempt.amountMinor)))).putIntent new →
      after.calls = before.calls → returns new after) :
    Yields (service.settleAuthorizedCharge moment intent attempt) before returns := by
  simp only [settleAuthorizedCharge, yields_bind, yields_attempt]
  refine yields_requirePspLicense fun accounts resolved => ?_
  rintro ⟨feeMinor, feeRuleId⟩ _
  refine yields_openHold (fun held => ?_) fun _ => yields_throw.mpr trivial
  simp only [yields_bind, yields_onRaise]
  refine yields_askLedger fun first released started => ?_
  refine yields_postFee fun fee fees second feePosted charged kept => ?_
  refine yields_advanceIntent fun target current new third found owned status terms method reached moved same => ?_
  obtain ⟨waiting, rfl⟩ := resolved_move found .requiresCapture .succeeded (by decide)
  refine yields_emitSucceeded fun after books calls => yields_pure.mpr ?_
  rw [charged, released] at owned moved
  simp only [store_foldl_log, store_log] at owned
  exact settled accounts fee fees current new after resolved feePosted held owned status waiting terms method reached
    (books.trans moved) (calls.trans (same.trans (kept.trans started)))

theorem yields_capture {paymentIntentId : String} (ordered : before.books.Ordered)
    (asked : licence.capture paymentIntentId) :
    Proceeds service licence (service.capture moment paymentIntentId amountMinor) before := by
  simp only [capture, yields_bind, yields_requireIntent, yields_raiseIf, yields_latestAttempt]
  intro intent stored open_
  have id := ordered.intentKeys stored
  subst id
  have waiting : intent.status = .requiresCapture := not_not.mp open_
  cases latest : before.books.latest intent.paymentIntentId with
  | none => exact yields_throw.mpr trivial
  | some attempt =>
    obtain ⟨tried, owner⟩ := ordered.latest_stored latest
    simp only [yields_bind, yields_raiseIf, yields_attempt]
    intro ready captured _
    have authorized : attempt.status = .authorized := not_not.mp ready
    refine yields_requirePspLicense ?_
    refine yields_advanceAttempt fun target _ submitted first found _ _ firstTerms firstStatus wrote started => ?_
    refine yields_advanceAttempt fun target' _ charged second found' _ _ secondTerms reached wrote' kept => ?_
    obtain ⟨-, rfl⟩ := resolved_move found' .captureInitiated .charged (by decide)
    have terms : charged.terms = attempt.terms := secondTerms.trans firstTerms
    have books : second.books = before.books.putAttempt charged := by
      rw [wrote', wrote]
      exact putAttempt_putAttempt (congrArg AttemptTerms.attemptId secondTerms)
    have calls : second.calls = before.calls := kept.trans started
    rw [yields_ite]
    constructor
    · intro full
      rw [yields_bind]
      refine yields_settleAuthorizedCharge fun accounts fee fees current new after resolved feePosted held owned _ _
        sameTerms method succeeded booked last => yields_pure.mpr (deed ?_ (last.trans calls))
      rw [booked, books]
      rw [books] at held
      have amount : charged.amountMinor = attempt.amountMinor := congrArg AttemptTerms.amountMinor terms
      have intentAmount : new.amountMinor = intent.amountMinor := congrArg IntentTerms.amountMinor sameTerms
      refine .captured attempt charged intent new accounts fee fees tried latest ?_ authorized reached
        (ordered.hasIntent stored) ?_ (.inl ⟨intentAmount, amount⟩) method waiting succeeded held asked resolved feePosted
      · rw [terms, amount]
        rfl
      · rw [sameTerms, intentAmount]
        rfl
    · intro _
      rw [yields_bind]
      refine yields_updateIntent fun _ third _ _ lowered more => ?_
      rw [yields_bind]
      refine yields_updateAttempt fun _ fourth _ _ cut again => ?_
      rw [yields_bind]
      refine yields_settleAuthorizedCharge fun accounts fee fees current new after resolved feePosted held owned _ _
        sameTerms method succeeded booked last => yields_pure.mpr (deed ?_ ?_)
      · rw [cut, lowered, books] at held
        rw [booked, cut, lowered, books, recaptured]
        · have amount : new.amountMinor = captured.val := congrArg IntentTerms.amountMinor sameTerms
          refine .captured attempt _ intent new accounts fee fees tried latest ?_ authorized reached
            (ordered.hasIntent stored) ?_ (.inr amount) method waiting succeeded held asked resolved feePosted
          · rw [← terms]
            rfl
          · rw [sameTerms, amount]
            rfl
        · rfl
        · exact congrArg IntentTerms.paymentIntentId sameTerms
      · exact last.trans (again.trans (more.trans calls))

/-! Voids and reversals -/

theorem yields_voidAttempt
    (voided : ∀ new after, attempt.status = .authorized → new.terms = attempt.terms → new.status = .voided →
      after.books = before.books.putAttempt new → after.calls = before.calls → returns () after) :
    Yields (service.voidAttempt moment intent attempt) before returns := by
  simp only [voidAttempt, yields_bind]
  refine yields_advanceAttempt fun target _ new middle found _ _ terms reached wrote started => ?_
  obtain ⟨authorized, rfl⟩ := resolved_move found .authorized .voided (by decide)
  refine yields_emitAttempt fun after books calls => ?_
  exact voided new after authorized terms reached (books.trans wrote) (calls.trans started)

section

variable (ordered : before.books.Ordered) (stored : before.books.HasIntent intent)

include ordered stored

/-- An intent that waits for its capture is voided, with the hold of its attempt. -/
theorem yields_voidIntent : Proceeds service licence (service.voidIntent moment intent) before := by
  simp only [voidIntent, yields_bind, yields_latestAttempt]
  -- Without an authorized attempt only the intent moves.
  have unauthorized : (∀ attempt,
      before.books.latest intent.paymentIntentId = some attempt → attempt.status ≠ .authorized) →
      Yields (advanceIntent moment { intent with cancelledAt := some moment.now } .voidRequested) before
        fun new middle => Yields (service.emitCancelled moment new "void") middle fun _ => Goes service licence before := by
    intro none
    refine yields_advanceIntent fun target _ new first found _ _ terms method reached wrote started => ?_
    obtain ⟨waiting, rfl⟩ := resolved_move found .requiresCapture .cancelled (by decide)
    refine yields_emit fun after books calls => deed ?_ (calls.trans started)
    rw [books, wrote]
    exact .ended intent new stored ⟨terms, fun _ => method⟩ (.inl ⟨waiting, reached⟩) none
  cases latest : before.books.latest intent.paymentIntentId with
  | none =>
    refine yields_pure.mpr (unauthorized fun attempt found => ?_)
    rw [latest] at found
    cases found
  | some attempt =>
    rw [voidLatest, yields_ite]
    constructor
    · intro authorized
      rw [voidAuthorized, yields_bind]
      refine yields_openHold (fun held => ?_) fun _ => yields_throw.mpr trivial
      rw [yields_bind]
      refine yields_askLedger fun first released started => ?_
      refine yields_voidAttempt fun voided second _ attemptTerms ended wrote kept => ?_
      refine yields_advanceIntent fun target _ new third found _ _ terms method reached moved last => ?_
      obtain ⟨waiting, rfl⟩ := resolved_move found .requiresCapture .cancelled (by decide)
      refine yields_emit fun after books calls => deed ?_ (calls.trans (last.trans (kept.trans started)))
      rw [books, moved, wrote, released]
      exact .voided attempt voided intent new
        (ordered.latest_stored latest).1 latest attemptTerms authorized ended stored
        ⟨terms, fun _ => method⟩ (.inl ⟨waiting, reached⟩) held
    · intro other
      refine yields_pure.mpr (unauthorized fun attempt found => ?_)
      rw [latest] at found
      rw [← Option.some.inj found]
      exact other

/-- What a confirmed reversal does to the last attempt, and then to the intent. -/
theorem yields_reversalConfirmed (latest : before.books.latest intent.paymentIntentId = some attempt)
    (reversing : intent.status.Reversing) :
    Proceeds service licence (service.reversalConfirmed moment intent attempt) before := by
  have tried := (ordered.latest_stored latest).1
  simp only [reversalConfirmed, yields_bind]
  -- However the attempt ended, the intent is moved and announced last.
  have rest : ∀ {middle : PaymentSystem} {books : Books}, middle.books = books → middle.calls = before.calls →
      (∀ new : PaymentIntentRecord, new.terms = intent.terms → new.method = intent.method → new.status = .reversed →
        Deed service licence before.books (books.putIntent new)) →
      Yields (advanceIntent moment { intent with reversedAt := some moment.now } .reversalConfirmed) middle
        fun new middle => Yields (service.emit moment "payment_intent.reversed" new
          [("payment_intent_id", .str new.paymentIntentId), ("attempt_id", .str attempt.attemptId),
            ("amount_minor", .int attempt.amountMinor)]) middle fun _ => Goes service licence before := by
    intro middle books same started deed
    refine yields_advanceIntent fun target _ new first found _ _ terms method reached wrote kept => ?_
    have ended : target = .reversed := resolved_rule found (fun _ new => new = .reversed) (by decide)
    refine yields_emit fun after quiet calls => .deed ?_ (calls.trans (kept.trans started))
    rw [quiet, wrote, same]
    exact deed new terms method (reached.trans ended)
  have other : attempt.status ≠ .authorized → attempt.status ≠ .charged → ∀ new : PaymentIntentRecord,
      new.terms = intent.terms → new.method = intent.method → new.status = .reversed →
        Deed service licence before.books (before.books.putIntent new) := by
    intro unauthorized _ new terms method reached
    refine .ended intent new stored ⟨terms, fun _ => method⟩ (.inr ⟨reversing, reached⟩) fun found same => ?_
    rw [latest] at same
    rw [← Option.some.inj same]
    exact unauthorized
  rw [reverseAttempt]
  cases status : attempt.status with
  | charged =>
    simp only [reverseCharged, postReversalEntries, yields_bind, yields_attempt]
    refine yields_advanceAttempt fun target _ undone first found _ _ attemptTerms ended wrote started => ?_
    have undoneStatus : target = .reversed := resolved_rule found (fun _ new => new = .reversed) (by decide)
    intro accounts resolved
    refine yields_postEntry fun reversal second entry posted kept => ?_
    refine yields_emitAttempt fun third quiet calls => ?_
    refine rest (quiet.trans posted) (calls.trans (kept.trans started)) fun new terms method reached => ?_
    rw [wrote]
    exact .uncharged attempt undone intent new accounts reversal tried latest attemptTerms status
      (ended.trans undoneStatus) stored ⟨terms, fun _ => method⟩ reversing reached resolved entry
  | authorized =>
    simp only [reverseAuthorized, yields_bind]
    refine yields_openHold (fun held => ?_) fun free => ?_
    · refine yields_askLedger fun first released started => ?_
      refine yields_voidAttempt fun voided second _ attemptTerms ended wrote kept => ?_
      refine rest wrote (kept.trans started) fun new terms method reached => ?_
      rw [released]
      exact .voided attempt voided intent new tried latest attemptTerms status ended stored ⟨terms, fun _ => method⟩
        (.inr ⟨reversing, reached⟩) held
    · refine yields_pure.mpr ?_
      refine yields_voidAttempt fun voided second _ attemptTerms ended wrote kept => ?_
      refine rest wrote kept fun new terms method reached => ?_
      exact .unheld attempt voided intent new tried latest attemptTerms status ended stored ⟨terms, fun _ => method⟩
        reversing reached free
  | started | authenticationPending | authenticationFailed | authorizationPending | authorizationFailed | timedOut
  | captureInitiated | captureFailed | voided | reversed =>
    refine yields_pure.mpr (rest rfl rfl (other ?_ ?_)) <;> rw [status] <;> decide

end

theorem yields_reversalFailed (stored : before.books.HasIntent intent)
    (reversing : intent.status.Reversing)
    (stuck : intent.paymentIntentId ∈ before.books.openHolds → licence.stuck) :
    Proceeds service licence (service.reversalFailed moment intent attempt) before := by
  simp only [reversalFailed, yields_bind, yields_attempt]
  refine yields_advanceIntent fun target _ new first found _ _ terms method reached wrote started => ?_
  have failed : target = .failed := resolved_rule found (fun _ new => new = .failed) (by decide)
  intro compensationId _
  refine yields_emit fun after books calls => deed ?_ (calls.trans started)
  rw [books, wrote]
  exact .unreversed intent new stored ⟨terms, fun _ => method⟩ reversing (reached.trans failed) stuck

theorem yields_applyReversalResult (ordered : before.books.Ordered)
    (stuck : result.status ≠ .reversed → result.status ≠ .success → paymentIntentId ∈ before.books.openHolds →
      licence.stuck) : Proceeds service licence (service.applyReversalResult moment paymentIntentId result) before := by
  simp only [applyReversalResult, yields_bind, yields_requireIntent, yields_raiseIf,
    yields_latestAttempt]
  intro intent found reversible
  have id := ordered.intentKeys found
  subst id
  have stored := ordered.hasIntent found
  have reversing : intent.status.Reversing := by
    by_contra neither
    exact reversible (not_or.mp neither)
  cases latest : before.books.latest intent.paymentIntentId with
  | none => exact yields_throw.mpr trivial
  | some =>
    cases outcome : result.status with
    | success | reversed => exact yields_reversalConfirmed ordered stored latest reversing
    | pending | failed | rejected | timedOut =>
      exact yields_reversalFailed stored reversing (stuck (by rw [outcome]; decide) (by rw [outcome]; decide))

end BdPay.Kernel
