import BdPay.Kernel.Deeds

namespace BdPay.Kernel

open Data Effect PaymentSystem PaymentAttemptRecord AttemptTerms Books

/-! The order of the books: rows under their own keys, and attempts opened one after the other. -/

namespace Books

variable {books : Books}

structure Ordered (books : Books) : Prop extends books.store.Ranked (·.status = .authorizationFailed) where
  intentKeys : ∀ {id intent}, books.store.intents.get? id = some intent → intent.paymentIntentId = id
  refundKeys : ∀ {id refund}, books.store.refunds.get? id = some refund → refund.refundId = id
  owned : ∀ {attempt}, books.HasAttempt attempt →
    ∃ intent, books.HasIntent intent ∧ intent.paymentIntentId = attempt.paymentIntentId ∧ intent.status ∉ undispatched

@[simp] theorem store_log (call : LedgerCall) : (books.log call).store = books.store := rfl

@[simp] theorem store_foldl_log (calls : List LedgerCall) : (calls.foldl log books).store = books.store := by
  induction calls generalizing books with
  | nil => rfl
  | cons _ _ ih => rw [List.foldl_cons, ih, store_log]

end Books

theorem quietMoves_forward : ∀ move ∈ quietMoves, move.1 ∉ undispatched → move.2 ∉ undispatched := by
  decide

theorem quietMoves_processing : ∀ move ∈ quietMoves, move.1 ∉ undispatched → move.2 ≠ .processing := by
  decide

theorem SameIntent.id {old new : PaymentIntentRecord} (same : SameIntent old new) :
    new.paymentIntentId = old.paymentIntentId :=
  congrArg IntentTerms.paymentIntentId same.terms

theorem PaymentAttemptRecord.terms_eq {old new : PaymentAttemptRecord} (same : new.terms = old.terms) :
    new.attemptId = old.attemptId ∧ new.paymentIntentId = old.paymentIntentId ∧ new.attemptNumber = old.attemptNumber ∧
      new.amountMinor = old.amountMinor := by
  simpa only [PaymentAttemptRecord.terms, AttemptTerms.mk.injEq] using same

/-! What a deed writes. -/

open Books

variable {licence : Licence} {books next : Books}

/-- Whether an attempt of the intent was ever opened. -/
def Books.Sent (books : Books) (paymentIntentId : String) : Prop :=
  ∃ attempt, books.HasAttempt attempt ∧ attempt.paymentIntentId = paymentIntentId

/-- One turn of an intent. -/
inductive Turn (licence : Licence) (books : Books) (before after : PaymentIntentRecord) : Prop
  | kept (status : after.status = before.status)
  | quiet (moves : (before.status, after.status) ∈ quietMoves)
      (sent : before.status = .processing → after.status = .reversalInitiated →
        licence.orphan ∨ books.Sent before.paymentIntentId)
  | tried (processing : before.status = .processing) (sent : books.Sent before.paymentIntentId)
      (status : after.status = .failed ∨ after.status = .reversalInitiated ∨ after.status = .requiresCapture)
  | charged (processing : before.status = .processing) (status : after.status = .succeeded)
      (direct : before.captureMethod = .automatic ∨ licence.late)
  | captured (waiting : before.status = .requiresCapture) (status : after.status = .succeeded)
      (asked : licence.capture before.paymentIntentId)
  | voided (waiting : before.status = .requiresCapture) (status : after.status = .cancelled)
  | reversed (reversing : before.status.Reversing)
      (status : after.status = .reversed)
  | unreversed (reversing : before.status.Reversing)
      (status : after.status = .failed) (stuck : before.paymentIntentId ∈ books.openHolds → licence.stuck)
  | refund (settled : before.status ∈ settledStatuses) (status : after.status ∈ settledStatuses)

theorem Turn.late (turn : Turn licence books before after)
    (dispatched : before.status ∉ undispatched) : after.status ∉ undispatched := by
  have settledLate : ∀ status ∈ settledStatuses, status ∉ undispatched := by decide
  cases turn with
  | kept same => exact same ▸ dispatched
  | quiet moves => exact quietMoves_forward _ moves dispatched
  | tried _ _ is => rcases is with is | is | is <;> rw [is] <;> decide
  | charged _ is | captured _ is | voided _ is | reversed _ is | unreversed _ is =>
    rw [is]
    decide
  | refund _ is => exact settledLate _ is

theorem Turn.still (turn : Turn licence books before after)
    (dispatched : before.status ∉ undispatched) (processing : after.status = .processing) :
    before.status = .processing := by
  cases turn with
  | kept same => exact same.symm.trans processing
  | quiet moves => exact absurd processing (quietMoves_processing _ moves dispatched)
  | tried was | charged was => exact was
  | captured _ is | voided _ is | reversed _ is | unreversed _ is =>
    rw [processing] at is
    cases is
  | refund _ is =>
    rw [processing] at is
    exact absurd is (by decide)

/-- How the status of an attempt turns: it never comes back to wait for the rail. -/
def attemptTurns : List (AttemptStatus × AttemptStatus) :=
  [(.authorizationPending, .authorizationFailed), (.authorizationPending, .timedOut), (.authorizationPending, .reversed),
    (.timedOut, .authorizationFailed), (.timedOut, .timedOut), (.timedOut, .reversed), (.authorizationPending, .charged),
    (.timedOut, .charged), (.authorizationPending, .authorized), (.authorized, .charged), (.authorized, .voided),
    (.charged, .reversed)]

/-- The intents after a deed. -/
inductive IntentsWritten (licence : Licence) (books : Books) (intents : Dict String PaymentIntentRecord) : Prop
  | kept (same : intents = books.store.intents)
  | created (new : PaymentIntentRecord) (put : intents = (books.putIntent new).store.intents)
      (fresh : books.store.intents.get? new.paymentIntentId = none) (status : new.status = .created)
      (unused : ∀ other, books.HasIntent other → other.merchantId = new.merchantId →
        other.idempotencyKey ≠ new.idempotencyKey)
  | turned (old new : PaymentIntentRecord) (put : intents = (books.putIntent new).store.intents)
      (stored : books.HasIntent old) (terms : new.terms = { old.terms with amountMinor := new.amountMinor })
      (same : new.status = .processing → SameIntent old new) (turn : Turn licence books old new)

/-- The attempts after a deed. -/
inductive AttemptsWritten (books : Books) (attempts : Dict String PaymentAttemptRecord) : Prop
  | kept (same : attempts = books.store.attempts)
  | opened (intent : PaymentIntentRecord) (new : PaymentAttemptRecord) (put : attempts = (books.putAttempt new).store.attempts)
      (stored : books.HasIntent intent) (processing : intent.status = .processing)
      (fresh : books.store.attempts.get? new.attemptId = none) (owner : new.paymentIntentId = intent.paymentIntentId)
      (spent : ∀ other, books.HasAttempt other → other.paymentIntentId = intent.paymentIntentId →
        other.attemptNumber < new.attemptNumber ∧ other.status = .authorizationFailed)
  | moved (old new : PaymentAttemptRecord) (put : attempts = (books.putAttempt new).store.attempts)
      (stored : books.HasAttempt old) (terms : new.terms = { old.terms with amountMinor := new.amountMinor })
      (turn : new.status = old.status ∨ (old.status, new.status) ∈ attemptTurns)
      (same : new.status = .authorizationPending → new.terms = old.terms)

theorem SameIntent.written {old new : PaymentIntentRecord} (same : SameIntent old new) (stored : books.HasIntent old)
    (put : next.store.intents = (books.putIntent new).store.intents) (turn : Turn licence books old new) :
    IntentsWritten licence books next.store.intents := by
  refine .turned old new put stored ?_ (fun _ => same) turn
  rw [← same.terms]
  rfl

theorem Deed.intents (deed : Deed service licence books next) : IntentsWritten licence books next.store.intents := by
  cases deed with
  | created intent fresh status unused => exact .created intent rfl fresh status unused
  | moved _ _ stored same quiet sent =>
    rcases quiet with kept | moves
    · exact same.written stored rfl (.kept kept)
    · exact same.written stored rfl (.quiet moves sent)
  | opened _ _ _ stored same processing status =>
    exact same.written stored rfl (.kept (status.trans processing.symm))
  | attemptKept => exact .kept rfl
  | attemptEnded old _ before _ stored _ _ _ owned owner sameIntent processing status =>
    refine sameIntent.written owned rfl ?_
    have sent : books.Sent before.paymentIntentId := ⟨old, stored, owner.symm⟩
    rcases status with is | is | is
    · exact .kept (is.trans processing.symm)
    · exact .tried processing sent (.inl is)
    · exact .tried processing sent (.inr (.inl is))
  | charged old new before after accounts capture feeMinor fees stored same waiting status owned owner sameIntent processing
      succeeded direct =>
    exact sameIntent.written owned (by simp [putAttempt, putIntent, PaymentStore.putIntent])
      (.charged processing succeeded direct)
  | authorized old _ _ _ _ _ stored _ _ _ owned owner sameIntent processing waits =>
    exact sameIntent.written owned rfl (.tried processing ⟨old, stored, owner.symm⟩ (.inr (.inr waits)))
  | captured old new before after accounts feeMinor fees stored latest same authorized status owned sameIntent amounts method
      waiting succeeded hold asked =>
    refine .turned before after (by simp [putAttempt, putIntent, PaymentStore.putIntent]) owned sameIntent
      (fun processing => ?_) (.captured waiting succeeded asked)
    rw [succeeded] at processing
    cases processing
  | voided _ _ _ _ _ _ _ _ _ owned sameIntent ends =>
    rcases ends with ⟨waiting, is⟩ | ⟨reversing, is⟩
    · exact sameIntent.written owned rfl (.voided waiting is)
    · exact sameIntent.written owned rfl (.reversed reversing is)
  | unheld _ _ _ _ _ _ _ _ _ owned sameIntent reversing reversed =>
    exact sameIntent.written owned rfl (.reversed reversing reversed)
  | ended _ _ owned sameIntent ends =>
    rcases ends with ⟨waiting, is⟩ | ⟨reversing, is⟩
    · exact sameIntent.written owned rfl (.voided waiting is)
    · exact sameIntent.written owned rfl (.reversed reversing is)
  | uncharged _ _ _ _ _ _ _ _ _ _ _ owned sameIntent reversing reversed =>
    exact sameIntent.written owned rfl (.reversed reversing reversed)
  | unreversed _ _ owned sameIntent reversing failed stuck =>
    exact sameIntent.written owned rfl (.unreversed reversing failed stuck)
  | refundOpened _ _ refund owned sameIntent refundable initiated =>
    refine sameIntent.written owned rfl (.refund ?_ (by rw [initiated]; decide))
    rcases refundable with is | is <;> rw [is] <;> decide
  | refundKept => exact .kept rfl
  | refundFailed _ _ _ _ _ _ _ _ _ owned _ sameIntent initiated _ back =>
    refine sameIntent.written owned rfl (.refund (by rw [initiated]; decide) ?_)
    rw [back]
    split <;> decide
  | refundSettled old new before after accounts entry already refunded stored same waiting status owned owner sameIntent
      initiated earlier within total ends =>
    refine sameIntent.written owned rfl (.refund ?_ ?_)
    · rcases initiated with is | is <;> rw [is] <;> decide
    · rw [ends]
      split <;> decide

theorem Deed.attempts (deed : Deed service licence books next) : AttemptsWritten books next.store.attempts := by
  have moved : ∀ {old new : PaymentAttemptRecord}, next.store.attempts = (books.putAttempt new).store.attempts →
      books.HasAttempt old → new.terms = old.terms → new.status = old.status ∨ (old.status, new.status) ∈ attemptTurns →
      AttemptsWritten books next.store.attempts := by
    intro old new put stored same turn
    refine .moved old new put stored ?_ turn fun _ => same
    rw [← same]
    rfl
  cases deed with
  | created | moved | ended | unreversed | refundOpened | refundKept | refundFailed | refundSettled => exact .kept rfl
  | opened old _ attempt stored _ processing _ fresh _ owner _ spent =>
    exact .opened old attempt rfl stored processing fresh owner spent
  | attemptKept _ _ held same status => exact moved rfl held same (.inl status)
  | attemptEnded _ _ _ _ held same waiting ended =>
    refine moved rfl held same (.inr ?_)
    rcases waiting with was | was <;> rcases ended with is | is | is <;> rw [was, is] <;> decide
  | charged _ _ _ _ _ _ _ _ held same waiting status =>
    refine moved (by simp [putIntent]) held same (.inr ?_)
    rcases waiting with was | was <;> rw [was, status] <;> decide
  | captured old new _ _ _ _ _ held _ same was status =>
    refine .moved old new (by simp [putIntent]) held same (.inr (by rw [was, status]; decide)) fun waiting => ?_
    rw [status] at waiting
    cases waiting
  | authorized _ _ _ _ _ _ held same was status =>
    exact moved rfl held same (.inr (by rw [was, status]; decide))
  | voided _ _ _ _ held _ same was status => exact moved rfl held same (.inr (by rw [was, status]; decide))
  | unheld _ _ _ _ held _ same was status => exact moved rfl held same (.inr (by rw [was, status]; decide))
  | uncharged _ _ _ _ _ _ held _ same was status =>
    exact moved rfl held same (.inr (by rw [was, status]; decide))

theorem Books.Ordered.attempts (ordered : books.Ordered) (written : AttemptsWritten books next.store.attempts) :
    next.store.Ranked (·.status = .authorizationFailed) ∧ ∀ {attempt}, next.HasAttempt attempt → ∃ intent,
      books.HasIntent intent ∧ intent.paymentIntentId = attempt.paymentIntentId ∧ intent.status ∉ undispatched := by
  cases written with
  | kept same =>
    have was := fun {attempt} => (@hasAttempt_of_eq books.store next.store same attempt).mp
    refine ⟨ordered.moved (fun found => ordered.keys (same ▸ found)) fun tried => ?_,
      fun tried => ordered.owned (was tried)⟩
    exact ⟨_, was tried, rfl, rfl, rfl, id⟩
  | moved old _ put stored terms turn =>
    -- Every attempt was there before, with the same number, and is failed if it was.
    have origin : ∀ {attempt}, next.HasAttempt attempt → ∃ earlier, books.HasAttempt earlier ∧
        attempt.attemptId = earlier.attemptId ∧ attempt.paymentIntentId = earlier.paymentIntentId ∧
        attempt.attemptNumber = earlier.attemptNumber ∧
        (earlier.status = .authorizationFailed → attempt.status = .authorizationFailed) := by
      intro attempt inside
      rcases (hasAttempt_of_put put).mp inside with rfl | ⟨inside, -⟩
      · refine ⟨old, stored, congrArg AttemptTerms.attemptId terms, congrArg AttemptTerms.paymentIntentId terms,
          congrArg AttemptTerms.attemptNumber terms, fun failed => ?_⟩
        have ended : ∀ turn ∈ attemptTurns, turn.1 ≠ .authorizationFailed := by decide
        exact turn.elim (·.trans failed) fun turns => absurd failed (ended _ turns)
      · exact ⟨attempt, inside, rfl, rfl, rfl, fun failed => failed⟩
    refine ⟨ordered.moved (fun found => Dict.forall_set ordered.keys rfl (put ▸ found)) origin, fun inside => ?_⟩
    obtain ⟨earlier, was, -, sameOwner, -, -⟩ := origin inside
    rw [sameOwner]
    exact ordered.owned was
  | opened intent new put stored processing _ owner spent =>
    refine ⟨ordered.opened put fun other was same => spent other was (same.trans owner), fun inside => ?_⟩
    rcases (hasAttempt_of_put put).mp inside with rfl | ⟨inside, -⟩
    · exact ⟨intent, stored, owner.symm, by rw [processing]; decide⟩
    · exact ordered.owned inside

/-- How a row of a dispatched intent moves on: it never comes back to PROCESSING, and while it
stays there it stays the same. -/
structure MovesOn (old new : PaymentIntentRecord) : Prop where
  id : new.paymentIntentId = old.paymentIntentId
  late : old.status ∉ undispatched → new.status ∉ undispatched
  kept : old.status ∉ undispatched → new.status = .processing →
    old.status = .processing ∧ new.terms = old.terms ∧ new.method = old.method

theorem Deed.intentMoves (deed : Deed service licence books next)
    (stored : books.HasIntent intent) : ∃ moved, next.HasIntent moved ∧ MovesOn intent moved := by
  have self : MovesOn intent intent := ⟨rfl, fun late => late, fun _ processing => ⟨processing, rfl, rfl⟩⟩
  cases deed.intents with
  | kept same => exact ⟨intent, (hasIntent_of_eq same).mpr stored, self⟩
  | created new put fresh =>
    exact ⟨intent, (hasIntent_of_put put).mpr (.inr ⟨stored, stored.ne_of_fresh fresh⟩), self⟩
  | turned old new put held terms same turn =>
    have id : new.paymentIntentId = old.paymentIntentId := congrArg IntentTerms.paymentIntentId terms
    by_cases here : intent.paymentIntentId = new.paymentIntentId
    · obtain rfl := stored.unique held (here.trans id)
      refine ⟨new, (hasIntent_of_put put).mpr (.inl rfl), id, turn.late, fun late processing => ?_⟩
      exact ⟨turn.still late processing, (same processing).terms, (same processing).method late⟩
    · exact ⟨intent, (hasIntent_of_put put).mpr (.inr ⟨stored, here⟩), self⟩

theorem Deed.ordered (ordered : books.Ordered) (deed : Deed service licence books next) : next.Ordered := by
  obtain ⟨ranked, owned⟩ := ordered.attempts deed.attempts
  refine ⟨ranked, ?_, ?_, ?_⟩
  · intro id intent found
    cases deed.intents with
    | kept same => exact ordered.intentKeys (same ▸ found)
    | created new put | turned _ new put => exact Dict.forall_set ordered.intentKeys rfl (put ▸ found)
  · cases deed with
    | charged | captured =>
      intro id refund found
      exact ordered.refundKeys (by simpa [putIntent, putAttempt] using found)
    | refundOpened | refundKept | refundFailed | refundSettled =>
      exact Dict.forall_set ordered.refundKeys rfl
    | _ => exact ordered.refundKeys
  · intro attempt tried
    obtain ⟨intent, stored, owner, dispatched⟩ := owned tried
    obtain ⟨moved, held, moves⟩ := deed.intentMoves stored
    exact ⟨moved, held, moves.id.trans owner, moves.late dispatched⟩

theorem deeds_ordered (ordered : books.Ordered)
    (deeds : Relation.ReflTransGen (Deed service licence) books next) : next.Ordered := by
  induction deeds with
  | refl => exact ordered
  | tail _ deed ih => exact deed.ordered ih

end BdPay.Kernel
