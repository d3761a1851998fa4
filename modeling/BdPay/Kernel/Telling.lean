import BdPay.Kernel.Stories

namespace BdPay.Kernel

open Data Effect PaymentSystem PaymentOrchestrator Books PaymentAttemptRecord List

/-! Every deed goes on with the stories of the intents. -/

variable {service : PaymentOrchestrator} {books next : Books} {before after : PaymentIntentRecord}
  {calls : List LedgerCall} {old new : PaymentAttemptRecord} {middle : Books}

theorem quietMoves_shape : ∀ move ∈ quietMoves, (move.1 ∉ settledStatuses ∧ move.2 ∉ settledStatuses) ∧
    (move.1 ∈ heldStatuses → move.2 ∈ heldStatuses) ∧ move.1 ≠ .cancelled ∧ move.1 ≠ .reversed := by
  decide

section

variable (told : Told service books) (owned : books.HasIntent before) (same : SameIntent before after)
  (intents : middle.store.intents = books.store.intents) (attempts : middle.store.attempts = books.store.attempts)
  (ledger : middle.ledger = books.ledger ++ calls) (holds : middle.openHolds = books.openHolds)
  (refunds : ∀ call ∈ calls, call.forRefund = true)
include told owned same intents attempts ledger holds refunds

/-- A turn that posts nothing and moves no attempt. -/
theorem Told.turned (lasting : Lasting before.status after.status) : Told service (middle.putIntent after) := by
  have sameAttempts : ∀ attempt, (middle.putIntent after).HasAttempt attempt ↔ books.HasAttempt attempt := by
    intro attempt
    exact hasAttempt_of_eq attempts
  have rows : Rows books (middle.putIntent after) before after calls :=
    .of_put owned same.id intents ledger (fun call member => .inl (refunds call member)) (fun _ _ => by rw [holds])
      fun attempt _ => sameAttempts attempt
  have story := told.story before owned
  have amount : after.amountMinor = before.amountMinor := same.amountMinor
  refine rows.told told ⟨story.shape.turned same (rows.posted_refund refunds) ?_ ?_ lasting,
    ?_, ?_⟩
  · rw [same.id]
    change _ ∈ middle.openHolds ↔ _
    rw [holds]
  · exact fun attempt authorized tried owner => ⟨attempt, (sameAttempts attempt).mpr tried, owner, authorized⟩
  · intro attempt tried owner live
    rw [amount]
    exact story.amounts attempt ((sameAttempts attempt).mp tried) (owner.trans same.id) live
  · intro attempt tried owner charged
    exact lasting.settled (story.charged attempt ((sameAttempts attempt).mp tried) (owner.trans same.id) charged)

theorem Told.refunding (was : before.status ∈ settledStatuses) (settled : after.status ∈ settledStatuses) :
    Told service (middle.putIntent after) := by
  have apart : ∀ status ∈ settledStatuses, status ∉ heldStatuses ∧ status ≠ .cancelled ∧ status ≠ .reversed := by decide
  obtain ⟨unheld, active, unreversed⟩ := apart _ was
  exact told.turned owned same intents attempts ledger holds refunds
    ⟨fun is => absurd was is, fun is => absurd is unheld,
    fun is => absurd is (not_or.mpr ⟨active, unreversed⟩), fun _ => settled⟩

end

theorem Shape.posted_of_waiting (shape : Shape service books before)
    (waiting : before.status = .requiresCapture ∨ before.status.Reversing)
    (free : before.paymentIntentId ∉ books.openHolds) : books.posted before.paymentIntentId = [] := by
  have open_ : before.status ∉ settledStatuses ∧ before.status ≠ .cancelled ∧ before.status ≠ .reversed := by
    rcases waiting with is | is | is <;> rw [is] <;> decide
  cases shape with
  | untouched posted => exact posted
  | held _ _ _ _ _ _ reserved => exact absurd reserved free
  | voided _ _ _ _ _ _ status => exact absurd status (not_or.mpr open_.2)
  | charged _ _ _ _ _ _ _ _ _ settled | captured _ _ _ _ _ _ _ _ _ settled => exact absurd settled open_.1

theorem Retries.others_of_owner (retries : Retries books next old new)
    (owner : old.paymentIntentId = before.paymentIntentId) (attempt : PaymentAttemptRecord)
    (apart : attempt.paymentIntentId ≠ before.paymentIntentId) : next.HasAttempt attempt ↔ books.HasAttempt attempt :=
  retries.others (owner ▸ apart)

section

variable (told : Told service books) (ordered : books.Ordered) (stored : books.HasAttempt old)
  (live : old.status ≠ .authorizationFailed) (owned : books.HasIntent before)
  (owner : old.paymentIntentId = before.paymentIntentId) (intents : middle.store.intents = books.store.intents)
  (attempts : middle.store.attempts = (books.putAttempt new).store.attempts) (ledger : middle.ledger = books.ledger ++ calls)
  (about : ∀ call ∈ calls, call.reference = before.paymentIntentId ∧ call.forRefund = false)
  (holds : ∀ other, other ≠ before.paymentIntentId → (other ∈ middle.openHolds ↔ other ∈ books.openHolds))
  (charged : new.status = .charged → after.status ∈ settledStatuses)
  (shape : (middle.putIntent after).posted after.paymentIntentId = books.posted before.paymentIntentId ++ calls →
    (middle.putIntent after).HasAttempt new → Shape service (middle.putIntent after) after)
include told ordered stored live owned owner intents attempts ledger about holds charged shape

/-- A live attempt moves, and its intent with it, and `calls` are posted for them. -/
theorem Told.retold (attemptId : new.attemptId = old.attemptId) (sameOwner : new.paymentIntentId = old.paymentIntentId)
    (id : after.paymentIntentId = before.paymentIntentId)
    (paid : new.status ≠ .authorizationFailed → new.amountMinor = after.amountMinor) :
    Told service (middle.putIntent after) := by
  have retries : Retries books (middle.putIntent after) old new := ⟨stored, attemptId, sameOwner, attempts⟩
  have rows : Rows books (middle.putIntent after) before after calls :=
    .of_put owned id intents ledger (fun call member => .inr (about call member).1) holds (retries.others_of_owner owner)
  refine rows.told told ⟨shape (rows.posted_self about) (retries.hasAttempt.mpr (.inl rfl)),
    fun attempt tried owns alive => ?_, fun attempt tried owns isCharged => ?_⟩
  · rcases retries.own ordered live tried (owns.trans (id.trans owner.symm)) with rfl | failed
    · exact paid alive
    · exact absurd failed alive
  · rcases retries.own ordered live tried (owns.trans (id.trans owner.symm)) with rfl | failed
    · exact charged isCharged
    · rw [failed] at isCharged
      cases isCharged

theorem Told.retold_same (same : new.terms = old.terms) (sameIntent : SameIntent before after) :
    Told service (middle.putIntent after) := by
  obtain ⟨id, sameOwner, -, amount⟩ := terms_eq same
  refine told.retold ordered stored live owned owner intents attempts ledger about holds charged shape id sameOwner
    sameIntent.id fun _ => ?_
  rw [amount, (told.story before owned).amounts old stored owner live]
  exact sameIntent.amountMinor.symm

end

theorem mem_filter_ne {holds : List String} {other id : String} (apart : other ≠ id) :
    other ∈ holds.filter (· ≠ id) ↔ other ∈ holds := by
  simp [mem_filter, apart]

theorem Deed.told {licence : Licence} (deed : Deed service licence books next) (ordered : books.Ordered)
    (told : Told service books) :
    Told service next := by
  cases deed with
  | created _ fresh status => exact told.created ordered fresh status
  | moved old new stored same quiet =>
    have lasting : Lasting old.status new.status := by
      rcases quiet with kept | moves
      · rw [kept]
        exact .refl
      · obtain ⟨⟨before, after⟩, held, active, unreversed⟩ := quietMoves_shape _ moves
        exact ⟨fun _ => after, held, fun is => absurd is (not_or.mpr ⟨active, unreversed⟩), fun is => absurd is before⟩
    exact told.turned stored same rfl rfl (append_nil _).symm rfl nofun lasting
  | opened old new attempt stored same processing status fresh pending owner amount spent =>
    have rows : Rows books ((books.putAttempt attempt).putIntent new) old new [] := by
      refine .of_put stored same.id rfl (append_nil _).symm nofun
        (fun _ _ => .rfl) fun other otherOwner => ?_
      refine hasAttempt_putAttempt.trans ⟨?_, ?_⟩
      · rintro (rfl | ⟨tried, -⟩)
        · exact absurd owner otherOwner
        · exact tried
      · exact fun tried => .inr ⟨tried, tried.ne_of_fresh fresh⟩
    obtain ⟨posted, free⟩ := (told.story old stored).shape.of_processing processing
    have sameAmount : new.amountMinor = old.amountMinor := same.amountMinor
    refine rows.told told ⟨.untouched ?_ ?_ (by rw [status]; decide), ?_, ?_⟩
    · rw [rows.posted_refund nofun]
      exact posted
    · rw [same.id]
      exact free
    · intro other tried owned live
      rcases hasAttempt_putAttempt.mp tried with rfl | ⟨was, -⟩
      · rw [amount, sameAmount]
      · exact absurd (spent other was (owned.trans same.id)).2 live
    · intro other tried owned charged
      rcases hasAttempt_putAttempt.mp tried with rfl | ⟨was, -⟩
      · rw [pending] at charged
        cases charged
      · rw [(spent other was (owned.trans same.id)).2] at charged
        cases charged
  | attemptKept old new stored same status =>
    obtain ⟨id, owner, -, amount⟩ := terms_eq same
    obtain ⟨intent, owned, owns, -⟩ := ordered.owned stored
    have retries : Retries books (books.putAttempt new) old new := ⟨stored, id, owner, rfl⟩
    have rows : Rows books (books.putAttempt new) intent intent [] := by
      refine ⟨owned, rfl, (Dict.set_of_get? owned).symm, (append_nil _).symm,
        nofun, fun _ _ => .rfl, ?_⟩
      exact retries.others_of_owner owns.symm
    have story := told.story intent owned
    refine rows.told told ⟨?_, ?_, ?_⟩
    · refine story.shape.turned ⟨rfl, fun _ => rfl⟩ rfl .rfl ?_ .refl
      intro attempt authorized tried attemptOwner
      by_cases here : attempt.attemptId = old.attemptId
      · obtain rfl := tried.unique stored here
        exact ⟨new, retries.hasAttempt.mpr (.inl rfl), owner.trans attemptOwner, status.trans authorized⟩
      · exact ⟨attempt, retries.hasAttempt.mpr (.inr ⟨tried, fun equal => here (equal.trans id)⟩), attemptOwner,
          authorized⟩
    · intro attempt tried attemptOwner live
      rcases retries.hasAttempt.mp tried with rfl | ⟨was, -⟩
      · rw [amount]
        exact story.amounts old stored (owner.symm.trans attemptOwner) (status ▸ live)
      · exact story.amounts attempt was attemptOwner live
    · intro attempt tried attemptOwner charged
      rcases retries.hasAttempt.mp tried with rfl | ⟨was, -⟩
      · exact story.charged old stored (owner.symm.trans attemptOwner) (status.symm.trans charged)
      · exact story.charged attempt was attemptOwner charged
  | attemptEnded old _ before _ stored same waiting ended owned owner sameIntent processing status =>
    have live : old.status ≠ .authorizationFailed := by rcases waiting with is | is <;> rw [is] <;> decide
    obtain ⟨posted, free⟩ := (told.story before owned).shape.of_processing processing
    refine told.retold_same ordered stored live owned owner.symm rfl rfl (append_nil _).symm nofun
      (fun _ _ => .rfl) (fun charged => ?_) (fun shown _ => ?_) same sameIntent
    · rcases ended with is | is | is <;> rw [is] at charged <;> cases charged
    · rw [posted] at shown
      refine .untouched shown (sameIntent.id ▸ free) ?_
      rcases status with is | is | is <;> rw [is] <;> decide
  | charged old new before after accounts capture feeMinor fees stored same waiting status owned owner sameIntent processing
      succeeded direct resolved entry fee =>
    obtain ⟨-, -, -, amount⟩ := terms_eq same
    have live : old.status ≠ .authorizationFailed := by rcases waiting with is | is <;> rw [is] <;> decide
    have holds : (fees.foldl log ((books.putAttempt new).log capture)).openHolds = books.openHolds :=
      fee.openHolds.trans entry.openHolds
    obtain ⟨posted, free⟩ := (told.story before owned).shape.of_processing processing
    have paid : new.amountMinor = after.amountMinor := by
      rw [amount, (told.story before owned).amounts old stored owner.symm live]
      exact sameIntent.amountMinor.symm
    have ledger : (fees.foldl log ((books.putAttempt new).log capture)).ledger = books.ledger ++ capture :: fees := by
      rw [ledger_foldl_log]
      exact append_assoc _ [capture] fees
    refine told.retold_same ordered stored live owned owner.symm (by simp [Books.putAttempt]) (by simp) ledger
      (fun call member => ?_) (fun _ _ => by rw [holds]) (fun _ => by rw [succeeded]; decide) (fun shown _ => ?_) same
      sameIntent
    · rcases mem_cons.mp member with rfl | member
      · exact ⟨entry.reference, entry.forRefund⟩
      · exact fee.about call member
    · rw [posted] at shown
      refine .charged accounts capture feeMinor fees (sameIntent.accountsOf (by rw [processing]; decide) resolved) shown
        ?_ ?_ ?_ (by rw [succeeded]; decide)
      · rw [sameIntent.id, ← paid]
        exact entry
      · rw [sameIntent.id]
        exact fee
      · rw [sameIntent.id]
        change _ ∉ (fees.foldl log ((books.putAttempt new).log capture)).openHolds
        rw [holds]
        exact free
  | authorized old new before _ accounts expiry stored same waiting status owned owner sameIntent processing held resolved =>
    obtain ⟨-, sameOwner, -, -⟩ := terms_eq same
    have live : old.status ≠ .authorizationFailed := by rw [waiting]; decide
    obtain ⟨posted, free⟩ := (told.story before owned).shape.of_processing processing
    refine told.retold_same ordered stored live owned owner.symm rfl rfl rfl (fun call member => ?_)
      (fun other apart => ?_) (fun charged => ?_) (fun shown tried => ?_) same sameIntent
    · rw [mem_singleton.mp member]
      exact ⟨rfl, rfl⟩
    · change other ∈ books.openHolds ++ [before.paymentIntentId] ↔ _
      simp [apart]
    · rw [status] at charged
      cases charged
    · rw [posted] at shown
      refine .held accounts new.amountMinor expiry new
        (sameIntent.accountsOf (by rw [processing]; decide) resolved) ?_ ?_
        (by rw [held]; decide) tried (sameOwner.trans (owner.symm.trans sameIntent.id.symm)) status
      · rw [shown, sameIntent.id]
        rfl
      · rw [sameIntent.id]
        exact mem_append_right _ mem_cons_self
  | captured old new before after accounts feeMinor fees stored latest same authorized status owned sameIntent amounts method
      waiting succeeded held asked resolved fee =>
    have story := told.story before owned
    obtain ⟨accounts', amount, expiry, _, resolved', posted, -⟩ := story.shape.of_open held
    obtain rfl : accounts' = accounts := Except.ok.inj (resolved'.symm.trans resolved)
    have owner := (ordered.latest_stored latest).2
    have id : after.paymentIntentId = before.paymentIntentId := congrArg IntentTerms.paymentIntentId sameIntent
    have live : old.status ≠ .authorizationFailed := by rw [authorized]; decide
    have wasAmount := story.amounts old stored owner live
    have paid : new.amountMinor = after.amountMinor := by
      rcases amounts with ⟨kept, keptAttempt⟩ | equal
      · rw [kept, keptAttempt, wasAmount]
      · exact equal.symm
    let release : LedgerCall := .releaseHold before.paymentIntentId "CAPTURED" (some new.amountMinor)
    have holds : (fees.foldl log ((books.putAttempt new).log release)).openHolds =
        books.openHolds.filter (· ≠ before.paymentIntentId) := fee.openHolds
    have ledger : (fees.foldl log ((books.putAttempt new).log release)).ledger = books.ledger ++ release :: fees := by
      rw [ledger_foldl_log]
      exact append_assoc _ [release] fees
    refine told.retold ordered stored live owned owner (by simp [Books.putAttempt]) (by simp) ledger
      (fun call member => ?_) (fun _ apart => by rw [holds]; exact mem_filter_ne apart)
      (fun _ => by rw [succeeded]; decide) (fun shown _ => ?_) (congrArg AttemptTerms.attemptId same)
      (congrArg AttemptTerms.paymentIntentId same) id fun _ => paid
    · rcases mem_cons.mp member with rfl | member
      · exact ⟨rfl, rfl⟩
      · exact fee.about call member
    · rw [posted] at shown
      refine .captured accounts' amount expiry feeMinor fees ?_ ?_ ?_ ?_ (by rw [succeeded]; decide)
      · have merchant : after.merchantId = before.merchantId := congrArg IntentTerms.merchantId sameIntent
        rw [AccountsOf, merchant, method]
        exact resolved
      · rw [shown, id, ← paid]
        rfl
      · rw [id]
        exact fee
      · rw [id]
        change _ ∉ (fees.foldl log ((books.putAttempt new).log release)).openHolds
        rw [holds]
        simp
  | voided old _ before _ stored latest same authorized status owned sameIntent ends held =>
    have story := told.story before owned
    obtain ⟨accounts, amount, expiry, _, resolved, posted, -⟩ := story.shape.of_open held
    have owner := (ordered.latest_stored latest).2
    have live : old.status ≠ .authorizationFailed := by rw [authorized]; decide
    have late : before.status ∉ undispatched := by
      rcases ends with ⟨is, -⟩ | ⟨is | is, -⟩ <;> rw [is] <;> decide
    refine told.retold_same ordered stored live owned owner rfl rfl rfl (fun call member => ?_)
      (fun _ apart => mem_filter_ne apart) (fun charged => ?_) (fun shown _ => ?_) same sameIntent
    · rw [mem_singleton.mp member]
      exact ⟨rfl, rfl⟩
    · rw [status] at charged
      cases charged
    · rw [posted] at shown
      refine .voided accounts amount expiry (sameIntent.accountsOf late resolved) ?_ ?_ (ends.imp And.right And.right)
      · rw [shown, sameIntent.id]
        rfl
      · rw [sameIntent.id]
        change _ ∉ books.openHolds.filter (· ≠ before.paymentIntentId)
        simp
  | unheld old _ before _ stored latest same authorized status owned sameIntent reversing reversed free =>
    have story := told.story before owned
    have owner := (ordered.latest_stored latest).2
    have live : old.status ≠ .authorizationFailed := by rw [authorized]; decide
    refine told.retold_same ordered stored live owned owner rfl rfl (append_nil _).symm nofun
      (fun _ _ => .rfl) (fun charged => ?_) (fun shown _ => ?_) same sameIntent
    · rw [status] at charged
      cases charged
    · rw [story.shape.posted_of_waiting (.inr reversing) free] at shown
      exact .untouched shown (sameIntent.id ▸ free) (by rw [reversed]; decide)
  | ended before after owned sameIntent ends unauthorized =>
    have story := told.story before owned
    -- An authorization that is held has an authorized attempt, and that is the last one.
    have free : before.paymentIntentId ∉ books.openHolds := by
      intro open_
      obtain ⟨_, _, _, attempt, _, _, _, tried, owner, authorized⟩ := story.shape.of_open open_
      have live : attempt.status ≠ .authorizationFailed := by rw [authorized]; decide
      exact unauthorized attempt (ordered.latest_of_live tried owner live) authorized
    have rows : Rows books (books.putIntent after) before after [] :=
      .of_put owned sameIntent.id rfl (append_nil _).symm nofun
        (fun _ _ => .rfl) fun _ _ => .rfl
    have open_ : before.status ∉ settledStatuses ∧ after.status ∉ settledStatuses := by
      rcases ends with ⟨is, reached⟩ | ⟨is | is, reached⟩ <;> rw [is, reached] <;> decide
    refine rows.told told ⟨.untouched ?_ ?_ open_.2, ?_, ?_⟩
    · rw [rows.posted_refund nofun]
      exact story.shape.posted_of_waiting (ends.imp And.left And.left) free
    · rw [sameIntent.id]
      exact free
    · intro attempt tried owner live
      rw [sameIntent.amountMinor]
      exact story.amounts attempt tried (owner.trans sameIntent.id) live
    · intro attempt tried owner charged
      exact absurd (story.charged attempt tried (owner.trans sameIntent.id) charged) open_.1
  | uncharged old _ before _ _ _ stored latest _ charged _ owned _ reversing =>
    have settled := (told.story before owned).charged old stored (ordered.latest_stored latest).2 charged
    rcases reversing with is | is <;> rw [is] at settled <;> exact absurd settled (by decide)
  | unreversed _ _ owned sameIntent reversing failed =>
    refine told.turned owned sameIntent rfl rfl (append_nil _).symm rfl nofun
      ⟨fun _ => by rw [failed]; decide, fun _ => by rw [failed]; decide, fun ended => ?_, fun settled => ?_⟩
    · rcases reversing with is | is <;> rw [is] at ended <;> rcases ended with no | no <;> cases no
    · rcases reversing with is | is <;> rw [is] at settled <;> exact absurd settled (by decide)
  | refundOpened before _ _ owned sameIntent refundable initiated =>
    have settled : before.status ∈ settledStatuses := by rcases refundable with is | is <;> rw [is] <;> decide
    exact told.refunding owned sameIntent rfl rfl (append_nil _).symm rfl
      nofun settled (by rw [initiated]; decide)
  | refundKept =>
    exact ⟨told.known, told.holds, fun intent stored => (told.story intent stored).frame rfl .rfl fun _ _ => .rfl⟩
  | refundFailed _ _ _ _ _ _ _ _ _ owned _ sameIntent initiated _ back =>
    refine told.refunding owned sameIntent rfl rfl (append_nil _).symm rfl
      nofun (by rw [initiated]; decide) ?_
    rw [back]
    split <;> decide
  | refundSettled old new before after accounts entry already refunded stored same waiting status owned owner sameIntent
      initiated earlier within total ends resolved posted =>
    have settled : before.status ∈ settledStatuses := by rcases initiated with is | is <;> rw [is] <;> decide
    refine told.refunding owned sameIntent rfl rfl rfl posted.openHolds (fun call member => ?_) settled ?_
    · rw [mem_singleton.mp member]
      exact posted.forRefund
    · rw [ends]
      split <;> decide

end BdPay.Kernel
