import BdPay.Ledger.Honest

namespace BdPay.Ledger

open Data Platform MemoryStore LedgerService Call List Dict Option

/-! Holds: what the entries that open and close a hold do to the accounts, over every run. -/

variable {service : LedgerService} {store after : MemoryStore}
  {amount : Option Int} {holdId outcome : String} {closing : Closing} {capture : Int}

/-- Credits less debits of one account. -/
def creditNet (postings : List PostingRow) (accountId : String) : Int :=
  (postings.map fun posting =>
    if posting.accountId = accountId then
      if posting.side = "DEBIT" then -posting.amountMinor else posting.amountMinor
    else 0).sum

/-- An amount as the account that holds it sees it. -/
def amountAt (amount : Int) (holder accountId : String) : Int := if holder = accountId then amount else 0

/-- Credits less debits over the entries that opened and closed a hold. -/
def MemoryStore.holdNet (store : MemoryStore) (hold : AccountHoldRow) (accountId : String) : Int :=
  creditNet (store.getPostingsForEntry hold.openJeId) accountId +
    (hold.closeJeId.map fun closeJeId => creditNet (store.getPostingsForEntry closeJeId) accountId).getD 0

/-- What opening a hold does to an account. -/
def openingNet (hold : AccountHoldRow) (accountId : String) : Int :=
  amountAt hold.amountMinor hold.holdReserveAccountId accountId - amountAt hold.amountMinor hold.sourceAccountId accountId

/-- What closing a hold does to an account. -/
def closingNet (hold : AccountHoldRow) (outcome : String) (capture : Int) (accountId : String) : Int :=
  if outcome = "CAPTURED" then
    amountAt capture hold.accountId accountId + amountAt (hold.amountMinor - capture) hold.sourceAccountId accountId -
      amountAt hold.amountMinor hold.holdReserveAccountId accountId
  else
    amountAt hold.amountMinor hold.sourceAccountId accountId -
      amountAt hold.amountMinor hold.holdReserveAccountId accountId

/-- Opening and closing together move the captured amount, and nothing but that. -/
def closedNet (hold : AccountHoldRow) (outcome : String) (capture : Int) (accountId : String) : Int :=
  if outcome = "CAPTURED" then
    amountAt capture hold.accountId accountId - amountAt capture hold.sourceAccountId accountId
  else 0

theorem openingNet_add_closingNet (hold : AccountHoldRow) (outcome : String) (capture : Int) (accountId : String) :
    openingNet hold accountId + closingNet hold outcome capture accountId = closedNet hold outcome capture accountId := by
  simp only [openingNet, closingNet, closedNet, amountAt]
  split_ifs <;> omega

/-- The rows of an entry weigh what the specs they come from ask for. -/
theorem creditNet_rowOf
    (rowOf : List.Forall₂ (LedgerService.RowOf entryId producedAt) specs rows) (accountId : String) :
    creditNet rows accountId = (specs.map fun spec =>
      if spec.side = "DEBIT" then -amountAt spec.amountMinor spec.accountId accountId
      else amountAt spec.amountMinor spec.accountId accountId).sum := by
  induction rowOf with
  | nil => rfl
  | @cons spec _ _ _ first others ih =>
    rw [creditNet, map_cons, sum_cons, map_cons, sum_cons, ← ih, creditNet, first]
    congr 1
    by_cases here : spec.accountId = accountId
    · simp [postingRow, amountAt, here]
    · simp [postingRow, amountAt, here]

variable {opening : Opening}

theorem Opens.creditNet_eq (opens : Opens service store opening) (accountId : String) :
    creditNet opening.bundle.postings accountId = openingNet opening.row accountId := by
  rw [creditNet_rowOf opens.posts.postings.rowOf]
  simp only [openSpec, map_cons, map_nil, sum_cons, sum_nil, openingNet, Opening.row,
    openHoldRow, if_true, show ("CREDIT" : String) ≠ "DEBIT" by decide, if_false]
  omega

theorem Closes.creditNet_eq (closes : Closes service store closing) (accountId : String) :
    creditNet closing.bundle.postings accountId =
      closingNet closing.hold closing.outcome closing.capture accountId := by
  have booked := closes.booked
  have within := closes.within
  have credit : ("CREDIT" : String) ≠ "DEBIT" := by decide
  rw [creditNet_rowOf closes.posts.postings.rowOf]
  simp only [closeSpec, closingNet]
  simp only [closingPostings] at booked
  split_ifs at booked ⊢ with isCapture rest partly
  · rw [← Except.ok.inj booked]
    simp only [cons_append, nil_append, map_cons, map_nil, sum_cons, sum_nil, if_true,
      credit, if_false]
    omega
  · have nothing : amountAt (closing.hold.amountMinor - closing.capture) closing.hold.sourceAccountId accountId = 0 := by
      simp only [amountAt]
      split_ifs <;> omega
    rw [← Except.ok.inj booked]
    simp only [append_nil, map_cons, map_nil, sum_cons, sum_nil, if_true, credit, if_false]
    omega
  · rw [← Except.ok.inj booked]
    simp only [map_cons, map_nil, sum_cons, sum_nil, if_true, credit, if_false]
    omega

/-- The entries of a log that a hold points to, and what they do to the accounts. -/
structure Journalled (log : List (Posted service)) (hold : AccountHoldRow) : Prop where
  positive : 0 < hold.amountMinor
  opened : ∃ posted ∈ log, posted.entry.entryId = hold.openJeId ∧
    ∀ accountId, creditNet posted.postings accountId = openingNet hold accountId
  closed : hold.status = "OPEN" ∧ hold.closeJeId = none ∨
    hold.status ∈ ["CAPTURED", "VOIDED", "EXPIRED"] ∧ ∃ capture, 0 < capture ∧ capture ≤ hold.amountMinor ∧
      ∃ posted ∈ log, hold.closeJeId = some posted.entry.entryId ∧
        ∀ accountId, creditNet posted.postings accountId = closingNet hold hold.status capture accountId

variable {hold : AccountHoldRow}

theorem Journalled.mono (journalled : Journalled log hold)
    (posted : Posted service) : Journalled (log ++ [posted]) hold where
  positive := journalled.positive
  opened := by
    obtain ⟨opening, member, rest⟩ := journalled.opened
    exact ⟨opening, mem_append_left _ member, rest⟩
  closed := by
    rcases journalled.closed with isOpen | ⟨status, capture, positive, within, closing, member, rest⟩
    · exact .inl isOpen
    · exact .inr ⟨status, capture, positive, within, closing, mem_append_left _ member, rest⟩

/-- The table of holds next to the log. -/
structure HoldsOf (store : MemoryStore) (log : List (Posted service)) : Prop where
  keyed : ∀ holdId hold, store.holds.get? holdId = some hold → hold.holdId = holdId
  oneOpen : ∀ leftId left rightId right, store.holds.get? leftId = some left → store.holds.get? rightId = some right →
    left.status = "OPEN" → right.status = "OPEN" → left.referenceId = right.referenceId → leftId = rightId
  journalled : ∀ holdId hold, store.holds.get? holdId = some hold → Journalled log hold

namespace HoldsOf

theorem frame (holdsOf : HoldsOf store log) (holds : after.holds = store.holds) : HoldsOf after log where
  keyed := by
    rw [holds]
    exact holdsOf.keyed
  oneOpen := by
    rw [holds]
    exact holdsOf.oneOpen
  journalled := by
    rw [holds]
    exact holdsOf.journalled

theorem append (holdsOf : HoldsOf store log) (posted : Posted service) : HoldsOf store (log ++ [posted]) where
  keyed := holdsOf.keyed
  oneOpen := holdsOf.oneOpen
  journalled := fun holdId hold found => (holdsOf.journalled holdId hold found).mono posted

/-- Replacing the hold of one id by a row that fits the log. -/
theorem set (holdsOf : HoldsOf store log) (row : AccountHoldRow) (journalled : Journalled log row)
    (alone : row.status = "OPEN" → ∀ otherId other, store.holds.get? otherId = some other → other.status = "OPEN" →
      other.referenceId = row.referenceId → otherId = row.holdId)
    (holds : after.holds = store.holds.set row.holdId row) : HoldsOf after log where
  keyed := fun _ _ found => forall_set (holdsOf.keyed _ _) rfl (holds ▸ found)
  oneOpen := by
    intro leftId left rightId right leftFound rightFound leftOpen rightOpen reference
    rw [holds, get?_set] at leftFound rightFound
    split_ifs at leftFound with leftSame <;> split_ifs at rightFound with rightSame
    · rw [leftSame, rightSame]
    · cases leftFound
      rw [leftSame, alone leftOpen rightId right rightFound rightOpen reference.symm]
    · cases rightFound
      rw [rightSame, alone rightOpen leftId left leftFound leftOpen reference]
    · exact holdsOf.oneOpen leftId left rightId right leftFound rightFound leftOpen rightOpen reference
  journalled := fun _ _ found => forall_set (holdsOf.journalled _ _) journalled (holds ▸ found)

end HoldsOf

theorem not_open_of_getOpenAccountHoldByReference
    (unheld : store.getOpenAccountHoldByReference referenceId = none) (found : store.holds.get? holdId = some hold)
    (isOpen : hold.status = "OPEN") : hold.referenceId ≠ referenceId := by
  intro same
  have member : hold ∈ store.holds.values.filter fun row => row.referenceId = referenceId ∧ row.status = "OPEN" := by
    simp [mem_values_of_get? found, same, isOpen]
  rw [getOpenAccountHoldByReference] at unheld
  cases listed : store.holds.values.filter fun row => row.referenceId = referenceId ∧ row.status = "OPEN" with
  | nil =>
    rw [listed] at member
    cases member
  | cons =>
    rw [listed] at unheld
    cases unheld

theorem closingEntryType_mem (typed : closingEntryType outcome = some entryType) :
    outcome ∈ ["CAPTURED", "VOIDED", "EXPIRED"] := by
  unfold closingEntryType at typed
  split at typed <;> simp_all

theorem not_open_of_mem (member : outcome ∈ ["CAPTURED", "VOIDED", "EXPIRED"]) : outcome ≠ "OPEN" := by
  intro same
  rw [same] at member
  simp at member

theorem captureAmount_eq (positive : 0 < hold.amountMinor) (captured : captureAmount hold amountMinor = .ok capture) :
    capture = amountMinor.getD hold.amountMinor ∧ 0 < capture := by
  cases amountMinor with
  | none =>
    cases captured
    exact ⟨rfl, positive⟩
  | some =>
    simp only [captureAmount, requireAmountMinor] at captured
    split_ifs at captured with refused
    cases captured
    exact ⟨rfl, by omega⟩

section

variable {genesis : Option ChainEntryRow} {log : List (Posted service)}

theorem HoldsOf.opened (holdsOf : HoldsOf store log) (opens : Opens service store opening) :
    HoldsOf (store.holdOpened opening) (log ++ [opens.posts.posted]) := by
  refine (holdsOf.append opens.posts.posted).set opening.row ?_ ?_ rfl
  · exact {
      positive := opens.positive
      opened := ⟨opens.posts.posted, by simp, rfl, opens.creditNet_eq⟩
      closed := .inl ⟨rfl, rfl⟩ }
  · intro _ otherId other found isOpen same
    exact absurd same (not_open_of_getOpenAccountHoldByReference opens.unheld found isOpen)

theorem HoldsOf.closed (holdsOf : HoldsOf store log) {closing : Closing} (closes : Closes service store closing) :
    HoldsOf (store.holdClosed closing) (log ++ [closes.posts.posted]) := by
  have journalled := (holdsOf.journalled _ _ closes.found).mono closes.posts.posted
  have outcome := closingEntryType_mem closes.typed
  refine (holdsOf.append closes.posts.posted).set closing.row ?_ ?_ rfl
  · exact {
      positive := journalled.positive
      opened := journalled.opened
      closed := .inr ⟨outcome, closing.capture, (captureAmount_eq journalled.positive closes.captured).2, closes.within,
        closes.posts.posted, by simp, rfl, closes.creditNet_eq⟩ }
  · intro isOpen
    exact absurd isOpen (not_open_of_mem outcome)

theorem Writes.holdsOf (writes : Writes service store after) (represents : Represents service store genesis log)
    (holdsOf : HoldsOf store log) : ∃ genesis' log', Represents service after genesis' log' ∧ HoldsOf after log' := by
  cases writes with
  | nothing => exact ⟨genesis, log, represents, holdsOf⟩
  | account fresh => exact ⟨genesis, log, represents.account fresh, holdsOf.frame rfl⟩
  | posted posts => exact ⟨_, _, represents.posted posts, (holdsOf.append posts.posted).frame rfl⟩
  | opened opens =>
    exact ⟨_, _, (represents.posted opens.posts).frame rfl rfl rfl rfl rfl rfl rfl, holdsOf.opened opens⟩
  | closed closes =>
    exact ⟨_, _, (represents.posted closes.posts).frame rfl rfl rfl rfl rfl rfl rfl, holdsOf.closed closes⟩
  | audited domain appends =>
    exact ⟨genesis, log, (represents.audited domain appends).frame rfl rfl rfl rfl rfl rfl rfl, holdsOf.frame rfl⟩
  | emitted => exact ⟨genesis, log, represents.frame rfl rfl rfl rfl rfl rfl rfl, holdsOf.frame rfl⟩
  | genesis domain empty shape sealed =>
    obtain ⟨started, kept⟩ := represents.initialized domain empty shape sealed
    exact ⟨started, log, kept, holdsOf.frame rfl⟩

/-- A log that the store and its holds fit. -/
def HasHolds (service : LedgerService) (store : MemoryStore) : Prop :=
  ∃ genesis, ∃ log : List (Posted service), Represents service store genesis log ∧ HoldsOf store log

theorem Call.after_hasHolds (hasHolds : HasHolds service store) (step : DateTime × Call) :
    HasHolds service (Call.after service store step) := by
  obtain ⟨genesis, log, represents, holdsOf⟩ := hasHolds
  rcases after_writes step with writes | ⟨-, reason, gated⟩
  · exact writes.holdsOf represents holdsOf
  · rw [gated]
    exact ⟨genesis, log, represents.frame rfl rfl rfl rfl rfl rfl rfl, holdsOf.frame rfl⟩

theorem Call.run_hasHolds (service : LedgerService) (steps : List (DateTime × Call)) :
    HasHolds service (run service steps {}) := by
  have nothing : ∀ holdId, ({} : MemoryStore).holds.get? holdId = none := fun _ => rfl
  have noHolds : HoldsOf {} ([] : List (Posted service)) := by constructor <;> simp [nothing]
  exact run_induction (motive := HasHolds service) steps ⟨none, [], represents_empty, noHolds⟩
    fun _ step before => after_hasHolds before step

/-- A hold that is not open any more is never written again. -/
theorem Call.after_closed (holdsOf : HoldsOf store log) (step : DateTime × Call)
    (found : store.holds.get? holdId = some hold) (closed : hold.status ≠ "OPEN") :
    (Call.after service store step).holds.get? holdId = some hold := by
  rcases after_writes step with writes | ⟨-, reason, gated⟩
  · generalize after service store step = reached at writes ⊢
    cases writes with
    | @opened opening opens =>
      show (store.holds.set opening.holdId opening.row).get? holdId = some hold
      rw [get?_set, if_neg, found]
      intro same
      rw [same, opens.fresh] at found
      cases found
    | @closed closing closes =>
      show (store.holds.set closing.hold.holdId closing.row).get? holdId = some hold
      rw [get?_set, if_neg, found]
      intro same
      rw [same, holdsOf.keyed _ _ closes.found, closes.found] at found
      cases found
      exact closed closes.wasOpen
    | _ => exact found
  · rw [gated]
    exact found

theorem Call.run_closed (hasHolds : HasHolds service store) (later : List (DateTime × Call))
    (found : store.holds.get? holdId = some hold) (closed : hold.status ≠ "OPEN") :
    (run service later store).holds.get? holdId = some hold := by
  refine (run_induction (motive := fun reached => HasHolds service reached ∧ reached.holds.get? holdId = some hold) later
    ⟨hasHolds, found⟩ ?_).2
  intro before step kept
  obtain ⟨⟨genesis, log, represents, holdsOf⟩, still⟩ := kept
  exact ⟨after_hasHolds ⟨genesis, log, represents, holdsOf⟩ step, after_closed holdsOf step still closed⟩

/-! The accounts of a hold -/

namespace Represents

variable (represents : Represents service store genesis log)

include represents

theorem holdNet_of_open (journalled : Journalled log hold) (isOpen : hold.status = "OPEN") (accountId : String) :
    store.holdNet hold accountId = openingNet hold accountId := by
  obtain ⟨posted, member, entryId, net⟩ := journalled.opened
  rcases journalled.closed with ⟨-, unclosed⟩ | ⟨status, -⟩
  · rw [holdNet, unclosed, ← entryId, represents.getPostingsForEntry_eq member, net]
    simp
  · exact absurd isOpen (not_open_of_mem status)

theorem holdNet_of_entries (hold : AccountHoldRow) {opening closing : Posted service} (opened : opening ∈ log)
    (closed : closing ∈ log) (openJe : opening.entry.entryId = hold.openJeId)
    (closeJe : hold.closeJeId = some closing.entry.entryId)
    (openNet : creditNet opening.postings accountId = openingNet hold accountId)
    (closeNet : creditNet closing.postings accountId = closingNet hold hold.status capture accountId) :
    store.holdNet hold accountId = closedNet hold hold.status capture accountId := by
  rw [holdNet, closeJe, ← openJe, represents.getPostingsForEntry_eq opened, map_some,
    getD_some, represents.getPostingsForEntry_eq closed, openNet, closeNet, openingNet_add_closingNet]

theorem holdNet_of_closed (journalled : Journalled log hold) (closed : hold.status ≠ "OPEN") :
    hold.status ∈ ["CAPTURED", "VOIDED", "EXPIRED"] ∧ ∃ capture, 0 < capture ∧ capture ≤ hold.amountMinor ∧
      ∀ accountId, store.holdNet hold accountId = closedNet hold hold.status capture accountId := by
  obtain ⟨opening, opened, openJe, openNet⟩ := journalled.opened
  rcases journalled.closed with ⟨isOpen, -⟩ | ⟨status, capture, positive, within, closing, member, closeJe, closeNet⟩
  · exact absurd isOpen closed
  · exact ⟨status, capture, positive, within, fun accountId =>
      represents.holdNet_of_entries hold opened member openJe closeJe (openNet accountId) (closeNet accountId)⟩

end Represents

/-- Releasing an open hold closes it with the outcome asked for. -/
theorem releaseHold_closes (found : store.holds.get? holdId = some hold) (isOpen : hold.status = "OPEN")
    (returned : service.releaseHold holdId outcome amount now store = .ok () after) :
    ∃ closing : Closing, Closes service store closing ∧ closing.hold = hold ∧ closing.outcome = outcome ∧
      closing.amountMinor = amount ∧
      after = store.holdClosed closing := by
  rcases (service.commits_releaseHold holdId outcome amount).of_ok returned with
    ⟨other, sameFound, closed, -, -⟩ | ⟨closing, closes, sameId, sameOutcome, sameAmount, rfl⟩
  · rw [found] at sameFound
    cases sameFound
    exact absurd isOpen closed
  · have sameHold := closes.found
    rw [sameId, found] at sameHold
    exact ⟨closing, closes, (some.inj sameHold).symm, sameOutcome, sameAmount, rfl⟩

theorem releaseHold_of_closed (found : store.holds.get? holdId = some hold) (closed : hold.status ≠ "OPEN")
    (returned : service.releaseHold holdId outcome amount now store = .ok () after) : after = store := by
  rcases (service.commits_releaseHold holdId outcome amount).of_ok returned with
    ⟨other, -, -, -, rfl⟩ | ⟨closing, closes, sameId, -⟩
  · rfl
  · have sameHold := closes.found
    rw [sameId, found] at sameHold
    rw [some.inj sameHold] at closed
    exact absurd closes.wasOpen closed

section

variable (represents : Represents service store genesis log) (holdsOf : HoldsOf store log)

include represents holdsOf

/-- The release of an open hold moves what it captures, and nothing but that. -/
theorem holdNet_of_release (closes : Closes service store closing) (accountId : String) :
    holdNet (store.holdClosed closing) closing.row accountId =
      closedNet closing.hold closing.outcome closing.capture accountId := by
  obtain ⟨opening, member, openJe, openNet⟩ := (holdsOf.journalled _ _ closes.found).opened
  have kept : Represents service (store.holdClosed closing) _ _ :=
    (represents.posted closes.posts).frame rfl rfl rfl rfl rfl rfl rfl
  exact kept.holdNet_of_entries closing.row (mem_append_left _ member)
    (mem_append_right _ (mem_singleton_self _)) openJe rfl (openNet accountId) (closes.creditNet_eq accountId)

/-- On an account that serves as a reserve only, the entries of the holds leave what is held. -/
theorem reserve_holdNet
    (reserveOnly : ∀ hold ∈ store.holds.values, hold.sourceAccountId ≠ accountId ∧ hold.accountId ≠ accountId) :
    (store.holds.values.map fun hold => store.holdNet hold accountId).sum =
      (store.holds.values.map fun hold =>
        if hold.status = "OPEN" ∧ hold.holdReserveAccountId = accountId then hold.amountMinor else 0).sum := by
  congr 1
  apply map_congr_left
  intro hold member
  obtain ⟨holdId, found⟩ := get?_of_mem_values member
  have journalled := holdsOf.journalled holdId hold found
  obtain ⟨source, account⟩ := reserveOnly hold member
  by_cases isOpen : hold.status = "OPEN"
  · rw [represents.holdNet_of_open journalled isOpen]
    simp [openingNet, amountAt, source, isOpen]
  · obtain ⟨-, capture, -, -, net⟩ := represents.holdNet_of_closed journalled isOpen
    rw [net]
    simp [closedNet, amountAt, source, account, isOpen]

end

end

/-- The holds of a store: what they did to the accounts, and what later calls can do to them. -/
structure KeepsHolds (service : LedgerService) (store : MemoryStore) : Prop where
  oneOpen : ∀ leftId left rightId right, store.holds.get? leftId = some left → store.holds.get? rightId = some right →
    left.status = "OPEN" → right.status = "OPEN" → left.referenceId = right.referenceId → leftId = rightId
  opened : ∀ holdId hold, store.holds.get? holdId = some hold → hold.status = "OPEN" →
    ∀ accountId, store.holdNet hold accountId = amountAt hold.amountMinor hold.holdReserveAccountId accountId -
      amountAt hold.amountMinor hold.sourceAccountId accountId
  closed : ∀ holdId hold, store.holds.get? holdId = some hold → hold.status ≠ "OPEN" →
    hold.status ∈ ["CAPTURED", "VOIDED", "EXPIRED"] ∧ ∃ capture, 0 < capture ∧ capture ≤ hold.amountMinor ∧
      ∀ accountId, store.holdNet hold accountId = closedNet hold hold.status capture accountId
  released : ∀ holdId hold outcome amountMinor now after, store.holds.get? holdId = some hold → hold.status = "OPEN" →
    service.releaseHold holdId outcome amountMinor now store = .ok () after →
    ∃ closed, after.holds.get? holdId = some closed ∧ closed.status = outcome ∧ closed.status ≠ "OPEN" ∧
      0 < amountMinor.getD hold.amountMinor ∧ amountMinor.getD hold.amountMinor ≤ hold.amountMinor ∧
      ∀ accountId, after.holdNet closed accountId =
        closedNet hold outcome (amountMinor.getD hold.amountMinor) accountId
  once : ∀ later holdId hold, store.holds.get? holdId = some hold → hold.status ≠ "OPEN" →
    (run service later store).holds.get? holdId = some hold ∧
      ∀ outcome amountMinor now after,
        service.releaseHold holdId outcome amountMinor now (run service later store) = .ok () after →
        after = run service later store
  reserve : ∀ accountId,
    (∀ hold ∈ store.holds.values, hold.sourceAccountId ≠ accountId ∧ hold.accountId ≠ accountId) →
    (store.holds.values.map fun hold => store.holdNet hold accountId).sum =
      (store.holds.values.map fun hold =>
        if hold.status = "OPEN" ∧ hold.holdReserveAccountId = accountId then hold.amountMinor else 0).sum

/-- Holds are in order after every sequence of calls. -/
theorem run_keepsHolds (service : LedgerService) (steps : List (DateTime × Call)) :
    KeepsHolds service (Call.run service steps {}) := by
  have hasHolds := Call.run_hasHolds service steps
  generalize Call.run service steps {} = store at hasHolds ⊢
  obtain ⟨genesis, log, represents, holdsOf⟩ := hasHolds
  constructor
  case oneOpen => exact holdsOf.oneOpen
  case opened =>
    intro holdId hold found isOpen accountId
    exact represents.holdNet_of_open (holdsOf.journalled holdId hold found) isOpen accountId
  case closed =>
    intro holdId hold found closed
    exact represents.holdNet_of_closed (holdsOf.journalled holdId hold found) closed
  case released =>
    intro holdId hold outcome amountMinor now after found isOpen returned
    obtain ⟨closing, closes, rfl, rfl, rfl, rfl⟩ := releaseHold_closes found isOpen returned
    obtain ⟨capture, positive⟩ := captureAmount_eq (holdsOf.journalled _ _ found).positive closes.captured
    rw [← capture]
    refine ⟨closing.row, ?_, rfl, not_open_of_mem (closingEntryType_mem closes.typed), positive, closes.within,
      holdNet_of_release represents holdsOf closes⟩
    show (store.holds.set closing.hold.holdId closing.row).get? holdId = some closing.row
    rw [Dict.get?_set, if_pos (holdsOf.keyed _ _ found).symm]
  case once =>
    intro later holdId hold found closed
    have kept := Call.run_closed ⟨genesis, log, represents, holdsOf⟩ later found closed
    exact ⟨kept, fun outcome amountMinor now after returned => releaseHold_of_closed kept closed returned⟩
  case reserve =>
    intro accountId reserveOnly
    exact reserve_holdNet represents holdsOf reserveOnly

/-- A hold on the transit account that names no source and no reserve of its own. -/
def holdTransit : DateTime × Call :=
  (newYear, .openHold {
    accountId := "acct_6c6e1c218a60db30433c6e2e"
    amountMinor := 500
    holdReason := "payment"
    referenceId := "pi_1" })

/-- The sample service with a hash that is quick to compute. -/
def quickService : LedgerService := { sampleService with
  sha256 := fun text => String.ofList (checksum 64 text)
  hexDigest := fun _ _ member => isHexDigit_of_mem_hexDigits (String.toList_ofList ▸ member) }

/-- By default the reserve of a hold is its source, whose balance a hold leaves alone. -/
theorem holdNet_of_default_reserve :
    let store := Call.run quickService [openTransit, holdTransit] {}
    (store.holds.values.map fun hold => store.holdNet hold "acct_6c6e1c218a60db30433c6e2e").sum = 0 ∧
      (store.holds.values.map fun hold => if hold.status = "OPEN" ∧
        hold.holdReserveAccountId = "acct_6c6e1c218a60db30433c6e2e" then hold.amountMinor else 0).sum = 500 := by
  decide +kernel

end BdPay.Ledger
