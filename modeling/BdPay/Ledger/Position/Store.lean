import BdPay.Data.Dict
import BdPay.Data.Effect
import BdPay.Platform.Clock

namespace BdPay.Ledger.Position

open Platform Data Effect

/-! Settlement windows, the positions of the participants in them, net debit caps, and the log of breaches. -/

inductive WindowStatus where
  | windowOpen | accumulatingPositions | cutoffReached | nettingCalculated | windowBlocked | settlementInstructed
  | settlementConfirmed | reconciliationRunning | reconciliationException | windowClosed | settlementFailed
deriving DecidableEq

inductive WindowTrigger where
  | windowOpenTick | cutoffReached | forceClose | nettingComputed | tcsaShortfallDetected | tcsaOk
  | tcsaShortfallResolved | adminOverrideShortfall | settlementConfirmed | settlementRejected | settlementTimeout
  | reconciliationStarted | reconMatched | reconException | exceptionResolved | settlementRetry | participantSuspended
  | unwindAndRecompute

/-- Everything that is not in the table is denied. -/
def windowTransitions : WindowStatus → WindowTrigger → List WindowStatus
  | .windowOpen, .windowOpenTick => [.accumulatingPositions]
  | .accumulatingPositions, .cutoffReached => [.cutoffReached]
  | .accumulatingPositions, .forceClose => [.cutoffReached]
  | .cutoffReached, .nettingComputed => [.nettingCalculated]
  | .nettingCalculated, .tcsaShortfallDetected => [.windowBlocked]
  | .nettingCalculated, .tcsaOk => [.settlementInstructed]
  | .windowBlocked, .tcsaShortfallResolved => [.settlementInstructed]
  | .windowBlocked, .adminOverrideShortfall => [.settlementInstructed]
  | .settlementInstructed, .settlementConfirmed => [.settlementConfirmed]
  | .settlementInstructed, .settlementRejected => [.settlementFailed]
  | .settlementInstructed, .settlementTimeout => [.settlementFailed]
  | .settlementConfirmed, .reconciliationStarted => [.reconciliationRunning]
  | .reconciliationRunning, .reconMatched => [.windowClosed]
  | .reconciliationRunning, .reconException => [.reconciliationException]
  | .reconciliationException, .exceptionResolved => [.windowClosed]
  | .settlementFailed, .settlementRetry => [.settlementInstructed]
  | .accumulatingPositions, .participantSuspended => [.accumulatingPositions]
  | .settlementFailed, .unwindAndRecompute => [.cutoffReached]
  | _, _ => []

inductive Side where
  | debit | credit
deriving DecidableEq

structure SettlementWindow where
  (windowId dnsSession : String)
  /-- A day number. -/
  windowDate : Nat
  status : WindowStatus
  openedAt : DateTime
  cutoffAt : Option DateTime := none
  nettingCompletedAt : Option DateTime := none
  confirmedAt : Option DateTime := none
  netSettlementAmountMinor : Option Int := none
  blockReason : Option String := none

/-- The columns a transition writes besides the status. -/
structure WindowChanges where
  cutoffAt : Option DateTime := none
  nettingCompletedAt : Option DateTime := none
  confirmedAt : Option DateTime := none
  netSettlementAmountMinor : Option Int := none
  blockReason : Option String := none
  /-- Columns that nobody may update. -/
  unknown : List String := []

def SettlementWindow.changed (window : SettlementWindow) (status : WindowStatus) (changes : WindowChanges) :
    SettlementWindow :=
  { window with
    status
    cutoffAt := changes.cutoffAt.or window.cutoffAt
    nettingCompletedAt := changes.nettingCompletedAt.or window.nettingCompletedAt
    confirmedAt := changes.confirmedAt.or window.confirmedAt
    netSettlementAmountMinor := changes.netSettlementAmountMinor.or window.netSettlementAmountMinor
    blockReason := changes.blockReason.or window.blockReason }

/-- One for each participant and window. -/
structure PositionAccount where
  (positionAccountId participantId settlementWindowId : String)
  /-- Negative if the participant owes. -/
  netPositionMinor : Int
  netDebitCapMinor : Int
  (debitCount creditCount : Nat)
  lastMovementAt : Option DateTime
  windowState : WindowStatus
  createdAt : DateTime
deriving DecidableEq

def PositionAccount.headroomMinor (row : PositionAccount) : Int := row.netDebitCapMinor - max 0 (-row.netPositionMinor)

structure NetDebitCap where
  (ndcId participantId : String)
  capAmountMinor : Int
  effectiveFrom : DateTime
  supersededAt : Option DateTime
  (approvedBy approvalRequestId rationale : String)
  createdAt : DateTime
deriving DecidableEq

structure NdcBreachLog where
  (breachId participantId settlementWindowId positionAccountId : String)
  (attemptedDebitMinor netPositionBeforeMinor netDebitCapMinor headroomBeforeMinor : Int)
  blockedAt : DateTime
  (blockedPostingEntryId sourcePaymentId : Option String)

inductive PositionError where
  | psoMode
  | windowInvalidTransition (windowId : String) (status : WindowStatus) (trigger : WindowTrigger) (target : WindowStatus)
  | ndc (message : String)
  | ndcBreach (participantId : String) (amountMinor headroomMinor : Int)
  | ndcNotConfigured (participantId : String)
  | noOpenWindow (participantId : String)

structure PositionStore where
  windows : Dict String SettlementWindow
  positions : Dict String PositionAccount
  caps : Dict String NetDebitCap
  breaches : List NdcBreachLog

namespace PositionStore

def empty : PositionStore := ⟨.empty, .empty, .empty, []⟩

variable (store : PositionStore)

/-- The accumulating window that was opened last. -/
def findAccumulatingWindow : Option SettlementWindow :=
  (store.windows.values.mergeSort fun left right => decide (right.openedAt.micros ≤ left.openedAt.micros)).find?
    fun window => window.status = .accumulatingPositions

def getPositionAccount (participantId windowId : String) : Option PositionAccount :=
  store.positions.values.find? fun row => row.participantId = participantId && row.settlementWindowId = windowId

def activeCap (participantId : String) : Option NetDebitCap :=
  store.caps.values.find? fun row => row.participantId = participantId && row.supersededAt = none

end PositionStore

abbrev PositionM := EStateM PositionError PositionStore

def insertWindow (row : SettlementWindow) : PositionM Unit := do
  let store ← get
  raiseIf (store.windows.contains row.windowId) (.ndc s!"duplicate window_id {row.windowId}")
  raiseIf (∃ existing ∈ store.windows.values,
      existing.windowDate = row.windowDate ∧ existing.dnsSession = row.dnsSession)
    (.ndc "one window per (window_date, dns_session)")
  set { store with windows := store.windows.set row.windowId row }

def updateWindow (windowId : String) (status : WindowStatus) (changes : WindowChanges) : PositionM SettlementWindow := do
  let store ← get
  match store.windows.get? windowId with
  | none => throw (.ndc s!"unknown window {windowId}")
  | some row => do
      raiseIf (changes.unknown ≠ []) (.ndc s!"non-updatable column(s) {changes.unknown}")
      let updated := row.changed status changes
      set { store with windows := store.windows.set windowId updated }
      pure updated

def insertPositionAccount (row : PositionAccount) : PositionM Unit := do
  let store ← get
  raiseIf (store.positions.contains row.positionAccountId) (.ndc s!"duplicate position account {row.positionAccountId}")
  raiseIf (∃ existing ∈ store.positions.values,
      existing.participantId = row.participantId ∧ existing.settlementWindowId = row.settlementWindowId)
    (.ndc "one position account per (participant, window)")
  set { store with positions := store.positions.set row.positionAccountId row }

def updatePositionAccount (positionAccountId : String) (change : PositionAccount → PositionAccount) :
    PositionM PositionAccount := do
  let store ← get
  match store.positions.get? positionAccountId with
  | none => throw (.ndc s!"unknown position account {positionAccountId}")
  | some row => do
      set { store with positions := store.positions.set positionAccountId (change row) }
      pure (change row)

def insertCap (row : NetDebitCap) : PositionM Unit := do
  let store ← get
  raiseIf (store.caps.contains row.ndcId) (.ndc s!"duplicate ndc_id {row.ndcId}")
  raiseIf (∃ existing ∈ store.caps.values, existing.participantId = row.participantId ∧ existing.supersededAt = none)
    (.ndc s!"participant {row.participantId} already has an active cap")
  set { store with caps := store.caps.set row.ndcId row }

def supersedeCap (ndcId : String) (supersededAt : DateTime) : PositionM Unit := do
  let store ← get
  match store.caps.get? ndcId with
  | none => throw (.ndc s!"unknown ndc_id {ndcId}")
  | some row => set { store with caps := store.caps.set ndcId { row with supersededAt := some supersededAt } }

def insertBreach (row : NdcBreachLog) : PositionM Unit :=
  modify fun store => { store with breaches := store.breaches ++ [row] }

end BdPay.Ledger.Position
