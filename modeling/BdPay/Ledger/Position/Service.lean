import BdPay.Ledger.Position.Store

namespace BdPay.Ledger.Position

open Platform Data Effect

/-! The position service. -/

structure PositionService where
  platformMode : String
  windowIdFor : Nat → String → String
  ndcIdFor : String → Int → DateTime → String
  positionAccountIdFor : String → String → String
  /-- For a debit that finds no open window. -/
  strayBreachIdFor : String → DateTime → String
  /-- For a debit that exceeds the headroom of a position account. -/
  breachIdFor : String → String → Int → DateTime → String

def requireWindow (windowId : String) : PositionM SettlementWindow := do
  match (← get).windows.get? windowId with
  | none => throw (.ndc s!"unknown window {windowId}")
  | some row => pure row

def denyWindow (row : SettlementWindow) (trigger : WindowTrigger) (target : WindowStatus) : PositionM Unit :=
  raiseIf (target ∉ windowTransitions row.status trigger)
    (.windowInvalidTransition row.windowId row.status trigger target)

namespace PositionService

variable (service : PositionService)

def requirePso : PositionM Unit := raiseIf (service.platformMode ≠ "PSO") .psoMode

/-! Windows. -/

def openWindow (windowDate : Nat) (dnsSession : String) (now : DateTime) : PositionM SettlementWindow := do
  service.requirePso
  let row : SettlementWindow :=
    { windowId := service.windowIdFor windowDate dnsSession, dnsSession, windowDate, status := .windowOpen, openedAt := now }
  insertWindow row
  pure row

def windowTick (windowId : String) : PositionM SettlementWindow := do
  service.requirePso
  let row ← requireWindow windowId
  denyWindow row .windowOpenTick .accumulatingPositions
  updateWindow windowId .accumulatingPositions {}

def transitionWindow (windowId : String) (trigger : WindowTrigger) (target : WindowStatus) (changes : WindowChanges) :
    PositionM SettlementWindow := do
  service.requirePso
  let row ← requireWindow windowId
  denyWindow row trigger target
  updateWindow windowId target changes

/-! Net debit caps. -/

/-- The cap that is active is superseded before the new one is inserted. -/
def replaceCap (row : NetDebitCap) (now : DateTime) : PositionM Unit := do
  match (← get).activeCap row.participantId with
  | none => pure ()
  | some existing => supersedeCap existing.ndcId now
  insertCap row

variable (participantId : String)

def setNetDebitCap (capAmountMinor : Int) (approvedBy approvalRequestId rationale : String)
    (effectiveFrom : Option DateTime) (now : DateTime) : PositionM NetDebitCap := do
  service.requirePso
  raiseIf (capAmountMinor ≤ 0) (.ndc s!"cap_amount_minor must be > 0, got {capAmountMinor}")
  raiseIf (rationale = "" ∨ 1000 < rationale.length) (.ndc "rationale is required (max 1000 chars)")
  let effective := effectiveFrom.getD now
  raiseIf (effective.micros < now.micros) (.ndc "effective_from cannot be backdated")
  let row : NetDebitCap :=
    { ndcId := service.ndcIdFor participantId capAmountMinor effective, participantId, capAmountMinor
      effectiveFrom := effective, supersededAt := none, approvedBy, approvalRequestId, rationale, createdAt := now }
  replaceCap row now
  pure row

/-! Movements. -/

def newPositionAccount (window : SettlementWindow) (capMinor : Int) (now : DateTime) :
    PositionAccount where
  positionAccountId := service.positionAccountIdFor participantId window.windowId
  participantId
  settlementWindowId := window.windowId
  netPositionMinor := 0
  netDebitCapMinor := capMinor
  debitCount := 0
  creditCount := 0
  lastMovementAt := none
  windowState := window.status
  createdAt := now

def openPositionAccount (window : SettlementWindow) (capMinor : Int) (now : DateTime) :
    PositionM PositionAccount := do
  match (← get).getPositionAccount participantId window.windowId with
  | some existing => pure existing
  | none => do
      let row := service.newPositionAccount participantId window capMinor now
      insertPositionAccount row
      pure row

def strayBreach (amountMinor : Int) (entryId sourcePaymentId : Option String) (now : DateTime) :
    NdcBreachLog where
  breachId := service.strayBreachIdFor participantId now
  participantId
  settlementWindowId := "NONE"
  positionAccountId := "NONE"
  attemptedDebitMinor := amountMinor
  netPositionBeforeMinor := 0
  netDebitCapMinor := 0
  headroomBeforeMinor := 0
  blockedAt := now
  blockedPostingEntryId := entryId
  sourcePaymentId

def breach (position : PositionAccount) (cap : NetDebitCap) (window : SettlementWindow)
    (amountMinor : Int) (entryId sourcePaymentId : Option String) (now : DateTime) : NdcBreachLog where
  breachId := service.breachIdFor participantId position.positionAccountId amountMinor now
  participantId
  settlementWindowId := window.windowId
  positionAccountId := position.positionAccountId
  attemptedDebitMinor := amountMinor
  netPositionBeforeMinor := position.netPositionMinor
  netDebitCapMinor := cap.capAmountMinor
  headroomBeforeMinor := position.headroomMinor
  blockedAt := now
  blockedPostingEntryId := entryId
  sourcePaymentId

/-- What is left of the cap when the net is `newNet`. -/
def headroom (cap : NetDebitCap) (newNet : Int) : Int := cap.capAmountMinor - max 0 (-newNet)

def debitPosition (position : PositionAccount) (cap : NetDebitCap) (window : SettlementWindow)
    (amountMinor : Int) (entryId sourcePaymentId : Option String) (now : DateTime) : PositionM PositionAccount := do
  let newNet := position.netPositionMinor - amountMinor
  if headroom cap newNet < 0 then do
    insertBreach (service.breach participantId position cap window amountMinor entryId sourcePaymentId now)
    throw (.ndcBreach participantId amountMinor (headroom cap newNet))
  else
    updatePositionAccount position.positionAccountId fun row => { row with
      netPositionMinor := newNet, debitCount := position.debitCount + 1, lastMovementAt := some now }

/-- Refused, in this order, when no window is open, when no cap is active, and when the headroom is exceeded. -/
def postDebit (amountMinor : Int) (entryId sourcePaymentId : Option String) (now : DateTime) :
    PositionM PositionAccount := do
  service.requirePso
  raiseIf (amountMinor ≤ 0) (.ndc s!"debit amount_minor must be > 0, got {amountMinor}")
  match (← get).findAccumulatingWindow with
  | none => do
      insertBreach (service.strayBreach participantId amountMinor entryId sourcePaymentId now)
      throw (.noOpenWindow participantId)
  | some window => do
      match (← get).activeCap participantId with
      | none => throw (.ndcNotConfigured participantId)
      | some cap => do
          let position ← service.openPositionAccount participantId window cap.capAmountMinor now
          service.debitPosition participantId position cap window amountMinor entryId sourcePaymentId now

def postCredit (amountMinor : Int) (now : DateTime) : PositionM PositionAccount := do
  service.requirePso
  raiseIf (amountMinor ≤ 0) (.ndc s!"credit amount_minor must be > 0, got {amountMinor}")
  match (← get).findAccumulatingWindow with
  | none => throw (.noOpenWindow participantId)
  | some window => do
      match (← get).activeCap participantId with
      | none => throw (.ndcNotConfigured participantId)
      | some cap => do
          let position ← service.openPositionAccount participantId window cap.capAmountMinor now
          updatePositionAccount position.positionAccountId fun row => { row with
            netPositionMinor := position.netPositionMinor + amountMinor, creditCount := position.creditCount + 1
            lastMovementAt := some now }

end PositionService

/-! Runs. -/

inductive Operation where
  | openWindow (windowDate : Nat) (dnsSession : String)
  | windowTick (windowId : String)
  | transitionWindow (windowId : String) (trigger : WindowTrigger) (target : WindowStatus) (changes : WindowChanges)
  | setNetDebitCap (participantId : String) (capAmountMinor : Int) (approvedBy approvalRequestId rationale : String)
      (effectiveFrom : Option DateTime)
  | postDebit (participantId : String) (amountMinor : Int) (entryId sourcePaymentId : Option String)
  | postCredit (participantId : String) (amountMinor : Int)

structure Step where
  now : DateTime
  operation : Operation

namespace PositionService

variable (service : PositionService)

/-- An operation, and the position account it returns if it is a movement. -/
def perform (step : Step) : PositionM (Option PositionAccount) :=
  match step.operation with
  | .openWindow windowDate dnsSession => do
      let _ ← service.openWindow windowDate dnsSession step.now
      pure none
  | .windowTick windowId => do
      let _ ← service.windowTick windowId
      pure none
  | .transitionWindow windowId trigger target changes => do
      let _ ← service.transitionWindow windowId trigger target changes
      pure none
  | .setNetDebitCap participantId capAmountMinor approvedBy approvalRequestId rationale effectiveFrom => do
      let _ ← service.setNetDebitCap participantId capAmountMinor approvedBy approvalRequestId rationale effectiveFrom step.now
      pure none
  | .postDebit participantId amountMinor entryId sourcePaymentId => do
      let row ← service.postDebit participantId amountMinor entryId sourcePaymentId step.now
      pure (some row)
  | .postCredit participantId amountMinor => do
      let row ← service.postCredit participantId amountMinor step.now
      pure (some row)

def after (store : PositionStore) (step : Step) : PositionStore := leaves (service.perform step) store

def run (steps : List Step) : PositionStore := steps.foldl service.after .empty

end PositionService

end BdPay.Ledger.Position
