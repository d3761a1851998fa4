import BdPay.Connectors.Sdk

namespace BdPay.Connectors

open Platform Data

/-! The circuit breaker of each connector: CLOSED, OPEN, HALF_OPEN. -/

structure BreakerConfig where
  failureThreshold : Int := 5
  windowS : Int := 60
  cooldownS : Int := 30
  probeQuota : Int := 3
  informational : Bool := false

inductive BreakerState where
  | closed | open | halfOpen
deriving DecidableEq

structure BreakerRecord where
  connectorId : String
  state : BreakerState := .closed
  consecutiveFailures : Int := 0
  windowStartedAt : Option DateTime := none
  openedAt : Option DateTime := none
  halfOpenSuccesses : Int := 0
  halfOpenProbes : Int := 0
  failureThreshold : Int := 5
  windowS : Int := 60
  cooldownS : Int := 30
  probeQuota : Int := 3
  updatedAt : Option DateTime := none

structure CircuitBreaker where
  configs : Dict String BreakerConfig
  records : Dict String BreakerRecord

namespace CircuitBreaker

variable (breaker : CircuitBreaker)

variable (connectorId : String)

def config : BreakerConfig := (breaker.configs.get? connectorId).getD {}

def defaultRecord (now : DateTime) : BreakerRecord :=
  let config := breaker.config connectorId
  { connectorId, failureThreshold := config.failureThreshold, windowS := config.windowS,
    cooldownS := config.cooldownS, probeQuota := config.probeQuota, updatedAt := some now }

def loadOrDefault (now : DateTime) : BreakerRecord :=
  (breaker.records.get? connectorId).getD (breaker.defaultRecord connectorId now)

variable (record : BreakerRecord)

def save (now : DateTime) : CircuitBreaker :=
  { breaker with records := breaker.records.set record.connectorId { record with updatedAt := some now } }

def toOpen (now : DateTime) : CircuitBreaker :=
  breaker.save { record with state := .open, openedAt := some now, halfOpenSuccesses := 0, halfOpenProbes := 0 } now

def toClosed (now : DateTime) : CircuitBreaker :=
  breaker.save { record with
    state := .closed, consecutiveFailures := 0, windowStartedAt := none, openedAt := none,
    halfOpenSuccesses := 0, halfOpenProbes := 0 } now

/-- The record after the cooldown has been looked at, and the breaker that keeps it. -/
def maybeCooldown (now : DateTime) : BreakerRecord × CircuitBreaker :=
  match record.state, record.openedAt with
  | .open, some openedAt =>
    if openedAt.elapsedAtLeast now record.cooldownS then
      let halfOpened := { record with
        state := .halfOpen, halfOpenSuccesses := 0, halfOpenProbes := 0, updatedAt := some now }
      (halfOpened, breaker.save halfOpened now)
    else (record, breaker)
  | _, _ => (record, breaker)

/-- May this call touch the rail?  An unreadable store denies everything. -/
def admits (readable : Bool) (connectorId : String) (kind : CallKind) (now : DateTime) : Bool × CircuitBreaker :=
  if !readable then (false, breaker)
  else
    let record := breaker.loadOrDefault connectorId now
    if (breaker.config connectorId).informational then (true, breaker)
    else
      let (record, cooled) := breaker.maybeCooldown record now
      match record.state with
      | .closed => (true, cooled)
      | .open => (false, cooled)
      | .halfOpen =>
        match kind with
        | .health => (true, cooled)
        | .queryStatus =>
          if record.probeQuota ≤ record.halfOpenProbes then (false, cooled)
          else (true, cooled.save { record with halfOpenProbes := record.halfOpenProbes + 1 } now)
        -- No new money on a suspect rail: neither a submit nor a reversal.
        | .submit | .reverse => (false, cooled)

/-- Feeds a call's outcome into the breaker; an unreadable store drops it. -/
def observe (readable : Bool) (connectorId : String) (status : ConnectorStatus) (transportError : Bool)
    (now : DateTime) : CircuitBreaker :=
  if !readable then breaker
  else
    let record := breaker.loadOrDefault connectorId now
    let breaker := { breaker with records := breaker.records.set connectorId record }
    let failure := transportError || status == .failed || status == .timedOut
    match record.state with
    | .open => breaker
    | .halfOpen =>
      if failure then breaker.toOpen record now
      else
        let record := { record with halfOpenSuccesses := record.halfOpenSuccesses + 1 }
        if record.probeQuota ≤ record.halfOpenSuccesses then breaker.toClosed record now
        else breaker.save record now
    | .closed =>
      if !failure then breaker.save { record with consecutiveFailures := 0, windowStartedAt := none } now
      else
        let windowExpired := match record.windowStartedAt with
          | none => true
          | some startedAt => decide (record.windowS * 1000000 < (now.micros : Int) - startedAt.micros)
        let record :=
          if windowExpired then { record with windowStartedAt := some now, consecutiveFailures := 1 }
          else { record with consecutiveFailures := record.consecutiveFailures + 1 }
        if record.failureThreshold ≤ record.consecutiveFailures then breaker.toOpen record now
        else breaker.save record now

end CircuitBreaker

end BdPay.Connectors
