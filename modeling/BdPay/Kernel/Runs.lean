import BdPay.Kernel.Refunds

namespace BdPay.Kernel

open Platform Data Effect Connectors PaymentSystem

/-! Runs of the payment system: operations are started, adapters answer, backoffs
end and the operators change the connectors, in any order. -/

inductive Event where
  | createIntent (request : PaymentIntentRequest)
  | supplyMethod (paymentIntentId : String) (method : PaymentMethod)
  | confirm (paymentIntentId : String) (preflight : Preflight)
  | completeAction (paymentIntentId : String) (success : Bool)
  | cancel (paymentIntentId : String)
  | capture (paymentIntentId : String) (amountMinor : Option Int)
  | poll (attemptId : String)
  | callback (connectorId : String) (result : ConnectorResult)
  | executeReversal (paymentIntentId reason : String)
  | sweep
  | confirmDelivery (paymentIntentId : String) (deliveredAt : DateTime)
  | createRefund (paymentIntentId : String) (amountMinor : Int) (reason : RefundReason)
      (idempotencyKey : Option String)
  | processRefund (refundId : String)
  | answer (index : Nat) (outcome : AdapterOutcome)
  | wake (index : Nat)
  -- Registry changes, adapter registration, breaker resets and health probes.
  | reconfigure (registrations : Dict String ConnectorRegistration) (adapters : List (String × ConnectorMode))
      (breaker : CircuitBreaker)

structure Step where
  moment : Moment
  event : Event

namespace PaymentOrchestrator

variable (service : PaymentOrchestrator)

/-- The suspended call leaves the list as it resumes. -/
def takeCall (index : Nat) : KernelM (Option Call) := do
  let system ← get
  match system.calls[index]? with
  | none => pure none
  | some call => do
      set { system with calls := system.calls.eraseIdx index }
      pure (some call)

/-- The outcome an adapter gives a suspended call; a sleeping one takes none. -/
def resume (moment : Moment) (outcome : AdapterOutcome) : Call → KernelM Progress
  | .submit intent attempt instruction registration budget attempts =>
    service.submitAnswered moment { intent, attempt, instruction } registration budget attempts outcome
  | .backoff intent attempt instruction budget attempts => do
      suspend (.backoff intent attempt instruction budget attempts)
      pure .suspended
  | .poll attemptId registration connectorRef =>
    service.railAnswered moment .poll .queryStatus registration connectorRef outcome
      (service.applyStatusPollResult moment attemptId)
  | .reversal paymentIntentId registration connectorRef =>
    service.railAnswered moment .reversal .reverse registration connectorRef outcome
      (service.applyReversalResult moment paymentIntentId)
  | .refund refundId registration connectorRef =>
    service.railAnswered moment .refund .reverse registration connectorRef outcome (service.applyRefundResult moment refundId)

/-- Only a sleeping call wakes. -/
def awaken (moment : Moment) : Call → KernelM Progress
  | .backoff intent attempt instruction budget attempts =>
    service.submitRetried moment { intent, attempt, instruction } budget attempts
  | call => do
      suspend call
      pure .suspended

def perform (step : Step) : KernelM Progress := do
  let moment := step.moment
  match step.event with
  | .createIntent request => do let _ ← service.createIntent moment request; pure .done
  | .supplyMethod paymentIntentId method => do let _ ← supplyMethod moment paymentIntentId method; pure .done
  | .confirm paymentIntentId preflight => service.confirm moment paymentIntentId preflight
  | .completeAction paymentIntentId success => service.completeAction moment paymentIntentId success
  | .cancel paymentIntentId => do service.cancel moment paymentIntentId; pure .done
  | .capture paymentIntentId amountMinor => do service.capture moment paymentIntentId amountMinor; pure .done
  | .poll attemptId => service.pollTimedOutAttempt moment attemptId
  | .callback connectorId result => service.applyInboundConnectorResult moment connectorId result
  | .executeReversal paymentIntentId reason => service.executeReversal moment paymentIntentId reason
  | .sweep => do service.sweepExpiredIntents moment; pure .done
  | .confirmDelivery paymentIntentId deliveredAt => do
      service.confirmDelivery moment paymentIntentId deliveredAt
      pure .done
  | .createRefund paymentIntentId amountMinor reason idempotencyKey => do
      let _ ← service.createRefund moment paymentIntentId amountMinor reason idempotencyKey
      pure .done
  | .processRefund refundId => service.processRefund moment refundId
  | .answer index outcome => do
      match ← takeCall index with
      | none => pure .done
      | some call => service.resume moment outcome call
  | .wake index => do
      match ← takeCall index with
      | none => pure .done
      | some call => service.awaken moment call
  | .reconfigure registrations adapters breaker => do
      modify fun system =>
        { system with runner := { system.runner with registrations, adapters, breaker } }
      pure .done

/-- Without a transaction factory, a step keeps what the operation had written, whether it returned or raised. -/
def after (step : Step) (system : PaymentSystem) : PaymentSystem :=
  match service.perform step system with
  | .ok _ reached => reached
  | .error _ reached => reached

def run (system : PaymentSystem) (steps : List Step) : PaymentSystem :=
  steps.foldl (fun reached step => service.after step reached) system

end PaymentOrchestrator

end BdPay.Kernel
