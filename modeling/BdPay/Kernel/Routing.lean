import BdPay.Kernel.Repository

namespace BdPay.Kernel

open Connectors

/-! Method and rail selection, with the health view the application wires in. -/

def methodConnectors : PaymentMethod → List String
  | .npsbIbft => ["npsb_iso8583_v28"]
  | .beftnCredit => ["beftn_batch_v2"]
  | .bkash => ["bkash_pgw_v2"]
  | .nagad => ["nagad_pgw_v33"]
  | .card => ["card_acquirer_v1"]
  | .banglaQr => ["npsb_iso8583_v28"]
  | .rocket => ["rocket_aggregator_v1"]

/-- Where an intent goes: to a connector, or into store-and-forward. -/
inductive Route where
  | connector (connectorId : String)
  | storeAndForward

def deferrable : PaymentMethod → Bool
  | .beftnCredit => true
  | _ => false

/-- The application's health view: registered, enabled, and an adapter for the
active mode.  It does not look at the breaker. -/
def isDispatchable (runner : ConnectorRunner) (connectorId : String) : Bool :=
  match runner.registrations.get? connectorId with
  | none => false
  | some registration =>
    decide (registration.activeMode ≠ .disabled) && registration.enabled &&
      decide ((connectorId, registration.activeMode) ∈ runner.adapters)

/-- `select_connector`, with smart routing off as the application wires it. -/
def selectConnector (runner : ConnectorRunner) (method : PaymentMethod) : Except KernelError Route :=
  match (methodConnectors method).filter (isDispatchable runner) with
  | first :: _ => .ok (.connector first)
  | [] =>
    if deferrable method then .ok .storeAndForward
    else .error (.connector
      s!"no healthy connector for method {method.value}; payment cannot be dispatched"
      "rail_temporarily_unavailable")

end BdPay.Kernel
