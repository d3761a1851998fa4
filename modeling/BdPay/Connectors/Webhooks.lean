import BdPay.Connectors.Sdk
import BdPay.Data.Effect

namespace BdPay.Connectors

open Platform Data Effect

/-! The inbound webhook pipeline: raw bytes are archived first, then the signature is
checked, the body is deduplicated by its hash, parsed and handed to the kernel. -/

abbrev Headers := List (String × String)

abbrev Bytes := List UInt8

inductive WebhookStatus where
  | received | verified | parsed | handedOff | processed | parked | rejected | duplicate
deriving DecidableEq

inductive RejectReason where
  | signatureUnverifiable | parseError | unmatched
deriving DecidableEq

/-- The keys of the object store: `webhooks/{connector}/{hash}`, the same with
`.headers`, and `raw/{connector}/{hash}`. -/
inductive ObjectKey where
  | webhook (connectorId contentHash : String)
  | webhookHeaders (connectorId contentHash : String)
  | raw (connectorId rawResponseHash : String)
deriving DecidableEq

structure WebhookInboundRecord where
  (inboundId connectorId contentHash headersHash : String)
  rawPointer : ObjectKey
  sourceIpHash : String
  status : WebhookStatus := .received
  rejectReason : Option RejectReason := none
  parsedConnectorRef : Option String := none
  resultId : Option String := none
  receivedAt : DateTime
  processedAt : Option DateTime := none
deriving DecidableEq

/-- `UNIQUE(connector_id, content_hash)`. -/
def WebhookInboundRecord.key (record : WebhookInboundRecord) : String × String :=
  (record.connectorId, record.contentHash)

structure WebhookResultRow where
  resultId : String
  result : ConnectorResult
  connectorId : String
  attemptNo : Nat
  modeAtCall : ConnectorMode
  rawResponsePointer : ObjectKey
  producedAt : DateTime
  webhookInboundId : String

inductive WebhookAction where
  | verified | duplicate
  | rejected (reason : RejectReason)
  | parked

structure WebhookAudit where
  action : WebhookAction
  (inboundId connectorId : String)
  occurredAt : DateTime

inductive WebhookEvent where
  | rejected (inboundId connectorId : String) (reason : RejectReason) (sourceIpHash : String)
  | parked (inboundId connectorId : String)
  | recorded (row : WebhookResultRow)

/-- The stores of the pipeline, and what the kernel has been given so far.

The three indexes of the inbound store are one insertion-ordered dictionary:
the identifier of a row is computed from its unique key. -/
structure WebhookInbox where
  rows : Dict (String × String) WebhookInboundRecord
  objects : Dict ObjectKey Bytes
  results : List WebhookResultRow
  audit : List WebhookAudit
  events : List WebhookEvent
  handed : List ConnectorResult

def WebhookInbox.empty : WebhookInbox := ⟨.empty, .empty, [], [], [], []⟩

/-- What a connector contributes; `none` stands for an exception. -/
structure WebhookHandler where
  verifySignature : Headers → Bytes → Option Bool
  parseEvent : Headers → Bytes → Option ConnectorResult

/-- How the kernel takes a result: its transaction commits, it knows no such
`connector_ref`, or it raises. -/
inductive Handoff where
  | committed | unmatched | raised
deriving DecidableEq

/-- The kernel's answer may depend on everything it was handed before. -/
abbrev KernelHandoff := List ConnectorResult → ConnectorResult → Handoff

inductive PipelineError where
  | unknownConnector (message : String)
  | transitionDenied (source target : WebhookStatus)
  | unknownInbound (inboundId : String)
  | unknownObject (key : ObjectKey)
  | kernelRaised

abbrev PipelineM := EStateM PipelineError WebhookInbox

structure IngestOutcome where
  inboundId : String
  status : WebhookStatus

def parkTtlSeconds : Int := 24 * 3600

/-- The webhook state machine; anything else is refused. -/
def allowed : List (WebhookStatus × WebhookStatus) :=
  [(.received, .verified), (.received, .rejected), (.verified, .parsed), (.verified, .duplicate),
    (.parsed, .handedOff), (.parsed, .parked), (.parsed, .rejected), (.handedOff, .processed),
    (.parked, .parsed), (.parked, .rejected)]

def WebhookStatus.terminal : WebhookStatus → Bool
  | .processed | .rejected | .duplicate => true
  | _ => false

/-- A row rests once it is done with, and while it is parked: every sweep takes it up. -/
def WebhookStatus.rests (status : WebhookStatus) : Bool := status.terminal || status == .parked

/-- The record an advance writes. -/
def WebhookInboundRecord.moved (record : WebhookInboundRecord) (now : DateTime) (target : WebhookStatus)
    (reason : Option RejectReason) : WebhookInboundRecord :=
  { record with
    status := target
    rejectReason := reason.or record.rejectReason
    processedAt := if target.terminal then some now else record.processedAt }

structure Delivery where
  connectorId : String
  headers : Headers
  body : Bytes
  sourceIp : String

structure WebhookPipeline where
  handlers : Dict String WebhookHandler
  sha256 : Bytes → String
  /-- `sha256_canonical(dict(headers))`. -/
  headersHash : Headers → String
  /-- `make_connector_id("winb", ...)` of the unique key. -/
  inboundId : String × String → String
  /-- `make_id("cres", ...)` of connector, reference, attempt and response hash. -/
  resultId : String → String → Nat → String → String
  modeAtCall : ConnectorMode

namespace WebhookPipeline

def audited (now : DateTime) (record : WebhookInboundRecord) (action : WebhookAction) : PipelineM Unit :=
  modify fun inbox => { inbox with
    audit := inbox.audit ++ [⟨action, record.inboundId, record.connectorId, now⟩] }

def emit (event : WebhookEvent) : PipelineM Unit :=
  modify fun inbox => { inbox with events := inbox.events ++ [event] }

def emitRejected (record : WebhookInboundRecord) (reason : RejectReason) : PipelineM Unit :=
  emit (.rejected record.inboundId record.connectorId reason record.sourceIpHash)

/-- `objects.put`. -/
def archive (key : ObjectKey) (bytes : Bytes) : PipelineM Unit :=
  modify fun inbox => { inbox with objects := inbox.objects.set key bytes }

/-- `objects.get`, which raises on a miss. -/
def fetch (key : ObjectKey) : PipelineM Bytes := do
  match (← get).objects.get? key with
  | some bytes => pure bytes
  | none => throw (.unknownObject key)

def save (record : WebhookInboundRecord) : PipelineM Unit := do
  raiseIf ((← get).rows.get? record.key = none) (.unknownInbound record.inboundId)
  modify fun inbox => { inbox with rows := inbox.rows.set record.key record }

/-- The only writer of a row's status. -/
def advance (now : DateTime) (record : WebhookInboundRecord) (target : WebhookStatus)
    (reason : Option RejectReason) : PipelineM WebhookInboundRecord := do
  raiseIf ((record.status, target) ∉ allowed) (.transitionDenied record.status target)
  save (record.moved now target reason)
  pure (record.moved now target reason)

/-- Insert, unless the unique key is taken: then the stored row, and `false`. -/
def insert (record : WebhookInboundRecord) : PipelineM (WebhookInboundRecord × Bool) := do
  match (← get).rows.get? record.key with
  | some existing => pure (existing, false)
  | none => do
      modify fun inbox => { inbox with rows := inbox.rows.set record.key record }
      pure (record, true)

/-- Only a literal `True` verifies. -/
def verify (handler : WebhookHandler) (headers : Headers) (body : Bytes) : Bool :=
  handler.verifySignature headers body = some true

/-- A redelivery that does not verify is refused; the stored row keeps its state. -/
def rejectDelivery (now : DateTime) (record : WebhookInboundRecord) (reason : RejectReason) :
    PipelineM IngestOutcome := do
  audited now record (.rejected reason)
  emitRejected record reason
  pure ⟨record.inboundId, .rejected⟩

variable (pipeline : WebhookPipeline) (kernel : KernelHandoff)

/-- `kernel.handle_connector_result`. -/
def handleConnectorResult (result : ConnectorResult) : PipelineM Bool := do
  let inbox ← get
  set { inbox with handed := inbox.handed ++ [result] }
  match kernel inbox.handed result with
  | .committed => pure true
  | .unmatched => pure false
  | .raised => throw .kernelRaised

def nextAttemptNo (rows : List WebhookResultRow) (connectorId connectorRef : String) : Nat :=
  ((rows.filter fun row => row.connectorId = connectorId ∧ row.result.connectorRef = connectorRef).map
    (·.attemptNo)).foldl max 0 + 1

/-- `results.record` under the next attempt number, which no row has yet. -/
def recordResult (now : DateTime) (record : WebhookInboundRecord) (result : ConnectorResult) (pointer : ObjectKey) :
    PipelineM WebhookResultRow := do
  let inbox ← get
  let attemptNo := nextAttemptNo inbox.results record.connectorId result.connectorRef
  let row : WebhookResultRow := {
    resultId := pipeline.resultId record.connectorId result.connectorRef attemptNo result.rawResponseHash
    result, connectorId := record.connectorId, attemptNo, modeAtCall := pipeline.modeAtCall
    rawResponsePointer := pointer, producedAt := now, webhookInboundId := record.inboundId }
  set { inbox with results := inbox.results ++ [row] }
  pure row

/-- The response is archived under its own hash, unless it is there already. -/
def archiveResponse (pointer source : ObjectKey) : PipelineM Unit := do
  if (← get).objects.get? pointer = none then archive pointer (← fetch source)

def handoff (now : DateTime) (record : WebhookInboundRecord) (result : ConnectorResult) :
    PipelineM IngestOutcome := do
  let accepted ← handleConnectorResult kernel result
  if !accepted then
    let record ← advance now record .parked none
    audited now record .parked
    emit (.parked record.inboundId record.connectorId)
    pure ⟨record.inboundId, .parked⟩
  else
    let pointer := ObjectKey.raw record.connectorId result.rawResponseHash
    archiveResponse pointer record.rawPointer
    let row ← pipeline.recordResult now record result pointer
    let record := { record with resultId := some row.resultId }
    emit (.recorded row)
    let record ← advance now record .handedOff none
    let record ← advance now record .processed none
    pure ⟨record.inboundId, .processed⟩

/-- The row of a first delivery. -/
def receivedRow (now : DateTime) (delivery : Delivery) : WebhookInboundRecord :=
  let contentHash := pipeline.sha256 delivery.body
  { inboundId := pipeline.inboundId (delivery.connectorId, contentHash)
    connectorId := delivery.connectorId, contentHash, headersHash := pipeline.headersHash delivery.headers
    rawPointer := .webhook delivery.connectorId contentHash
    sourceIpHash := pipeline.sha256 delivery.sourceIp.toUTF8.toList, receivedAt := now }

/-- The part of `ingest` that a newly inserted row goes through. -/
def ingestCreated (now : DateTime) (handler : WebhookHandler) (delivery : Delivery) (record : WebhookInboundRecord) :
    PipelineM IngestOutcome := do
  if !verify handler delivery.headers delivery.body then do
    let record ← advance now record .rejected (some .signatureUnverifiable)
    audited now record (.rejected .signatureUnverifiable)
    emitRejected record .signatureUnverifiable
    pure ⟨record.inboundId, .rejected⟩
  else do
    let record ← advance now record .verified none
    audited now record .verified
    let record ← advance now record .parsed none
    match handler.parseEvent delivery.headers delivery.body with
    | none => do
        let record ← advance now record .rejected (some .parseError)
        emitRejected record .parseError
        pure ⟨record.inboundId, .rejected⟩
    | some result => do
        let record := { record with parsedConnectorRef := some result.connectorRef }
        save record
        pipeline.handoff kernel now record result

def ingest (now : DateTime) (delivery : Delivery) : PipelineM IngestOutcome := do
  match pipeline.handlers.get? delivery.connectorId with
  | none => throw (.unknownConnector s!"no webhook handler for connector {delivery.connectorId}")
  | some handler => do
      let fresh := pipeline.receivedRow now delivery
      -- The raw bytes are kept before anything is known about them.
      archive fresh.rawPointer delivery.body
      archive (.webhookHeaders fresh.connectorId fresh.contentHash) fresh.headersHash.toUTF8.toList
      let (record, created) ← insert fresh
      if created then pipeline.ingestCreated kernel now handler delivery record
      else if !verify handler delivery.headers delivery.body then
        rejectDelivery now record .signatureUnverifiable
      else do
        audited now record .duplicate
        pure ⟨record.inboundId, .duplicate⟩

/-- One parked row of a sweep. -/
def sweepRow (now : DateTime) (record : WebhookInboundRecord) : PipelineM Unit := do
  if record.receivedAt.elapsedAtLeast now parkTtlSeconds then do
    let record ← advance now record .rejected (some .unmatched)
    audited now record (.rejected .unmatched)
    emitRejected record .unmatched
  else
    match pipeline.handlers.get? record.connectorId with
    | none => pure ()
    | some handler => do
        let body ← fetch record.rawPointer
        match handler.parseEvent [] body with
        | none => pure ()
        | some result => do
            let record ← advance now record .parsed none
            let _ ← pipeline.handoff kernel now record result

def listByStatus (inbox : WebhookInbox) (status : WebhookStatus) : List WebhookInboundRecord :=
  inbox.rows.values.filter (·.status = status)

def sweepParked (now : DateTime) : PipelineM Unit := do
  forEach (listByStatus (← get) .parked) (pipeline.sweepRow kernel now)

/-- What reaches the pipeline: a delivery, or the retry timer. -/
inductive Arrival where
  | delivery (now : DateTime) (delivery : Delivery)
  | sweep (now : DateTime)

/-- An arrival keeps what was written, whether it returned or raised. -/
def receive (inbox : WebhookInbox) : Arrival → WebhookInbox
  | .delivery now delivery => leaves (pipeline.ingest kernel now delivery) inbox
  | .sweep now => leaves (pipeline.sweepParked kernel now) inbox

def run (arrivals : List Arrival) : WebhookInbox := arrivals.foldl (pipeline.receive kernel) .empty

end WebhookPipeline

end BdPay.Connectors
