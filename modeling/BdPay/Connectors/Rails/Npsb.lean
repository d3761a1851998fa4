import BdPay.Connectors.Sdk
import BdPay.Data.Effect

namespace BdPay.Connectors.Npsb

open Platform Data Effect Text

/-! The NPSB adapter: sessions, the allocation of trace numbers, financial messages,
store-and-forward reversals, and the messages that come in on their own. -/

abbrev Fields := Dict Nat String

/-- A decoded ISO 8583 message. -/
structure IsoMessage where
  mti : String
  fields : Fields

def procIbftCredit : String := "400000"
def procQrMerchant : String := "260000"
def procStatusInquiry : String := "380000"

/-- `DE39_TO_RESULT`, and the alarm class of a code that is not in it. -/
def mapDe39 (code : String) : ConnectorStatus × Option String :=
  match code with
  | "00" | "08" => (.success, none)
  | "01" | "02" => (.rejected, some "refer_to_issuer")
  | "03" => (.rejected, some "invalid_merchant")
  | "04" | "07" => (.rejected, some "card_blocked")
  | "05" => (.rejected, some "do_not_honor")
  | "12" => (.rejected, some "invalid_transaction")
  | "13" => (.rejected, some "invalid_amount")
  | "14" => (.rejected, some "invalid_account")
  | "15" => (.rejected, some "no_such_issuer")
  | "25" => (.rejected, some "record_not_found")
  | "30" => (.failed, some "format_error")
  | "41" | "43" => (.rejected, some "lost_or_stolen")
  | "51" => (.rejected, some "insufficient_funds")
  | "54" => (.rejected, some "expired_card")
  | "55" => (.rejected, some "incorrect_pin")
  | "57" => (.rejected, some "txn_not_permitted_to_holder")
  | "58" => (.rejected, some "txn_not_permitted_to_terminal")
  | "61" => (.rejected, some "exceeds_amount_limit")
  | "62" => (.rejected, some "restricted_card")
  | "63" => (.failed, some "security_violation")
  | "65" => (.rejected, some "exceeds_frequency_limit")
  | "68" => (.timedOut, some "issuer_response_late")
  | "75" => (.rejected, some "pin_tries_exceeded")
  | "90" => (.failed, some "cutoff_in_progress")
  | "91" => (.timedOut, some "issuer_inoperative")
  | "92" => (.failed, some "routing_unavailable")
  | "94" => (.rejected, some "duplicate_transmission")
  | "96" => (.failed, some "system_malfunction")
  | _ => (.failed, some s!"iso_unmapped_de39_{code}")

/-! Local time: Dhaka is six hours ahead of UTC all year. -/

def dhakaMicros (now : DateTime) : Nat := now.micros + 6 * 3600000000

/-- The day number of the local date. -/
def businessDateOf (now : DateTime) : Nat := dhakaMicros now / 86400000000

def isoDate (day : Nat) : List Char :=
  let date := Calendar.civil day
  zeroPadded 4 date.year ++ '-' :: (zeroPadded 2 date.month ++ '-' :: zeroPadded 2 date.day)

/-- Hours, minutes and seconds, two digits each. -/
def clockText (micros : Nat) : List Char :=
  let second := micros / 1000000 % 86400
  zeroPadded 2 (second / 3600) ++ (zeroPadded 2 (second / 60 % 60) ++ zeroPadded 2 (second % 60))

def monthDayText (micros : Nat) : List Char :=
  let date := Calendar.civil (micros / 86400000000)
  zeroPadded 2 date.month ++ zeroPadded 2 date.day

/-- Transmission date and time, in UTC. -/
def de7 (now : DateTime) : String := String.ofList (monthDayText now.micros ++ clockText now.micros)

def localDe12De13 (now : DateTime) : String × String :=
  (String.ofList (clockText (dhakaMicros now)), String.ofList (monthDayText (dhakaMicros now)))

/-- The retrieval reference number: last digit of the year, day of the year, hour, trace number. -/
def rrnOf (now : DateTime) (stan : String) : String :=
  let (year, ordinal) := Calendar.yearOrdinal (businessDateOf now)
  String.ofList (digits (year % 10) ++ (zeroPadded 3 (ordinal + 1) ++
    (zeroPadded 2 (dhakaMicros now / 3600000000 % 24) ++ stan.toList)))

/-! The trace-number store. -/

structure StanAllocation where
  businessDate : Nat
  (sessionRef stan rrn : String)
  (instructionId connectorRef : Option String)
  allocatedAt : DateTime

structure StanStore where
  counters : Dict (Nat × String) Nat
  unique : List (Nat × String × String)
  allocations : List StanAllocation
  (byRef byStan : Dict String StanAllocation)

inductive SessionState where
  | signedOff | signOnSent | signedOn | echoMissed | cutoverInProgress
deriving DecidableEq

inductive SessionTrigger where
  | signOn | signOnAck | signOnFailed | echoOk | echoMissed | thirdMiss | cutoverWindow | cutoverAck | cutoverFailed
  | signOff

def sessionTable : SessionState → SessionTrigger → Option SessionState
  | .signedOff, .signOn => some .signOnSent
  | .signOnSent, .signOnAck => some .signedOn
  | .signOnSent, .signOnFailed => some .signedOff
  | .signedOn, .echoOk => some .signedOn
  | .signedOn, .echoMissed => some .echoMissed
  | .echoMissed, .echoOk => some .signedOn
  | .echoMissed, .echoMissed => some .echoMissed
  | .echoMissed, .thirdMiss => some .signedOff
  | .signedOn, .cutoverWindow => some .cutoverInProgress
  | .cutoverInProgress, .cutoverAck => some .signedOn
  | .signedOn, .signOff => some .signedOff
  | _, _ => none

structure NpsbSession where
  state : SessionState := .signedOff
  businessDate : Option Nat := none
  sessionRef : Option String := none
  missedEchoCount : Nat := 0
  signOnCount : Nat := 0
  lastEchoAt : Option DateTime := none
  signedOnAt : Option DateTime := none
  history : List (SessionState × SessionTrigger × SessionState) := []

/-- The states that take financial traffic. -/
def NpsbSession.dispatchable (session : NpsbSession) : Bool :=
  session.state = .signedOn || session.state = .echoMissed

/-- A queued reversal; its identifier is computed from the reference and the trace
number of the original message. -/
structure SafItem where
  (connectorRef originalStan : String)
  reversalFields : Fields
  reversalMti : String := "0420"
  attemptCount : Nat := 0
  acked : Bool := false
  queuedAt : DateTime
  ackedAt : Option DateTime := none
  ackedRailTransactionId : Option String := none
  ackRawResponseHash : Option String := none

def SafItem.safId (item : SafItem) : String × String := (item.connectorRef, item.originalStan)

/-- What a message was put on the wire for. -/
inductive Purpose where
  | networkManagement
  | submit (connectorRef : String)
  | inquiry (connectorRef : String)
  | reversal (connectorRef : String)
deriving DecidableEq

structure Transmission where
  purpose : Purpose
  message : IsoMessage

structure LateResponse where
  connectorRef : String
  lateResponseAfterReversal : Bool
  rawResponseHash : String

structure NpsbConnector where
  session : NpsbSession
  stans : StanStore
  saf : List SafItem
  lateResponses : List LateResponse
  reversedRefs : Dict String ConnectorResult
  (instructionByRef sentDe7 : Dict String String)
  /-- Everything put on the wire, in order. -/
  sent : List Transmission

def NpsbConnector.initial : NpsbConnector where
  session := {}
  stans := ⟨.empty, [], [], .empty, .empty⟩
  saf := []
  lateResponses := []
  reversedRefs := .empty
  instructionByRef := .empty
  sentDe7 := .empty
  sent := []

/-- What the wire brings back for one message. -/
inductive Reply where
  | timedOut | disconnected
  | undecodable (code : String)
  | message (decoded : IsoMessage)

/-- What is archived under a content hash. -/
inductive RawResponse where
  | synthetic (connectorRef : String) (status : ConnectorStatus) (errorCode : String)
  | undecodable (code : String)
  | wire (message : IsoMessage)

/-- What an operation finds around it: the clock, the HSM, the codec, and the answers
of the switch, by the number of messages sent before. -/
structure Surroundings where
  now : DateTime
  /-- `none` while the HSM is unavailable. -/
  generateMac : IsoMessage → Option String
  verifyMac : IsoMessage → String → Bool
  packs : IsoMessage → Bool
  packDe48 : List (String × String) → Option String
  reply : Nat → Reply
  rawHash : RawResponse → String
  (acquiringInstId terminalId : String)
  simHintDe63 : Bool

inductive NpsbError where
  | stanExhausted
  | sessionTransitionDenied (message : String)
  | macUnavailable | format | transport

abbrev NpsbM := EStateM NpsbError NpsbConnector

/-! Allocation. -/

def nextStan (count : Nat) : Nat := if count = 999999 then 1 else count + 1

/-- The row an allocation writes. -/
def StanStore.row (businessDate : Nat) (sessionRef : String) (instructionId connectorRef : Option String)
    (now : DateTime) (store : StanStore) : StanAllocation :=
  let stan := String.ofList (zeroPadded 6 ((store.counters.get? (businessDate, sessionRef)).getD 1))
  { businessDate, sessionRef, stan, rrn := rrnOf now stan, instructionId, connectorRef, allocatedAt := now }

/-- A row enters the log; the first row of a reference and the last row of a trace
number are the ones found later. -/
def StanStore.record (row : StanAllocation) (store : StanStore) : StanStore :=
  { store with
    unique := store.unique ++ [(row.businessDate, row.sessionRef, row.stan)]
    allocations := store.allocations ++ [row]
    byRef := match row.connectorRef with
      | some ref => if store.byRef.contains ref then store.byRef else store.byRef.set ref row
      | none => store.byRef
    byStan := store.byStan.set row.stan row }

/-- The counter moves on even when the number it gave is refused. -/
def StanStore.counted (businessDate : Nat) (sessionRef : String) (store : StanStore) : StanStore :=
  let count := (store.counters.get? (businessDate, sessionRef)).getD 1
  { store with counters := store.counters.set (businessDate, sessionRef) (nextStan count) }

variable (around : Surroundings)

def allocate (instructionId connectorRef : Option String) : NpsbM StanAllocation := do
  let connector ← get
  match connector.session.businessDate, connector.session.sessionRef with
  | some businessDate, some sessionRef => do
      let row := connector.stans.row businessDate sessionRef instructionId connectorRef around.now
      let counted := connector.stans.counted businessDate sessionRef
      set { connector with stans := counted }
      raiseIf ((businessDate, sessionRef, row.stan) ∈ counted.unique) .stanExhausted
      set { connector with stans := counted.record row }
      pure row
  | _, _ => throw (.sessionTransitionDenied "no live NPSB session scope (sign on first)")

/-! Results and message parts. -/

def result (instructionId connectorRef : String) (status : ConnectorStatus)
    (railTransactionId errorCode : Option String) (raw : RawResponse) : ConnectorResult :=
  { instructionId, connectorRef, status, railTransactionId
    respondedAt := some (String.ofList around.now.nowIso), errorCode, rawResponseHash := around.rawHash raw }

def synthetic (around : Surroundings) (instructionId connectorRef : String) (status : ConnectorStatus)
    (errorCode : String) : ConnectorResult :=
  result around instructionId connectorRef status none (some errorCode) (.synthetic connectorRef status errorCode)

/-- The message with its MAC in DE64. -/
def macd (message : IsoMessage) : Option IsoMessage :=
  (around.generateMac message).map fun mac => { message with fields := message.fields.set 64 mac }

def verifyResponseMac (message : IsoMessage) : Bool :=
  match message.fields.get? 64 with
  | none => false
  | some mac => around.verifyMac message mac

/-- Left-justified, zero-filled and cut to a width. -/
def fitted (width : Nat) (text : List Char) : List Char := (text ++ List.replicate width '0').take width

def zfill (width : Nat) (text : List Char) : List Char := List.replicate (width - text.length) '0' ++ text

/-- Original data elements: MTI, trace number, transmission time, acquirer, forwarder. -/
def buildDe90 (mti stan sentAt acquiringInstId : String) : String :=
  String.ofList (fitted 42 (mti.toList ++ stan.toList ++ sentAt.toList ++
    (zfill 11 acquiringInstId.toList).take 11 ++ List.replicate 11 '0'))

def ofPairs (pairs : List (Nat × String)) : Fields := Dict.empty.setAll pairs

/-- A message goes out and its answer is awaited; a message that does not pack never does. -/
def exchange (purpose : Purpose) (message : IsoMessage) : NpsbM Reply := do
  raiseIf (around.packs message = false) .format
  let connector ← get
  set { connector with sent := connector.sent ++ [Transmission.mk purpose message] }
  pure (around.reply connector.sent.length)

/-! The session. -/

def advance (trigger : SessionTrigger) : NpsbM Unit := do
  let connector ← get
  match sessionTable connector.session.state trigger with
  | none => throw (.sessionTransitionDenied "NPSB session transition is DENIED")
  | some target => set { connector with session := { connector.session with
      state := target
      history := connector.session.history ++ [(connector.session.state, trigger, target)] } }

def sessionRefOf (businessDate signOnCount : Nat) : String :=
  String.ofList (isoDate businessDate ++ '-' :: zeroPadded 3 signOnCount)

/-- The scope of trace numbers becomes that of the current local date. -/
def enterScope : NpsbM Unit := modify fun connector =>
  { connector with session := { connector.session with
      businessDate := some (businessDateOf around.now)
      sessionRef := some (sessionRefOf (businessDateOf around.now) connector.session.signOnCount) } }

def ensureScope : NpsbM Unit := do
  let session := (← get).session
  if session.businessDate = none ∨ session.sessionRef = none then enterScope around

/-- One 0800/0810 exchange; `none` is a missed one. -/
def nmExchange (nmi : String) : NpsbM (Option Fields) := do
  ensureScope around
  let allocation ← allocate around none none
  match macd around ⟨"0800", ofPairs [(7, de7 around.now), (11, allocation.stan), (37, allocation.rrn), (70, nmi)]⟩ with
  | none => throw .macUnavailable
  | some message => do
      match ← exchange around .networkManagement message with
      | .message response =>
        if response.mti = "0810" ∧ response.fields.get? 11 = some allocation.stan ∧ verifyResponseMac around response then
          pure (some response.fields)
        else pure none
      | _ => pure none

def acknowledged (response : Option Fields) : Bool := (response.bind (·.get? 39)) = some "00"

/-! Store and forward. -/

def safInsert (item : SafItem) (items : List SafItem) : List SafItem :=
  if items.any (·.safId = item.safId) then items else items ++ [item]

/-- Replace the item with the same identifier, or append. -/
def safSave (item : SafItem) (items : List SafItem) : List SafItem :=
  if items.any (·.safId = item.safId) then items.map fun existing => if existing.safId = item.safId then item else existing
  else items ++ [item]

def saveSaf (item : SafItem) : NpsbM Unit :=
  modify fun connector => { connector with saf := safSave item connector.saf }

def sendReversal (instructionId connectorRef : String) (saf : SafItem) : NpsbM ConnectorResult := do
  let mti := saf.reversalMti
  let allocation ← allocate around none none
  let saf := { saf with attemptCount := saf.attemptCount + 1, reversalMti := "0421" }
  saveSaf saf
  let (de12, de13) := localDe12De13 around.now
  let fields := saf.reversalFields.setAll
    [(7, de7 around.now), (11, allocation.stan), (12, de12), (13, de13), (37, allocation.rrn)]
  match macd around ⟨mti, fields⟩ with
  | none => pure (synthetic around instructionId connectorRef .failed "mac_unavailable")
  | some message => do
      match ← exchange around (.reversal connectorRef) message with
      | .message response =>
        if response.mti = "0430" ∧ response.fields.get? 11 = some allocation.stan ∧
            verifyResponseMac around response ∧ response.fields.get? 39 = some "00" then do
          let outcome := result around instructionId connectorRef .reversed (some allocation.rrn) none (.wire response)
          saveSaf { saf with
            acked := true, ackedAt := some around.now, ackedRailTransactionId := outcome.railTransactionId
            ackRawResponseHash := some outcome.rawResponseHash }
          modify fun connector =>
            { connector with reversedRefs := connector.reversedRefs.set connectorRef outcome }
          pure outcome
        else
          pure (result around instructionId connectorRef .pending (some allocation.rrn) (some "reversal_queued")
            (.wire response))
      | _ => pure (synthetic around instructionId connectorRef .pending "reversal_queued")

/-- The queue is drained first in, first out, while the session lasts. -/
def drainStoreAndForward : NpsbM Unit := do
  forEach ((← get).saf.filter fun item => !item.acked) fun item => do
    let connector ← get
    if connector.session.dispatchable then do
      let item := { item with reversalMti := if item.attemptCount = 0 then item.reversalMti else "0421" }
      let _ ← sendReversal around ((connector.instructionByRef.get? item.connectorRef).getD "") item.connectorRef item

/-! Session operations. -/

def signOn (around : Surroundings) : NpsbM Bool := do
  modify fun connector => { connector with
    session := { connector.session with signOnCount := connector.session.signOnCount + 1 } }
  enterScope around
  advance .signOn
  if acknowledged (← nmExchange around "001") then do
    advance .signOnAck
    modify fun connector => { connector with
      session := { connector.session with missedEchoCount := 0, signedOnAt := some around.now } }
    drainStoreAndForward around
    pure true
  else do
    advance .signOnFailed
    pure false

def echoCycle : NpsbM Bool := do
  raiseIf (¬ (← get).session.dispatchable) (.sessionTransitionDenied "echo is DENIED")
  if acknowledged (← nmExchange around "301") then do
    advance .echoOk
    modify fun connector => { connector with
      session := { connector.session with missedEchoCount := 0, lastEchoAt := some around.now } }
    pure true
  else do
    modify fun connector => { connector with
      session := { connector.session with missedEchoCount := connector.session.missedEchoCount + 1 } }
    let session := (← get).session
    advance (if session.state ≠ .signedOn ∧ 3 ≤ session.missedEchoCount then .thirdMiss else .echoMissed)
    pure false

def cutover : NpsbM Bool := do
  advance .cutoverWindow
  if acknowledged (← nmExchange around "201") then do
    advance .cutoverAck
    enterScope around
    pure true
  else do
    -- Without the acknowledgement nothing is known about the session.
    modify fun connector => { connector with session := { connector.session with
      state := .signedOff
      history := connector.session.history ++ [(.cutoverInProgress, .cutoverFailed, .signedOff)] } }
    pure false

def signOff (around : Surroundings) : NpsbM Bool := do
  advance .signOff
  let _ ← nmExchange around "002"
  pure true

/-! Payments. -/

/-- The answer to a financial message or an inquiry, checked against what was sent. -/
def financialResponse (instructionId connectorRef stan rrn reportRrn : String)
    (response : IsoMessage) : ConnectorResult :=
  if verifyResponseMac around response = false then
    result around instructionId connectorRef .failed none (some "security_violation") (.wire response)
  else if response.fields.get? 11 ≠ some stan ∨ (response.fields.get? 37).getD rrn ≠ rrn then
    result around instructionId connectorRef .failed none (some "stan_mismatch") (.wire response)
  else
    let (status, errorCode) := mapDe39 ((response.fields.get? 39).getD "")
    result around instructionId connectorRef status (some reportRrn) errorCode (.wire response)

/-- A reply as the caller of `submit` or `query_status` gets it: a lost one raises. -/
def concluded (instructionId connectorRef stan rrn reportRrn : String) :
    Reply → NpsbM ConnectorResult
  | .timedOut | .disconnected => throw .transport
  | .undecodable code =>
    pure (result around instructionId connectorRef .failed none (some code) (.undecodable code))
  | .message response => pure (financialResponse around instructionId connectorRef stan rrn reportRrn response)

def recordedReversalResult (connector : NpsbConnector) (connectorRef : String) : Option ConnectorResult :=
  match connector.reversedRefs.get? connectorRef with
  | some recorded => some recorded
  | none =>
    (connector.saf.find? fun item => item.connectorRef = connectorRef && item.acked).map fun item =>
      { instructionId := ((connector.instructionByRef.get? connectorRef).or
          ((connector.stans.byRef.get? connectorRef).bind (·.instructionId))).getD ""
        connectorRef, status := .reversed, railTransactionId := item.ackedRailTransactionId
        respondedAt := item.ackedAt.map fun instant => String.ofList instant.nowIso
        errorCode := none, rawResponseHash := item.ackRawResponseHash.getD "" }

/-- The transmission time remembered for a trace number. -/
def sentAt (connector : NpsbConnector) (stan : String) : String := (connector.sentDe7.get? stan).getD "0000000000"

def queryStatus (connectorRef : String) : NpsbM ConnectorResult := do
  let connector ← get
  let instructionId := (connector.instructionByRef.get? connectorRef).getD ""
  match recordedReversalResult connector connectorRef with
  | some recorded => pure recorded
  | none =>
    match connector.stans.byRef.get? connectorRef with
    | none => pure (synthetic around instructionId connectorRef .failed "not_received")
    | some original =>
      if !connector.session.dispatchable then
        pure (synthetic around instructionId connectorRef .failed "rail_session_down")
      else do
        let inquiry ← allocate around none none
        let (de12, de13) := localDe12De13 around.now
        match macd around ⟨"0200", ofPairs [
            (3, procStatusInquiry), (7, de7 around.now), (11, inquiry.stan), (12, de12), (13, de13),
            (32, around.acquiringInstId), (37, inquiry.rrn), (41, around.terminalId), (49, "050"),
            (90, buildDe90 "0200" original.stan (sentAt connector original.stan) around.acquiringInstId)]⟩ with
        | none => pure (synthetic around instructionId connectorRef .failed "mac_unavailable")
        | some message => do
            concluded around instructionId connectorRef inquiry.stan inquiry.rrn original.rrn
              (← exchange around (.inquiry connectorRef) message)

variable (instruction : PaymentInstruction)

/-- The overlay of a Bangla-QR message; `none` when its data do not encode. -/
def qrDeFields : Option (List (Nat × String)) :=
  let metadata (key : String) : String := (instruction.metadata.lookup key).getD ""
  let merchantId := if metadata "qr_merchant_id" = "" then instruction.beneficiaryRef else metadata "qr_merchant_id"
  let echo := "|".intercalate ([metadata "qr_acquirer_id", merchantId, metadata "qr_psp_sub_id"].filter (· ≠ ""))
  (around.packDe48 ([("10", metadata "qr_payload_hash"), ("11", echo)].filter fun pair => pair.2 ≠ "")).map fun de48 =>
    [(3, procQrMerchant), (4, String.ofList (zeroPadded 12 instruction.amountMinor.toNat)), (49, "050"),
      (102, instruction.senderRef), (103, merchantId), (48, de48)]

/-- The scenario the simulator is asked for, in DE63. -/
def simHint : List (Nat × String) :=
  let hint := (instruction.metadata.lookup "sim_scenario").getD ""
  if around.simHintDe63 ∧ hint ≠ "" then [(63, s!"SIM:{hint}")] else []

/-- The data elements of a 0200. -/
def financialFields (allocation : StanAllocation)
    (qrFields : List (Nat × String)) : Fields :=
  let (de12, de13) := localDe12De13 around.now
  ((ofPairs [
    (3, procIbftCredit), (4, String.ofList (zeroPadded 12 instruction.amountMinor.toNat)), (7, de7 around.now),
    (11, allocation.stan), (12, de12), (13, de13), (32, around.acquiringInstId), (37, allocation.rrn),
    (41, around.terminalId), (49, "050"), (102, instruction.senderRef),
    (103, instruction.beneficiaryRef)]).setAll qrFields).setAll (simHint around instruction)

/-- The refusals `submit` makes before it looks at the trace numbers. -/
def submitRefusal? : Except String (List (Nat × String)) :=
  if instruction.method ∉ ["NPSB_IBFT", "BANGLA_QR"] then .error "unsupported_method"
  else if instruction.amountMinor ≤ 0 ∨ 999999999999 < instruction.amountMinor then .error "invalid_amount"
  else if instruction.method = "BANGLA_QR" then
    if (instruction.metadata.lookup "qr_payload_hash").getD "" = "" then .error "qr_metadata_missing"
    else
      match qrDeFields around instruction with
      | none => .error "qr_metadata_invalid"
      | some fields => .ok fields
  else .ok []

/-- The message goes out under a fresh trace number. -/
def transmit (qrFields : List (Nat × String))
    (allocation : StanAllocation) : NpsbM ConnectorResult := do
  let ref := instruction.connectorRef
  modify fun connector => { connector with sentDe7 := connector.sentDe7.set allocation.stan (de7 around.now) }
  match macd around ⟨"0200", financialFields around instruction allocation qrFields⟩ with
  | none => pure (synthetic around instruction.instructionId ref .failed "mac_unavailable")
  | some message => do
      concluded around instruction.instructionId ref allocation.stan allocation.rrn allocation.rrn
        (← exchange around (.submit ref) message)

/-- `try: allocation = self._allocate(...) except StanExhaustedError`, then the message. -/
def submitFresh (qrFields : List (Nat × String)) :
    NpsbM ConnectorResult := fun connector =>
  match allocate around (some instruction.instructionId) (some instruction.connectorRef) connector with
  | .ok allocation after => transmit around instruction qrFields allocation after
  | .error .stanExhausted after =>
    .ok (synthetic around instruction.instructionId instruction.connectorRef .failed "stan_exhausted") after
  | .error error after => .error error after

def submit : NpsbM ConnectorResult := do
  let ref := instruction.connectorRef
  modify fun connector => { connector with
    instructionByRef := connector.instructionByRef.set ref instruction.instructionId }
  match submitRefusal? around instruction with
  | .error code => pure (synthetic around instruction.instructionId ref .rejected code)
  | .ok qrFields => do
      let connector ← get
      -- A known reference is asked about again, never sent again.
      if (connector.stans.byRef.get? ref).isSome then queryStatus around ref
      else if !connector.session.dispatchable then
        pure (synthetic around instruction.instructionId ref .failed "rail_session_down")
      else submitFresh around instruction qrFields

def findOrQueueSaf (connectorRef : String) (original : StanAllocation) : NpsbM SafItem := do
  let connector ← get
  match connector.saf.find? fun item => item.connectorRef = connectorRef && !item.acked with
  | some existing => pure existing
  | none => do
      let item : SafItem := {
        connectorRef, originalStan := original.stan, queuedAt := around.now
        reversalFields := ofPairs [
          (3, procIbftCredit), (7, de7 around.now), (32, around.acquiringInstId), (41, around.terminalId), (49, "050"),
          (90, buildDe90 "0200" original.stan (sentAt connector original.stan) around.acquiringInstId)] }
      set { connector with saf := safInsert item connector.saf }
      pure item

def reverse (connectorRef : String) : NpsbM ConnectorResult := do
  let connector ← get
  let instructionId := (connector.instructionByRef.get? connectorRef).getD ""
  match recordedReversalResult connector connectorRef with
  | some recorded => pure recorded
  | none =>
    match connector.stans.byRef.get? connectorRef with
    | none => pure (synthetic around instructionId connectorRef .failed "not_received")
    | some original => do
        let saf ← findOrQueueSaf around connectorRef original
        if !(← get).session.dispatchable then
          pure (synthetic around instructionId connectorRef .pending "reversal_queued")
        else sendReversal around instructionId connectorRef saf

/-! Messages that come in on their own. -/

/-- `verify_signature` of the webhook handler. -/
def verifySignature (message : IsoMessage) : Bool := verifyResponseMac around message

/-- The allocation an inbound message is taken to be about: the last one of its trace number. -/
def attributed (connector : NpsbConnector) (message : IsoMessage) : Option StanAllocation :=
  connector.stans.byStan.get? ((message.fields.get? 11).getD "")

def recordLateResponse (connectorRef rawResponseHash : String) : NpsbM Unit := modify fun connector =>
  { connector with lateResponses := connector.lateResponses ++ [
      ⟨connectorRef, connector.reversedRefs.contains connectorRef, rawResponseHash⟩] }

def parseEvent (message : IsoMessage) : NpsbM ConnectorResult := do
  let connector ← get
  let (status, errorCode) := mapDe39 ((message.fields.get? 39).getD "")
  let connectorRef := ((attributed connector message).bind (·.connectorRef)).getD ""
  let rawResponseHash := around.rawHash (.wire message)
  unless connectorRef = "" do recordLateResponse connectorRef rawResponseHash
  pure {
    instructionId := ((attributed connector message).bind (·.instructionId)).getD "", connectorRef, status
    railTransactionId := message.fields.get? 37, respondedAt := none, errorCode, rawResponseHash }

/-! Histories. -/

inductive Operation where
  | signOn | echoCycle | cutover | signOff
  | submit (instruction : PaymentInstruction)
  | queryStatus (connectorRef : String)
  | reverse (connectorRef : String)
  | drain
  | inbound (message : IsoMessage)

def perform : Operation → NpsbM Unit
  | .signOn => do let _ ← signOn around
  | .echoCycle => do let _ ← echoCycle around
  | .cutover => do let _ ← cutover around
  | .signOff => do let _ ← signOff around
  | .submit instruction => do let _ ← submit around instruction
  | .queryStatus connectorRef => do let _ ← queryStatus around connectorRef
  | .reverse connectorRef => do let _ ← reverse around connectorRef
  | .drain => drainStoreAndForward around
  | .inbound message => do let _ ← parseEvent around message

structure Step where
  around : Surroundings
  operation : Operation

/-- An operation keeps what it wrote, whether it returned or raised. -/
def after (connector : NpsbConnector) (step : Step) : NpsbConnector :=
  leaves (perform step.around step.operation) connector

def run (steps : List Step) : NpsbConnector := steps.foldl after .initial

end BdPay.Connectors.Npsb
