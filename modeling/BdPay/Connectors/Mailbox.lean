import BdPay.Connectors.Webhooks
import BdPay.Data.Rows

namespace BdPay.Connectors

open Platform Data Effect WebhookInboundRecord WebhookInbox List

/-! What the pipeline is for, without its stores.

A mailbox remembers which bodies it has seen, holds the results the kernel did
not know yet, and keeps the list of what it handed over.  The pipeline with its
rows, hashes and archive refines it, as long as no two bodies hash alike.
-/

/-- A body that waits for the kernel to know its reference. -/
structure Waiting where
  connectorId : String
  body : Bytes
  receivedAt : DateTime

structure Mailbox where
  seen : List (String × Bytes)
  waiting : List Waiting
  handed : List ConnectorResult

namespace Mailbox

variable (pipeline : WebhookPipeline) (kernel : KernelHandoff)

def empty : Mailbox := ⟨[], [], []⟩

/-- A result goes to the kernel once; it waits only if the kernel does not know it. -/
def offer (box : Mailbox) (result : ConnectorResult) (asking : Waiting) : Mailbox :=
  { box with
    handed := box.handed ++ [result]
    waiting := if kernel box.handed result = .unmatched then box.waiting ++ [asking] else box.waiting }

/-- The event a delivery carries, if its signature verifies and it parses. -/
def read (handler : WebhookHandler) (delivery : Delivery) : Option ConnectorResult :=
  if WebhookPipeline.verify handler delivery.headers delivery.body then
    handler.parseEvent delivery.headers delivery.body
  else none

def deliver (box : Mailbox) (now : DateTime) (delivery : Delivery) : Mailbox :=
  match pipeline.handlers.get? delivery.connectorId with
  | none => box
  | some handler =>
    if (delivery.connectorId, delivery.body) ∈ box.seen then box
    else
      let opened := { box with seen := box.seen ++ [(delivery.connectorId, delivery.body)] }
      match read handler delivery with
      | none => opened
      | some result => opened.offer kernel result ⟨delivery.connectorId, delivery.body, now⟩

/-- What a retry finds when it reads a waiting body again. -/
def reparse (asking : Waiting) : Option ConnectorResult :=
  match pipeline.handlers.get? asking.connectorId with
  | none => none
  | some handler => handler.parseEvent [] asking.body

/-- How one retry ends. -/
structure Asked where
  handed : List ConnectorResult
  (keeps stops : Bool)

def ask (now : DateTime) (asking : Waiting) (handed : List ConnectorResult) : Asked :=
  if asking.receivedAt.elapsedAtLeast now parkTtlSeconds then ⟨handed, false, false⟩
  else
    match reparse pipeline asking with
    | none => ⟨handed, true, false⟩
    | some result =>
      match kernel handed result with
      | .committed => ⟨handed ++ [result], false, false⟩
      | .unmatched => ⟨handed ++ [result], true, false⟩
      -- A kernel that raises ends the sweep, and the row is never retried.
      | .raised => ⟨handed ++ [result], false, true⟩

/-- The bodies still waiting after a retry, and everything handed over by then. -/
def retry (now : DateTime) : List Waiting → List ConnectorResult → List Waiting × List ConnectorResult
  | [], handed => ([], handed)
  | asking :: rest, handed =>
    let asked := ask pipeline kernel now asking handed
    if asked.stops then (rest, asked.handed)
    else
      let later := retry now rest asked.handed
      (if asked.keeps then asking :: later.1 else later.1, later.2)

theorem drops_of_stops {pipeline : WebhookPipeline} {kernel : KernelHandoff}
    {handed : List ConnectorResult} (stops : (ask pipeline kernel now asking handed).stops = true) :
    (ask pipeline kernel now asking handed).keeps = false := by
  revert stops
  rw [ask]
  repeat' split
  all_goals simp

def sweep (box : Mailbox) (now : DateTime) : Mailbox :=
  let later := retry pipeline kernel now box.waiting box.handed
  { box with waiting := later.1, handed := later.2 }

def receive (box : Mailbox) : WebhookPipeline.Arrival → Mailbox
  | .delivery now delivery => box.deliver pipeline kernel now delivery
  | .sweep now => box.sweep pipeline kernel now

def run (arrivals : List WebhookPipeline.Arrival) : Mailbox := arrivals.foldl (receive pipeline kernel) empty

end Mailbox

namespace WebhookPipeline

variable {pipeline : WebhookPipeline} {kernel : KernelHandoff} {inbox : WebhookInbox} {now : DateTime}
  {record : WebhookInboundRecord} {result : ConnectorResult} {box : Mailbox} {key : String × String}
  {after : WebhookInbox} {bodies : Set Bytes}

theorem archive_run (key : ObjectKey) (bytes : Bytes) :
    archive key bytes inbox = .ok () { inbox with objects := inbox.objects.set key bytes } := rfl

theorem audited_run (action : WebhookAction) :
    audited now record action inbox = .ok () { inbox with
      audit := inbox.audit ++ [⟨action, record.inboundId, record.connectorId, now⟩] } := rfl

theorem emit_run (event : WebhookEvent) :
    emit event inbox = .ok () { inbox with events := inbox.events ++ [event] } := rfl

theorem save_run (record : WebhookInboundRecord) (stored : inbox.rows.get? record.key = some old) :
    save record inbox = .ok () { inbox with rows := inbox.rows.set record.key record } := by
  rw [save, get_bind, bind_of_ok (raiseIf_passes (by simp [stored]))]
  rfl

theorem advance_run (now : DateTime) (record : WebhookInboundRecord) (target : WebhookStatus)
    (reason : Option RejectReason) (stored : inbox.rows.get? record.key = some old)
    (permitted : (record.status, target) ∈ allowed) :
    advance now record target reason inbox = .ok (record.moved now target reason)
      { inbox with rows := inbox.rows.set record.key (record.moved now target reason) } := by
  have saved : save (record.moved now target reason) inbox = _ := save_run (record.moved now target reason) stored
  rw [advance, bind_of_ok (raiseIf_passes (not_not.mpr permitted)), bind_of_ok saved]
  rfl

theorem fetch_run {key : ObjectKey} {bytes : Bytes} (archived : inbox.objects.get? key = some bytes) :
    fetch key inbox = .ok bytes inbox := by
  rw [fetch, get_bind, archived]
  rfl

theorem archiveResponse_run (connectorId hash : String) {source : ObjectKey} {bytes : Bytes}
    (archived : inbox.objects.get? source = some bytes) :
    ∃ objects, archiveResponse (.raw connectorId hash) source inbox = .ok () { inbox with objects } ∧
      ∀ connector content, objects.get? (.webhook connector content) = inbox.objects.get? (.webhook connector content) := by
  rw [archiveResponse, get_bind]
  by_cases missing : inbox.objects.get? (.raw connectorId hash) = none
  · rw [if_pos missing, bind_of_ok (fetch_run archived), archive_run]
    exact ⟨_, rfl, fun _ _ => Dict.get?_set_of_ne (by simp)⟩
  · rw [if_neg missing]
    exact ⟨inbox.objects, rfl, fun _ _ => rfl⟩

theorem recordResult_run (inbox : WebhookInbox) (pointer : ObjectKey) :
    ∃ row results, pipeline.recordResult now record result pointer inbox = .ok row { inbox with results } :=
  ⟨_, _, rfl⟩

theorem handleConnectorResult_run (kernel : KernelHandoff) (result : ConnectorResult) (inbox : WebhookInbox) :
    handleConnectorResult kernel result inbox =
      match kernel inbox.handed result with
      | .committed => .ok true { inbox with handed := inbox.handed ++ [result] }
      | .unmatched => .ok false { inbox with handed := inbox.handed ++ [result] }
      | .raised => .error .kernelRaised { inbox with handed := inbox.handed ++ [result] } := by
  rw [handleConnectorResult, get_bind, set_bind]
  cases kernel inbox.handed result <;> rfl

/-- The archived bodies are as they were. -/
abbrev SameBodies (inbox after : WebhookInbox) : Prop :=
  ∀ connectorId contentHash,
    after.objects.get? (.webhook connectorId contentHash) = inbox.objects.get? (.webhook connectorId contentHash)

/-- What a handoff leaves behind: the kernel was asked once, the row has one new
version, and only an unmatched result parks it. -/
structure HandedOver (kernel : KernelHandoff) (now : DateTime) (inbox after : WebhookInbox)
    (record final : WebhookInboundRecord) (result : ConnectorResult) : Prop where
  handed : after.handed = inbox.handed ++ [result]
  objects : SameBodies inbox after
  rows : after.rows = inbox.rows.set record.key final
  key : final.key = record.key
  pointer : final.rawPointer = record.rawPointer
  receivedAt : final.receivedAt = record.receivedAt
  parked : kernel inbox.handed result = .unmatched → final = record.moved now .parked none
  settled : kernel inbox.handed result ≠ .unmatched → final.status ≠ .parked
  rests : kernel inbox.handed result ≠ .raised → final.status.rests

/-- A handoff raises only if the kernel does. -/
theorem handoff_run (pipeline : WebhookPipeline) (kernel : KernelHandoff) (now : DateTime)
    (record : WebhookInboundRecord) (result : ConnectorResult) {body : Bytes}
    (stored : inbox.rows.get? record.key = some record)
    (parsed : record.status = .parsed) (archived : inbox.objects.get? record.rawPointer = some body) :
    ∃ final after, HandedOver kernel now inbox after record final result ∧
      if kernel inbox.handed result = .raised then ∃ error, pipeline.handoff kernel now record result inbox = .error error after
      else ∃ outcome, pipeline.handoff kernel now record result inbox = .ok outcome after := by
  have asked := handleConnectorResult_run kernel result inbox
  cases answered : kernel inbox.handed result with
  | raised =>
    rw [answered] at asked
    refine ⟨record, { inbox with handed := inbox.handed ++ [result] }, ?_, ?_⟩
    · exact ⟨rfl, fun _ _ => rfl, (Dict.set_of_get? stored).symm, rfl, rfl, rfl, by simp [answered], by simp [parsed],
        by simp [answered]⟩
    · rw [if_pos rfl, handoff]
      exact ⟨_, bind_eq_error.mpr (.inl asked)⟩
  | unmatched =>
    have moved : advance now record .parked none { inbox with handed := inbox.handed ++ [result] } = _ :=
      advance_run now record .parked none stored (by simp [parsed, allowed])
    rw [answered] at asked
    simp only [reduceCtorEq, if_false]
    rw [handoff, bind_of_ok asked]
    simp only [Bool.not_false, if_true]
    rw [bind_of_ok moved]
    refine ⟨record.moved now .parked none, _, ?_, _, rfl⟩
    exact ⟨rfl, fun _ _ => rfl, rfl, rfl, rfl, rfl, fun _ => rfl, by simp [answered], fun _ => rfl⟩
  | committed =>
    rw [answered] at asked
    simp only [reduceCtorEq, if_false]
    rw [handoff, bind_of_ok asked]
    simp only [Bool.not_true, Bool.false_eq_true, if_false]
    obtain ⟨objects, kept, sameObjects⟩ := @archiveResponse_run { inbox with handed := inbox.handed ++ [result] }
      record.connectorId result.rawResponseHash _ _ archived
    rw [bind_of_ok kept]
    obtain ⟨row, results, recorded⟩ := @recordResult_run pipeline now record result
      { inbox with handed := inbox.handed ++ [result], objects } (.raw record.connectorId result.rawResponseHash)
    rw [bind_of_ok recorded, bind_of_ok (emit_run _)]
    -- The row is written twice, the second time for good.
    let noted : WebhookInboundRecord := { record with resultId := some row.resultId }
    let told : WebhookInbox := { inbox with
      handed := inbox.handed ++ [result], objects, results, events := inbox.events ++ [.recorded row] }
    have sent : advance now noted .handedOff none told = _ :=
      advance_run now noted .handedOff none stored (by simp [noted, parsed, allowed])
    rw [bind_of_ok sent, bind_of_ok (advance_run now (noted.moved now .handedOff none) .processed none
      (Dict.get?_set_self _ _ _) (by simp [moved, allowed]))]
    refine ⟨(noted.moved now .handedOff none).moved now .processed none, _, ?_, _, rfl⟩
    exact ⟨rfl, sameObjects, Dict.set_set _ _ _ _, rfl, rfl, rfl, by simp [answered],
      fun _ => by simp [moved], fun _ => rfl⟩

/-- The row and the waiting body are about one delivery. -/
def Holds (pipeline : WebhookPipeline) (bodies : Set Bytes) (row : WebhookInboundRecord) (asking : Waiting) : Prop :=
  row.connectorId = asking.connectorId ∧ row.contentHash = pipeline.sha256 asking.body ∧
    row.receivedAt = asking.receivedAt ∧ asking.body ∈ bodies

/-- What the stores keep among themselves: a row sits under its own key and its body
is archived under that key, whatever was archived there last. -/
structure Archived (pipeline : WebhookPipeline) (inbox : WebhookInbox) : Prop where
  keyed : ∀ {key row}, inbox.rows.get? key = some row → row.key = key ∧ row.rawPointer = .webhook key.1 key.2
  present : ∀ {key row}, inbox.rows.get? key = some row → ∃ body, inbox.objects.get? (.webhook key.1 key.2) = some body
  content : ∀ {connectorId contentHash body},
    inbox.objects.get? (.webhook connectorId contentHash) = some body → pipeline.sha256 body = contentHash

/-- All bodies that were delivered are among `bodies`. -/
structure Refines (pipeline : WebhookPipeline) (bodies : Set Bytes) (inbox : WebhookInbox) (box : Mailbox) : Prop where
  archived : Archived pipeline inbox
  among : ∀ {connectorId contentHash body}, inbox.objects.get? (.webhook connectorId contentHash) = some body → body ∈ bodies
  handed : inbox.handed = box.handed
  seen : ∀ connectorId, ∀ body ∈ bodies,
    (connectorId, body) ∈ box.seen ↔ inbox.rows.get? (connectorId, pipeline.sha256 body) ≠ none
  waiting : List.Forall₂ (Holds pipeline bodies) (listByStatus inbox .parked) box.waiting

theorem Archived.write
    (archived : Archived pipeline inbox) (rows : after.rows = inbox.rows.set key row)
    (objects : SameBodies inbox after)
    (ownKey : row.key = key) (pointer : row.rawPointer = .webhook key.1 key.2)
    (present : ∃ body, inbox.objects.get? (.webhook key.1 key.2) = some body) : Archived pipeline after where
  keyed := rows ▸ Dict.forall_set archived.keyed ⟨ownKey, pointer⟩
  present := by
    simp only [rows, objects]
    exact Dict.forall_set archived.present present
  content := by
    intro connectorId contentHash body found
    rw [objects] at found
    exact archived.content found

/-- Rewriting a row in place takes it off the parked rows, unless it stays parked. -/
theorem parked_set {rows : Dict (String × String) WebhookInboundRecord}
    {new : WebhookInboundRecord} (bound : rows.get? key = some old)
    (ownKey : ∀ {other row}, rows.get? other = some row → row.key = other)
    (before : rows.values.filter (·.status = .parked) = front ++ old :: back) (settled : new.status ≠ .parked) :
    (rows.set key new).values.filter (·.status = .parked) = front ++ back := by
  obtain ⟨left, right, split, replaced⟩ := Dict.entries_set_of_bound bound
  have waits : old.status = .parked := by
    have member : old ∈ rows.values.filter (·.status = .parked) := by simp [before]
    simpa using (mem_filter.mp member).2
  have keyed : rows.Keyed WebhookInboundRecord.key := fun _ member => ownKey (Dict.get?_of_mem member)
  have parted := before
  rw [Dict.values, split] at parted
  simp only [map_append, map_cons, filter_append, filter_cons, waits, decide_true, if_true] at parted
  rw [Dict.values, replaced new]
  simp only [map_append, map_cons, filter_append, filter_cons, settled, decide_false,
    Bool.false_eq_true, if_false]
  -- The row occurs once, so both sides are split at the same place.
  have once := keyed.nodup_values.filter fun row => decide (row.status = .parked)
  rw [before] at once
  obtain ⟨apart, -⟩ := nodup_cons.mp (nodup_middle.mp once)
  rw [mem_append, not_or] at apart
  obtain ⟨rfl, -, rfl⟩ := (append_cons_inj_of_notMem apart.1 apart.2).mp parted.symm
  rfl

/-- A retry rewrites one row: it stays as it was or stops being parked. -/
structure Swept (inbox after : WebhookInbox) (record final : WebhookInboundRecord) (asked : Mailbox.Asked) : Prop where
  handed : after.handed = asked.handed
  objects : SameBodies inbox after
  rows : after.rows = inbox.rows.set record.key final
  key : final.key = record.key
  pointer : final.rawPointer = record.rawPointer
  keeps : asked.keeps = true → final = record
  drops : asked.keeps = false → final.status ≠ .parked

theorem moved_parsed_parked (waits : record.status = .parked) :
    (record.moved now .parsed none).moved now .parked none = record := by
  cases record
  simp_all [moved, WebhookStatus.terminal]

theorem sweepRow_run (kernel : KernelHandoff) (now : DateTime)
    (archived : inbox.objects.get? record.rawPointer = some asking.body)
    (stored : inbox.rows.get? record.key = some record)
    (waits : record.status = .parked) (holds : Holds pipeline bodies record asking) :
    ∃ final after, Swept inbox after record final (Mailbox.ask pipeline kernel now asking inbox.handed) ∧
      if (Mailbox.ask pipeline kernel now asking inbox.handed).stops then
        ∃ error, pipeline.sweepRow kernel now record inbox = .error error after
      else pipeline.sweepRow kernel now record inbox = .ok () after := by
  obtain ⟨sameConnector, -, sameTime, -⟩ := holds
  have unchanged : inbox.rows = inbox.rows.set record.key record := (Dict.set_of_get? stored).symm
  by_cases expired : asking.receivedAt.elapsedAtLeast now parkTtlSeconds = true
  · have moved := advance_run now record .rejected (some .unmatched) stored (by simp [waits, allowed])
    simp only [sweepRow, Mailbox.ask, sameTime, expired, if_true, Bool.false_eq_true, if_false]
    rw [bind_of_ok moved, bind_of_ok (audited_run _)]
    refine ⟨record.moved now .rejected (some .unmatched), _, ?_, rfl⟩
    exact ⟨rfl, fun _ _ => rfl, rfl, rfl, rfl, by simp, fun _ => by simp [WebhookInboundRecord.moved]⟩
  · have kept : Swept inbox inbox record record ⟨inbox.handed, true, false⟩ :=
      ⟨rfl, fun _ _ => rfl, unchanged, rfl, rfl, fun _ => rfl, by simp⟩
    cases found : pipeline.handlers.get? record.connectorId with
    | none =>
      have unread : Mailbox.reparse pipeline asking = none := by
        rw [Mailbox.reparse, ← sameConnector, found]
      simp only [sweepRow, Mailbox.ask, sameTime, expired, Bool.false_eq_true, if_false, found, unread]
      exact ⟨record, inbox, kept, rfl⟩
    | some handler =>
      have read : Mailbox.reparse pipeline asking = handler.parseEvent [] asking.body := by
        rw [Mailbox.reparse, ← sameConnector, found]
      simp only [sweepRow, Mailbox.ask, sameTime, expired, Bool.false_eq_true, if_false, found, read]
      rw [bind_of_ok (fetch_run archived)]
      cases parse : handler.parseEvent [] asking.body with
      | none => exact ⟨record, inbox, kept, rfl⟩
      | some result =>
        have moved := advance_run now record .parsed none stored (by simp [waits, allowed])
        obtain ⟨final, after, given, ending⟩ := @handoff_run
          { inbox with rows := inbox.rows.set record.key (record.moved now .parsed none) } pipeline kernel now
          (record.moved now .parsed none) result _ (Dict.get?_set_self _ _ _) rfl archived
        have rows : after.rows = inbox.rows.set record.key final := given.rows.trans (Dict.set_set _ _ _ _)
        have settled : ∀ stops, kernel inbox.handed result ≠ .unmatched →
            Swept inbox after record final ⟨inbox.handed ++ [result], false, stops⟩ := fun stops taken =>
          ⟨given.handed, given.objects, rows, given.key, given.pointer, by simp, fun _ => given.settled taken⟩
        refine ⟨final, after, ?_⟩
        simp only
        rw [bind_of_ok moved]
        cases answered : kernel inbox.handed result with
        | committed =>
          simp only [answered, reduceCtorEq, if_false] at ending
          obtain ⟨outcome, ran⟩ := ending
          rw [bind_of_ok ran]
          exact ⟨settled false (by simp [answered]), rfl⟩
        | unmatched =>
          simp only [answered, reduceCtorEq, if_false] at ending
          obtain ⟨outcome, ran⟩ := ending
          rw [bind_of_ok ran]
          have same : final = record := (given.parked answered).trans (moved_parsed_parked waits)
          exact ⟨⟨given.handed, given.objects, rows, given.key, given.pointer, fun _ => same, by simp⟩, rfl⟩
        | raised =>
          simp only [answered, if_true] at ending
          obtain ⟨error, raised⟩ := ending
          exact ⟨settled true (by simp [answered]), error, bind_eq_error.mpr (.inl raised)⟩

/-- The loop of a sweep: `kept` has been gone through and still waits, `records` is to come. -/
theorem forEach_sweepRow_refines (kernel : KernelHandoff) (now : DateTime)
    (injective : Set.InjOn pipeline.sha256 bodies)
    {kept records : List WebhookInboundRecord} {waiting askings : List Waiting}
    (refines : Refines pipeline bodies inbox box) (parked : listByStatus inbox .parked = kept ++ records)
    (stays : List.Forall₂ (Holds pipeline bodies) kept waiting)
    (asked : List.Forall₂ (Holds pipeline bodies) records askings) :
    let later := Mailbox.retry pipeline kernel now askings inbox.handed
    Refines pipeline bodies (leaves (forEach records (pipeline.sweepRow kernel now)) inbox)
      { box with waiting := waiting ++ later.1, handed := later.2 } := by
  induction asked generalizing inbox box kept waiting with
  | nil =>
    rw [append_nil] at parked
    have still : List.Forall₂ (Holds pipeline bodies) (listByStatus inbox .parked) (waiting ++ []) := by
      rwa [parked, append_nil]
    exact ⟨refines.archived, refines.among, rfl, refines.seen, still⟩
  | @cons record asking records askings holds asked ih =>
    have member : record ∈ inbox.rows.values.filter (·.status = .parked) := by
      rw [show inbox.rows.values.filter (·.status = .parked) = _ from parked]
      simp
    obtain ⟨inside, waits⟩ := mem_filter.mp member
    obtain ⟨key, found⟩ := Dict.get?_of_mem_values inside
    obtain ⟨ownKey, pointer⟩ := refines.archived.keyed found
    subst ownKey
    obtain ⟨body, present⟩ := refines.archived.present found
    obtain rfl : body = asking.body :=
      injective (refines.among present) holds.2.2.2 ((refines.archived.content present).trans holds.2.1)
    obtain ⟨final, after, swept, ending⟩ :=
      sweepRow_run kernel now (pointer ▸ present) found (by simpa using waits) holds
    have archived : Archived pipeline after := refines.archived.write swept.rows swept.objects swept.key
      (swept.pointer.trans pointer) (refines.archived.present found)
    have seen : ∀ connectorId, ∀ body ∈ bodies,
        (connectorId, body) ∈ box.seen ↔ after.rows.get? (connectorId, pipeline.sha256 body) ≠ none := by
      intro connectorId body known
      rw [refines.seen _ _ known, swept.rows, Dict.get?_set]
      split_ifs with same
      · simp [same, found]
      · rfl
    have dropped : (Mailbox.ask pipeline kernel now asking inbox.handed).keeps = false →
        listByStatus after .parked = kept ++ records := by
      intro drops
      rw [listByStatus, swept.rows]
      exact parked_set found (fun stored => (refines.archived.keyed stored).1) parked (swept.drops drops)
    have standing : ∀ {rows waiting},
        listByStatus after .parked = rows → List.Forall₂ (Holds pipeline bodies) rows waiting →
        Refines pipeline bodies after ⟨box.seen, waiting, after.handed⟩ := fun same holds =>
      ⟨archived, fun stored => refines.among ((swept.objects _ _).symm.trans stored), rfl, seen, same ▸ holds⟩
    simp only [forEach, Mailbox.retry]
    by_cases stops : (Mailbox.ask pipeline kernel now asking inbox.handed).stops = true
    · rw [if_pos stops] at ending
      obtain ⟨error, raised⟩ := ending
      rw [leaves_bind_of_error raised, if_pos stops, ← swept.handed]
      exact standing (dropped (Mailbox.drops_of_stops stops)) (rel_append stays asked)
    · rw [if_neg stops] at ending
      rw [leaves_bind_of_ok ending, if_neg stops, ← swept.handed]
      by_cases keeps : (Mailbox.ask pipeline kernel now asking inbox.handed).keeps = true
      · have same : listByStatus after .parked = (kept ++ [record]) ++ records := by
          rw [listByStatus, swept.rows, swept.keeps keeps, Dict.set_of_get? found, append_assoc]
          exact parked
        have longer := rel_append stays (.cons holds .nil)
        have rest := ih (standing same (rel_append longer asked)) same longer
        simpa [keeps] using rest
      · have same := dropped (by simpa using keeps)
        have rest := ih (standing same (rel_append stays asked)) same stays
        simpa [keeps] using rest

theorem sweepParked_refines (injective : Set.InjOn pipeline.sha256 bodies)
    (refines : Refines pipeline bodies inbox box) :
    Refines pipeline bodies (leaves (pipeline.sweepParked kernel now) inbox) (box.sweep pipeline kernel now) := by
  have looped := forEach_sweepRow_refines kernel now injective refines (nil_append _).symm .nil refines.waiting
  rw [refines.handed] at looped
  exact looped

theorem Archived.congr (archived : Archived pipeline inbox) (rows : after.rows = inbox.rows)
    (objects : after.objects = inbox.objects) : Archived pipeline after :=
  ⟨rows ▸ archived.keyed, rows ▸ objects ▸ archived.present, objects ▸ archived.content⟩

theorem Refines.congr (refines : Refines pipeline bodies inbox box)
    (rows : after.rows = inbox.rows) (objects : after.objects = inbox.objects) (handed : after.handed = inbox.handed) :
    Refines pipeline bodies after box := by
  obtain ⟨archived, among, sameHanded, seen, waiting⟩ := refines
  exact ⟨archived.congr rows objects, objects ▸ among, handed.trans sameHanded, by rwa [rows],
    by rwa [listByStatus, rows]⟩

/-- The state of the stores once a delivery's raw bytes are in. -/
def kept (pipeline : WebhookPipeline) (delivery : Delivery) (inbox : WebhookInbox) : WebhookInbox :=
  let contentHash := pipeline.sha256 delivery.body
  { inbox with
    objects := (inbox.objects.set (.webhook delivery.connectorId contentHash) delivery.body).set
      (.webhookHeaders delivery.connectorId contentHash) (pipeline.headersHash delivery.headers).toUTF8.toList }

theorem kept_object (delivery : Delivery) (connectorId contentHash : String) :
    (kept pipeline delivery inbox).objects.get? (.webhook connectorId contentHash) =
      if connectorId = delivery.connectorId ∧ contentHash = pipeline.sha256 delivery.body then some delivery.body
      else inbox.objects.get? (.webhook connectorId contentHash) := by
  simp only [kept]
  rw [Dict.get?_set_of_ne (by simp), Dict.get?_set]
  simp only [ObjectKey.webhook.injEq]

theorem Archived.kept (archived : Archived pipeline inbox) (delivery : Delivery) :
    Archived pipeline (kept pipeline delivery inbox) where
  keyed := archived.keyed
  present := by
    intro key row stored
    rw [kept_object]
    split_ifs
    · exact ⟨_, rfl⟩
    · exact archived.present stored
  content := by
    intro connectorId contentHash body found
    rw [kept_object] at found
    split_ifs at found with own
    · cases found
      exact own.2.symm
    · exact archived.content found

variable {delivery : Delivery}

theorem Refines.kept (refines : Refines pipeline bodies inbox box) (delivered : delivery.body ∈ bodies) :
    Refines pipeline bodies (kept pipeline delivery inbox) box := by
  refine ⟨refines.archived.kept delivery, fun found => ?_, refines.handed, refines.seen, refines.waiting⟩
  rw [kept_object] at found
  split_ifs at found
  · exact Option.some.inj found ▸ delivered
  · exact refines.among found

/-- A first delivery leaves one new row behind, at the end of the rows. -/
theorem Refines.opened {after : WebhookInbox} {box : Mailbox} {final : WebhookInboundRecord}
    (waits : List Waiting) (injective : Set.InjOn pipeline.sha256 bodies) (delivered : delivery.body ∈ bodies)
    (refines : Refines pipeline bodies inbox box)
    (fresh : inbox.rows.get? (delivery.connectorId, pipeline.sha256 delivery.body) = none)
    (rows : after.rows = inbox.rows.set (delivery.connectorId, pipeline.sha256 delivery.body) final)
    (objects : SameBodies inbox after)
    (ownKey : final.key = (delivery.connectorId, pipeline.sha256 delivery.body))
    (pointer : final.rawPointer = .webhook delivery.connectorId (pipeline.sha256 delivery.body))
    (present : ∃ body, inbox.objects.get? (.webhook delivery.connectorId (pipeline.sha256 delivery.body)) = some body)
    (waiting : List.Forall₂ (Holds pipeline bodies) ([final].filter (·.status = .parked)) waits)
    {handed : List ConnectorResult} (given : after.handed = handed) :
    Refines pipeline bodies after ⟨box.seen ++ [(delivery.connectorId, delivery.body)], box.waiting ++ waits, handed⟩ where
  archived := refines.archived.write rows objects ownKey pointer present
  among stored := refines.among ((objects _ _).symm.trans stored)
  handed := given
  seen := by
    intro connectorId body known
    rw [mem_append, refines.seen _ _ known, rows, Dict.get?_set]
    by_cases same : connectorId = delivery.connectorId ∧ body = delivery.body
    · simp [same]
    · have different : ¬ ((connectorId, pipeline.sha256 body) =
          (delivery.connectorId, pipeline.sha256 delivery.body)) := by
        intro equal
        exact same ⟨(Prod.mk.inj equal).1, injective known delivered (Prod.mk.inj equal).2⟩
      simp [same, different]
  waiting := by
    rw [listByStatus, rows, Dict.values_set_of_fresh fresh, filter_append]
    exact rel_append refines.waiting waiting

/-- What becomes of the row of a first delivery, and what the kernel is given. -/
structure Created (kernel : KernelHandoff) (inbox after : WebhookInbox) (record final : WebhookInboundRecord)
    (read : Option ConnectorResult) : Prop where
  rows : after.rows = inbox.rows.set record.key final
  objects : SameBodies inbox after
  key : final.key = record.key
  pointer : final.rawPointer = record.rawPointer
  receivedAt : final.receivedAt = record.receivedAt
  handed : after.handed = inbox.handed ++ read.toList
  parked : final.status = .parked ↔ ∃ result, read = some result ∧ kernel inbox.handed result = .unmatched
  rests : (∀ result ∈ read, kernel inbox.handed result ≠ .raised) → final.status.rests

theorem ingestCreated_created (pipeline : WebhookPipeline) (kernel : KernelHandoff) (now : DateTime)
    (handler : WebhookHandler) (delivery : Delivery) (record : WebhookInboundRecord)
    (stored : inbox.rows.get? record.key = some record) (received : record.status = .received)
    (archived : inbox.objects.get? record.rawPointer = some body) :
    ∃ final, Created kernel inbox (leaves (pipeline.ingestCreated kernel now handler delivery record) inbox) record final
      (Mailbox.read handler delivery) := by
  cases verified : verify handler delivery.headers delivery.body with
  | false =>
    simp only [ingestCreated, Mailbox.read, verified, Bool.not_false, if_true, Bool.false_eq_true, if_false]
    rw [leaves_bind_of_ok (advance_run _ _ _ _ stored (by simp [received, allowed]))]
    exact ⟨record.moved now .rejected (some .signatureUnverifiable), rfl, fun _ _ => rfl, rfl, rfl, rfl,
      (append_nil _).symm, by simp [moved], fun _ => rfl⟩
  | true =>
    simp only [ingestCreated, Mailbox.read, verified, Bool.not_true, Bool.false_eq_true, if_false, if_true]
    rw [leaves_bind_of_ok (advance_run _ _ _ _ stored (by simp [received, allowed])), leaves_bind_of_ok (audited_run _),
      leaves_bind_of_ok (advance_run _ _ _ _ (Dict.get?_set_self _ _ _) (by simp [moved, allowed]))]
    let checked := (record.moved now .verified none).moved now .parsed none
    have rewritten : ∀ later : WebhookInboundRecord,
        ((inbox.rows.set record.key (record.moved now .verified none)).set record.key checked).set record.key later =
          inbox.rows.set record.key later := by
      intro later
      simp only [Dict.set_set]
    cases parse : handler.parseEvent delivery.headers delivery.body with
    | none =>
      simp only
      rw [leaves_bind_of_ok (advance_run _ _ _ _ (Dict.get?_set_self _ _ _) (by simp [moved, allowed]))]
      exact ⟨checked.moved now .rejected (some .parseError), rewritten _, fun _ _ => rfl, rfl, rfl, rfl,
        (append_nil _).symm, by simp [moved], fun _ => rfl⟩
    | some result =>
      let noted : WebhookInboundRecord := { checked with parsedConnectorRef := some result.connectorRef }
      simp only
      rw [leaves_bind_of_ok (save_run noted (Dict.get?_set_self _ _ _))]
      let holding : WebhookInbox := { inbox with
        rows := ((inbox.rows.set record.key (record.moved now .verified none)).set record.key checked).set record.key
          noted
        audit := inbox.audit ++ [⟨.verified, record.inboundId, record.connectorId, now⟩] }
      have stands : holding.rows.get? noted.key = some noted := Dict.get?_set_self _ _ _
      obtain ⟨final, after, given, ending⟩ := handoff_run pipeline kernel now noted result stands rfl archived
      have left : leaves (pipeline.handoff kernel now noted result) holding = after := by
        split_ifs at ending
        · obtain ⟨error, raised⟩ := ending
          exact leaves_of_error raised
        · obtain ⟨outcome, returned⟩ := ending
          exact leaves_of_ok returned
      rw [← left] at given
      have rows := given.rows.trans ((Dict.set_set _ _ _ _).trans (rewritten final))
      refine ⟨final, rows, given.objects, given.key, given.pointer, given.receivedAt, given.handed, ?_,
        fun steady => given.rests (steady result rfl)⟩
      constructor
      · intro parks
        exact ⟨result, rfl, not_not.mp fun taken => given.settled taken parks⟩
      · rintro ⟨_, ⟨⟩, unmatched⟩
        rw [given.parked unmatched]
        rfl

theorem insert_taken (record : WebhookInboundRecord) (taken : inbox.rows.get? record.key = some existing) :
    insert record inbox = .ok (existing, false) inbox := by
  rw [insert, get_bind, taken]
  rfl

theorem insert_fresh (record : WebhookInboundRecord) (fresh : inbox.rows.get? record.key = none) :
    insert record inbox = .ok (record, true) { inbox with rows := inbox.rows.set record.key record } := by
  rw [insert, get_bind, fresh]
  rfl

theorem kept_self (delivery : Delivery) : (kept pipeline delivery inbox).objects.get?
    (.webhook delivery.connectorId (pipeline.sha256 delivery.body)) = some delivery.body := by
  simp [kept_object]

/-- A delivery adds its raw bytes only, if its body has come before, and else one row. -/
theorem ingest_leaves (delivery : Delivery) {handler : WebhookHandler}
    (found : pipeline.handlers.get? delivery.connectorId = some handler)
    (ran : leaves (pipeline.ingest kernel now delivery) inbox = after) :
    let row := pipeline.receivedRow now delivery
    let base := kept pipeline delivery inbox
    (base.rows.get? row.key ≠ none ∧ after.rows = base.rows ∧ after.objects = base.objects ∧ after.handed = base.handed) ∨
      base.rows.get? row.key = none ∧ ∃ final, Created kernel { base with rows := base.rows.set row.key row } after row
        final (Mailbox.read handler delivery) := by
  intro row base
  simp only [ingest, found] at ran
  rw [leaves_bind_of_ok (archive_run _ _), leaves_bind_of_ok (archive_run _ _)] at ran
  change leaves _ base = after at ran
  cases taken : base.rows.get? row.key with
  | some =>
    rw [leaves_bind_of_ok (insert_taken row taken)] at ran
    subst ran
    cases verified : verify handler delivery.headers delivery.body
    · exact .inl ⟨by simp, rfl, rfl, rfl⟩
    · exact .inl ⟨by simp, rfl, rfl, rfl⟩
  | none =>
    rw [leaves_bind_of_ok (insert_fresh row taken)] at ran
    subst ran
    exact .inr ⟨rfl, ingestCreated_created pipeline kernel now handler delivery row (Dict.get?_set_self _ _ _) rfl
      (kept_self delivery)⟩

theorem ingest_refines (injective : Set.InjOn pipeline.sha256 bodies) (delivered : delivery.body ∈ bodies)
    (refines : Refines pipeline bodies inbox box) :
    Refines pipeline bodies (leaves (pipeline.ingest kernel now delivery) inbox) (box.deliver pipeline kernel now delivery) := by
  cases found : pipeline.handlers.get? delivery.connectorId with
  | none =>
    simp only [ingest, Mailbox.deliver, found]
    exact refines
  | some handler =>
    simp only [Mailbox.deliver, found]
    have stored := refines.kept delivered
    have seen := stored.seen delivery.connectorId delivery.body delivered
    obtain ⟨taken, rows, objects, handed⟩ | ⟨fresh, final, made⟩ :=
      @ingest_leaves pipeline kernel inbox now _ delivery handler found rfl
    · rw [if_pos (seen.mpr taken)]
      exact stored.congr rows objects handed
    · rw [if_neg fun known => seen.mp known fresh]
      -- The new row is parked exactly when the mailbox lets the body wait.
      have settles := fun waits waiting => stored.opened waits injective delivered fresh
        (made.rows.trans (Dict.set_set _ _ _ _)) made.objects made.key made.pointer ⟨_, kept_self delivery⟩ waiting
        (made.handed.trans (congrArg (· ++ _) stored.handed))
      have parks := made.parked
      have asked : kernel (kept pipeline delivery inbox).handed = kernel box.handed := congrArg kernel stored.handed
      simp only [asked] at parks
      have holds : Holds pipeline bodies final ⟨delivery.connectorId, delivery.body, now⟩ :=
        ⟨congrArg Prod.fst made.key, congrArg Prod.snd made.key, made.receivedAt, delivered⟩
      cases carried : Mailbox.read handler delivery with
      | none =>
        simpa [carried] using settles [] (by simp [parks, carried])
      | some result =>
        simp only [carried, Option.some.injEq, exists_eq_left'] at parks
        by_cases unmatched : kernel box.handed result = .unmatched
        · simpa [carried, Mailbox.offer, unmatched] using settles [_] (by simpa [parks, unmatched] using holds)
        · simpa [carried, Mailbox.offer, unmatched] using settles [] (by simp [parks, unmatched])

theorem archived_empty : Archived pipeline .empty := ⟨by simp [empty], by simp [empty], by simp [empty]⟩

theorem empty_refines : Refines pipeline bodies .empty .empty where
  archived := archived_empty
  among := by simp [empty]
  handed := rfl
  seen := by simp [empty, Mailbox.empty]
  waiting := .nil

/-- The pipeline refines the mailbox over every run. -/
theorem run_refines (injective : Set.InjOn pipeline.sha256 bodies) (arrivals : List Arrival)
    (delivered : ∀ now delivery, .delivery now delivery ∈ arrivals → delivery.body ∈ bodies) :
    Refines pipeline bodies (pipeline.run kernel arrivals) (Mailbox.run pipeline kernel arrivals) := by
  induction arrivals using reverseRecOn with
  | nil => exact empty_refines
  | append_singleton _ arrival ih =>
    have earlier := ih fun now delivery member => delivered now delivery (mem_append_left _ member)
    simp only [run, Mailbox.run, foldl_append, foldl_cons, foldl_nil] at earlier ⊢
    cases arrival with
    | delivery now delivery => exact ingest_refines injective (delivered now delivery (by simp)) earlier
    | sweep => exact sweepParked_refines injective earlier

end WebhookPipeline

end BdPay.Connectors
