import BdPay.Connectors.Rails.NpsbTraces

namespace BdPay.Connectors.Npsb

open Platform Data Effect List

/-! Which payment an inbound message is taken to be about.

Trace numbers start again in every session, and the lookup knows the last
allocation of a number only.
-/

/-- How the indexes of the trace numbers and the wire hang together. -/
structure Traced (connector : NpsbConnector) : Prop where
  byStan : ∀ stan, connector.stans.byStan.get? stan =
    (connector.stans.allocations.filter (·.stan = stan)).getLast?
  byRef : ∀ {ref row}, row ∈ connector.stans.allocations → row.connectorRef = some ref →
    connector.stans.byRef.get? ref ≠ none
  once : ∀ {ref left right}, left ∈ connector.stans.allocations → right ∈ connector.stans.allocations →
    left.connectorRef = some ref → right.connectorRef = some ref → left = right
  backed : ∀ transmission ∈ connector.sent, Backed connector.stans transmission

theorem traced_initial : Traced .initial where
  byStan _ := rfl
  byRef member := absurd member (not_mem_nil)
  once member := absurd member (not_mem_nil)
  backed _ member := absurd member (not_mem_nil)

theorem Backed.grow {stans after : StanStore} (backed : Backed stans transmission)
    (kept : ∀ row ∈ stans.allocations, row ∈ after.allocations) : Backed after transmission := by
  intro ref sent
  obtain ⟨row, member, rest⟩ := backed ref sent
  exact ⟨row, kept row member, rest⟩

theorem Traced.step {before after : NpsbConnector} (traced : Traced before) (wrote : Traffic before after) :
    Traced after := by
  cases wrote with
  | other allocations byRef byStan sent =>
    refine ⟨?_, ?_, ?_, ?_⟩
    · rw [allocations, byStan]
      exact traced.byStan
    · rw [allocations, byRef]
      exact traced.byRef
    · rw [allocations]
      exact traced.once
    · intro transmission member
      rw [sent] at member
      exact (traced.backed transmission member).grow (by rw [allocations]; exact fun _ inside => inside)
  | allocated row fresh =>
    have unused : ∀ {ref other}, other ∈ before.stans.allocations → other.connectorRef = some ref →
        row.connectorRef ≠ some ref := fun member named same => traced.byRef member named (fresh _ same)
    refine ⟨fun stan => ?_, ?_, ?_, ?_⟩
    · simp only [StanStore.record, filter_append, Dict.get?_set]
      by_cases same : stan = row.stan
      · simp [same]
      · have apart : ¬ row.stan = stan := fun equal => same equal.symm
        simp [same, apart, traced.byStan]
    · intro ref other member named
      simp only [StanStore.record, mem_append, mem_singleton] at member ⊢
      rcases member with old | rfl
      · have bound := traced.byRef old named
        cases given : row.connectorRef with
        | none => exact bound
        | some =>
          simp only
          split_ifs
          · exact bound
          · rw [Dict.get?_set]
            split_ifs <;> simp [bound]
      · simp only [named]
        split_ifs with contained
        · simpa [Dict.contains, Option.isSome_iff_ne_none] using contained
        · simp
    · intro ref left right inLeft inRight namedLeft namedRight
      simp only [StanStore.record, mem_append, mem_singleton] at inLeft inRight
      rcases inLeft with oldLeft | rfl <;> rcases inRight with oldRight | rfl
      · exact traced.once oldLeft oldRight namedLeft namedRight
      · exact absurd namedRight (unused oldLeft namedLeft)
      · exact absurd namedLeft (unused oldRight namedRight)
      · rfl
    · intro transmission member
      exact (traced.backed transmission member).grow fun _ inside => mem_append_left _ inside
  | transmitted _ backed =>
    refine ⟨traced.byStan, traced.byRef, traced.once, ?_⟩
    intro other member
    rcases mem_append.mp member with old | last
    · exact traced.backed other old
    · rw [mem_singleton.mp last]
      exact backed

theorem traced_run (steps : List Step) : Traced (run steps) := by
  have kept : ∀ {before after}, Relation.ReflTransGen Traffic before after → Traced before → Traced after := by
    intro before after writes start
    induction writes with
    | refl => exact start
    | tail _ last ih => exact ih.step last
  exact kept (traffic_run steps) traced_initial

/-- The trace number of an inbound message. -/
def stanOf (message : IsoMessage) : String := (message.fields.get? 11).getD ""

/-- The message is put down to a reference only if the 0200 of that reference had the
same trace and retrieval reference numbers, and is the one the message answers. -/
def SoundlyAttributed (connector : NpsbConnector) (around : Surroundings) (message : IsoMessage)
    (answers : Option Transmission) : Prop :=
  ∀ result after, parseEvent around message connector = .ok result after → result.connectorRef ≠ "" →
    (∃ request ∈ connector.sent, request.purpose = .submit result.connectorRef ∧
      request.message.fields.get? 11 = some (stanOf message) ∧
      request.message.fields.get? 37 = message.fields.get? 37) ∧
    ∀ request ∈ answers, request.purpose = .submit result.connectorRef

/-- The trace number was last allocated for the 0200 that the message is about, if it
was allocated for a payment at all. -/
def LastAllocated (connector : NpsbConnector) (message : IsoMessage) (answers : Option Transmission) : Prop :=
  ∀ row ref, (connector.stans.allocations.filter (·.stan = stanOf message)).getLast? = some row →
    row.connectorRef = some ref → ref ≠ "" →
      message.fields.get? 37 = some row.rrn ∧ (∃ request ∈ connector.sent, request.purpose = .submit ref) ∧
        ∀ request ∈ answers, request.purpose = .submit ref

theorem parseEvent_connectorRef {connector after : NpsbConnector}
    {result : ConnectorResult} (parsed : parseEvent around message connector = .ok result after) :
    result.connectorRef = ((attributed connector message).bind (·.connectorRef)).getD "" := by
  simp only [parseEvent, get_bind] at parsed
  split_ifs at parsed
  · simp only [pure_eq_ok] at parsed
    rw [← parsed.1]
  · obtain ⟨_, _, -, rest⟩ := bind_eq_ok.mp parsed
    rw [← (pure_eq_ok.mp rest).1]

theorem parseEvent_returns (connector : NpsbConnector) (around : Surroundings) (message : IsoMessage) :
    ∃ result after, parseEvent around message connector = .ok result after := by
  simp only [parseEvent, get_bind]
  split_ifs
  · exact ⟨_, _, rfl⟩
  · exact ⟨_, _, rfl⟩

/-- After every history, a message is attributed to its own payment exactly when no
later allocation took its trace number. -/
theorem soundlyAttributed_iff_lastAllocated (steps : List Step) (around : Surroundings) (message : IsoMessage)
    (answers : Option Transmission) :
    SoundlyAttributed (run steps) around message answers ↔ LastAllocated (run steps) message answers := by
  have traced := traced_run steps
  constructor
  · intro sound row ref last named present
    obtain ⟨result, after, parsed⟩ := parseEvent_returns (run steps) around message
    have found : attributed (run steps) message = some row := (traced.byStan _).trans last
    have attributedTo : result.connectorRef = ref := by
      rw [parseEvent_connectorRef parsed, found, Option.bind_some, named]
      rfl
    obtain ⟨⟨request, sent, purpose, -, rrn⟩, answered⟩ := sound result after parsed (attributedTo ▸ present)
    rw [attributedTo] at purpose answered
    obtain ⟨own, member, ownRef, -, ownRrn⟩ := traced.backed request sent ref purpose
    have inLog : row ∈ (run steps).stans.allocations :=
      List.mem_of_mem_filter (List.mem_of_getLast? last)
    obtain rfl := traced.once member inLog ownRef named
    exact ⟨rrn.symm.trans ownRrn, ⟨request, sent, purpose⟩, answered⟩
  · intro own result after parsed present
    rw [parseEvent_connectorRef parsed] at present ⊢
    cases found : attributed (run steps) message with
    | none => simp [found] at present
    | some row =>
      have last := (traced.byStan _).symm.trans found
      cases named : row.connectorRef with
      | none => simp [found, named] at present
      | some ref =>
        simp only [found, named, Option.bind_some, Option.getD_some] at present ⊢
        obtain ⟨rrn, ⟨request, sent, purpose⟩, answered⟩ := own row ref last named present
        obtain ⟨backing, member, backingRef, stan, backingRrn⟩ := traced.backed request sent ref purpose
        have inFilter := List.mem_of_getLast? last
        obtain rfl := traced.once member (List.mem_of_mem_filter inFilter) backingRef named
        have ownStan : backing.stan = stanOf message := of_decide_eq_true (List.mem_filter.mp inFilter).2
        exact ⟨⟨request, sent, purpose, ownStan ▸ stan, backingRrn.trans rrn.symm⟩, answered⟩

section Sample

set_option maxRecDepth 20000

/-- Ten in the morning, Dhaka time, of a day given by its number. -/
def morning (day : Nat) (early : day < 3650000) : DateTime := ⟨day * 86400000000 + 4 * 3600000000, by omega⟩

/-- A switch that acknowledges sign-ons and sign-offs in turn and answers no payment. -/
def sampleAround (now : DateTime) : Surroundings where
  now
  generateMac _ := some "mac"
  verifyMac _ mac := mac = "mac"
  packs _ := true
  packDe48 _ := none
  reply sent :=
    if sent = 0 then .message ⟨"0810", ofPairs [(11, "000001"), (39, "00"), (64, "mac")]⟩
    else if sent = 3 then .message ⟨"0810", ofPairs [(11, "000001"), (39, "00"), (64, "mac")]⟩
    else .timedOut
  rawHash _ := "00"
  acquiringInstId := "11223344"
  terminalId := "BDPAY001"
  simHintDe63 := false

def samplePayment (ref : String) : PaymentInstruction where
  instructionId := "ins_" ++ ref
  connectorRef := ref
  amountMinor := 10000
  method := "NPSB_IBFT"
  senderRef := "tok_sender"
  beneficiaryRef := "tok_beneficiary"
  rail := "npsb_iso8583_v28"
  instructionAt := "2026-01-01T04:00:00Z"
  metadata := []

/-- One payment on one day, and another one after the next day's sign-on. -/
def sampleSteps : List Step :=
  let first := sampleAround (morning 739617 (by decide))
  let second := sampleAround (morning 739618 (by decide))
  [⟨first, .signOn⟩, ⟨first, .submit (samplePayment "cref_a")⟩, ⟨first, .signOff⟩, ⟨second, .signOn⟩,
    ⟨second, .submit (samplePayment "cref_b")⟩]

/-- The switch's answer to the first payment, a day late. -/
def lateAnswer : IsoMessage :=
  ⟨"0210", ofPairs [(11, "000002"), (37, rrnOf (morning 739617 (by decide)) "000002"), (39, "00"), (64, "mac")]⟩

theorem lateAnswer_applied_to_other_payment :
    verifySignature (sampleAround (morning 739618 (by decide))) lateAnswer = true ∧
    (∃ request ∈ (run sampleSteps).sent, request.purpose = .submit "cref_a" ∧
      request.message.fields.get? 11 = lateAnswer.fields.get? 11 ∧
      request.message.fields.get? 37 = lateAnswer.fields.get? 37) ∧
    (∃ result ∈ value? (parseEvent (sampleAround (morning 739618 (by decide))) lateAnswer) (run sampleSteps),
      result.connectorRef = "cref_b" ∧ result.status = .success) ∧
    ∀ request ∈ (run sampleSteps).sent, request.purpose = .submit "cref_b" →
      request.message.fields.get? 37 ≠ lateAnswer.fields.get? 37 := by
  decide +kernel

end Sample

end BdPay.Connectors.Npsb
