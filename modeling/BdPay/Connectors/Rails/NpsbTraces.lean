import BdPay.Connectors.Rails.Npsb
import BdPay.Data.Guarantee

namespace BdPay.Connectors.Npsb

open Data Effect

/-! What the operations of the NPSB adapter do to the trace numbers and to the wire. -/

/-- The 0200 of a reference carries the numbers allocated for it. -/
def Backed (stans : StanStore) (transmission : Transmission) : Prop :=
  ∀ ref, transmission.purpose = .submit ref → ∃ row ∈ stans.allocations, row.connectorRef = some ref ∧
    transmission.message.fields.get? 11 = some row.stan ∧ transmission.message.fields.get? 37 = some row.rrn

/-- One write of the adapter, as far as trace numbers and the wire go. -/
inductive Traffic : NpsbConnector → NpsbConnector → Prop where
  /-- Sessions, counters, queues and everything else. -/
  | other {before after : NpsbConnector} (allocations : after.stans.allocations = before.stans.allocations)
      (byRef : after.stans.byRef = before.stans.byRef) (byStan : after.stans.byStan = before.stans.byStan)
      (sent : after.sent = before.sent) : Traffic before after
  /-- A number is allocated, for a reference at most once. -/
  | allocated {before : NpsbConnector} (row : StanAllocation)
      (fresh : ∀ ref, row.connectorRef = some ref → before.stans.byRef.get? ref = none) :
      Traffic before { before with stans := before.stans.record row }
  | transmitted {before : NpsbConnector} (transmission : Transmission) (backed : Backed before.stans transmission) :
      Traffic before { before with sent := before.sent ++ [transmission] }

variable {around : Surroundings} {before : NpsbConnector}

theorem guarantees_allocate {instructionId connectorRef : Option String}
    (fresh : ∀ ref, connectorRef = some ref → before.stans.byRef.get? ref = none) :
    Guarantees Traffic (allocate around instructionId connectorRef) before fun row after =>
      row ∈ after.stans.allocations ∧ row.connectorRef = connectorRef := by
  rw [allocate]
  refine guarantees_get_bind ?_
  cases dated : before.session.businessDate with
  | none => exact guarantees_throw
  | some businessDate =>
    cases named : before.session.sessionRef with
    | none => exact guarantees_throw
    | some sessionRef =>
      let counted : NpsbConnector := { before with stans := before.stans.counted businessDate sessionRef }
      have counts : Traffic before counted := .other rfl rfl rfl rfl
      let row := before.stans.row businessDate sessionRef instructionId connectorRef around.now
      refine guarantees_set_bind (.single counts) (guarantees_raiseIf_bind fun _ => ?_)
      have records : Traffic counted { counted with stans := counted.stans.record row } := .allocated row fresh
      refine guarantees_set_bind (.single records) (guarantees_pure ⟨?_, rfl⟩)
      exact List.mem_append_right _ (List.mem_singleton_self row)

theorem guarantees_exchange (backed : Backed before.stans ⟨purpose, message⟩) :
    Guarantees Traffic (exchange around purpose message) before fun _ _ => True := by
  rw [exchange]
  refine guarantees_raiseIf_bind fun _ => guarantees_get_bind ?_
  exact guarantees_set_bind (.single (.transmitted _ backed)) guarantees_done

theorem backed_of_ne (different : ∀ ref, purpose ≠ .submit ref) : Backed stans ⟨purpose, message⟩ :=
  fun ref same => absurd same (different ref)

theorem guarantees_advance : Guarantees Traffic (advance trigger) before fun _ _ => True := by
  rw [advance]
  refine guarantees_get_bind ?_
  cases sessionTable before.session.state trigger with
  | none => exact guarantees_throw
  | some => exact guarantees_set (.single (.other rfl rfl rfl rfl)) trivial

theorem guarantees_change (stans : (change before).stans = before.stans) (sent : (change before).sent = before.sent) :
    Guarantees Traffic (modify change : NpsbM PUnit) before fun _ after => after = change before :=
  guarantees_modify (.single (.other (by rw [stans]) (by rw [stans]) (by rw [stans]) sent)) rfl

theorem guarantees_enterScope : Guarantees Traffic (enterScope around) before fun _ _ => True :=
  (guarantees_change rfl rfl).weaken fun _ _ _ _ => trivial

theorem guarantees_ensureScope : Guarantees Traffic (ensureScope around) before fun _ _ => True := by
  rw [ensureScope]
  refine guarantees_get_bind ?_
  dsimp only
  split_ifs
  · exact guarantees_enterScope
  · exact guarantees_pure trivial

theorem guarantees_nmExchange {nmi : String} : Guarantees Traffic (nmExchange around nmi) before fun _ _ => True := by
  rw [nmExchange]
  refine guarantees_ensureScope.bind fun _ _ _ _ => ?_
  refine (guarantees_allocate (by simp)).bind fun allocation _ _ _ => ?_
  split
  · exact guarantees_throw
  · refine (guarantees_exchange (backed_of_ne (by simp))).bind fun reply _ _ _ => ?_
    split
    · split_ifs <;> exact guarantees_pure trivial
    · exact guarantees_pure trivial

theorem guarantees_saveSaf : Guarantees Traffic (saveSaf item) before fun _ _ => True :=
  (guarantees_change rfl rfl).weaken fun _ _ _ _ => trivial

theorem guarantees_sendReversal {instructionId : String} :
    Guarantees Traffic (sendReversal around instructionId connectorRef item) before fun _ _ => True := by
  rw [sendReversal]
  refine (guarantees_allocate (by simp)).bind fun allocation _ _ _ => ?_
  refine guarantees_saveSaf.bind fun _ _ _ _ => ?_
  dsimp only
  split
  · exact guarantees_pure trivial
  · refine (guarantees_exchange (backed_of_ne (by simp))).bind fun reply _ _ _ => ?_
    split
    · split_ifs
      · refine guarantees_saveSaf.bind fun _ _ _ _ => ?_
        exact (guarantees_change rfl rfl).bind fun _ _ _ _ => guarantees_pure trivial
      · exact guarantees_pure trivial
    · exact guarantees_pure trivial

theorem guarantees_drainStoreAndForward : Guarantees Traffic (drainStoreAndForward around) before fun _ _ => True := by
  rw [drainStoreAndForward]
  refine guarantees_get_bind (guarantees_forEach (fun _ => True) (fun _ _ _ _ => trivial) trivial ?_)
  intro item _ state _
  refine guarantees_get_bind ?_
  by_cases accepts : state.session.dispatchable = true
  · rw [if_pos accepts]
    exact guarantees_sendReversal.bind fun _ _ _ _ => guarantees_pure trivial
  · rw [if_neg accepts]
    exact guarantees_pure trivial

theorem guarantees_signOn : Guarantees Traffic (signOn around) before fun _ _ => True := by
  rw [signOn]
  refine (guarantees_change rfl rfl).bind fun _ _ _ _ => guarantees_enterScope.bind fun _ _ _ _ =>
    guarantees_advance.bind fun _ _ _ _ => guarantees_nmExchange.bind fun response _ _ _ => ?_
  split_ifs
  · exact guarantees_advance.bind fun _ _ _ _ => (guarantees_change rfl rfl).bind fun _ _ _ _ =>
      guarantees_drainStoreAndForward.bind fun _ _ _ _ => guarantees_pure trivial
  · exact guarantees_advance.bind fun _ _ _ _ => guarantees_pure trivial

theorem guarantees_echoCycle : Guarantees Traffic (echoCycle around) before fun _ _ => True := by
  rw [echoCycle]
  refine guarantees_get_bind (guarantees_raiseIf_bind fun _ => guarantees_nmExchange.bind fun response _ _ _ => ?_)
  split_ifs
  · exact guarantees_advance.bind fun _ _ _ _ => (guarantees_change rfl rfl).bind fun _ _ _ _ => guarantees_pure trivial
  · exact (guarantees_change rfl rfl).bind fun _ _ _ _ => guarantees_get_bind
      (guarantees_advance.bind fun _ _ _ _ => guarantees_pure trivial)

theorem guarantees_cutover : Guarantees Traffic (cutover around) before fun _ _ => True := by
  rw [cutover]
  refine guarantees_advance.bind fun _ _ _ _ => guarantees_nmExchange.bind fun response _ _ _ => ?_
  split_ifs
  · exact guarantees_advance.bind fun _ _ _ _ => guarantees_enterScope.bind fun _ _ _ _ => guarantees_pure trivial
  · exact (guarantees_change rfl rfl).bind fun _ _ _ _ => guarantees_pure trivial

theorem guarantees_signOff : Guarantees Traffic (signOff around) before fun _ _ => True := by
  rw [signOff]
  exact guarantees_advance.bind fun _ _ _ _ => guarantees_nmExchange.bind fun _ _ _ _ => guarantees_pure trivial

theorem guarantees_concluded :
    Guarantees Traffic (concluded around instructionId connectorRef stan rrn reportRrn reply) before fun _ _ => True := by
  cases reply with
  | timedOut | disconnected => exact guarantees_throw
  | undecodable | message => exact guarantees_pure trivial

theorem guarantees_queryStatus : Guarantees Traffic (queryStatus around connectorRef) before fun _ _ => True := by
  rw [queryStatus]
  refine guarantees_get_bind ?_
  dsimp only
  split
  · exact guarantees_pure trivial
  · split
    · exact guarantees_pure trivial
    · split_ifs
      · exact guarantees_pure trivial
      · refine (guarantees_allocate (by simp)).bind fun inquiry _ _ _ => ?_
        split
        · exact guarantees_pure trivial
        · exact (guarantees_exchange (backed_of_ne (by simp))).bind fun _ _ _ _ => guarantees_concluded

theorem guarantees_reverse : Guarantees Traffic (reverse around connectorRef) before fun _ _ => True := by
  rw [reverse]
  refine guarantees_get_bind ?_
  dsimp only
  split
  · exact guarantees_pure trivial
  · split
    · exact guarantees_pure trivial
    · have queued : ∀ original, Guarantees Traffic (findOrQueueSaf around connectorRef original) before
          fun _ _ => True := by
        intro original
        rw [findOrQueueSaf]
        refine guarantees_get_bind ?_
        split
        · exact guarantees_pure trivial
        · exact guarantees_set_bind (.single (.other rfl rfl rfl rfl)) guarantees_done
      refine (queued _).bind fun saf _ _ _ => guarantees_get_bind ?_
      split_ifs
      · exact guarantees_pure trivial
      · exact guarantees_sendReversal

variable {instruction : PaymentInstruction} {qrFields : List (Nat × String)}

theorem submitRefusal?_numbers
    (passed : submitRefusal? around instruction = .ok qrFields) : ∀ key ∈ [11, 37], key ∉ qrFields.map Prod.fst := by
  rw [submitRefusal?] at passed
  split_ifs at passed
  · split at passed
    · cases passed
    · next encoded =>
        cases passed
        rw [qrDeFields] at encoded
        obtain ⟨de48, -, rfl⟩ := Option.map_eq_some_iff.mp encoded
        simp
  · cases passed
    simp

theorem financialFields_numbers (around : Surroundings) (instruction : PaymentInstruction) (allocation : StanAllocation)
    (apart : ∀ key ∈ [11, 37], key ∉ qrFields.map Prod.fst) :
    (financialFields around instruction allocation qrFields).get? 11 = some allocation.stan ∧
      (financialFields around instruction allocation qrFields).get? 37 = some allocation.rrn := by
  have hinted : ∀ key ∈ [11, 37], key ∉ (simHint around instruction).map Prod.fst := by
    intro key member
    rw [simHint]
    split_ifs <;> simp_all
    omega
  simp only [financialFields]
  rw [Dict.get?_setAll_of_notMem (hinted 11 (by simp)), Dict.get?_setAll_of_notMem (apart 11 (by simp)),
    Dict.get?_setAll_of_notMem (hinted 37 (by simp)), Dict.get?_setAll_of_notMem (apart 37 (by simp))]
  simp [ofPairs, Dict.get?_set]

section

variable (apart : ∀ key ∈ [11, 37], key ∉ qrFields.map Prod.fst)

include apart

theorem guarantees_transmit
    (member : allocation ∈ before.stans.allocations) (named : allocation.connectorRef = some instruction.connectorRef) :
    Guarantees Traffic (transmit around instruction qrFields allocation) before fun _ _ => True := by
  rw [transmit]
  refine (guarantees_change rfl rfl).bind ?_
  rintro _ _ _ rfl
  cases sealed : macd around ⟨"0200", financialFields around instruction allocation qrFields⟩ with
  | none => exact guarantees_pure trivial
  | some =>
    obtain ⟨mac, -, rfl⟩ := Option.map_eq_some_iff.mp sealed
    obtain ⟨stan, rrn⟩ := financialFields_numbers around instruction allocation apart
    refine (guarantees_exchange ?_).bind fun _ _ _ _ => guarantees_concluded
    rintro ref ⟨⟩
    refine ⟨allocation, member, named, ?_, ?_⟩
    · rw [Dict.get?_set_of_ne (by decide), stan]
    · rw [Dict.get?_set_of_ne (by decide), rrn]

theorem guarantees_submitFresh (fresh : before.stans.byRef.get? instruction.connectorRef = none) :
    Guarantees Traffic (submitFresh around instruction qrFields) before fun _ _ => True := by
  have allocates := @guarantees_allocate around before (some instruction.instructionId) (some instruction.connectorRef)
    (by rintro ref ⟨⟩; exact fresh)
  cases ran : allocate around (some instruction.instructionId) (some instruction.connectorRef) before with
  | ok =>
    obtain ⟨steps, member, named⟩ := allocates.returned ran
    exact guarantees_of_run_eq steps (by rw [submitFresh, ran]) (guarantees_transmit apart member named)
  | error error =>
    have steps := allocates.raised ran
    cases error with
    | stanExhausted => exact guarantees_of_ok (by rw [submitFresh, ran]) steps trivial
    | sessionTransitionDenied | macUnavailable | format | transport =>
      exact guarantees_of_error (by rw [submitFresh, ran]) steps

end

theorem guarantees_submit : Guarantees Traffic (submit around instruction) before fun _ _ => True := by
  rw [submit]
  refine (guarantees_change rfl rfl).bind ?_
  rintro _ _ _ rfl
  cases checked : submitRefusal? around instruction with
  | error => exact guarantees_pure trivial
  | ok =>
    refine guarantees_get_bind ?_
    dsimp only
    split_ifs with known down
    · exact guarantees_queryStatus
    · exact guarantees_pure trivial
    · exact guarantees_submitFresh (submitRefusal?_numbers checked) (by simpa using known)

theorem guarantees_parseEvent : Guarantees Traffic (parseEvent around message) before fun _ _ => True := by
  rw [parseEvent]
  refine guarantees_get_bind ?_
  dsimp only
  split_ifs
  · exact guarantees_pure trivial
  · exact (guarantees_change rfl rfl).bind fun _ _ _ _ => guarantees_pure trivial

theorem guarantees_perform : Guarantees Traffic (perform around operation) before fun _ _ => True := by
  cases operation with
  | signOn => exact guarantees_signOn.bind fun _ _ _ _ => guarantees_pure trivial
  | echoCycle => exact guarantees_echoCycle.bind fun _ _ _ _ => guarantees_pure trivial
  | cutover => exact guarantees_cutover.bind fun _ _ _ _ => guarantees_pure trivial
  | signOff => exact guarantees_signOff.bind fun _ _ _ _ => guarantees_pure trivial
  | submit => exact guarantees_submit.bind fun _ _ _ _ => guarantees_pure trivial
  | queryStatus => exact guarantees_queryStatus.bind fun _ _ _ _ => guarantees_pure trivial
  | reverse => exact guarantees_reverse.bind fun _ _ _ _ => guarantees_pure trivial
  | drain => exact guarantees_drainStoreAndForward
  | inbound => exact guarantees_parseEvent.bind fun _ _ _ _ => guarantees_pure trivial

theorem traffic_run (steps : List Step) : Relation.ReflTransGen Traffic .initial (run steps) := by
  induction steps using List.reverseRecOn with
  | nil => exact .refl
  | append_singleton _ _ ih =>
    rw [run, List.foldl_append]
    exact ih.trans guarantees_perform.leaves

end BdPay.Connectors.Npsb
