import BdPay.Connectors.Mailbox

namespace BdPay.Connectors

open Platform Data Mailbox List

/-! What deliveries with a bad signature can do to the others.

The row of a delivery is inserted before its signature is checked, so a forged
copy of a body takes the place of the authentic delivery that follows it.
-/

namespace WebhookPipeline

variable (pipeline : WebhookPipeline) (kernel : KernelHandoff)

/-- The signature verifies. -/
def authentic (delivery : Delivery) : Bool :=
  match pipeline.handlers.get? delivery.connectorId with
  | none => false
  | some handler => verify handler delivery.headers delivery.body

/-- The event an authentic delivery carries. -/
def carries (delivery : Delivery) : Option ConnectorResult :=
  match pipeline.handlers.get? delivery.connectorId with
  | none => none
  | some handler => read handler delivery

def genuine : Arrival → Bool
  | .delivery _ sent => pipeline.authentic sent
  | .sweep _ => true

variable (arrivals : List Arrival)

/-- The run without the deliveries that do not verify. -/
def authenticOnly : List Arrival := arrivals.filter (pipeline.genuine)

def deliveries : List Delivery :=
  arrivals.filterMap fun
    | .delivery _ sent => some sent
    | .sweep _ => none

/-- The same bytes for the same connector. -/
def Copies (delivery other : Delivery) : Prop :=
  delivery.connectorId = other.connectorId ∧ delivery.body = other.body

/-- Whatever the kernel answers, the forged deliveries change nothing about what it
is handed, or in which order. -/
def Undisturbed : Prop :=
  ∀ kernel, (pipeline.run kernel arrivals).handed = (pipeline.run kernel (pipeline.authenticOnly arrivals)).handed

/-- No delivery that carries an event comes after a forged copy of itself, unless an
authentic copy came before too. -/
def Unpreempted : Prop :=
  ∀ earlier now delivery later, arrivals = earlier ++ .delivery now delivery :: later →
    pipeline.carries delivery ≠ none → (∃ other ∈ deliveries earlier, Copies other delivery) →
      ∃ other ∈ deliveries earlier, Copies other delivery ∧ pipeline.authentic other

variable {pipeline : WebhookPipeline} {kernel : KernelHandoff} {arrivals : List Arrival} {now : DateTime}
  {delivery : Delivery} {box : Mailbox} {connectorId : String} {body : Bytes} {arrival : Arrival}

theorem authentic_of_carries (carried : pipeline.carries delivery ≠ none) : pipeline.authentic delivery = true := by
  rw [carries] at carried
  rw [authentic]
  cases found : pipeline.handlers.get? delivery.connectorId with
  | none => simp [found] at carried
  | some =>
    simp only [found, Mailbox.read] at carried
    simp only
    by_contra forged
    simp [forged] at carried

theorem deliver_unread (kernel : KernelHandoff) (now : DateTime) (box : Mailbox)
    (unread : pipeline.carries delivery = none) : (box.deliver pipeline kernel now delivery).handed = box.handed ∧
      (box.deliver pipeline kernel now delivery).waiting = box.waiting := by
  rw [carries] at unread
  rw [deliver]
  cases found : pipeline.handlers.get? delivery.connectorId with
  | none => simp
  | some =>
    simp only [found] at unread
    simp only [unread]
    split_ifs <;> simp

theorem deliver_read (carried : pipeline.carries delivery = some result) :
    box.deliver pipeline kernel now delivery =
      if (delivery.connectorId, delivery.body) ∈ box.seen then box
      else { box with seen := box.seen ++ [(delivery.connectorId, delivery.body)] }.offer kernel result
        ⟨delivery.connectorId, delivery.body, now⟩ := by
  rw [carries] at carried
  rw [deliver]
  cases found : pipeline.handlers.get? delivery.connectorId with
  | none => simp [found] at carried
  | some =>
    simp only [found] at carried
    simp only [carried]

theorem run_snoc (arrival : Arrival) : Mailbox.run pipeline kernel (arrivals ++ [arrival]) =
      (Mailbox.run pipeline kernel arrivals).receive pipeline kernel arrival := by
  simp [Mailbox.run]

theorem authenticOnly_snoc_delivery :
    pipeline.authenticOnly (arrivals ++ [.delivery now delivery]) =
      if pipeline.authentic delivery then pipeline.authenticOnly arrivals ++ [.delivery now delivery]
      else pipeline.authenticOnly arrivals := by
  cases verified : pipeline.authentic delivery <;> simp [authenticOnly, genuine, verified]

theorem authenticOnly_snoc_sweep :
    pipeline.authenticOnly (arrivals ++ [.sweep now]) = pipeline.authenticOnly arrivals ++ [.sweep now] := by
  simp [authenticOnly, genuine]

theorem mem_deliveries : delivery ∈ deliveries arrivals ↔ ∃ now, .delivery now delivery ∈ arrivals := by
  simp only [deliveries, mem_filterMap]
  constructor
  · rintro ⟨arrival, member, found⟩
    cases arrival with
    | delivery now =>
      cases found
      exact ⟨now, member⟩
    | sweep => cases found
  · rintro ⟨now, member⟩
    exact ⟨_, member, rfl⟩

theorem mem_deliveries_authenticOnly : delivery ∈ deliveries (pipeline.authenticOnly arrivals) ↔
      delivery ∈ deliveries arrivals ∧ pipeline.authentic delivery = true := by
  simp [mem_deliveries, authenticOnly, genuine]

theorem mem_seen_deliver : (connectorId, body) ∈ (box.deliver pipeline kernel now delivery).seen ↔
      (connectorId, body) ∈ box.seen ∨ (pipeline.handlers.get? connectorId ≠ none ∧
        delivery.connectorId = connectorId ∧ delivery.body = body) := by
  cases found : pipeline.handlers.get? delivery.connectorId with
  | none => grind [deliver]
  | some handler =>
    have opened : (box.deliver pipeline kernel now delivery).seen =
        if (delivery.connectorId, delivery.body) ∈ box.seen then box.seen
        else box.seen ++ [(delivery.connectorId, delivery.body)] := by
      simp only [deliver, found]
      split_ifs
      · rfl
      · cases read handler delivery <;> rfl
    rw [opened]
    grind

/-- A body is seen once a delivery of it came in for a connector that has a handler. -/
theorem mem_seen : (connectorId, body) ∈ (Mailbox.run pipeline kernel arrivals).seen ↔
      pipeline.handlers.get? connectorId ≠ none ∧
        ∃ delivery ∈ deliveries arrivals, delivery.connectorId = connectorId ∧ delivery.body = body := by
  induction arrivals using reverseRecOn with
  | nil => simp [Mailbox.run, Mailbox.empty, deliveries]
  | append_singleton _ arrival ih =>
    rw [run_snoc]
    cases arrival with
    | sweep => simpa [Mailbox.receive, Mailbox.sweep, mem_deliveries] using ih
    | delivery =>
      rw [Mailbox.receive, mem_seen_deliver, ih]
      simp only [mem_deliveries, mem_append, mem_singleton]
      grind

theorem Unpreempted.init (unpreempted : pipeline.Unpreempted (arrivals ++ [arrival])) :
    pipeline.Unpreempted arrivals := by
  intro earlier now delivery later split
  exact unpreempted earlier now delivery (later ++ [arrival]) (by simp [split])

theorem Unpreempted.snoc (unpreempted : pipeline.Unpreempted arrivals)
    (last : ∀ now delivery, arrival = .delivery now delivery → pipeline.carries delivery ≠ none →
      (∃ other ∈ deliveries arrivals, Copies other delivery) →
        ∃ other ∈ deliveries arrivals, Copies other delivery ∧ pipeline.authentic other) :
    pipeline.Unpreempted (arrivals ++ [arrival]) := by
  intro earlier now delivery later split
  rcases eq_nil_or_concat later with rfl | ⟨middle, final, rfl⟩
  · obtain ⟨rfl, same⟩ := append_inj' split rfl
    exact last now delivery (cons.inj same).1
  · have regrouped : arrivals ++ [arrival] = (earlier ++ .delivery now delivery :: middle) ++ [final] := by
      simpa using split
    exact unpreempted earlier now delivery middle (append_inj' regrouped rfl).1

/-- The last delivery of an unpreempted run is seen before only if an authentic copy was. -/
theorem Unpreempted.seen_authentic (unpreempted : pipeline.Unpreempted (arrivals ++ [.delivery now delivery]))
    (carried : pipeline.carries delivery ≠ none)
    (seen : (delivery.connectorId, delivery.body) ∈ (Mailbox.run pipeline kernel arrivals).seen) :
    (delivery.connectorId, delivery.body) ∈ (Mailbox.run pipeline kernel (pipeline.authenticOnly arrivals)).seen := by
  rw [mem_seen] at seen ⊢
  obtain ⟨known, other, sent, copies⟩ := seen
  obtain ⟨copy, came, same, verified⟩ := unpreempted arrivals now delivery [] rfl carried ⟨other, sent, copies⟩
  exact ⟨known, copy, mem_deliveries_authenticOnly.mpr ⟨came, verified⟩, same⟩

/-- What the authentic deliveries show was shown with the forged ones too. -/
theorem seen_of_authenticOnly
    (seen : (connectorId, body) ∈ (Mailbox.run pipeline kernel (pipeline.authenticOnly arrivals)).seen) :
    (connectorId, body) ∈ (Mailbox.run pipeline other arrivals).seen := by
  rw [mem_seen] at seen ⊢
  obtain ⟨known, delivery, sent, copies⟩ := seen
  exact ⟨known, delivery, (mem_deliveries_authenticOnly.mp sent).1, copies⟩

/-- In an unpreempted run the mailbox stays the same with and without forged deliveries,
but for the bodies it has seen. -/
theorem run_eq_of_unpreempted (unpreempted : pipeline.Unpreempted arrivals) :
    (Mailbox.run pipeline kernel arrivals).handed =
        (Mailbox.run pipeline kernel (pipeline.authenticOnly arrivals)).handed ∧
      (Mailbox.run pipeline kernel arrivals).waiting =
        (Mailbox.run pipeline kernel (pipeline.authenticOnly arrivals)).waiting := by
  induction arrivals using reverseRecOn with
  | nil => exact ⟨rfl, rfl⟩
  | append_singleton earlier arrival ih =>
    obtain ⟨handed, waiting⟩ := ih unpreempted.init
    cases arrival with
    | sweep =>
      simp only [authenticOnly_snoc_sweep, run_snoc, Mailbox.receive, Mailbox.sweep, handed, waiting, and_self]
    | delivery now delivery =>
      rw [authenticOnly_snoc_delivery, run_snoc, Mailbox.receive]
      cases carried : pipeline.carries delivery with
      | none =>
        obtain ⟨sameHanded, sameWaiting⟩ := deliver_unread kernel now
          (Mailbox.run pipeline kernel earlier) carried
        rw [sameHanded, sameWaiting, handed, waiting]
        split_ifs with verified
        · rw [run_snoc, Mailbox.receive]
          obtain ⟨otherHanded, otherWaiting⟩ := deliver_unread kernel now
            (Mailbox.run pipeline kernel (pipeline.authenticOnly earlier)) carried
          exact ⟨otherHanded.symm, otherWaiting.symm⟩
        · exact ⟨rfl, rfl⟩
      | some =>
        have reads : pipeline.carries delivery ≠ none := by simp [carried]
        rw [if_pos (authentic_of_carries reads), run_snoc, Mailbox.receive, deliver_read carried, deliver_read carried]
        by_cases seen : (delivery.connectorId, delivery.body) ∈ (Mailbox.run pipeline kernel earlier).seen
        · rw [if_pos seen, if_pos (unpreempted.seen_authentic reads seen)]
          exact ⟨handed, waiting⟩
        · rw [if_neg seen, if_neg fun shown => seen (seen_of_authenticOnly shown)]
          simp only [Mailbox.offer, handed, waiting, and_self]

/-- A kernel that knows every reference. -/
def knowing : KernelHandoff := fun _ _ => .committed

theorem waiting_knowing : (Mailbox.run pipeline knowing arrivals).waiting = [] := by
  induction arrivals using reverseRecOn with
  | nil => rfl
  | append_singleton _ arrival ih =>
    rw [run_snoc]
    cases arrival with
    | sweep => simp [Mailbox.receive, Mailbox.sweep, ih, Mailbox.retry]
    | delivery _ delivery =>
      rw [Mailbox.receive]
      cases carried : pipeline.carries delivery with
      | none => rw [(deliver_unread _ _ _ carried).2, ih]
      | some =>
        rw [deliver_read carried]
        split_ifs <;> simp [offer, knowing, ih]

theorem length_handed_knowing_snoc :
    (Mailbox.run pipeline knowing (arrivals ++ [.delivery now delivery])).handed.length =
      (Mailbox.run pipeline knowing arrivals).handed.length +
        if pipeline.carries delivery ≠ none ∧
          (delivery.connectorId, delivery.body) ∉ (Mailbox.run pipeline knowing arrivals).seen then 1 else 0 := by
  rw [run_snoc, Mailbox.receive]
  cases carried : pipeline.carries delivery with
  | none => simp [(deliver_unread _ _ _ carried).1]
  | some =>
    rw [deliver_read carried]
    split_ifs <;> simp_all [Mailbox.offer]

/-- Forged deliveries never add a result, and a preempted run loses one. -/
theorem length_handed_knowing : (Mailbox.run pipeline knowing arrivals).handed.length ≤
        (Mailbox.run pipeline knowing (pipeline.authenticOnly arrivals)).handed.length ∧
      (¬ pipeline.Unpreempted arrivals → (Mailbox.run pipeline knowing arrivals).handed.length <
          (Mailbox.run pipeline knowing (pipeline.authenticOnly arrivals)).handed.length) := by
  induction arrivals using reverseRecOn with
  | nil => exact ⟨le_rfl, fun preempted => absurd (by intro earlier _ _ _ split; simp at split) preempted⟩
  | append_singleton earlier arrival ih =>
    obtain ⟨fewer, loses⟩ := ih
    cases arrival with
    | sweep now =>
      have idle : ∀ arrivals, (Mailbox.run pipeline knowing (arrivals ++ [.sweep now])).handed =
          (Mailbox.run pipeline knowing arrivals).handed := by
        intro arrivals
        simp [run_snoc, Mailbox.receive, Mailbox.sweep, waiting_knowing, Mailbox.retry]
      rw [authenticOnly_snoc_sweep, idle, idle]
      refine ⟨fewer, fun preempted => loses fun unpreempted => preempted (unpreempted.snoc ?_)⟩
      intro _ _ absurdity
      cases absurdity
    | delivery now delivery =>
      rw [authenticOnly_snoc_delivery, length_handed_knowing_snoc]
      by_cases carried : pipeline.carries delivery = none
      · have unheard : ∀ arrivals, (Mailbox.run pipeline knowing (arrivals ++ [.delivery now delivery])).handed.length =
            (Mailbox.run pipeline knowing arrivals).handed.length := by
          intro arrivals
          simp [length_handed_knowing_snoc, carried]
        have same : (Mailbox.run pipeline knowing (if pipeline.authentic delivery then
            pipeline.authenticOnly earlier ++ [.delivery now delivery] else pipeline.authenticOnly earlier)).handed.length =
            (Mailbox.run pipeline knowing (pipeline.authenticOnly earlier)).handed.length := by
          split_ifs
          · exact unheard _
          · rfl
        rw [same]
        simp only [carried, ne_eq, not_true_eq_false, false_and, if_false, Nat.add_zero]
        refine ⟨fewer, fun preempted => loses fun unpreempted => preempted (unpreempted.snoc ?_)⟩
        rintro _ _ ⟨⟩ reads
        exact absurd carried reads
      · rw [if_pos (authentic_of_carries carried), length_handed_knowing_snoc]
        have shown : (delivery.connectorId, delivery.body) ∈
            (Mailbox.run pipeline knowing (pipeline.authenticOnly earlier)).seen →
              (delivery.connectorId, delivery.body) ∈ (Mailbox.run pipeline knowing earlier).seen :=
          seen_of_authenticOnly
        constructor
        · split_ifs <;> first | omega | (exfalso; tauto)
        · intro preempted
          -- Either the loss is older, or this delivery is the one that was preempted.
          by_cases unpreempted : pipeline.Unpreempted earlier
          · have fresh : (delivery.connectorId, delivery.body) ∉
                (Mailbox.run pipeline knowing (pipeline.authenticOnly earlier)).seen ∧
                (delivery.connectorId, delivery.body) ∈ (Mailbox.run pipeline knowing earlier).seen := by
              by_contra otherwise
              refine preempted (unpreempted.snoc ?_)
              rintro _ _ ⟨⟩ _ ⟨other, sent, copies⟩
              have known : pipeline.handlers.get? delivery.connectorId ≠ none := by
                intro unknown
                simp [carries, unknown] at carried
              have seen : (delivery.connectorId, delivery.body) ∈ (Mailbox.run pipeline knowing earlier).seen :=
                mem_seen.mpr ⟨known, other, sent, copies⟩
              obtain ⟨-, copy, came, same⟩ := mem_seen.mp (not_not.mp fun unseen => otherwise ⟨unseen, seen⟩)
              obtain ⟨came, verified⟩ := mem_deliveries_authenticOnly.mp came
              exact ⟨copy, came, same, verified⟩
            simp only [carried, fresh, ne_eq, not_false_eq_true, not_true_eq_false, and_self, and_false, if_true,
              if_false]
            omega
          · have fewerYet := loses unpreempted
            split_ifs <;> first | omega | (exfalso; tauto)

/-- Over every run, forged deliveries leave what the kernel is handed alone exactly
when none of them comes before the authentic delivery it copies. -/
theorem undisturbed_iff_unpreempted (pipeline : WebhookPipeline) (arrivals : List Arrival)
    (injective : Set.InjOn pipeline.sha256 {body | ∃ delivery ∈ deliveries arrivals, delivery.body = body}) :
    pipeline.Undisturbed arrivals ↔ pipeline.Unpreempted arrivals := by
  have handed : ∀ kernel, ∀ some ⊆ arrivals,
      (pipeline.run kernel some).handed = (Mailbox.run pipeline kernel some).handed :=
    fun kernel some among => (run_refines injective some fun now delivery member =>
      ⟨delivery, mem_deliveries.mpr ⟨now, among member⟩, rfl⟩).handed
  simp only [Undisturbed, handed _ _ (Subset.refl _), handed _ _ (filter_subset_self _), authenticOnly]
  constructor
  · intro same
    by_contra preempted
    exact absurd (congrArg List.length (same knowing)) (length_handed_knowing.2 preempted).ne
  · intro unpreempted kernel
    exact (run_eq_of_unpreempted unpreempted).1

section Sample

/-- One connector whose signature is a shared secret sent in a header. -/
def sampleHandler : WebhookHandler where
  verifySignature headers _ := some (headers.contains ("x-signature", "secret"))
  parseEvent _ _ := some {
    instructionId := "ins_1", connectorRef := "cref_1", status := .success, railTransactionId := some "TRX1"
    respondedAt := none, errorCode := none, rawResponseHash := "00" }

def sampleHash (bytes : Bytes) : String := String.ofList (bytes.map fun byte => Char.ofNat byte.toNat)

def samplePipeline : WebhookPipeline where
  handlers := Dict.empty.set "nagad" sampleHandler
  sha256 := sampleHash
  headersHash headers := String.join (headers.map Prod.snd)
  inboundId key := key.1 ++ key.2
  resultId connectorId connectorRef _ _ := connectorId ++ connectorRef
  modeAtCall := .simulator

def sampleArrival (signature : String) : Arrival :=
  .delivery ⟨0, DateTime.zero_inRange⟩ ⟨"nagad", [("x-signature", signature)], [112, 97, 105, 100], "203.0.113.9"⟩

/-- A forged copy first: the authentic delivery is dropped as a duplicate. -/
theorem forged_copy_drops_delivery :
    (samplePipeline.run knowing [sampleArrival "guess", sampleArrival "secret"]).handed = [] ∧
      (samplePipeline.run knowing (samplePipeline.authenticOnly
        [sampleArrival "guess", sampleArrival "secret"])).handed.map (·.connectorRef) = ["cref_1"] := by
  decide +kernel

theorem late_copy_undisturbed : samplePipeline.Undisturbed [sampleArrival "secret", sampleArrival "guess"] := by
  refine (undisturbed_iff_unpreempted samplePipeline _ (by simp [deliveries, sampleArrival])).mpr ?_
  intro earlier now delivery later split reads copied
  match earlier, split with
  | [], _ => simp [deliveries] at copied
  | [first], split =>
    cases split
    exact absurd (by decide +kernel) reads
  | _ :: _ :: _, split => simp at split

end Sample

end WebhookPipeline

end BdPay.Connectors
