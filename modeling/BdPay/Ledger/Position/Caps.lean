import BdPay.Data.Outcome
import BdPay.Data.Rows
import BdPay.Ledger.Position.Service

namespace BdPay.Ledger.Position

open Platform Data Effect PositionStore PositionService

/-! Which cap is active, and when. -/

variable {store later : PositionStore} {service : PositionService} {now : DateTime} {party : String}
  {cap : NetDebitCap}

/-- Caps under their identifiers, one of them active for each participant. -/
structure PositionStore.Capped (store : PositionStore) : Prop where
  keyed : store.caps.Keyed NetDebitCap.ndcId
  single : ∀ one ∈ store.caps.values, ∀ other ∈ store.caps.values, one.participantId = other.participantId →
    one.supersededAt = none → other.supersededAt = none → one = other

theorem capped_empty : empty.Capped := ⟨Dict.keyed_empty, by simp [empty]⟩

theorem activeCap_some (found : store.activeCap party = some cap) :
    cap ∈ store.caps.values ∧ cap.participantId = party ∧ cap.supersededAt = none := by
  have holds := List.find?_some found
  simp only [Bool.and_eq_true, decide_eq_true_eq] at holds
  exact ⟨List.mem_of_find?_eq_some found, holds⟩

theorem activeCap_none : store.activeCap party = none ↔
    ∀ cap ∈ store.caps.values, cap.participantId = party → cap.supersededAt ≠ none := by
  simp [activeCap]

theorem PositionStore.Capped.activeCap_of_mem (capped : store.Capped) (member : cap ∈ store.caps.values)
    (active : cap.supersededAt = none) : store.activeCap cap.participantId = some cap := by
  cases found : store.activeCap cap.participantId with
  | none => exact absurd active (activeCap_none.mp found cap member rfl)
  | some other =>
    obtain ⟨inside, own, alive⟩ := activeCap_some found
    rw [capped.single other inside cap member own alive active]

def PositionStore.putCap (store : PositionStore) (row : NetDebitCap) : PositionStore :=
  { store with caps := store.caps.set row.ndcId row }

/-- The store once the active cap of a participant is superseded. -/
def PositionStore.superseded (store : PositionStore) (participantId : String) (now : DateTime) : PositionStore :=
  match store.activeCap participantId with
  | none => store
  | some existing => store.putCap { existing with supersededAt := some now }

theorem positions_superseded : (store.superseded party now).positions = store.positions := by
  rw [superseded]
  cases store.activeCap party <;> rfl

section

variable (capped : store.Capped)

include capped

theorem PositionStore.Capped.mem_superseded : cap ∈ (store.superseded party now).caps.values ↔
      (cap ∈ store.caps.values ∧ store.activeCap party ≠ some cap) ∨
        ∃ existing, store.activeCap party = some existing ∧ cap = { existing with supersededAt := some now } := by
  rw [superseded]
  cases found : store.activeCap party with
  | none => simp
  | some existing =>
    have written := @Dict.Keyed.mem_values_set _ _ NetDebitCap.ndcId store.caps _ capped.keyed
      { existing with supersededAt := some now } cap
    have apart : cap ∈ store.caps.values → (cap.ndcId ≠ existing.ndcId ↔ existing ≠ cap) := fun member =>
      not_congr ⟨fun same => (capped.keyed.inj member (activeCap_some found).1 same).symm, fun same => by rw [same]⟩
    refine written.trans (or_comm.trans (or_congr (and_congr_right fun member => ?_) ?_))
    · simpa using apart member
    · simp

theorem PositionStore.Capped.superseded : (store.superseded party now).Capped := by
  constructor
  · rw [PositionStore.superseded]
    cases store.activeCap party with
    | none => exact capped.keyed
    | some => exact capped.keyed.set rfl
  · intro one first other second same alive active
    rcases capped.mem_superseded.mp first with ⟨inside, -⟩ | ⟨_, -, rfl⟩
    · rcases capped.mem_superseded.mp second with ⟨member, -⟩ | ⟨_, -, rfl⟩
      · exact capped.single one inside other member same alive active
      · cases active
    · cases alive

theorem PositionStore.Capped.activeCap_superseded : (store.superseded party now).activeCap party = none := by
  rw [activeCap_none]
  intro cap member own active
  rcases capped.mem_superseded.mp member with ⟨inside, different⟩ | ⟨_, -, rfl⟩
  · exact different (own ▸ capped.activeCap_of_mem inside active)
  · cases active

theorem PositionStore.Capped.insert (free : store.activeCap row.participantId = none) : (store.putCap row).Capped := by
  refine ⟨capped.keyed.set rfl, ?_⟩
  intro one first other second same alive active
  rcases capped.keyed.mem_values_set.mp first with rfl | ⟨inside, -⟩ <;>
    rcases capped.keyed.mem_values_set.mp second with rfl | ⟨member, -⟩
  · rfl
  · exact absurd active (activeCap_none.mp free other member same.symm)
  · exact absurd alive (activeCap_none.mp free one inside same)
  · exact capped.single one inside other member same alive active

end

/-! Setting a cap. -/

/-- A call of `set_net_debit_cap`. -/
structure CapCall where
  participantId : String
  capAmountMinor : Int
  (approvedBy approvalRequestId rationale : String)
  effectiveFrom : Option DateTime

namespace CapCall

variable (call : CapCall)

def effective (now : DateTime) : DateTime := call.effectiveFrom.getD now

variable (service : PositionService)

/-- What the call is refused for before anything is written. -/
def Accepted (now : DateTime) : Prop :=
  service.platformMode = "PSO" ∧ 0 < call.capAmountMinor ∧ ¬ (call.rationale = "" ∨ 1000 < call.rationale.length) ∧
    now.micros ≤ (call.effective now).micros

def row (now : DateTime) : NetDebitCap where
  ndcId := service.ndcIdFor call.participantId call.capAmountMinor (call.effective now)
  participantId := call.participantId
  capAmountMinor := call.capAmountMinor
  effectiveFrom := call.effective now
  supersededAt := none
  approvedBy := call.approvedBy
  approvalRequestId := call.approvalRequestId
  rationale := call.rationale
  createdAt := now

def run (now : DateTime) : PositionM NetDebitCap :=
  service.setNetDebitCap call.participantId call.capAmountMinor call.approvedBy call.approvalRequestId call.rationale
    call.effectiveFrom now

/-- The identifier of the cap is taken by one that was set before. -/
def Collides (now : DateTime) (store : PositionStore) : Prop :=
  store.caps.get? (call.row service now).ndcId ≠ none

end CapCall

theorem superseded_get?_eq_none (capped : store.Capped) {ndcId : String} :
    (store.superseded party now).caps.get? ndcId = none ↔ store.caps.get? ndcId = none := by
  rw [superseded]
  cases found : store.activeCap party with
  | none => exact .rfl
  | some existing =>
    change (store.caps.set existing.ndcId _).get? ndcId = none ↔ _
    rw [Dict.get?_set]
    split_ifs with same
    · simp [same, capped.keyed.get?_of_mem (activeCap_some found).1]
    · exact .rfl

/-- Everything a call may do. -/
theorem stops_capCall (capped : store.Capped) (call : CapCall)
    (refused : ∀ error, ¬ call.Accepted service now → raises error store)
    (collided : ∀ error, call.Accepted service now → call.Collides service now store →
      raises error (store.superseded call.participantId now))
    (returned : call.Accepted service now → ¬ call.Collides service now store →
      returns (call.row service now) ((store.superseded call.participantId now).putCap (call.row service now))) :
    Stops (call.run service now) store returns raises := by
  have inserted : call.Accepted service now → Stops (do insertCap (call.row service now); pure (call.row service now))
      (store.superseded call.participantId now) returns raises := by
    intro accepted
    have fresh := @superseded_get?_eq_none store now call.participantId capped (call.row service now).ndcId
    simp only [insertCap, stops_bind, stops_get, stops_raiseIf, stops_set, stops_pure, Bool.not_eq_true,
      Dict.contains_eq_false_iff]
    refine ⟨fun taken => collided _ accepted fun free => ?_, fun free => ⟨?_, fun _ => returned accepted ?_⟩⟩
    · rw [Dict.contains, fresh.mpr free] at taken
      cases taken
    · rintro ⟨other, member, own, active⟩
      exact absurd active (activeCap_none.mp capped.activeCap_superseded other member own)
    · exact not_not.mpr (fresh.mp free)
  simp only [CapCall.run, setNetDebitCap, requirePso, replaceCap, stops_bind,
    stops_raiseIf, stops_get]
  refine ⟨fun mode => refused _ fun accepted => mode accepted.1,
    fun mode => ⟨fun amount => refused _ fun accepted => ?_,
    fun amount => ⟨fun rationale => refused _ fun accepted => accepted.2.2.1 rationale,
      fun rationale => ⟨fun backdated => refused _ fun accepted => ?_, fun backdated => ?_⟩⟩⟩⟩
  · have positive := accepted.2.1
    omega
  · exact absurd accepted.2.2.2 (Nat.not_le.mpr backdated)
  have ready := inserted ⟨not_not.mp mode, by omega, rationale, Nat.le_of_not_lt backdated⟩
  rw [stops_bind] at ready
  cases found : store.activeCap call.participantId with
  | none =>
    rw [superseded, found] at ready
    exact ready
  | some =>
    rw [superseded, found] at ready
    simp only [supersedeCap, stops_bind, stops_get, capped.keyed.get?_of_mem (activeCap_some found).1, stops_set]
    exact ready

/-- The call a step makes, if it sets a cap. -/
def Step.capCall? (step : Step) : Option CapCall :=
  match step.operation with
  | .setNetDebitCap participantId capAmountMinor approvedBy approvalRequestId rationale effectiveFrom =>
    some ⟨participantId, capAmountMinor, approvedBy, approvalRequestId, rationale, effectiveFrom⟩
  | _ => none

/-- What a step does to the caps. -/
inductive CapsChange (service : PositionService) (step : Step) (store later : PositionStore) : Prop
  | kept (same : later.caps = store.caps)
  | collided (call : CapCall) (asked : step.capCall? = some call) (accepted : call.Accepted service step.now)
      (collides : call.Collides service step.now store) (same : later.caps = (store.superseded call.participantId step.now).caps)
  | replaced (call : CapCall) (asked : step.capCall? = some call) (accepted : call.Accepted service step.now)
      (same : later.caps = ((store.superseded call.participantId step.now).putCap (call.row service step.now)).caps)

theorem Capped.congr (capped : store.Capped) (same : later.caps = store.caps) : later.Capped :=
  ⟨same ▸ capped.keyed, same ▸ capped.single⟩

theorem CapsChange.capped {step : Step} (change : CapsChange service step store later) (capped : store.Capped) :
    later.Capped := by
  cases change with
  | kept same => exact Capped.congr capped same
  | collided _ _ _ _ same => exact Capped.congr capped.superseded same
  | replaced _ _ _ same => exact Capped.congr (capped.superseded.insert capped.activeCap_superseded) same

end BdPay.Ledger.Position
