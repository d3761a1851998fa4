import BdPay.Data.Stops

namespace BdPay.Data.Effect

/-! What a program has done when it returns.

`Yields program before returns` says nothing of a program that raises: it is how
an operation is described whose effects are undone when it fails.
-/

open EStateM (Result)

variable {ε σ α β κ : Type} {before : σ} {returns : α → σ → Prop}

/-- Irreducible, so that no goal runs a program to see whether it matches. -/
@[irreducible]
def Yields (program : EStateM ε σ α) (before : σ) (returns : α → σ → Prop) : Prop :=
  ∀ value after, program before = .ok value after → returns value after

variable {program : EStateM ε σ α}
  {returns' : α → σ → Prop} {condition : Prop} {after : σ} {error : ε} {value : α}

theorem Yields.ok (yields : Yields program before returns)
    (ran : program before = .ok value after) : returns value after := by
  simp only [Yields] at yields
  exact yields value after ran

theorem yields_of_forall
    (returned : ∀ value after, program before = .ok value after → returns value after) :
    Yields program before returns := by
  simpa only [Yields] using returned

theorem yields_iff_stops : Yields program before returns ↔ Stops program before returns fun _ _ => True := by
  cases ran : program before <;> simp [Yields, Stops, ran]

theorem yields_iff_of_ok (ran : program before = .ok value after) :
    Yields program before returns ↔ returns value after :=
  yields_iff_stops.trans (stops_iff_of_ok ran)

theorem yields_pure : Yields (pure value : EStateM ε σ α) before returns ↔ returns value before :=
  yields_iff_of_ok rfl

theorem yields_throw : Yields (throw error : EStateM ε σ α) before returns ↔ True :=
  yields_iff_stops.trans stops_throw

theorem yields_get {returns : σ → σ → Prop} : Yields (get : EStateM ε σ σ) before returns ↔ returns before before :=
  yields_iff_of_ok rfl

theorem yields_set {value : σ} {returns : PUnit → σ → Prop} :
    Yields (set value : EStateM ε σ PUnit) before returns ↔ returns PUnit.unit value :=
  yields_iff_of_ok rfl

theorem yields_modify {returns : PUnit → σ → Prop} :
    Yields (modify change : EStateM ε σ PUnit) before returns ↔ returns PUnit.unit (change before) :=
  yields_iff_of_ok rfl

theorem yields_bind {returns : β → σ → Prop} : Yields (program >>= next) before returns ↔
      Yields program before fun value middle => Yields (next value) middle returns := by
  simp only [yields_iff_stops, stops_bind]

theorem yields_map {returns : β → σ → Prop} :
    Yields (f <$> program) before returns ↔ Yields program before fun value after => returns (f value) after := by
  simp only [yields_iff_stops, stops_map]

theorem yields_raiseIf [Decidable condition] {returns : Unit → σ → Prop} :
    Yields (raiseIf condition error : EStateM ε σ Unit) before returns ↔ (¬ condition → returns () before) := by
  simp [yields_iff_stops, stops_raiseIf]

theorem yields_attempt : Yields (attempt computed : EStateM ε σ α) before returns ↔
      ∀ value, computed = .ok value → returns value before := by
  simp [yields_iff_stops, stops_attempt]

theorem yields_ite [Decidable condition] :
    Yields (if condition then left else right) before returns ↔
      (condition → Yields left before returns) ∧ (¬ condition → Yields right before returns) := by
  simp only [yields_iff_stops, stops_ite]

theorem yields_onRaise : Yields (onRaise body record) before returns ↔ Yields body before returns := by
  simp only [yields_iff_stops, stops_onRaise]

theorem yields_zoom {program : EStateM ε' τ α} : Yields (zoom view put raise program) before returns ↔
      Yields program (view before) fun value part => returns value (put part before) := by
  simp only [yields_iff_stops, stops_zoom]

theorem Yields.mono (yields : Yields program before returns)
    (returned : ∀ value after, returns value after → returns' value after) : Yields program before returns' :=
  yields_of_forall fun value after ran => returned value after (yields.ok ran)

theorem Yields.then_pure {value : β} (yields : Yields program before fun _ => holds) :
    Yields program before fun _ after => Yields (pure value : EStateM ε σ β) after fun _ => holds :=
  yields.mono fun _ _ kept => yields_pure.mpr kept

theorem Yields.both (left : Yields program before returns) (right : Yields program before returns') :
    Yields program before fun value after => returns value after ∧ returns' value after :=
  yields_of_forall fun _ _ ran => ⟨left.ok ran, right.ok ran⟩

theorem yields_forEach (inv : List κ → σ → Prop) (start : inv items before)
    (each : ∀ item rest state, inv (item :: rest) state → Yields (body item) state fun _ => inv rest) :
    Yields (forEach items body) before fun _ => inv [] := by
  induction items generalizing before with
  | nil => exact yields_pure.mpr start
  | cons item rest ih =>
    have unrolled : forEach (item :: rest) body = (body item >>= fun _ => forEach rest body) := rfl
    rw [unrolled, yields_bind]
    exact (each item rest before start).mono fun _ middle holds => ih holds

end BdPay.Data.Effect
