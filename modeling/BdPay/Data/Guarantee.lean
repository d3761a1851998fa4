import BdPay.Data.Stops

namespace BdPay.Data.Effect

/-! What a program may do to its state on the way.

`Guarantees step program before post` says that wherever the program stops,
returned or raised, it got there by `step`s, and that a value it returned
satisfies `post`.  The rules follow the programs' own syntax, so that one lemma
per primitive write is all a long operation needs.
-/

open EStateM (Result)
open Relation

variable {ε σ α β : Type} {step : σ → σ → Prop} {before : σ} {post : α → σ → Prop}

/-- Irreducible, so that no goal runs a program to see whether it matches. -/
@[irreducible]
def Guarantees (step : σ → σ → Prop) (program : EStateM ε σ α) (before : σ) (post : α → σ → Prop) : Prop :=
  match program before with
  | .ok value after => ReflTransGen step before after ∧ post value after
  | .error _ after => ReflTransGen step before after

variable {program : EStateM ε σ α} {after : σ} {error : ε} {value : α}

theorem guarantees_iff_stops : Guarantees step program before post ↔
    Stops program before (fun value after => ReflTransGen step before after ∧ post value after)
      fun _ after => ReflTransGen step before after := by
  unfold Guarantees Stops
  exact .rfl

theorem guarantees_of_ok (returned : program before = .ok value after) (steps : ReflTransGen step before after)
    (holds : post value after) : Guarantees step program before post :=
  guarantees_iff_stops.mpr ((stops_iff_of_ok returned).mpr ⟨steps, holds⟩)

theorem guarantees_of_error (raised : program before = .error error after) (steps : ReflTransGen step before after) :
    Guarantees step program before post :=
  guarantees_iff_stops.mpr ((stops_iff_of_error raised).mpr steps)

theorem Guarantees.returned (guarantees : Guarantees step program before post)
    (ran : program before = .ok value after) : ReflTransGen step before after ∧ post value after :=
  (stops_iff_of_ok ran).mp (guarantees_iff_stops.mp guarantees)

theorem Guarantees.raised (guarantees : Guarantees step program before post)
    (ran : program before = .error error after) : ReflTransGen step before after :=
  (stops_iff_of_error ran).mp (guarantees_iff_stops.mp guarantees)

theorem guarantees_of_run_eq (steps : ReflTransGen step before middle) (same : program before = rest middle)
    (holds : Guarantees step rest middle post) : Guarantees step program before post := by
  cases ran : rest middle with
  | error => exact guarantees_of_error (same.trans ran) (steps.trans (holds.raised ran))
  | ok => exact guarantees_of_ok (same.trans ran) (steps.trans (holds.returned ran).1) (holds.returned ran).2

theorem guarantees_pure (holds : post value before) : Guarantees step (pure value : EStateM ε σ α) before post :=
  guarantees_of_ok rfl .refl holds

theorem guarantees_done : Guarantees step (pure value : EStateM ε σ α) before fun _ _ => True :=
  guarantees_pure trivial

theorem guarantees_throw : Guarantees step (throw error : EStateM ε σ α) before post :=
  guarantees_of_error rfl .refl

variable {final : β → σ → Prop} {next : α → EStateM ε σ β}

theorem Guarantees.bind (first : Guarantees step program before post)
    (rest : ∀ value middle, ReflTransGen step before middle → post value middle →
      Guarantees step (next value) middle final) : Guarantees step (program >>= next) before final := by
  rw [guarantees_iff_stops] at first ⊢
  refine stops_bind.mpr (first.mono (fun value middle reached => ?_) fun _ _ => id)
  refine (guarantees_iff_stops.mp (rest value middle reached.1 reached.2)).mono ?_ ?_
  · exact fun _ _ onward => ⟨reached.1.trans onward.1, onward.2⟩
  · exact fun _ _ onward => reached.1.trans onward

/-- What only reads leaves the rest where it was. -/
theorem Guarantees.read {holds : α → Prop}
    (reads : Guarantees step program before fun value after => after = before ∧ holds value)
    (rest : ∀ value, holds value → Guarantees step (next value) before final) :
    Guarantees step (program >>= next) before final :=
  reads.bind fun value _ _ found => found.1 ▸ rest value found.2

theorem Guarantees.done {result : α → β} (first : Guarantees step program before post) :
    Guarantees step (program >>= fun value => pure (result value)) before fun _ _ => True :=
  first.bind fun _ _ _ _ => guarantees_pure trivial

theorem Guarantees.weaken (holds : Guarantees step program before post)
    (implies : ∀ value after, ReflTransGen step before after → post value after → weaker value after) :
    Guarantees step program before weaker :=
  guarantees_iff_stops.mpr ((guarantees_iff_stops.mp holds).mono
    (fun value after reached => ⟨reached.1, implies value after reached.1 reached.2⟩) fun _ _ => id)

theorem Guarantees.mono
    (holds : Guarantees step program before post) (included : ∀ first second, step first second → wider first second) :
    Guarantees wider program before post :=
  guarantees_iff_stops.mpr ((guarantees_iff_stops.mp holds).mono
    (fun _ _ reached => ⟨.mono included _ _ reached.1, reached.2⟩)
    fun _ _ => .mono included _ _)

theorem guarantees_get_bind {next : σ → EStateM ε σ β}
    (rest : Guarantees step (next before) before final) : Guarantees step (get >>= next) before final :=
  guarantees_of_run_eq .refl (get_bind next) rest

theorem guarantees_set {value : σ} {post : PUnit → σ → Prop} (allowed : ReflTransGen step before value)
    (holds : post PUnit.unit value) : Guarantees step (set value : EStateM ε σ PUnit) before post :=
  guarantees_of_ok rfl allowed holds

theorem guarantees_set_bind {value : σ} {next : PUnit → EStateM ε σ β}
    (allowed : ReflTransGen step before value) (rest : Guarantees step (next PUnit.unit) value final) :
    Guarantees step (set value >>= next) before final :=
  guarantees_of_run_eq allowed rfl rest

theorem guarantees_modify {post : PUnit → σ → Prop}
    (allowed : ReflTransGen step before (change before)) (holds : post PUnit.unit (change before)) :
    Guarantees step (modify change : EStateM ε σ PUnit) before post :=
  guarantees_of_ok rfl allowed holds

theorem Guarantees.leaves (guarantees : Guarantees step program before post) :
    ReflTransGen step before (leaves program before) :=
  stops_iff_leaves.mp ((guarantees_iff_stops.mp guarantees).mono (fun _ _ => And.left) fun _ _ => id)

theorem guarantees_of_leaves (steps : ReflTransGen step before (leaves program before)) :
    Guarantees step program before fun _ _ => True :=
  guarantees_iff_stops.mpr ((stops_iff_leaves.mpr steps).mono (fun _ _ reached => ⟨reached, trivial⟩) fun _ _ => id)

theorem guarantees_raiseIf_bind [Decidable condition] {next : Unit → EStateM ε σ β}
    (rest : ¬ condition → Guarantees step (next ()) before final) :
    Guarantees step (raiseIf condition error >>= next) before final := by
  by_cases holds : condition
  · have raised : (raiseIf condition error >>= next) before = .error error before := by
      simp only [raiseIf, if_pos holds]
      rfl
    exact guarantees_of_error raised .refl
  · simp only [raiseIf, if_neg holds]
    exact rest holds

theorem guarantees_attempt_bind (rest : ∀ value, computed = .ok value → Guarantees step (next value) before final) :
    Guarantees step (attempt computed >>= next) before final := by
  cases computed with
  | error => exact guarantees_of_error rfl .refl
  | ok value => exact rest value rfl

theorem guarantees_onRaise
    (runs : Guarantees step body before post) (records : ∀ error after, ReflTransGen step before after →
      Guarantees step (record error) after fun _ _ => True) : Guarantees step (onRaise body record) before post :=
  guarantees_iff_stops.mpr (stops_onRaise.mpr ((guarantees_iff_stops.mp runs).mono (fun _ _ => id)
    fun error after steps => steps.trans (records error after steps).leaves))

theorem guarantees_forEach (keeps : σ → Prop)
    (kept : ∀ first second, keeps first → step first second → keeps second) (holds : keeps before)
    (each : ∀ item ∈ items, ∀ state, keeps state → Guarantees step (body item) state fun _ _ => True) :
    Guarantees step (forEach items body) before fun _ _ => True := by
  induction items generalizing before with
  | nil => exact guarantees_pure trivial
  | cons item _ ih =>
    have keepsAlong : ∀ {first second}, ReflTransGen step first second → keeps first → keeps second := by
      intro first second steps start
      induction steps with
      | refl => exact start
      | tail _ last ih => exact kept _ _ ih last
    refine (each item (by simp) before holds).bind fun _ middle steps _ => ?_
    exact ih (keepsAlong steps holds) fun other member => each other (by simp [member])

end BdPay.Data.Effect
