import BdPay.Data.Effect

namespace BdPay.Data.Effect

/-! How a program ends.

`Stops program before returns raises` says what holds when the program, run from
`before`, has returned or raised.  Each statement form has an equation that moves
the claim past it, so a program is executed by rewriting.
-/

variable {ε σ α β : Type} {error : ε} {condition : Prop} {returns' : α → σ → Prop} {raises' : ε → σ → Prop}
  {computed : Except ε α} {before : σ} {returns : α → σ → Prop} {raises : ε → σ → Prop}

/-- Irreducible, so that no goal runs a program to see whether it matches. -/
@[irreducible]
def Stops (program : EStateM ε σ α) (before : σ) (returns : α → σ → Prop) (raises : ε → σ → Prop) : Prop :=
  match program before with
  | .ok value after => returns value after
  | .error error after => raises error after

variable {program : EStateM ε σ α} {after : σ} {value : α}

theorem stops_iff_of_ok (ran : program before = .ok value after) :
    Stops program before returns raises ↔ returns value after := by
  simp only [Stops, ran]

theorem stops_iff_of_error
    (ran : program before = .error error after) : Stops program before returns raises ↔ raises error after := by
  simp only [Stops, ran]

theorem stops_pure : Stops (pure value : EStateM ε σ α) before returns raises ↔ returns value before :=
  stops_iff_of_ok rfl

theorem stops_throw : Stops (throw error : EStateM ε σ α) before returns raises ↔ raises error before :=
  stops_iff_of_error rfl

theorem stops_get {returns : σ → σ → Prop} :
    Stops (get : EStateM ε σ σ) before returns raises ↔ returns before before :=
  stops_iff_of_ok rfl

theorem stops_set {value : σ} {returns : PUnit → σ → Prop} :
    Stops (set value : EStateM ε σ PUnit) before returns raises ↔ returns PUnit.unit value :=
  stops_iff_of_ok rfl

theorem stops_modify {returns : PUnit → σ → Prop} :
    Stops (modify change : EStateM ε σ PUnit) before returns raises ↔ returns PUnit.unit (change before) :=
  stops_iff_of_ok rfl

theorem stops_bind {returns : β → σ → Prop} : Stops (program >>= next) before returns raises ↔
      Stops program before (fun value middle => Stops (next value) middle returns raises) raises := by
  cases ran : program before with
  | ok =>
    rw [stops_iff_of_ok ran]
    simp only [Stops, bind_of_ok ran]
  | error error middle =>
    have both : (program >>= next) before = .error error middle := bind_eq_error.mpr (.inl ran)
    rw [stops_iff_of_error ran, stops_iff_of_error both]

theorem stops_raiseIf [Decidable condition] {returns : Unit → σ → Prop} :
    Stops (raiseIf condition error : EStateM ε σ Unit) before returns raises ↔
      (condition → raises error before) ∧ (¬ condition → returns () before) := by
  by_cases holds : condition
  · rw [raiseIf, if_pos holds, stops_throw]
    exact ⟨fun raised => ⟨fun _ => raised, fun denied => absurd holds denied⟩, fun both => both.1 holds⟩
  · rw [raiseIf, if_neg holds, stops_pure]
    exact ⟨fun returned => ⟨fun fires => absurd fires holds, fun _ => returned⟩, fun both => both.2 holds⟩

theorem stops_attempt : Stops (attempt computed : EStateM ε σ α) before returns raises ↔
      (∀ value, computed = .ok value → returns value before) ∧
        ∀ error, computed = .error error → raises error before := by
  cases computed with
  | ok =>
    rw [attempt, stops_pure]
    simp
  | error =>
    rw [attempt, stops_throw]
    simp

theorem stops_ite [Decidable condition] :
    Stops (if condition then left else right) before returns raises ↔
      (condition → Stops left before returns raises) ∧ (¬ condition → Stops right before returns raises) := by
  by_cases holds : condition <;> simp [holds]

variable {body handler : EStateM ε σ α}

theorem stops_catchWhen :
    Stops (catchWhen handled body handler) before returns raises ↔ Stops body before returns fun error after =>
        if handled error then Stops handler after returns raises else raises error after := by
  cases ran : body before with
  | ok =>
    rw [stops_iff_of_ok ran]
    simp only [Stops, catchWhen, ran]
  | error error =>
    rw [stops_iff_of_error ran]
    cases caught : handled error <;> simp [Stops, catchWhen, ran, caught]

theorem Stops.mono
    (stops : Stops program before returns raises) (returned : ∀ value after, returns value after → returns' value after)
    (raised : ∀ error after, raises error after → raises' error after) : Stops program before returns' raises' := by
  cases ran : program before with
  | ok => exact (stops_iff_of_ok ran).mpr (returned _ _ ((stops_iff_of_ok ran).mp stops))
  | error => exact (stops_iff_of_error ran).mpr (raised _ _ ((stops_iff_of_error ran).mp stops))

theorem stops_iff_leaves : Stops program before (fun _ => holds) (fun _ => holds) ↔ holds (leaves program before) := by
  cases ran : program before with
  | ok => rw [stops_iff_of_ok ran, leaves_of_ok ran]
  | error => rw [stops_iff_of_error ran, leaves_of_error ran]

theorem stops_map {returns : β → σ → Prop} : Stops (f <$> program) before returns raises ↔
    Stops program before (fun value after => returns (f value) after) raises := by
  rw [map_eq_pure_bind, stops_bind]
  simp only [stops_pure]

theorem stops_onRaise : Stops (onRaise body record) before returns raises ↔
      Stops body before returns fun error after => raises error (leaves (record error) after) := by
  cases ran : body before with
  | ok => simp only [Stops, onRaise, ran]
  | error error after => cases recorded : record error after <;> simp only [Stops, onRaise, ran, recorded, leaves]

theorem stops_zoom {program : EStateM ε' τ α} : Stops (zoom view put raise program) before returns raises ↔
    Stops program (view before)
      (fun value part => returns value (put part before)) fun error part => raises (raise error) (put part before) := by
  cases ran : program (view before) <;> simp only [Stops, zoom, ran]

/-- The program returns where `post` holds, or it raises and has written nothing. -/
def Commits (program : EStateM ε σ α) (before : σ) (post : α → σ → Prop) : Prop :=
  Stops program before post fun _ after => after = before

section Commits

variable {value : α} {answered : β → σ → Prop} {next : α → EStateM ε σ β} {handled : ε → Bool}

theorem Commits.raisesClean (commits : Commits program before returns) : RaisesClean program before :=
  fun _ _ raised => (stops_iff_of_error raised).mp commits

theorem Commits.of_ok (commits : Commits program before returns) (returned : program before = .ok value after) :
    returns value after :=
  (stops_iff_of_ok returned).mp commits

theorem commits_throw : Commits (throw error : EStateM ε σ α) before returns := stops_throw.mpr rfl

theorem commits_raiseIf_bind [Decidable condition] {next : Unit → EStateM ε σ β}
    (commits : Commits (next ()) before answered) : Commits (raiseIf condition error >>= next) before answered :=
  stops_bind.mpr (stops_raiseIf.mpr ⟨fun _ => rfl, fun _ => commits⟩)

theorem commits_attempt_bind (commits : ∀ value, computed = .ok value → Commits (next value) before answered) :
    Commits (attempt computed >>= next) before answered :=
  stops_bind.mpr (stops_attempt.mpr ⟨commits, fun _ _ => rfl⟩)

theorem commits_catchWhen (tried : Commits body before returns)
    (caught : Commits handler before returns) : Commits (catchWhen handled body handler) before returns := by
  refine stops_catchWhen.mpr (tried.mono (fun _ _ => id) ?_)
  rintro error _ rfl
  split_ifs
  · exact caught
  · rfl

end Commits

end BdPay.Data.Effect
