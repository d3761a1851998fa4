import Mathlib

namespace BdPay.Data

/-! Programs over a mutable state that may raise.

A raise keeps whatever the program had written so far: nothing is rolled back
unless the program arranges for it.  The lemmas below read a result backwards,
so that one `obtain` peels one statement off a program that returned.
-/

namespace Effect

open EStateM (Result)

variable {ε σ α β : Type} {before after : σ} {f : α → β}

/-- `if condition: raise error`. -/
def raiseIf (condition : Prop) [Decidable condition] (error : ε) : EStateM ε σ Unit :=
  if condition then throw error else pure ()

/-- A pure computation that may raise, run inside a stateful one. -/
def attempt (result : Except ε α) : EStateM ε σ α :=
  match result with
  | .ok value => pure value
  | .error error => throw error

/-- `for item in items: body(item)`. -/
def forEach (items : List α) (body : α → EStateM ε σ Unit) : EStateM ε σ Unit :=
  match items with
  | [] => pure ()
  | item :: rest => do
      body item
      forEach rest body

/-- All the values, or the first refusal. -/
def sequence : List (Except ε α) → Except ε (List α)
  | [] => .ok []
  | .error error :: _ => .error error
  | .ok value :: rest => (sequence rest).map (value :: ·)

variable {result : Except ε α} {value : β}

theorem map_eq_ok : result.map f = .ok value ↔ ∃ found, result = .ok found ∧ f found = value := by
  cases result <;> simp [Except.map]

theorem except_bind_eq_ok : (result >>= next) = .ok value ↔ ∃ found, result = .ok found ∧ next found = .ok value := by
  cases result <;> simp [bind, Except.bind]

theorem except_bind_eq_error : (result >>= next) = .error error ↔
      result = .error error ∨ ∃ found, result = .ok found ∧ next found = .error error := by
  cases result <;> simp [bind, Except.bind]

theorem sequence_eq_ok : sequence results = .ok values ↔ results = values.map .ok := by
  induction results generalizing values with
  | nil => cases values <;> simp [sequence]
  | cons first rest ih =>
    cases first with
    | error => cases values <;> simp [sequence]
    | ok =>
      rw [sequence]
      cases values with
      | nil => cases sequence rest <;> simp [Except.map]
      | cons _ others =>
        have tail := @ih others
        cases found : sequence rest <;> simp [found] at tail <;> simp [Except.map, tail]

/-- `try: body except E: handler`, where `handled` says which errors are `E`.
The handler runs in the state the body left behind. -/
def catchWhen (handled : ε → Bool) (body handler : EStateM ε σ α) : EStateM ε σ α := fun state =>
  match body state with
  | .ok value after => .ok value after
  | .error error after => if handled error then handler after else .error error after

/-- `try: body except Exception as error: record(error); raise`, where a failure
of the recording never masks the error. -/
def onRaise (body : EStateM ε σ α) (record : ε → EStateM ε σ Unit) : EStateM ε σ α := fun state =>
  match body state with
  | .ok value after => .ok value after
  | .error error after =>
    match record error after with
    | .ok _ recorded => .error error recorded
    | .error _ recorded => .error error recorded

/-- The state a program leaves behind, whether it returns or raises. -/
def leaves (program : EStateM ε σ α) (state : σ) : σ :=
  match program state with
  | .ok _ after => after
  | .error _ after => after

/-- The value a program returns, if it does. -/
def value? (program : EStateM ε σ α) (state : σ) : Option α :=
  match program state with
  | .ok value _ => some value
  | .error _ _ => none

/-- A program over one component of the state. -/
def zoom {ε' τ : Type} (view : σ → τ) (put : τ → σ → σ) (raise : ε' → ε) (program : EStateM ε' τ α) : EStateM ε σ α :=
  fun state =>
    match program (view state) with
    | .ok value after => .ok value (put after state)
    | .error error after => .error (raise error) (put after state)

variable {program : EStateM ε σ α} {next : α → EStateM ε σ β} {value : α} {result : β}

theorem bind_eq_ok : (program >>= next) before = .ok result after ↔
      ∃ value middle, program before = .ok value middle ∧ next value middle = .ok result after := by
  change EStateM.bind program next before = _ ↔ _
  cases ran : program before with
  | error => simp [EStateM.bind, ran]
  | ok value reached =>
    simp only [EStateM.bind, ran, Result.ok.injEq]
    exact ⟨fun rest => ⟨value, reached, ⟨rfl, rfl⟩, rest⟩, by rintro ⟨_, _, ⟨rfl, rfl⟩, rest⟩; exact rest⟩

theorem bind_of_ok (returned : program before = .ok value after) : (program >>= next) before = next value after := by
  change EStateM.bind program next before = _
  simp only [EStateM.bind, returned]

variable {error : ε}
  {computed : Except ε α} {body : α → EStateM ε σ Unit} {condition : Prop} {done : Unit} {handled : ε → Bool}

theorem bind_eq_error : (program >>= next) before = .error error after ↔ program before = .error error after ∨
        ∃ value middle, program before = .ok value middle ∧ next value middle = .error error after := by
  change EStateM.bind program next before = _ ↔ _
  cases ran : program before with
  | error => simp [EStateM.bind, ran]
  | ok value reached =>
    simp only [EStateM.bind, ran, Result.ok.injEq, reduceCtorEq, false_or]
    exact ⟨fun rest => ⟨value, reached, ⟨rfl, rfl⟩, rest⟩, by rintro ⟨_, _, ⟨rfl, rfl⟩, rest⟩; exact rest⟩

theorem get_eq_ok {value : σ} : (get : EStateM ε σ σ) before = .ok value after ↔ before = value ∧ before = after := by
  change (Result.ok before before : Result ε σ σ) = _ ↔ _
  simp

theorem set_eq_ok {done : PUnit} {value : σ} :
    (set value : EStateM ε σ PUnit) before = .ok done after ↔ after = value := by
  change (Result.ok PUnit.unit value : Result ε σ PUnit) = _ ↔ _
  simp [eq_comm]

theorem pure_eq_ok {result : α} :
    (pure value : EStateM ε σ α) before = .ok result after ↔ value = result ∧ before = after := by
  change (Result.ok value before : Result ε σ α) = _ ↔ _
  simp

theorem throw_eq_ok {result : α} : (throw error : EStateM ε σ α) before = .ok result after ↔ False := by
  change (Result.error error before : Result ε σ α) = _ ↔ _
  simp

theorem raiseIf_eq_ok [Decidable condition] :
    (raiseIf condition error : EStateM ε σ Unit) before = .ok done after ↔ ¬ condition ∧ before = after := by
  by_cases raised : condition <;> simp [raiseIf, raised, pure_eq_ok, throw_eq_ok]

theorem raiseIf_passes [Decidable condition] (allowed : ¬ condition) :
    (raiseIf condition error : EStateM ε σ Unit) before = .ok () before :=
  raiseIf_eq_ok.mpr ⟨allowed, rfl⟩

theorem attempt_eq_ok {result : α} :
    (attempt computed : EStateM ε σ α) before = .ok result after ↔ computed = .ok result ∧ before = after := by
  cases computed <;> simp [attempt, pure_eq_ok, throw_eq_ok]

theorem get_bind (next : σ → EStateM ε σ β) : (get >>= next) before = next before before := rfl

theorem set_bind (value : σ) (next : PUnit → EStateM ε σ β) : (set value >>= next) before = next PUnit.unit value := rfl

theorem raiseIf_bind_eq_ok [Decidable condition] {next : Unit → EStateM ε σ β} :
    (raiseIf condition error >>= next) before = .ok result after ↔ ¬ condition ∧ next () before = .ok result after := by
  rw [bind_eq_ok]
  constructor
  · intro h
    obtain ⟨_, middle, passed, rest⟩ := h
    obtain ⟨allowed, rfl⟩ := raiseIf_eq_ok.mp passed
    exact ⟨allowed, rest⟩
  · intro h
    exact ⟨(), before, raiseIf_eq_ok.mpr ⟨h.1, rfl⟩, h.2⟩

theorem forEach_eq_ok_nil : forEach [] body before = .ok done after ↔ before = after := by
  simp [forEach, pure_eq_ok]

theorem forEach_eq_ok_cons : forEach (item :: rest) body before = .ok done after ↔
      ∃ middle, body item before = .ok () middle ∧ forEach rest body middle = .ok done after := by
  simp only [forEach, bind_eq_ok]
  constructor
  · rintro ⟨_, middle, first, others⟩
    exact ⟨middle, first, others⟩
  · rintro ⟨middle, first, others⟩
    exact ⟨(), middle, first, others⟩

/-- A loop whose body never writes leaves the state alone and returns exactly
when every iteration does. -/
theorem forEach_reads {allowed : α → Prop}
    (reads : ∀ item after, body item before = .ok () after ↔ allowed item ∧ before = after) :
    forEach items body before = .ok done after ↔ (∀ item ∈ items, allowed item) ∧ before = after := by
  induction items with
  | nil => simp [forEach_eq_ok_nil]
  | cons item _ ih =>
    rw [forEach_eq_ok_cons]
    constructor
    · intro looped
      obtain ⟨middle, first, others⟩ := looped
      obtain ⟨passed, rfl⟩ := (reads item middle).mp first
      obtain ⟨passedRest, same⟩ := ih.mp others
      exact ⟨by simpa using ⟨passed, passedRest⟩, same⟩
    · intro passed
      obtain ⟨passed, same⟩ := passed
      simp only [List.mem_cons, forall_eq_or_imp] at passed
      exact ⟨before, (reads item before).mpr ⟨passed.1, rfl⟩, ih.mpr ⟨passed.2, same⟩⟩

/-- If the program raises from this state, it has written nothing. -/
def RaisesClean (program : EStateM ε σ α) (before : σ) : Prop :=
  ∀ error after, program before = .error error after → after = before

theorem leaves_of_ok (returned : program before = .ok value after) : leaves program before = after := by
  simp only [leaves, returned]

theorem leaves_of_error (raised : program before = .error error after) : leaves program before = after := by
  simp only [leaves, raised]

theorem leaves_bind_of_ok
    (returned : program before = .ok value after) : leaves (program >>= next) before = leaves (next value) after := by
  simp only [leaves, bind_of_ok returned]

theorem leaves_bind_of_error (raised : program before = .error error after) :
    leaves (program >>= next) before = after :=
  leaves_of_error (bind_eq_error.mpr (.inl raised))

end Effect

end BdPay.Data
