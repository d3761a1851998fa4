import BdPay.Data.Process

namespace BdPay.Data

/-! How a process ends that runs alone, and where it can be cut off.

`Ends` says of a process what `Stops` says of a program.
-/

variable {ω ε σ α β κ : Type}
  {error : ε} {condition : Prop} {returns' : α → σ → Prop} {raises' : ε → σ → Prop} {computed : Except ε α}

namespace Effect

open EStateM (Result)

/-- A list of computations is refused by one of them. -/
theorem mem_of_sequence_error (refused : sequence results = .error error) : .error error ∈ results := by
  induction results with
  | nil => simp [sequence] at refused
  | cons first rest ih =>
    cases first with
    | error =>
      simp only [sequence, Except.error.injEq] at refused
      simp [refused]
    | ok =>
      rw [sequence] at refused
      cases found : sequence rest with
      | ok => simp [found, Except.map] at refused
      | error =>
        simp only [found, Except.map, Except.error.injEq] at refused
        exact List.mem_cons_of_mem _ (ih (refused ▸ found))

end Effect

namespace Process

open Effect

variable {world : ω} {before : σ} {returns : α → σ → Prop} {raises : ε → σ → Prop}

/-- The process runs alone, in a world that stands still. -/
def Ends (world : ω) (process : Process ω ε σ α) (before : σ) (returns : α → σ → Prop) (raises : ε → σ → Prop) : Prop :=
  Stops (process.atomic world) before returns raises

/-- It does, and however it ends, `holds` is true of the state. -/
abbrev EndsIn (world : ω) (process : Process ω ε σ α) (before : σ) (holds : σ → Prop) : Prop :=
  process.Ends world before (fun _ => holds) fun _ => holds

theorem ends_pure : (pure value : Process ω ε σ α).Ends world before returns raises ↔ returns value before :=
  stops_pure

theorem ends_raised : (raised error : Process ω ε σ α).Ends world before returns raises ↔ raises error before :=
  stops_throw

variable {program : ω → EStateM ε σ α}

theorem ends_act : (act program).Ends world before returns raises ↔ Stops (program world) before returns raises := by
  rw [Ends, atomic_act]

variable {process : Process ω ε σ α}
  {next : α → Process ω ε σ β} {body : κ → Process ω ε σ Unit} {rel : σ → σ → Prop} {items : List κ}

theorem ends_bind {returns : β → σ → Prop} : (process >>= next).Ends world before returns raises ↔
      process.Ends world before (fun value middle => (next value).Ends world middle returns raises) raises := by
  rw [Ends, atomic_bind, stops_bind]
  rfl

theorem ends_raiseIf [Decidable condition] {returns : Unit → σ → Prop} :
    (raiseIf condition error : Process ω ε σ Unit).Ends world before returns raises ↔
      (condition → raises error before) ∧ (¬ condition → returns () before) := by
  rw [Ends, atomic_raiseIf, stops_raiseIf]

theorem ends_attempt : (attempt computed : Process ω ε σ α).Ends world before returns raises ↔
      (∀ value, computed = .ok value → returns value before) ∧
        ∀ error, computed = .error error → raises error before := by
  rw [Ends, atomic_attempt, stops_attempt]

theorem ends_ite [Decidable condition] {left right : Process ω ε σ α} :
    (if condition then left else right).Ends world before returns raises ↔
      (condition → left.Ends world before returns raises) ∧ (¬ condition → right.Ends world before returns raises) := by
  by_cases holds : condition <;> simp [holds]

theorem Ends.mono
    (ends : process.Ends world before returns raises)
    (returned : ∀ value after, returns value after → returns' value after)
    (raised : ∀ error after, raises error after → raises' error after) : process.Ends world before returns' raises' :=
  Stops.mono ends returned raised

theorem Ends.and
    (first : process.Ends world before returns raises) (second : process.Ends world before returns' raises') :
    process.Ends world before (fun value after => returns value after ∧ returns' value after)
      fun error after => raises error after ∧ raises' error after := by
  cases ran : process.atomic world before with
  | ok =>
    exact (stops_iff_of_ok ran).mpr ⟨(stops_iff_of_ok ran).mp first, (stops_iff_of_ok ran).mp second⟩
  | error =>
    exact (stops_iff_of_error ran).mpr ⟨(stops_iff_of_error ran).mp first, (stops_iff_of_error ran).mp second⟩

theorem ends_iff_leaves :
    process.Ends world before (fun _ => holds) (fun _ => holds) ↔ holds (leaves (process.atomic world) before) :=
  stops_iff_leaves

theorem ends_of_forall (returned : ∀ value after, returns value after)
    (raised : ∀ error after, raises error after) : process.Ends world before returns raises := by
  cases ran : process.atomic world before with
  | ok value after => exact (stops_iff_of_ok ran).mpr (returned value after)
  | error error after => exact (stops_iff_of_error ran).mpr (raised error after)

theorem Ends.value (ends : process.Ends world before returns raises) {value : α}
    (returned : value? (process.atomic world) before = some value) :
    returns value (leaves (process.atomic world) before) := by
  cases ran : process.atomic world before with
  | ok =>
    simp only [value?, ran, Option.some.injEq] at returned
    subst returned
    rw [leaves_of_ok ran]
    exact (stops_iff_of_ok ran).mp ends
  | error => simp [value?, ran] at returned

theorem Ends.raised (ends : process.Ends world before (fun _ _ => False) raises) :
    ∃ error after, process.atomic world before = .error error after ∧ raises error after := by
  cases ran : process.atomic world before with
  | ok => exact absurd ((stops_iff_of_ok ran).mp ends) id
  | error error after => exact ⟨error, after, rfl, (stops_iff_of_error ran).mp ends⟩

theorem ends_raising_iff : process.Ends world before (fun _ _ => True) raises ↔
      ∀ error after, process.atomic world before = .error error after → raises error after := by
  cases ran : process.atomic world before with
  | ok => simp [Ends, stops_iff_of_ok ran]
  | error => simp [Ends, stops_iff_of_error ran]

/-- What every step keeps holds when the process stops. -/
theorem Keeps.ends (keeps : process.Keeps rel) (reflexive : ∀ state, rel state state)
    (transitive : ∀ {first second third}, rel first second → rel second third → rel first third) :
    process.Ends world before (fun _ => rel before) fun _ => rel before :=
  ends_iff_leaves.mpr (keeps.leaves reflexive transitive world before)

theorem keeps_act_of_ends
    (ends : ∀ world state, (act program).Ends world state (fun _ => rel state) fun _ => rel state) :
    (act program).Keeps rel :=
  keeps_act fun world state => stops_iff_leaves.mp (ends_act.mp (ends world state))

/-- A loop: `inv` holds of what is still to be done and the state there. -/
theorem ends_forEach {returns : Unit → σ → Prop} (inv : List κ → σ → Prop) (start : inv items before)
    (each : ∀ item rest state, inv (item :: rest) state → (∃ done, items = done ++ item :: rest) →
      (body item).Ends world state (fun _ after => inv rest after) raises)
    (finish : ∀ state, inv [] state → returns () state) : (forEach items body).Ends world before returns raises := by
  induction items generalizing before with
  | nil => exact ends_pure.mpr (finish before start)
  | cons item rest ih =>
    refine ends_bind.mpr ((each item rest before start ⟨[], rfl⟩).mono ?_ fun _ _ same => same)
    intro _ after next
    refine ih next fun other later state holds position => ?_
    obtain ⟨done, rfl⟩ := position
    exact each other later state holds ⟨item :: done, rfl⟩

/-! A process that is cut off. -/

/-- The state after so many steps, or at the end if the process is over before. -/
def cut (world : ω) : Nat → Process ω ε σ α → σ → σ
  | _, done _, state => state
  | _, raised _, state => state
  | 0, step _ _, state => state
  | steps + 1, step act next, state => cut world steps (next world state) (act world state)

/-- Wherever the process is cut off, the state satisfies `holds`. -/
def Visits (world : ω) (process : Process ω ε σ α) (before : σ) (holds : σ → Prop) : Prop :=
  ∀ steps, holds (process.cut world steps before)

variable {holds : σ → Prop}

theorem visits_pure (start : holds before) : (pure value : Process ω ε σ α).Visits world before holds := by
  intro steps
  cases steps <;> exact start

theorem visits_raised (start : holds before) : (raised error : Process ω ε σ α).Visits world before holds := by
  intro steps
  cases steps <;> exact start

theorem visits_act (start : holds before) (after : Stops (program world) before (fun _ => holds) fun _ => holds) :
    (act program).Visits world before holds := by
  intro steps
  cases steps with
  | zero => exact start
  | succ steps =>
    have ended : (act program).cut world (steps + 1) before = leaves (program world) before := by
      cases ran : program world before <;> simp only [act, cut, ran]
    rw [ended]
    exact stops_iff_leaves.mp after

theorem visits_of_ends (single : process = act program)
    (start : holds before) (ends : process.Ends world before (fun _ => holds) fun _ => holds) :
    process.Visits world before holds := by
  subst single
  exact visits_act start (ends_act.mp ends)

theorem ends_step {act : ω → σ → σ} {next : ω → σ → Process ω ε σ α} :
    (step act next).Ends world before returns raises ↔
      (next world before).Ends world (act world before) returns raises := by
  cases ran : (next world before).atomic world (act world before) with
  | ok value after =>
    have same : (step act next).atomic world before = .ok value after := ran
    rw [Ends, Ends, stops_iff_of_ok ran, stops_iff_of_ok same]
  | error error after =>
    have same : (step act next).atomic world before = .error error after := ran
    rw [Ends, Ends, stops_iff_of_error ran, stops_iff_of_error same]

theorem visits_bind (first : process.Visits world before holds)
    (onward : process.Ends world before (fun value middle => (next value).Visits world middle holds) fun _ _ => True) :
    (process >>= next).Visits world before holds := by
  change (process.bind next).Visits world before holds
  induction process generalizing before with
  | done value =>
    change (pure value : Process ω ε σ α).Ends world before _ _ at onward
    rw [ends_pure] at onward
    exact onward
  | raised => exact visits_raised (first 0)
  | step _ _ ih =>
    intro steps
    cases steps with
    | zero => exact first 0
    | succ steps => exact ih world before (fun more => first (more + 1)) (ends_step.mp onward) steps

/-- One step that is behind: the rest is cut off as it would be by itself. -/
theorem cut_bind_of_ends (single : process = act program)
    (ends : process.Ends world before (fun value after => value = result ∧ after = reached) fun _ _ => False)
    (steps : Nat) :
    (process >>= next).cut world (steps + 1) before = (next result).cut world steps reached := by
  subst single
  have stops := ends_act.mp ends
  cases ran : program world before with
  | ok value =>
    obtain ⟨rfl, rfl⟩ := (stops_iff_of_ok ran).mp stops
    simp only [Bind.bind, act, Process.bind, cut, ran, leaves_of_ok ran]
  | error => exact absurd ((stops_iff_of_error ran).mp stops) id

theorem visits_raiseIf [Decidable condition] (start : holds before) :
    (raiseIf condition error : Process ω ε σ Unit).Visits world before holds := by
  rw [raiseIf]
  split_ifs
  · exact visits_raised start
  · exact visits_pure start

theorem visits_attempt (start : holds before) : (attempt computed : Process ω ε σ α).Visits world before holds := by
  cases computed with
  | ok => exact visits_pure start
  | error => exact visits_raised start

theorem Visits.mono (visits : process.Visits world before holds)
    (implies : ∀ state, holds state → weaker state) : process.Visits world before weaker :=
  fun steps => implies _ (visits steps)

theorem exists_cut_eq_leaves (process : Process ω ε σ α) (before : σ) :
    ∃ steps, process.cut world steps before = leaves (process.atomic world) before := by
  induction process generalizing before with
  | done | raised => exact ⟨0, rfl⟩
  | step act _ ih =>
    obtain ⟨steps, same⟩ := ih world before (act world before)
    exact ⟨steps + 1, same⟩

/-- Where a process ends is one of the places it can be cut off. -/
theorem Visits.ends (visits : process.Visits world before holds) :
    process.Ends world before (fun _ => holds) fun _ => holds := by
  obtain ⟨steps, same⟩ := @exists_cut_eq_leaves _ _ _ _ world process before
  exact ends_iff_leaves.mpr (same ▸ visits steps)

/-- A loop: what each round starts from, and what it passes through. -/
theorem visits_forEach (inv : List κ → σ → Prop) (start : inv items before)
    (each : ∀ item rest state, inv (item :: rest) state → (body item).Visits world state holds ∧
      (body item).Ends world state (fun _ after => inv rest after) fun _ _ => True)
    (finish : ∀ state, inv [] state → holds state) : (forEach items body).Visits world before holds := by
  induction items generalizing before with
  | nil => exact visits_pure (finish before start)
  | cons item rest ih =>
    obtain ⟨visits, ends⟩ := each item rest before start
    exact visits_bind visits (ends.mono (fun _ _ next => ih next) fun _ _ _ => trivial)

end Process

end BdPay.Data
