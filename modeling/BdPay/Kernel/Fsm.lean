import Mathlib

namespace BdPay.Kernel

/-! Refusal-first transition tables: what is not declared is denied. -/

/-- A denied transition, with the message the refusal carries. -/
structure TransitionDenied where
  (machine message : String)
deriving DecidableEq

structure TransitionRule (σ τ γ : Type) where
  fromState : σ
  trigger : τ
  toState : σ
  guard : Option γ := none

/-- A table that passed its own validation: nothing leaves a terminal state, and
several rules for one state and trigger are told apart by their guards. -/
structure TransitionTable (σ τ γ : Type) [DecidableEq σ] [DecidableEq τ] [DecidableEq γ] where
  name : String
  stateName : σ → String
  triggerName : τ → String
  guardName : γ → String
  terminalStates : List σ
  rules : List (TransitionRule σ τ γ)
  terminalsFinal : ∀ rule ∈ rules, rule.fromState ∉ terminalStates
  guardsDiffer : rules.Pairwise fun first second =>
    first.fromState = second.fromState → first.trigger = second.trigger →
      first.guard ≠ second.guard ∧ first.guard.isSome ∧ second.guard.isSome

namespace TransitionTable

variable {σ τ γ : Type} [DecidableEq σ] [DecidableEq τ] [DecidableEq γ] (table : TransitionTable σ τ γ)

def deny (fromState : σ) (trigger : τ) (detail : String) : TransitionDenied where
  machine := table.name
  message := s!"{table.name}: transition denied from '{table.stateName fromState}' on " ++
    s!"'{table.triggerName trigger}': {detail}"

def rulesFor (fromState : σ) (trigger : τ) : List (TransitionRule σ τ γ) :=
  table.rules.filter fun rule => rule.fromState = fromState ∧ rule.trigger = trigger

/-- The branches a caller may name, as `sorted(...)` prints them. -/
def branches (candidates : List (TransitionRule σ τ γ)) : String :=
  let names := ((candidates.filterMap (·.guard)).map table.guardName).mergeSort (fun a b => decide (a ≤ b))
  "[" ++ String.intercalate ", " (names.map fun name => "'" ++ name ++ "'") ++ "]"

/-- The single declared rule for a state, a trigger and a guard. -/
def resolve (fromState : σ) (trigger : τ) (guard : Option γ := none) :
    Except TransitionDenied (TransitionRule σ τ γ) :=
  if fromState ∈ table.terminalStates then
    .error (table.deny fromState trigger "terminal states are immutable")
  else
    match table.rulesFor fromState trigger with
    | [] => .error (table.deny fromState trigger "no such transition is declared in the table")
    | first :: others =>
      if others.isEmpty ∧ first.guard.isNone then
        match guard with
        | none => .ok first
        | some given =>
          .error (table.deny fromState trigger
            s!"guard '{table.guardName given}' supplied but the rule is unguarded")
      else
        match guard with
        | none =>
          .error (table.deny fromState trigger <|
            "this transition has guarded branches; the caller must name one of " ++
            table.branches (first :: others))
        | some given =>
          match (first :: others).find? (fun rule => rule.guard = some given) with
          | some rule => .ok rule
          | none =>
            .error (table.deny fromState trigger <|
              s!"guard '{table.guardName given}' does not match a declared branch " ++
              table.branches (first :: others))

/-- A rule that is handed out is declared for the asked state and trigger. -/
theorem resolve_ok {table : TransitionTable σ τ γ} {guard : Option γ}
    (resolved : table.resolve fromState trigger guard = .ok rule) :
    rule ∈ table.rules ∧ rule.fromState = fromState ∧ rule.trigger = trigger := by
  have declared : rule ∈ table.rulesFor fromState trigger := by
    unfold resolve at resolved
    by_cases final : fromState ∈ table.terminalStates
    · simp [final] at resolved
    · rw [if_neg final] at resolved
      cases candidates : table.rulesFor fromState trigger with
      | nil => simp [candidates] at resolved
      | cons first others =>
        simp only [candidates] at resolved
        by_cases lone : others.isEmpty ∧ first.guard.isNone
        · rw [if_pos lone] at resolved
          cases guard with
          | none => simp only [Except.ok.injEq] at resolved; simp [resolved]
          | some => simp at resolved
        · rw [if_neg lone] at resolved
          cases guard with
          | none => simp at resolved
          | some given =>
            cases found : (first :: others).find? (fun rule => rule.guard = some given) with
            | none => simp [found] at resolved
            | some =>
              simp only [found, Except.ok.injEq] at resolved
              exact resolved ▸ List.mem_of_find?_eq_some found
  simpa [rulesFor] using declared

end TransitionTable

end BdPay.Kernel
