import BdPay.Data.Guarantee

namespace BdPay.Data

/-! Programs that run in steps.

A step looks at the world and at the state and changes the state, at once; the
world answers anew at every step.  Between two steps other processes may run, and
a process may be cut off there for good.
-/

inductive Process (ω ε σ α : Type) where
  | done (value : α)
  | raised (error : ε)
  | step (act : ω → σ → σ) (next : ω → σ → Process ω ε σ α)

namespace Process

open Effect
open EStateM (Result)

variable {ω ε σ α β : Type}

def bind : Process ω ε σ α → (α → Process ω ε σ β) → Process ω ε σ β
  | done value, rest => rest value
  | raised error, _ => raised error
  | step act next, rest => step act fun world state => (next world state).bind rest

instance : Monad (Process ω ε σ) where
  pure := done
  bind := bind

/-- One program as one step. -/
def act (program : ω → EStateM ε σ α) : Process ω ε σ α :=
  step (fun world state => leaves (program world) state) fun world state =>
    match program world state with
    | .ok value _ => done value
    | .error error _ => raised error

/-- `if condition: raise error`. -/
def raiseIf (condition : Prop) [Decidable condition] (error : ε) : Process ω ε σ Unit :=
  if condition then raised error else done ()

/-- A pure computation that may raise. -/
def attempt : Except ε α → Process ω ε σ α
  | .ok value => done value
  | .error error => raised error

/-- `for item in items: body(item)`. -/
def forEach {κ : Type} : List κ → (κ → Process ω ε σ Unit) → Process ω ε σ Unit
  | [], _ => done ()
  | item :: rest, body => (body item).bind fun _ => forEach rest body

/-- The process run to its end with nobody else about, in a world that stands still. -/
def atomic (world : ω) : Process ω ε σ α → EStateM ε σ α
  | done value => pure value
  | raised error => throw error
  | step act next => fun state => (next world state).atomic world (act world state)

theorem atomic_bind (world : ω) (process : Process ω ε σ α) (rest : α → Process ω ε σ β) :
    (process >>= rest).atomic world = process.atomic world >>= fun value => (rest value).atomic world := by
  change (process.bind rest).atomic world = _
  induction process with
  | done | raised => rfl
  | step _ _ ih =>
    funext state
    simp only [bind, atomic, ih]
    rfl

theorem atomic_act (world : ω) (program : ω → EStateM ε σ α) : (act program).atomic world = program world := by
  funext state
  simp only [act, atomic, leaves]
  cases program world state <;> rfl

theorem atomic_raiseIf (world : ω) (condition : Prop) [Decidable condition] (error : ε) :
    (raiseIf condition error : Process ω ε σ Unit).atomic world = Effect.raiseIf condition error := by
  simp only [raiseIf, Effect.raiseIf]
  split_ifs <;> rfl

theorem atomic_attempt (world : ω) (computed : Except ε α) :
    (attempt computed : Process ω ε σ α).atomic world = Effect.attempt computed := by
  cases computed <;> rfl

section Follows

variable {γ : Type} (allowed : γ → σ → σ → γ → Prop)

/-- What a process holds decides which steps it may take, and a step may change what it
holds.  `post` is about a value it returns and what it holds then. -/
def Follows (post : α → γ → Prop) : Process ω ε σ α → γ → Prop
  | done value, held => post value held
  | raised _, _ => True
  | step act next, held => ∀ world state, ∃ kept, allowed held state (act world state) kept ∧
      (next world state).Follows post kept

variable {allowed} {held : γ} {post : α → γ → Prop}

variable {process : Process ω ε σ α} {program : ω → EStateM ε σ α} {rest : α → Process ω ε σ β}

theorem Follows.bind (first : process.Follows allowed post held)
    (onward : ∀ value kept, post value kept → (rest value).Follows allowed final kept) :
    (process >>= rest).Follows allowed final held := by
  change (process.bind rest).Follows allowed final held
  induction process generalizing held with
  | done value => exact onward value held first
  | raised => trivial
  | step _ _ ih =>
    intro world state
    obtain ⟨kept, permitted, follows⟩ := first world state
    exact ⟨kept, permitted, ih world state follows⟩

theorem follows_act (permitted : ∀ world state, ∃ kept, allowed held state (leaves (program world) state) kept ∧
      ∀ value after, program world state = .ok value after → post value kept) :
    (act program).Follows allowed post held := by
  intro world state
  obtain ⟨kept, goes, returns⟩ := permitted world state
  refine ⟨kept, goes, ?_⟩
  cases ran : program world state with
  | ok value after =>
    simp only [ran]
    exact returns value after ran
  | error => simp only [ran, Follows]

/-- Every step is one that `rel` allows, from whatever state it is taken. -/
def Keeps (rel : σ → σ → Prop) (process : Process ω ε σ α) : Prop :=
  process.Follows (fun _ state later _ => rel state later) (fun _ _ => True) ()

variable {rel : σ → σ → Prop} {condition : Prop} {error : ε}

theorem keeps_pure : (pure value : Process ω ε σ α).Keeps rel := trivial

theorem keeps_raised : (raised error : Process ω ε σ α).Keeps rel := trivial

theorem Keeps.bind (first : process.Keeps rel)
    (onward : ∀ value, (rest value).Keeps rel) : (process >>= rest).Keeps rel :=
  Follows.bind first fun value _ _ => onward value

theorem keeps_act (goes : ∀ world state, rel state (leaves (program world) state)) : (act program).Keeps rel :=
  follows_act fun world state => ⟨(), goes world state, fun _ _ _ => trivial⟩

theorem keeps_raiseIf [Decidable condition] : (raiseIf condition error : Process ω ε σ Unit).Keeps rel := by
  rw [raiseIf]
  split_ifs
  · exact keeps_raised
  · exact keeps_pure

theorem keeps_attempt : (attempt computed : Process ω ε σ α).Keeps rel := by
  cases computed with
  | ok => exact keeps_pure
  | error => exact keeps_raised

theorem keeps_ite [Decidable condition] {left right : Process ω ε σ α} (first : left.Keeps rel)
    (second : right.Keeps rel) : (if condition then left else right).Keeps rel := by
  split_ifs
  · exact first
  · exact second

theorem keeps_forEach {body : κ → Process ω ε σ Unit} (each : ∀ item, (body item).Keeps rel) :
    (forEach items body).Keeps rel := by
  induction items with
  | nil => exact keeps_pure
  | cons item _ ih => exact (each item).bind fun _ => ih

theorem Keeps.mono (keeps : process.Keeps rel)
    (included : ∀ first second, rel first second → wider first second) : process.Keeps wider := by
  induction process with
  | done => exact keeps_pure
  | raised => exact keeps_raised
  | step _ _ ih =>
    intro world state
    obtain ⟨_, goes, onward⟩ := keeps world state
    exact ⟨(), included _ _ goes, ih world state onward⟩

theorem Keeps.leaves (keeps : process.Keeps rel) (reflexive : ∀ state, rel state state)
    (transitive : ∀ {first second third}, rel first second → rel second third → rel first third) (world : ω)
    (state : σ) : rel state (leaves (process.atomic world) state) := by
  induction process generalizing state with
  | done | raised => exact reflexive state
  | step act _ ih =>
    obtain ⟨_, goes, onward⟩ := keeps world state
    exact transitive goes (ih world state onward (act world state))

end Follows

end Process

end BdPay.Data
