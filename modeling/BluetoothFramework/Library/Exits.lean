import Mathlib.Tactic.Common

/-!
# Routines that leave their state on every exit

A routine changes a state and returns a value or fails; either way its caller sees the
state it left behind. A third exit says that the routine ran out of fuel. `guarded` runs a
body between an entry and a leave that happens on every exit, as a guard object does whose
destructor undoes its constructor.

`Follows` compares a routine with a reader that has no state but its input: the routine
returns what the reader returns and fails where the reader fails, never runs out of fuel,
and keeps an invariant on every exit. The rules build such a comparison along the
structure of a routine; `Follows.guarded` lets a body rely on the invariant of its scope.
-/

namespace Exits

variable {σ α β τ π : Type}

/-- How a routine ends. -/
inductive Exit (σ α : Type) where
  | unfinished
  | failed (state : σ)
  | returned (value : α) (state : σ)
deriving DecidableEq

/-- A routine on a state. -/
def Routine (σ α : Type) : Type :=
  σ → Exit σ α

/-- Go on with what was returned; the other exits are final. -/
def Exit.bind (exit : Exit σ α) (next : α → Routine σ β) : Exit σ β :=
  match exit with
  | .unfinished => .unfinished
  | .failed state => .failed state
  | .returned value state => next value state

instance : Monad (Routine σ) where
  pure value := fun state => .returned value state
  bind first next := fun state => (first state).bind next

/-- The routine out of fuel. -/
def exhausted : Routine σ α :=
  fun _ => .unfinished

/-- Fail at once. -/
def fail : Routine σ α :=
  fun state => .failed state

/-- Look at the state. -/
def observe (look : σ → α) : Routine σ α :=
  fun state => .returned (look state) state

/-- A read that may have no value; without one the routine fails where it is. -/
def attempt (read : σ → Option (α × σ)) : Routine σ α :=
  fun state =>
    match read state with
    | none => .failed state
    | some (value, next) => .returned value next

/-- Run the body between `enter` and `leave`, which happens on every exit. -/
def guarded (enter leave : σ → σ) (body : Routine σ α) : Routine σ α :=
  fun state =>
    match body (enter state) with
    | .unfinished => .unfinished
    | .failed last => .failed (leave last)
    | .returned value last => .returned value (leave last)

/-- Run the body a number of times, passing a value along; routines and readers alike. -/
def times {m : Type → Type} [Monad m] (body : τ → m τ) : Nat → τ → m τ
  | 0, value => pure value
  | count + 1, value => do
      let next ← body value
      times body count next

/-- The exit agrees with what a reader gives, and the invariant holds there. -/
inductive Matches (view : σ → π) (invariant : σ → Prop) : Exit σ α → Option (α × π) → Prop
  | failed (state : σ) (kept : invariant state) : Matches view invariant (.failed state) none
  | returned (value : α) (state : σ) (kept : invariant state) :
      Matches view invariant (.returned value state) (some (value, view state))

/-- From every state with the invariant the routine ends as the reader does on the view of
that state. -/
def Follows (view : σ → π) (invariant : σ → Prop) (routine : Routine σ α)
    (reader : StateT π Option α) : Prop :=
  ∀ state, invariant state → Matches view invariant (routine state) (reader.run (view state))

variable {view : σ → π} {invariant : σ → Prop}

/-- A routine that returns at once follows content that reads nothing. -/
theorem Follows.pure (value : α) : Follows view invariant (pure value) (pure value) :=
  fun state kept => .returned value state kept

/-- A routine that fails at once follows content that is never readable. -/
theorem Follows.fail : Follows view invariant (Exits.fail : Routine σ α) failure :=
  fun state kept => .failed state kept

/-- A read of the view that leaves the rest of the state alone. -/
theorem Follows.attempt (read : σ → Option (α × σ)) (select : π → Option (α × π))
    (same : ∀ state, invariant state →
      (read state = none ∧ select (view state) = none) ∨
        ∃ value next, read state = some (value, next) ∧
          select (view state) = some (value, view next) ∧
          invariant next) :
    Follows view invariant (Exits.attempt read) select := by
  intro state kept
  rcases same state kept with ⟨none, noneThere⟩ | ⟨value, next, some, someThere, keptThere⟩
  · change Matches view invariant (Exits.attempt read state) (select (view state))
    rw [Exits.attempt, none, noneThere]
    exact .failed state kept
  · change Matches view invariant (Exits.attempt read state) (select (view state))
    rw [Exits.attempt, some, someThere]
    exact .returned value next keptThere

/-- One routine after another. -/
theorem Follows.bind {first : Routine σ α} {next : α → Routine σ β} {reader : StateT π Option α}
    {continued : α → StateT π Option β} (follows : Follows view invariant first reader)
    (continues : ∀ value, Follows view invariant (next value) (continued value)) :
    Follows view invariant (first >>= next) (reader >>= continued) := by
  intro state kept
  have here := follows state kept
  rw [StateT.run_bind]
  change Matches view invariant ((first state).bind next) _
  generalize first state = exit, reader.run (view state) = result at here
  cases here with
  | failed last keptThere => exact .failed last keptThere
  | returned value last keptThere => exact continues value last keptThere

/-- A check whose outcome the reader knows. -/
theorem Follows.check {routine : Routine σ α} {reader : StateT π Option α} {check : Prop}
    [Decidable check] (follows : ¬ check → Follows view invariant routine reader) :
    Follows view invariant (if check then Exits.fail else routine) (if check then failure else reader) := by
  by_cases refused : check
  · rw [if_pos refused, if_pos refused]
    exact Follows.fail
  · rw [if_neg refused, if_neg refused]
    exact follows refused

/-- A counted loop, by induction on the count. -/
theorem Follows.times {body : τ → Routine σ τ} {step : τ → StateT π Option τ}
    (each : ∀ value, Follows view invariant (body value) (step value)) (count : Nat) (value : τ) :
    Follows view invariant (Exits.times body count value) (Exits.times step count value) := by
  induction count generalizing value with
  | zero => exact Follows.pure value
  | succ count inductionHypothesis => exact Follows.bind (each value) inductionHypothesis

/-- A scope whose body relies on more than the caller: entering and leaving go between the
two invariants and do not touch the view. -/
theorem Follows.guarded {inner : σ → Prop} {enter leave : σ → σ} {body : Routine σ α}
    {reader : StateT π Option α} (enters : ∀ state, invariant state → inner (enter state))
    (leaves : ∀ state, inner state → invariant (leave state))
    (enterView : ∀ state, view (enter state) = view state)
    (leaveView : ∀ state, view (leave state) = view state)
    (follows : Follows view inner body reader) :
    Follows view invariant (Exits.guarded enter leave body) reader := by
  intro state kept
  have here := follows (enter state) (enters state kept)
  rw [enterView] at here
  rw [Exits.guarded]
  generalize body (enter state) = exit, reader.run (view state) = result at here
  cases here with
  | failed last keptThere => exact .failed (leave last) (leaves last keptThere)
  | returned value last keptThere =>
    rw [← leaveView last]
    exact .returned value (leave last) (leaves last keptThere)

/-- What a routine that follows a reader does: it ends, it fails exactly where the reader
does, and the invariant holds where it ends. -/
theorem Follows.ends {routine : Routine σ α} {reader : StateT π Option α}
    (follows : Follows view invariant routine reader) {state : σ} (kept : invariant state) :
    ∃ last, invariant last ∧
      ((routine state = .failed last ∧ reader.run (view state) = none) ∨
        ∃ value, routine state = .returned value last ∧
          reader.run (view state) = some (value, view last)) := by
  have here := follows state kept
  generalize routine state = exit, reader.run (view state) = result at here
  cases here with
  | failed last keptThere => exact ⟨last, keptThere, .inl ⟨rfl, rfl⟩⟩
  | returned value last keptThere => exact ⟨last, keptThere, .inr ⟨value, rfl, rfl⟩⟩

end Exits
