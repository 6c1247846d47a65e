import Mathlib.Tactic.Common

/-!
# Loads from memory

A computation that loads cells from a memory and records which ones. Each load is made
on behalf of a range the program was given, so a record says both where the program
looked and where it was meant to stay. Memory has a cell at every index: a load outside
the range still returns something, as it would in the program, and the record shows it.

`Stored` says that memory holds a list of cells from an index on; loads of them then
return the list.
-/

namespace Loads

/-- The indices from `first` up to but not including `limit`. -/
structure Range where
  first : Nat
  limit : Nat
deriving DecidableEq, Repr

/-- One load and the range it was made for. -/
structure Access where
  index : Nat
  range : Range
deriving DecidableEq, Repr

/-- The load stays in its range. -/
def Access.Inside (access : Access) : Prop :=
  access.range.first ≤ access.index ∧ access.index < access.range.limit

/-- A computation with loads: its value and its accesses in order. -/
def Load (Cell α : Type) : Type :=
  (Nat → Cell) → α × List Access

variable {Cell α β σ ι : Type}

/-- The value computed on a memory. -/
def value (load : Load Cell α) (memory : Nat → Cell) : α :=
  (load memory).1

/-- The accesses made on a memory. -/
def accesses (load : Load Cell α) (memory : Nat → Cell) : List Access :=
  (load memory).2

instance : Monad (Load Cell) where
  pure value := fun _ => (value, [])
  bind first next := fun memory =>
    let (intermediate, earlier) := first memory
    let (result, later) := next intermediate memory
    (result, earlier ++ later)

/-- Load one cell. -/
def load (range : Range) (index : Nat) : Load Cell Cell :=
  fun memory => (memory index, [⟨index, range⟩])

/-- Load consecutive cells. -/
def loadMany (range : Range) (index : Nat) : Nat → Load Cell (List Cell)
  | 0 => pure []
  | count + 1 => do
      let cell ← load range index
      let rest ← loadMany range (index + 1) count
      pure (cell :: rest)

variable {memory : Nat → Cell}

/-- The value of a computation without loads is its result. -/
@[simp] theorem value_pure (result : α) : value (pure result : Load Cell α) memory = result :=
  rfl

/-- A computation without loads accesses nothing. -/
@[simp] theorem accesses_pure (result : α) : accesses (pure result : Load Cell α) memory = [] :=
  rfl

/-- The value of two computations in turn is that of the second, for the value of the first. -/
@[simp] theorem value_bind (first : Load Cell α) (next : α → Load Cell β) :
    value (first >>= next) memory = value (next (value first memory)) memory :=
  rfl

/-- The accesses of two computations in turn are those of the one and then those of the other.
-/
@[simp] theorem accesses_bind (first : Load Cell α) (next : α → Load Cell β) :
    accesses (first >>= next) memory =
      accesses first memory ++ accesses (next (value first memory)) memory :=
  rfl

/-- The value of a load is the cell that is read. -/
@[simp] theorem value_load (range : Range) (index : Nat) :
    value (load range index) memory = memory index :=
  rfl

/-- A load accesses its index, in the range that it is made for. -/
@[simp] theorem accesses_load (range : Range) (index : Nat) :
    accesses (load range index) memory = [⟨index, range⟩] :=
  rfl

/-- Every access of a computation has the property. -/
def Each (property : Access → Prop) (load : Load Cell α) (memory : Nat → Cell) : Prop :=
  ∀ access ∈ accesses load memory, property access

variable {property : Access → Prop}

/-- Without loads there is no access that could break a property. -/
@[simp] theorem each_pure (result : α) : Each property (pure result : Load Cell α) memory := by
  intro access member
  cases member

/-- A property of all accesses of two computations in turn is one of both, so it is proved part
by part. -/
@[simp] theorem each_bind (first : Load Cell α) (next : α → Load Cell β) :
    Each property (first >>= next) memory ↔
      Each property first memory ∧ Each property (next (value first memory)) memory := by
  simp only [Each, accesses_bind, List.mem_append]
  constructor
  · intro each
    exact ⟨fun access member => each access (.inl member),
      fun access member => each access (.inr member)⟩
  · rintro ⟨earlier, later⟩ access (member | member)
    · exact earlier access member
    · exact later access member

/-- A property of the accesses of one load is one of the single access. -/
@[simp] theorem each_load (range : Range) (index : Nat) :
    Each property (load range index : Load Cell Cell) memory ↔ property ⟨index, range⟩ := by
  simp [Each]

/-- A property of ranges holds of consecutive loads when it holds of theirs. -/
theorem each_loadMany {within : Range → Prop} (range : Range) (index count : Nat)
    (holds : within range) :
    Each (fun access => within access.range)
    (loadMany range index count : Load Cell (List Cell)) memory := by
  induction count generalizing index with
  | zero => exact each_pure []
  | succ count inductionHypothesis =>
    simp only [loadMany, each_bind, each_load, each_pure, holds, and_true, true_and]
    exact inductionHypothesis (index + 1)

/-- Consecutive loads stay in the range when the last of them does. -/
theorem inside_loadMany (range : Range) (index count : Nat) (after : range.first ≤ index) :
    Each Access.Inside (loadMany range index count : Load Cell (List Cell)) memory ↔
      count = 0 ∨ index + count ≤ range.limit := by
  induction count generalizing index with
  | zero => simp [loadMany]
  | succ count inductionHypothesis =>
    have later := inductionHypothesis (index + 1) (by omega)
    simp only [loadMany, each_bind, each_load, later, each_pure, and_true, Access.Inside]
    omega

/-- What holds of the accesses of each step holds of a loop. -/
theorem each_foldlM (step : σ → ι → Load Cell σ) (elements : List ι) (state : σ)
    (each : ∀ state, ∀ element ∈ elements, Each property (step state element) memory) :
    Each property (elements.foldlM step state) memory := by
  induction elements generalizing state with
  | nil => exact each_pure state
  | cons element rest inductionHypothesis =>
    rw [List.foldlM_cons, each_bind]
    constructor
    · exact each state element (by simp)
    · apply inductionHypothesis
      intro state other member
      exact each state other (List.mem_cons_of_mem element member)

/-- The value of a loop. -/
theorem value_foldlM (step : σ → ι → Load Cell σ) (elements : List ι) (state : σ) :
    value (elements.foldlM step state) memory =
      elements.foldl (fun state element => value (step state element) memory) state := by
  induction elements generalizing state with
  | nil => rfl
  | cons element rest inductionHypothesis =>
    rw [List.foldlM_cons, value_bind, inductionHypothesis, List.foldl_cons]

/-- Memory holds the cells from the index on. -/
def Stored (memory : Nat → Cell) : Nat → List Cell → Prop
  | _, [] => True
  | index, cell :: rest => memory index = cell ∧ Stored memory (index + 1) rest

/-- Cells in two parts are stored exactly if the parts are, one behind the other. -/
theorem stored_append {index : Nat} {front back : List Cell} :
    Stored memory index (front ++ back) ↔
      Stored memory index front ∧ Stored memory (index + front.length) back := by
  induction front generalizing index with
  | nil => simp [Stored]
  | cons cell rest inductionHypothesis =>
    have position : index + 1 + rest.length = index + (rest.length + 1) := by omega
    simp only [List.cons_append, Stored, inductionHypothesis, List.length_cons, position, and_assoc]

/-- The front of what is stored is stored. -/
theorem stored_take {index : Nat} {cells : List Cell} (stored : Stored memory index cells)
    (count : Nat) :
    Stored memory index (cells.take count) := by
  rw [← List.take_append_drop count cells, stored_append] at stored
  exact stored.1

/-- What is behind the front is stored that much further on. -/
theorem stored_drop {index : Nat} {cells : List Cell} (stored : Stored memory index cells)
    (count : Nat)
    (within : count ≤ cells.length) : Stored memory (index + count) (cells.drop count) := by
  rw [← List.take_append_drop count cells, stored_append, List.length_take_of_le within] at stored
  exact stored.2

/-- A memory that holds the cells from its start, and anything behind them. -/
def placed (cells : List Cell) (behind : Nat → Cell) (index : Nat) : Cell :=
  cells.getD index (behind index)

/-- Cells that were placed at the start of a memory are stored there. -/
theorem stored_placed (cells : List Cell) (behind : Nat → Cell) :
    Stored (placed cells behind) 0 cells := by
  have shifted (front back : List Cell) : Stored (placed (front ++ back) behind) front.length back := by
    induction back generalizing front with
    | nil => trivial
    | cons cell rest inductionHypothesis =>
      constructor
      · simp [placed]
      · have next := inductionHypothesis (front ++ [cell])
        rwa [List.append_assoc, List.singleton_append, List.length_append, List.length_singleton] at next
  exact shifted [] cells

/-- Loading stored cells returns them. -/
theorem value_loadMany (range : Range) (index : Nat) (cells : List Cell)
    (stored : Stored memory index cells) :
    value (loadMany range index cells.length) memory = cells := by
  induction cells generalizing index with
  | nil => rfl
  | cons cell rest inductionHypothesis =>
    obtain ⟨here, later⟩ := stored
    rw [List.length_cons, loadMany, value_bind, value_bind, value_pure, value_load, here,
      inductionHypothesis (index + 1) later]

end Loads
