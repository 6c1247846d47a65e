import Mathlib.Tactic.Common

/-!
# Readers of a typed queue

A reader takes items from the front of a queue and fails when an item is missing or is
not the one it expects. `Reads reader items value` says that the reader consumes
exactly these items, whatever follows them, and returns the value. The rules below
build it along the structure of a reader: one item, a sequence, a conditional failure
and a counted loop.
-/

namespace Fifo

universe u
variable {Item α β σ ι : Type u}

/-- A computation on the queue that may fail. -/
abbrev Reader (Item α : Type u) : Type u :=
  StateT (List Item) Option α

/-- Take one item of the expected kind. -/
def take (select : Item → Option α) : Reader Item α
  | [] => none
  | item :: rest => (select item).map fun value => (value, rest)

/-- Run the body a number of times, passing a state along. -/
def iterate (body : σ → Reader Item σ) : Nat → σ → Reader Item σ
  | 0, state => pure state
  | count + 1, state => do
      let next ← body state
      iterate body count next

/-- The reader consumes exactly the items and returns the value. -/
def Reads (reader : Reader Item α) (items : List Item) (value : α) : Prop :=
  ∀ rest, reader.run (items ++ rest) = some (value, rest)

/-- Giving a value back reads nothing. -/
theorem Reads.pure (value : α) : Reads (pure value : Reader Item α) [] value :=
  fun _ => rfl

/-- One item is taken from the front, if it is of the type that is asked for. -/
theorem Reads.take (select : Item → Option α) (item : Item) (value : α)
    (selected : select item = some value) : Reads (Fifo.take select) [item] value := by
  intro rest
  change (select item).map (fun value => (value, rest)) = some (value, rest)
  rw [selected]
  rfl

/-- One reader after another. -/
theorem Reads.bind {first : Reader Item α} {next : α → Reader Item β} {items more : List Item}
    {value : α} {result : β} (reads : Reads first items value)
    (continues : Reads (next value) more result) :
      Reads (first >>= next) (items ++ more) result := by
  intro rest
  rw [StateT.run_bind, List.append_assoc, reads (more ++ rest)]
  exact continues rest

/-- One item, then the rest. -/
theorem Reads.next {first : Reader Item α} {next : α → Reader Item β} {item : Item}
    {more : List Item} {value : α} {result : β} (reads : Reads first [item] value)
    (continues : Reads (next value) more result) : Reads (first >>= next) (item :: more) result :=
  Reads.bind reads continues

/-- A check that passes. -/
theorem Reads.unless {reader : Reader Item α} {items : List Item} {value : α} {check : Prop}
    [Decidable check] (passes : ¬ check) (reads : Reads reader items value) :
    Reads (if check then failure else reader) items value := by
  rw [if_neg passes]
  exact reads

/-- A counted loop reads what was written for each element, if its body does, and folds
the elements into the state. -/
theorem Reads.iterate {body : σ → Reader Item σ} (write : ι → List Item) (add : σ → ι → σ)
    (elements : List ι) (state : σ)
    (each : ∀ state, ∀ element ∈ elements, Reads (body state) (write element) (add state element)) :
    Reads (Fifo.iterate body elements.length state) (elements.flatMap write)
      (elements.foldl add state) := by
  induction elements generalizing state with
  | nil => exact Reads.pure state
  | cons element rest inductionHypothesis =>
    rw [List.flatMap_cons]
    apply Reads.bind (each state element (by simp))
    exact inductionHypothesis (add state element)
      fun state other member => each state other (List.mem_cons_of_mem _ member)

end Fifo
