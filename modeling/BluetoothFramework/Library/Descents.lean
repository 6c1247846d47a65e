import Mathlib.Data.Set.Card
import Mathlib.Logic.Relation

/-!
# Calls that follow references

A function that calls itself for everything its argument refers to comes to an end on a finite
structure exactly if nothing that is reached refers back to itself. As many nested calls as
things are reached are enough.
-/

namespace Descents

universe u
variable {α : Type u} (Refers : α → α → Prop)

/-- The second is reached from the first. -/
abbrev Reaches : α → α → Prop :=
  Relation.ReflTransGen Refers

/-- Calls nested this deep are enough. -/
def Settles : Nat → α → Prop
  | 0, _ => False
  | calls + 1, a => ∀ b, Refers a b → Settles calls b

/-- Nothing that is reached refers back to itself. -/
def Acyclic (a : α) : Prop :=
  ∀ b, Reaches Refers a b → ¬Relation.TransGen Refers b b

variable {Refers}

/-- More calls do no harm. -/
theorem Settles.mono {fewer more : Nat} {a : α} (settles : Settles Refers fewer a)
    (le : fewer ≤ more) :
    Settles Refers more a := by
  induction fewer generalizing a more with
  | zero => exact settles.elim
  | succ fewer inductionHypothesis =>
    obtain ⟨more, rfl⟩ : ∃ m, more = m + 1 := ⟨more - 1, by omega⟩
    exact fun b refers => inductionHypothesis (settles b refers) (by omega)

/-- What is reached needs no more calls. -/
theorem Settles.reached {calls : Nat} {a b : α} (settles : Settles Refers calls a)
    (reaches : Reaches Refers a b) :
    Settles Refers calls b := by
  induction reaches with
  | refl => exact settles
  | tail _ refers inductionHypothesis =>
    match calls with
    | calls + 1 => exact Settles.mono (inductionHypothesis _ refers) (by omega)

/-- What settles is on no cycle, since one call fewer would do once around. -/
theorem Settles.not_cyclic {calls : Nat} {a : α} (settles : Settles Refers calls a) :
    ¬Relation.TransGen Refers a a := by
  induction calls with
  | zero => exact settles.elim
  | succ calls inductionHypothesis =>
    intro cycle
    obtain ⟨b, refers, back⟩ := Relation.TransGen.head'_iff.mp cycle
    exact inductionHypothesis (Settles.reached (settles b refers) back) cycle

/-- What settles reaches no cycle. That is the direction in which the calls end. -/
theorem Settles.acyclic {calls : Nat} {a : α} (settles : Settles Refers calls a) :
    Acyclic Refers a :=
  fun _ reaches => Settles.not_cyclic (settles.reached reaches)

/-- What is reached from an acyclic point is one, since it reaches no more than that. -/
theorem Acyclic.reached {a b : α} (acyclic : Acyclic Refers a) (reaches : Reaches Refers a b) :
    Acyclic Refers b :=
  fun _ further => acyclic _ (reaches.trans further)

/-- Fewer things are reached from what is referred to: the one that refers is not among them. -/
theorem Acyclic.ncard_lt {a b : α} (acyclic : Acyclic Refers a) (refers : Refers a b)
    (finite : {c | Reaches Refers a c}.Finite) :
    {c | Reaches Refers b c}.ncard < {c | Reaches Refers a c}.ncard := by
  refine Set.ncard_lt_ncard ⟨fun c reaches => reaches.head refers, fun within => ?_⟩ finite
  have back : Reaches Refers b a := within Relation.ReflTransGen.refl
  exact acyclic a .refl (Relation.TransGen.head' refers back)

/-- As many nested calls as things are reached are enough. -/
theorem Acyclic.settles {a : α} (acyclic : Acyclic Refers a)
    (finite : {c | Reaches Refers a c}.Finite)
    {calls : Nat} (enough : {c | Reaches Refers a c}.ncard ≤ calls) : Settles Refers calls a := by
  induction calls generalizing a with
  | zero =>
    have some : 0 < {c | Reaches Refers a c}.ncard := (Set.ncard_pos finite).mpr ⟨a, .refl⟩
    omega
  | succ calls inductionHypothesis =>
    intro b refers
    have fewer := acyclic.ncard_lt refers finite
    refine inductionHypothesis (acyclic.reached (.single refers)) (finite.subset fun c reaches => ?_) (by omega)
    exact reaches.head refers

end Descents
