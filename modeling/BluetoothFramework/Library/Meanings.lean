import Mathlib.Data.List.Forall2

/-!
# What the inputs of a parser mean

A parser that may fail is said to understand a relation if it gives the one value that its input
stands for, and refuses an input that stands for none. A failure that is not a refusal, an
exception for instance, is never understood. The relation of a parser that is composed of others
is composed of theirs (`Understands.bind`), so that it can be read off and then put into the words
of the format (`Understands.congr`).
-/

namespace Meanings

universe u v
variable {ε : Type u} {α β : Type v} {refusal : ε → Prop}

/-- The parser gives the only value there is, or refuses as there is none. -/
def Understands (refusal : ε → Prop) (parsed : Except ε α) (means : α → Prop) : Prop :=
  match parsed with
  | .ok value => ∀ other, means other ↔ other = value
  | .error exit => refusal exit ∧ ∀ value, ¬means value

/-- The values of the relation are what the parser gives. -/
theorem Understands.eq_ok_iff {parsed : Except ε α} {means : α → Prop}
    (understands : Understands refusal parsed means) (value : α) :
      parsed = .ok value ↔ means value := by
  cases parsed with
  | ok given =>
    rw [understands value, Except.ok.injEq]
    exact eq_comm
  | error exit => exact iff_of_false nofun (understands.2 value)

/-- A parser that gives nothing refuses, and does so where nothing is meant. -/
theorem Understands.refuses_iff {parsed : Except ε α} {means : α → Prop}
    (understands : Understands refusal parsed means) :
    (∃ exit, parsed = .error exit ∧ refusal exit) ↔ ¬∃ value, means value := by
  cases parsed with
  | ok given =>
    refine iff_of_false ?_ fun none => none ⟨given, (understands given).mpr rfl⟩
    rintro ⟨exit, ⟨⟩, -⟩
  | error exit =>
    exact iff_of_true ⟨exit, rfl, understands.1⟩ fun ⟨value, meant⟩ => understands.2 value meant

/-- The meaning may be replaced by an equivalent one. -/
theorem Understands.congr {parsed : Except ε α} {means further : α → Prop}
    (understands : Understands refusal parsed means) (same : ∀ value, means value ↔ further value) :
    Understands refusal parsed further := by
  rwa [← funext fun value => propext (same value)]

/-- A parser that gives a value understands that value alone. -/
theorem Understands.pure (value : α) : Understands refusal (Pure.pure value) (· = value) :=
  fun _ => Iff.rfl

/-- A parser that refuses understands what stands for nothing. -/
theorem Understands.fail {exit : ε} {means : α → Prop} (refuses : refusal exit)
    (none : ∀ value, ¬means value) :
    Understands refusal (throw exit : Except ε α) means :=
  ⟨refuses, none⟩

/-- What is understood first is what the rest starts from. -/
theorem Understands.bind {parsed : Except ε α} {next : α → Except ε β} {means : α → Prop}
    {further : α → β → Prop} (first : Understands refusal parsed means)
    (second : ∀ value, means value → Understands refusal (next value) (further value)) :
    Understands refusal (parsed >>= next) fun result => ∃ value, means value ∧
      further value result := by
  cases parsed with
  | ok given =>
    have meant : means given := (first given).mpr rfl
    have only (result : β) : (∃ value, means value ∧ further value result) ↔ further given result := by
      constructor
      · rintro ⟨value, means, rest⟩
        rwa [← (first value).mp means]
      · exact fun rest => ⟨given, meant, rest⟩
    exact (second given meant).congr fun result => (only result).symm
  | error exit => exact ⟨first.1, fun _ ⟨value, means, _⟩ => first.2 value means⟩

/-- A value that is converted after parsing stands for what the value stood for. -/
theorem Understands.map {parsed : Except ε α} {means : α → Prop} (f : α → β)
    (understands : Understands refusal parsed means) :
    Understands refusal (f <$> parsed) fun result => ∃ value, means value ∧ result = f value := by
  rw [← bind_pure_comp]
  exact understands.bind fun value _ => .pure (f value)

/-- The elements of a list mean the elements of the result. A refusal of one is a refusal of the
list, as the rest is not looked at. -/
theorem Understands.mapM {γ : Type v} {parse : γ → Except ε α} {means : γ → α → Prop}
    (inputs : List γ) (each : ∀ input ∈ inputs, Understands refusal (parse input) (means input)) :
    Understands refusal (inputs.mapM parse) (List.Forall₂ means inputs) := by
  induction inputs with
  | nil => exact (Understands.pure []).congr fun _ => List.forall₂_nil_left_iff.symm
  | cons input rest inductionHypothesis =>
    rw [List.mapM_cons]
    have there := inductionHypothesis fun other member => each other (List.mem_cons_of_mem _ member)
    refine ((each input List.mem_cons_self).bind fun first _ => there.bind fun others _ => .pure _).congr ?_
    intro values
    rw [List.forall₂_cons_left_iff]
    constructor
    · rintro ⟨first, here, others, there, rfl⟩
      exact ⟨first, others, here, there, rfl⟩
    · rintro ⟨first, others, here, there, rfl⟩
      exact ⟨first, here, others, there, rfl⟩

/-- What is in the result is meant by an input. -/
theorem exists_meaning {γ : Type v} {means : γ → α → Prop} {inputs : List γ} {values : List α}
    (each : List.Forall₂ means inputs values) {value : α} (member : value ∈ values) :
    ∃ input ∈ inputs, means input value := by
  induction each with
  | nil => cases member
  | cons here there inductionHypothesis =>
    rcases List.mem_cons.mp member with rfl | later
    · exact ⟨_, List.mem_cons_self, here⟩
    · obtain ⟨input, inside, meant⟩ := inductionHypothesis later
      exact ⟨input, List.mem_cons_of_mem _ inside, meant⟩

end Meanings
