import Mathlib.Tactic.Common

/-!
# Finite runs of a labelled partial step

A system is a partial step function: a label is enabled in a state exactly when
the step returns a next state. A run is a list of labels; it is taken only when
every label is enabled in turn. Nothing here fixes who chooses the labels, so a
statement about all label lists ranges over every interleaving.

`Always` speaks about every state of a run, `Meets` about every step of it. The
rules below carry an invariant along a run, possibly only through the steps that
meet a guard, and compare the two views: `always_iff_meets` says a state property
holds throughout exactly when every step meets the guard that characterizes it.

`tally` counts the steps of one kind. Where exactly these raise a quantity, by one, the
quantity at the end of a run is the one at its start and the count (`measured_last`).
-/

namespace Runs

universe u v
variable {State : Type u} {Label : Type v}

/-- Follow the labels; a label that is not enabled ends the run with `none`. -/
def run (step : State → Label → Option State) : State → List Label → Option State
  | state, [] => some state
  | state, label :: rest =>
      match step state label with
      | none => none
      | some next => run step next rest

/-- The property holds in the first state and in every state reached. -/
def Always (step : State → Label → Option State) (property : State → Prop) :
    State → List Label → Prop
  | state, [] => property state
  | state, label :: rest => property state ∧
      match step state label with
      | none => True
      | some next => Always step property next rest

/-- Every step taken meets the guard in the state it is taken in. -/
def Meets (step : State → Label → Option State) (guard : State → Label → Prop) :
    State → List Label → Prop
  | _, [] => True
  | state, label :: rest =>
      match step state label with
      | none => True
      | some next => guard state label ∧ Meets step guard next rest

instance decidableMeets (step : State → Label → Option State) (guard : State → Label → Prop)
    [∀ state label, Decidable (guard state label)] :
    (state : State) → (labels : List Label) → Decidable (Meets step guard state labels)
  | _, [] => isTrue trivial
  | state, label :: rest =>
      match enabled : step state label with
      | none => isTrue (by simp [Meets, enabled])
      | some next =>
          have := decidableMeets step guard next rest
          decidable_of_iff (guard state label ∧ Meets step guard next rest)
            (by simp [Meets, enabled])

instance decidableAlways (step : State → Label → Option State) (property : State → Prop)
    [∀ state, Decidable (property state)] :
    (state : State) → (labels : List Label) → Decidable (Always step property state labels)
  | state, [] => inferInstanceAs (Decidable (property state))
  | state, label :: rest =>
      match enabled : step state label with
      | none => decidable_of_iff (property state) (by simp [Always, enabled])
      | some next =>
          have := decidableAlways step property next rest
          decidable_of_iff (property state ∧ Always step property next rest) (by simp [Always, enabled])

variable {step : State → Label → Option State}

/-- A run goes on from the state its first step reaches. -/
theorem run_cons {state next : State} {label : Label} (enabled : step state label = some next)
    (rest : List Label) : run step state (label :: rest) = run step next rest := by
  rw [run, enabled]

/-- A run that begins with a label that is not enabled is not taken. -/
theorem run_blocked {state : State} {label : Label} (blocked : step state label = none)
    (rest : List Label) : run step state (label :: rest) = none := by
  rw [run, blocked]

/-- A run that begins with a label takes it and goes on from there. -/
theorem run_cons_eq_some {state last : State} {label : Label} {rest : List Label}
    (reached : run step state (label :: rest) = some last) :
    ∃ next, step state label = some next ∧ run step next rest = some last := by
  cases enabled : step state label with
  | none =>
    rw [run_blocked enabled] at reached
    cases reached
  | some next =>
    rw [run_cons enabled] at reached
    exact ⟨next, rfl, reached⟩

/-- A property holds along a run exactly if it holds now and along what follows the first step.
-/
theorem always_cons {property : State → Prop} {state next : State} {label : Label}
    (enabled : step state label = some next) (rest : List Label) :
    Always step property state (label :: rest) ↔
      property state ∧ Always step property next rest := by
  rw [Always, enabled]

/-- Where the first label is not enabled, only the present state counts. -/
theorem always_blocked {property : State → Prop} {state : State} {label : Label}
    (blocked : step state label = none) (rest : List Label) :
    Always step property state (label :: rest) ↔ property state := by
  rw [Always, blocked, and_true]

/-- A run meets a guard exactly if its first step does and what follows does. -/
theorem meets_cons {guard : State → Label → Prop} {state next : State} {label : Label}
    (enabled : step state label = some next) (rest : List Label) :
    Meets step guard state (label :: rest) ↔ guard state label ∧ Meets step guard next rest := by
  rw [Meets, enabled]

/-- Nothing is asked of a label that is not enabled. -/
theorem meets_blocked {guard : State → Label → Prop} {state : State} {label : Label}
    (blocked : step state label = none) (rest : List Label) :
    Meets step guard state (label :: rest) := by
  rw [Meets, blocked]
  trivial

/-- A property holds in the first state of a run if it holds all along. -/
theorem always_first {property : State → Prop} {state : State} {labels : List Label}
    (always : Always step property state labels) : property state := by
  cases labels with
  | nil => exact always
  | cons _ _ => exact always.1

/-- In a guarded run every step has any further property that the invariant and
the guard give it. -/
theorem guarded_steps {invariant : State → Prop} {guard good : State → Label → Prop}
    (preserved : ∀ state label next, invariant state → guard state label →
      step state label = some next → invariant next)
    (implied : ∀ state label next, invariant state → guard state label →
      step state label = some next → good state label)
    (state : State) (labels : List Label) (start : invariant state)
    (guarded : Meets step guard state labels) : Meets step good state labels := by
  induction labels generalizing state with
  | nil => trivial
  | cons label rest inductionHypothesis =>
    cases enabled : step state label with
    | none => exact meets_blocked enabled rest
    | some next =>
      obtain ⟨here, later⟩ := (meets_cons enabled rest).mp guarded
      rw [meets_cons enabled]
      constructor
      · exact implied state label next start here enabled
      · exact inductionHypothesis next (preserved state label next start here enabled) later

/-- Where the invariant makes a property of steps equivalent to the guard, a run has
the property throughout exactly when it is guarded throughout. -/
theorem meets_iff_meets {invariant : State → Prop} {guard good : State → Label → Prop}
    (preserved : ∀ state label next, invariant state → guard state label →
      step state label = some next → invariant next)
    (equivalent : ∀ state label next, invariant state → step state label = some next →
      (good state label ↔ guard state label))
    (state : State) (labels : List Label) (start : invariant state) :
    Meets step good state labels ↔ Meets step guard state labels := by
  induction labels generalizing state with
  | nil => rfl
  | cons label rest inductionHypothesis =>
    cases enabled : step state label with
    | none => exact iff_of_true (meets_blocked enabled rest) (meets_blocked enabled rest)
    | some next =>
      rw [meets_cons enabled, meets_cons enabled, equivalent state label next start enabled]
      apply and_congr_right
      intro guarded
      exact inductionHypothesis next (preserved state label next start guarded enabled)

/-- A guarded run keeps any property of states that the invariant gives it. The invariant itself
may be stronger, and need not be decidable. -/
theorem guarded_always {invariant property : State → Prop} {guard : State → Label → Prop}
    (preserved : ∀ state label next, invariant state → guard state label →
      step state label = some next → invariant next)
    (implied : ∀ state, invariant state → property state)
    (state : State) (labels : List Label) (start : invariant state)
    (guarded : Meets step guard state labels) : Always step property state labels := by
  induction labels generalizing state with
  | nil => exact implied state start
  | cons label rest inductionHypothesis =>
    cases enabled : step state label with
    | none => exact (always_blocked enabled rest).mpr (implied state start)
    | some next =>
      obtain ⟨here, later⟩ := (meets_cons enabled rest).mp guarded
      rw [always_cons enabled]
      constructor
      · exact implied state start
      · exact inductionHypothesis next (preserved state label next start here enabled) later

/-- Let a step from a state with the property keep it and be good exactly when the step
meets the guard. Then the property holds all along a run and every step is good exactly
when all steps meet the guard. The auxiliary invariant is one that every step preserves. -/
theorem always_good_iff_meets {property invariant : State → Prop}
    {good guard : State → Label → Prop} (preserved : ∀ state label next, invariant state →
      step state label = some next → invariant next)
    (characterized : ∀ state label next, invariant state → property state →
      step state label = some next → (property next ∧ good state label ↔ guard state label))
    (state : State) (labels : List Label) (start : invariant state) (holds : property state) :
    Always step property state labels ∧ Meets step good state labels ↔
      Meets step guard state labels := by
  induction labels generalizing state with
  | nil => exact iff_of_true ⟨holds, trivial⟩ trivial
  | cons label rest inductionHypothesis =>
    cases enabled : step state label with
    | none =>
      have ended : Always step property state (label :: rest) := (always_blocked enabled rest).mpr holds
      exact iff_of_true ⟨ended, meets_blocked enabled rest⟩ (meets_blocked enabled rest)
    | some next =>
      have kept := characterized state label next start holds enabled
      have continued := inductionHypothesis next (preserved state label next start enabled)
      rw [always_cons enabled, meets_cons enabled, meets_cons enabled, and_iff_right holds]
      constructor
      · rintro ⟨always, here, later⟩
        have nextHolds : property next := always_first always
        exact ⟨kept.mp ⟨nextHolds, here⟩, (continued nextHolds).mp ⟨always, later⟩⟩
      · rintro ⟨here, later⟩
        obtain ⟨nextHolds, isGood⟩ := kept.mpr here
        obtain ⟨always, goodLater⟩ := (continued nextHolds).mpr later
        exact ⟨always, isGood, goodLater⟩

/-- Nothing is asked by a guard that every step meets. -/
theorem meets_of_forall {guard : State → Label → Prop} (free : ∀ state label, guard state label)
    (state : State) (labels : List Label) : Meets step guard state labels := by
  induction labels generalizing state with
  | nil => trivial
  | cons label rest inductionHypothesis =>
    cases enabled : step state label with
    | none => exact meets_blocked enabled rest
    | some next => exact (meets_cons enabled rest).mpr ⟨free state label, inductionHypothesis next⟩

/-- Let a step from a state with the property keep it exactly when the step meets
the guard. Then the property holds all along a run exactly when all its steps meet
the guard. The auxiliary invariant is one that every step preserves. -/
theorem always_iff_meets {property invariant : State → Prop} {guard : State → Label → Prop}
    (preserved : ∀ state label next, invariant state →
      step state label = some next → invariant next)
    (characterized : ∀ state label next, invariant state → property state →
      step state label = some next → (property next ↔ guard state label))
    (state : State) (labels : List Label) (start : invariant state) (holds : property state) :
    Always step property state labels ↔ Meets step guard state labels := by
  have free : Meets step (fun _ _ => True) state labels := meets_of_forall (fun _ _ => trivial) state labels
  rw [← @always_good_iff_meets _ _ step property invariant (fun _ _ => True) guard preserved _ state labels
    start holds, and_iff_left free]
  intro state label next start holds enabled
  rw [and_true, characterized state label next start holds enabled]

/-- An invariant that steps preserve as long as a property holds comes along with it. This is for
invariants that are lost together with the property. -/
theorem always_with {property invariant : State → Prop}
    (preserved : ∀ state label next, property state → invariant state →
      step state label = some next → invariant next)
    {state : State} {labels : List Label} (start : invariant state)
    (always : Always step property state labels) :
    Always step (fun state => property state ∧ invariant state) state labels := by
  induction labels generalizing state with
  | nil => exact ⟨always, start⟩
  | cons label rest inductionHypothesis =>
    have holds : property state := always_first always
    cases enabled : step state label with
    | none => exact (always_blocked enabled rest).mpr ⟨holds, start⟩
    | some next =>
      have later : Always step property next rest := ((always_cons enabled rest).mp always).2
      have kept : invariant next := preserved state label next holds start enabled
      exact (always_cons enabled rest).mpr ⟨⟨holds, start⟩, inductionHypothesis kept later⟩

/-- What follows in every state follows all along. -/
theorem always_imp {property weaker : State → Prop}
    (implied : ∀ state, property state → weaker state)
    {state : State} {labels : List Label} (always : Always step property state labels) :
    Always step weaker state labels := by
  induction labels generalizing state with
  | nil => exact implied state always
  | cons label rest inductionHypothesis =>
    have holds : weaker state := implied state (always_first always)
    cases enabled : step state label with
    | none => exact (always_blocked enabled rest).mpr holds
    | some next =>
      exact (always_cons enabled rest).mpr ⟨holds, inductionHypothesis ((always_cons enabled rest).mp always).2⟩

/-- What holds of each member of a family all along a run holds of all of them all along it. -/
theorem always_forall {Index : Type*} {property : Index → State → Prop} {state : State}
    {labels : List Label} (each : ∀ index, Always step (property index) state labels) :
    Always step (fun state => ∀ index, property index state) state labels := by
  induction labels generalizing state with
  | nil => exact each
  | cons label rest inductionHypothesis =>
    have here (index : Index) : property index state := always_first (each index)
    cases enabled : step state label with
    | none => exact (always_blocked enabled rest).mpr here
    | some next =>
      have later (index : Index) := ((always_cons enabled rest).mp (each index)).2
      exact (always_cons enabled rest).mpr ⟨here, inductionHypothesis later⟩

/-- Where a state property gives a property of every step, a run that has the one has the
other. -/
theorem meets_of_always {property : State → Prop} {good : State → Label → Prop}
    (implied : ∀ state label, property state → good state label) {state : State}
    {labels : List Label}
    (always : Always step property state labels) : Meets step good state labels := by
  induction labels generalizing state with
  | nil => trivial
  | cons label rest inductionHypothesis =>
    cases enabled : step state label with
    | none => exact meets_blocked enabled rest
    | some next =>
      obtain ⟨here, later⟩ := (always_cons enabled rest).mp always
      exact (meets_cons enabled rest).mpr ⟨implied state label here, inductionHypothesis later⟩

/-- What holds all along a run holds where it ends. -/
theorem always_last {property : State → Prop} (state last : State) (labels : List Label)
    (always : Always step property state labels) (reached : run step state labels = some last) :
    property last := by
  induction labels generalizing state with
  | nil => exact Option.some.inj reached ▸ always
  | cons label rest inductionHypothesis =>
    obtain ⟨next, enabled, reached⟩ := run_cons_eq_some reached
    exact inductionHypothesis next ((always_cons enabled rest).mp always).2 reached

/-- What every step preserves holds where a run ends. -/
theorem preserved_last {invariant : State → Prop}
    (preserved : ∀ state label next, invariant state → step state label = some next → invariant next)
    (state last : State) (labels : List Label) (start : invariant state)
    (reached : run step state labels = some last) : invariant last := by
  induction labels generalizing state with
  | nil => exact Option.some.inj reached ▸ start
  | cons label rest inductionHypothesis =>
    obtain ⟨next, enabled, reached⟩ := run_cons_eq_some reached
    exact inductionHypothesis next (preserved state label next start enabled) reached

/-- Let a step end in the property exactly when it starts from the property and meets the
guard, so that the property is not regained once it is lost. Then a run ends in the
property exactly when it starts from it and all its steps meet the guard. -/
theorem last_iff_meets {property invariant : State → Prop} {guard : State → Label → Prop}
    (preserved : ∀ state label next, invariant state → step state label = some next → invariant next)
    (characterized : ∀ state label next, invariant state → step state label = some next →
      (property next ↔ property state ∧ guard state label))
    (state last : State) (labels : List Label) (start : invariant state)
    (reached : run step state labels = some last) :
    property last ↔ property state ∧ Meets step guard state labels := by
  induction labels generalizing state with
  | nil =>
    rw [Option.some.inj reached]
    exact (and_iff_left trivial).symm
  | cons label rest inductionHypothesis =>
    obtain ⟨next, enabled, reached⟩ := run_cons_eq_some reached
    have continued := inductionHypothesis next (preserved state label next start enabled) reached
    rw [continued, meets_cons enabled, characterized state label next start enabled, and_assoc]

/-- How many steps of a run are of a kind. -/
def tally (step : State → Label → Option State) (counts : State → Label → Bool) :
    State → List Label → Nat
  | _, [] => 0
  | state, label :: rest =>
      match step state label with
      | none => 0
      | some next => (if counts state label then 1 else 0) + tally step counts next rest

/-- The count along a run is that of the first step and of what follows. -/
theorem tally_cons {counts : State → Label → Bool} {state next : State} {label : Label}
    (enabled : step state label = some next) (rest : List Label) :
    tally step counts state (label :: rest) =
      (if counts state label then 1 else 0) + tally step counts next rest := by
  rw [tally, enabled]

/-- A quantity that the steps of a kind raise by one, and no others change, has grown by their
number at the end of a run. -/
theorem measured_last {invariant : State → Prop} {measure : State → Nat}
    {counts : State → Label → Bool}
    (preserved : ∀ state label next, invariant state → step state label = some next → invariant next)
    (raised : ∀ state label next, invariant state → step state label = some next →
      measure next = measure state + if counts state label then 1 else 0)
    (state last : State) (labels : List Label) (start : invariant state)
    (reached : run step state labels = some last) :
    measure last = measure state + tally step counts state labels := by
  induction labels generalizing state with
  | nil => rw [Option.some.inj reached, tally, Nat.add_zero]
  | cons label rest inductionHypothesis =>
    obtain ⟨next, enabled, reached⟩ := run_cons_eq_some reached
    have later := inductionHypothesis next (preserved state label next start enabled) reached
    rw [later, raised state label next start enabled, tally_cons enabled, Nat.add_assoc]

/-- All along a run the quantity is at most what it is at the end, since it never shrinks. So a
bound on the count bounds it in every state. -/
theorem measured_always {invariant : State → Prop} {measure : State → Nat}
    {counts : State → Label → Bool}
    (preserved : ∀ state label next, invariant state → step state label = some next → invariant next)
    (raised : ∀ state label next, invariant state → step state label = some next →
      measure next = measure state + if counts state label then 1 else 0)
    (state : State) (labels : List Label) (start : invariant state) (bound : Nat)
    (bounded : measure state + tally step counts state labels ≤ bound) :
    Always step (fun state => measure state ≤ bound) state labels := by
  induction labels generalizing state with
  | nil => exact bounded
  | cons label rest inductionHypothesis =>
    have here : measure state ≤ bound := Nat.le_trans (Nat.le_add_right _ _) bounded
    cases enabled : step state label with
    | none => exact (always_blocked enabled rest).mpr here
    | some next =>
      rw [tally_cons enabled, ← Nat.add_assoc, ← raised state label next start enabled] at bounded
      have kept : invariant next := preserved state label next start enabled
      exact (always_cons enabled rest).mpr ⟨here, inductionHypothesis next kept bounded⟩

end Runs
