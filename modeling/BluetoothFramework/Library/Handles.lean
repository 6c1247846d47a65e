import Mathlib.Data.Finset.Basic
import Mathlib.Data.Finset.Lattice.Lemmas

/-!
# Handles that are handed out and given up

An owner is handed a handle, uses it, and gives it up by closing it or by passing it on
to another owner. A handle that is given up may be handed out anew, so a handle is
followed through its tenures: the events from one handing to the next.

The discipline has two halves. Every tenure ends exactly once (`GivenUpOnce`), and
nothing is used after it (`UnusedAfter`). Both look ahead in the trace of events. The
ledger looks back, at what is held when an event happens, and `disciplined_iff` says
when the two views agree: the handles handed out are not held already, and the owner
touches only handles that it was once handed.
-/

namespace Handles

universe u
variable {Handle : Type u} [DecidableEq Handle]

/-- What happens to a handle. -/
inductive Event (Handle : Type u) where
  | handed (handle : Handle)
  | used (handle : Handle)
  | closed (handle : Handle)
  | passed (handle : Handle)
deriving DecidableEq, Repr

/-! ## Looking ahead -/

/-- The events until the handle is handed out anew. -/
def tenure (handle : Handle) (events : List (Event Handle)) : List (Event Handle) :=
  events.takeWhile (· ≠ .handed handle)

/-- How often the events give the handle up. -/
def endings (handle : Handle) (events : List (Event Handle)) : Nat :=
  events.count (.closed handle) + events.count (.passed handle)

/-- Every handle handed out is given up exactly once before it is handed out anew. -/
def GivenUpOnce : List (Event Handle) → Prop
  | [] => True
  | .handed handle :: rest => endings handle (tenure handle rest) = 1 ∧ GivenUpOnce rest
  | .used _ :: rest => GivenUpOnce rest
  | .closed _ :: rest => GivenUpOnce rest
  | .passed _ :: rest => GivenUpOnce rest

/-- No handle is used after it is given up, unless it is handed out anew. -/
def UnusedAfter : List (Event Handle) → Prop
  | [] => True
  | .handed _ :: rest => UnusedAfter rest
  | .used _ :: rest => UnusedAfter rest
  | .closed handle :: rest => .used handle ∉ tenure handle rest ∧ UnusedAfter rest
  | .passed handle :: rest => .used handle ∉ tenure handle rest ∧ UnusedAfter rest

instance decidableGivenUpOnce : (events : List (Event Handle)) → Decidable (GivenUpOnce events)
  | [] => isTrue trivial
  | .handed handle :: rest =>
      have := decidableGivenUpOnce rest
      inferInstanceAs (Decidable (endings handle (tenure handle rest) = 1 ∧ GivenUpOnce rest))
  | .used _ :: rest => decidableGivenUpOnce rest
  | .closed _ :: rest => decidableGivenUpOnce rest
  | .passed _ :: rest => decidableGivenUpOnce rest

instance decidableUnusedAfter : (events : List (Event Handle)) → Decidable (UnusedAfter events)
  | [] => isTrue trivial
  | .handed _ :: rest => decidableUnusedAfter rest
  | .used _ :: rest => decidableUnusedAfter rest
  | .closed handle :: rest =>
      have := decidableUnusedAfter rest
      inferInstanceAs (Decidable (.used handle ∉ tenure handle rest ∧ UnusedAfter rest))
  | .passed handle :: rest =>
      have := decidableUnusedAfter rest
      inferInstanceAs (Decidable (.used handle ∉ tenure handle rest ∧ UnusedAfter rest))

/-! ## Looking back -/

/-- The handles that are held, and those ever handed out. -/
structure Ledger (Handle : Type u) where
  held : Finset Handle := ∅
  seen : Finset Handle := ∅
deriving DecidableEq

namespace Ledger

/-- The ledger after an event. -/
def enter (ledger : Ledger Handle) : Event Handle → Ledger Handle
  | .handed handle => ⟨insert handle ledger.held, insert handle ledger.seen⟩
  | .used _ => ledger
  | .closed handle => ⟨ledger.held.erase handle, ledger.seen⟩
  | .passed handle => ⟨ledger.held.erase handle, ledger.seen⟩

/-- The ledger after some events. -/
def enterAll (ledger : Ledger Handle) (events : List (Event Handle)) : Ledger Handle :=
  events.foldl enter ledger

/-- A handle handed out is not held. -/
def Fresh (ledger : Ledger Handle) : Event Handle → Prop
  | .handed handle => handle ∉ ledger.held
  | _ => True

/-- A handle that is touched was handed out once. -/
def Known (ledger : Ledger Handle) : Event Handle → Prop
  | .handed _ => True
  | .used handle => handle ∈ ledger.seen
  | .closed handle => handle ∈ ledger.seen
  | .passed handle => handle ∈ ledger.seen

/-- A handle that is touched is held. -/
def Held (ledger : Ledger Handle) : Event Handle → Prop
  | .handed _ => True
  | .used handle => handle ∈ ledger.held
  | .closed handle => handle ∈ ledger.held
  | .passed handle => handle ∈ ledger.held

instance (ledger : Ledger Handle) : DecidablePred ledger.Fresh
  | .handed handle => inferInstanceAs (Decidable (handle ∉ ledger.held))
  | .used _ => isTrue trivial
  | .closed _ => isTrue trivial
  | .passed _ => isTrue trivial

/-- Every event has the property with respect to the ledger it is entered in. -/
def Along (property : Ledger Handle → Event Handle → Prop) :
    Ledger Handle → List (Event Handle) → Prop
  | _, [] => True
  | ledger, event :: rest => property ledger event ∧ Along property (ledger.enter event) rest

instance decidableAlong (property : Ledger Handle → Event Handle → Prop)
    [∀ ledger, DecidablePred (property ledger)] :
    (ledger : Ledger Handle) → (events : List (Event Handle)) →
      Decidable (Along property ledger events)
  | _, [] => isTrue trivial
  | ledger, event :: rest =>
      have := decidableAlong property (ledger.enter event) rest
      inferInstanceAs (Decidable (property ledger event ∧ Along property (ledger.enter event) rest))

/-- Entering two lists of events is entering the one after the other. -/
@[simp] theorem enterAll_append (ledger : Ledger Handle) (first second : List (Event Handle)) :
    ledger.enterAll (first ++ second) = (ledger.enterAll first).enterAll second :=
  List.foldl_append

/-- A property along two lists is one along the first, and along the second from where the first
has led. -/
theorem along_append (property : Ledger Handle → Event Handle → Prop) (ledger : Ledger Handle)
    (first second : List (Event Handle)) :
    Along property ledger (first ++ second) ↔
      Along property ledger first ∧ Along property (ledger.enterAll first) second := by
  induction first generalizing ledger with
  | nil => simp [Along, enterAll]
  | cons event rest inductionHypothesis =>
    simp only [List.cons_append, Along, inductionHypothesis, and_assoc]
    rfl

/-- What was handed out once stays recorded. -/
theorem seen_subset_enterAll (ledger : Ledger Handle) (events : List (Event Handle)) :
    ledger.seen ⊆ (ledger.enterAll events).seen := by
  induction events generalizing ledger with
  | nil => exact Finset.Subset.refl _
  | cons event rest inductionHypothesis =>
    have first : ledger.seen ⊆ (ledger.enter event).seen := by
      cases event with
      | handed handle => exact Finset.subset_insert handle ledger.seen
      | used | closed | passed => exact Finset.Subset.refl _
    exact first.trans (inductionHypothesis _)

/-- The events are uses of these handles. -/
def Uses (handles : Finset Handle) (events : List (Event Handle)) : Prop :=
  ∀ event ∈ events, ∃ handle ∈ handles, event = .used handle

/-- Uses leave the ledger as it is. -/
theorem enterAll_uses {handles : Finset Handle} {events : List (Event Handle)}
    (uses : Uses handles events) (ledger : Ledger Handle) : ledger.enterAll events = ledger := by
  induction events with
  | nil => rfl
  | cons event rest inductionHypothesis =>
    obtain ⟨handle, -, rfl⟩ := uses event List.mem_cons_self
    exact inductionHypothesis fun later among => uses later (List.mem_cons_of_mem _ among)

/-- What the ledger allows for each of the handles holds along their uses. -/
theorem along_uses {property : Ledger Handle → Event Handle → Prop} {handles : Finset Handle}
    {events : List (Event Handle)} (uses : Uses handles events) {ledger : Ledger Handle}
    (allowed : ∀ handle ∈ handles, property ledger (.used handle)) :
      Along property ledger events := by
  induction events with
  | nil => trivial
  | cons event rest inductionHypothesis =>
    obtain ⟨handle, among, rfl⟩ := uses event List.mem_cons_self
    exact ⟨allowed handle among,
      inductionHypothesis fun later isLater => uses later (List.mem_cons_of_mem _ isLater)⟩

/-- A use among the events is allowed for by the ledger they start with. -/
theorem along_uses_mem {property : Ledger Handle → Event Handle → Prop} {handles : Finset Handle}
    {events : List (Event Handle)} (uses : Uses handles events) {ledger : Ledger Handle}
    (along : Along property ledger events) {event : Event Handle} (among : event ∈ events) :
    property ledger event := by
  induction events with
  | nil => cases among
  | cons first rest inductionHypothesis =>
    obtain ⟨handle, -, rfl⟩ := uses first List.mem_cons_self
    rcases List.mem_cons.mp among with rfl | later
    · exact along.1
    · exact inductionHypothesis (fun event isLater => uses event (List.mem_cons_of_mem _ isLater))
        along.2 later

/-- Handles that are handed out are held, beside those held before. -/
theorem held_enterAll_handed (ledger : Ledger Handle) (handles : List Handle) :
    (ledger.enterAll (handles.map .handed)).held = ledger.held ∪ handles.toFinset := by
  induction handles generalizing ledger with
  | nil => simp [enterAll]
  | cons handle rest inductionHypothesis =>
    have later := inductionHypothesis (ledger.enter (.handed handle))
    change ((ledger.enter (.handed handle)).enterAll (rest.map .handed)).held = _
    rw [later, List.toFinset_cons]
    exact Finset.insert_union_comm _ _ _

/-- Handing out handles adds them to those that were seen. -/
theorem seen_enterAll_handed (ledger : Ledger Handle) (handles : List Handle) :
    (ledger.enterAll (handles.map .handed)).seen = ledger.seen ∪ handles.toFinset := by
  induction handles generalizing ledger with
  | nil => simp [enterAll]
  | cons handle rest inductionHypothesis =>
    have later := inductionHypothesis (ledger.enter (.handed handle))
    change ((ledger.enter (.handed handle)).enterAll (rest.map .handed)).seen = _
    rw [later, List.toFinset_cons]
    exact Finset.insert_union_comm _ _ _

/-- What is allowed for every handle that is handed out is allowed for a list of them. -/
theorem along_handed {property : Ledger Handle → Event Handle → Prop}
    (allowed : ∀ ledger handle, property ledger (.handed handle)) (ledger : Ledger Handle)
    (handles : List Handle) : Along property ledger (handles.map .handed) := by
  induction handles generalizing ledger with
  | nil => trivial
  | cons handle rest inductionHypothesis => exact ⟨allowed ledger handle, inductionHypothesis _⟩

/-- A handle that comes in, is perhaps used and is given up again leaves what is held as it was. -/
theorem enterAll_visit {handles : Finset Handle} {handle : Handle} {middle : List (Event Handle)}
    {last : Event Handle} (uses : Uses handles middle)
    (ends : last = .closed handle ∨ last = .passed handle)
    {ledger : Ledger Handle} (fresh : handle ∉ ledger.held) :
    ledger.enterAll (.handed handle :: (middle ++ [last])) =
      ⟨ledger.held, insert handle ledger.seen⟩ := by
  change (ledger.enter (.handed handle)).enterAll (middle ++ [last]) = _
  rw [enterAll_append, enterAll_uses uses]
  have removed : (insert handle ledger.held).erase handle = ledger.held := Finset.erase_insert fresh
  rcases ends with rfl | rfl <;> exact congrArg (Ledger.mk · (insert handle ledger.seen)) removed

/-- Such a visit is allowed where the uses are and the end is. -/
theorem along_visit {property : Ledger Handle → Event Handle → Prop} {handles : Finset Handle}
    {handle : Handle} {middle : List (Event Handle)} {last : Event Handle}
    (uses : Uses handles middle) {ledger : Ledger Handle} (first : property ledger (.handed handle))
    (allowed : ∀ other ∈ handles, property (ledger.enter (.handed handle)) (.used other))
    (ends : property (ledger.enter (.handed handle)) last) :
    Along property ledger (.handed handle :: (middle ++ [last])) := by
  refine ⟨first, ?_⟩
  rw [along_append, enterAll_uses uses]
  exact ⟨along_uses uses allowed, ends, trivial⟩

end Ledger

/-! ## The two views -/

open Ledger

/-- A handle that is handed out again has no tenure before that. -/
@[simp] theorem tenure_handed (handle : Handle) (rest : List (Event Handle)) :
    tenure handle (.handed handle :: rest) = [] := by
  simp [tenure]

/-- Any other event belongs to the tenure. -/
theorem tenure_cons {handle : Handle} {event : Event Handle} (other : event ≠ .handed handle)
    (rest : List (Event Handle)) : tenure handle (event :: rest) = event :: tenure handle rest := by
  simp [tenure, other]

/-- A handle that is held is given up once. -/
def Due (handle : Handle) (events : List (Event Handle)) : Prop :=
  endings handle (tenure handle events) = 1

/-- A handle that is not held is left alone. -/
def Untouched (handle : Handle) (events : List (Event Handle)) : Prop :=
  endings handle (tenure handle events) = 0 ∧ .used handle ∉ tenure handle events

/-- What the events still owe to a ledger. -/
structure Owed (ledger : Ledger Handle) (events : List (Event Handle)) : Prop where
  givenUpOnce : GivenUpOnce events
  unusedAfter : UnusedAfter events
  due : ∀ handle ∈ ledger.held, Due handle events
  untouched : ∀ handle ∈ ledger.seen, handle ∉ ledger.held → Untouched handle events

/-- Handing out another handle changes nothing of what is due. -/
theorem due_handed {handle other : Handle} (distinct : other ≠ handle)
    (rest : List (Event Handle)) :
    Due other (.handed handle :: rest) ↔ Due other rest := by
  rw [Due, tenure_cons (by simpa using distinct.symm)]
  simp [Due, endings]

/-- The use of a handle ends nothing that is due. -/
theorem due_used (handle other : Handle) (rest : List (Event Handle)) :
    Due other (.used handle :: rest) ↔ Due other rest := by
  rw [Due, tenure_cons (by simp)]
  simp [Due, endings]

/-- Handing out another handle does not touch this one. -/
theorem untouched_handed {handle other : Handle} (distinct : other ≠ handle)
    (rest : List (Event Handle)) :
    Untouched other (.handed handle :: rest) ↔ Untouched other rest := by
  rw [Untouched, tenure_cons (by simpa using distinct.symm)]
  simp [Untouched, endings]

/-- A use touches the handle that is used, and no other. -/
theorem untouched_used (handle other : Handle) (rest : List (Event Handle)) :
    Untouched other (.used handle :: rest) ↔ other ≠ handle ∧ Untouched other rest := by
  rw [Untouched, tenure_cons (by simp)]
  simp [Untouched, endings]
  tauto

/-- An event that gives a handle up. -/
def Ends (handle : Handle) (event : Event Handle) : Prop :=
  event = .closed handle ∨ event = .passed handle

/-- The handle is given up once here, so nothing is left to do for it. -/
theorem due_ends {handle : Handle} {event : Event Handle} (ends : Ends handle event)
    (rest : List (Event Handle)) :
    Due handle (event :: rest) ↔ endings handle (tenure handle rest) = 0 := by
  rcases ends with rfl | rfl <;> rw [Due, tenure_cons (by simp)] <;> simp [endings] <;> omega

/-- The end of one handle changes nothing of what is due of another. -/
theorem due_ends_other {handle other : Handle} {event : Event Handle} (ends : Ends handle event)
    (distinct : other ≠ handle) (rest : List (Event Handle)) :
    Due other (event :: rest) ↔ Due other rest := by
  rcases ends with rfl | rfl <;> rw [Due, tenure_cons (by simp)] <;> simp [Due, endings, distinct.symm]

/-- An end touches the handle that ends, and no other. -/
theorem untouched_ends {handle other : Handle} {event : Event Handle} (ends : Ends handle event)
    (rest : List (Event Handle)) :
    Untouched other (event :: rest) ↔ other ≠ handle ∧ Untouched other rest := by
  by_cases same : other = handle
  · subst same
    refine iff_of_false ?_ (fun owes => owes.1 rfl)
    rcases ends with rfl | rfl <;> rw [Untouched, tenure_cons (by simp)] <;> simp [endings]
  · rcases ends with rfl | rfl <;> rw [Untouched, tenure_cons (by simp)] <;>
      simp [Untouched, endings, same, Ne.symm same]

/-- Handing out a fresh handle makes it due. -/
theorem owed_handed {ledger : Ledger Handle} {handle : Handle} (fresh : handle ∉ ledger.held)
    (rest : List (Event Handle)) :
    Owed ledger (.handed handle :: rest) ↔ Owed (ledger.enter (.handed handle)) rest := by
  constructor
  · rintro ⟨⟨once, givenUpOnce⟩, unusedAfter, due, untouched⟩
    refine ⟨givenUpOnce, unusedAfter, ?_, ?_⟩
    · intro other holds
      rcases Finset.mem_insert.mp holds with rfl | earlier
      · exact once
      · exact (due_handed (ne_of_mem_of_not_mem earlier fresh) rest).mp (due other earlier)
    · intro other known released
      obtain ⟨distinct, notHeld⟩ := not_or.mp (fun holds => released (Finset.mem_insert.mpr holds))
      have earlier : other ∈ ledger.seen := (Finset.mem_insert.mp known).resolve_left distinct
      exact (untouched_handed distinct rest).mp (untouched other earlier notHeld)
  · rintro ⟨givenUpOnce, unusedAfter, due, untouched⟩
    refine ⟨⟨due handle (Finset.mem_insert_self _ _), givenUpOnce⟩, unusedAfter, ?_, ?_⟩
    · intro other holds
      rw [due_handed (ne_of_mem_of_not_mem holds fresh)]
      exact due other (Finset.mem_insert_of_mem holds)
    · intro other known notHeld
      by_cases same : other = handle
      · subst same
        simp [Untouched, endings]
      · rw [untouched_handed same]
        apply untouched other (Finset.mem_insert_of_mem known)
        intro holds
        exact notHeld ((Finset.mem_insert.mp holds).resolve_left same)

/-- A use has to be of a handle that is held. It changes nothing in the ledger, so what is owed
afterwards is what was owed before. -/
theorem owed_used {ledger : Ledger Handle} {handle : Handle} (known : handle ∈ ledger.seen)
    (rest : List (Event Handle)) :
    Owed ledger (.used handle :: rest) ↔ handle ∈ ledger.held ∧ Owed ledger rest := by
  constructor
  · rintro ⟨givenUpOnce, unusedAfter, due, untouched⟩
    refine ⟨?_, givenUpOnce, unusedAfter, ?_, ?_⟩
    · by_contra released
      exact ((untouched_used handle handle rest).mp (untouched handle known released)).1 rfl
    · intro other holds
      exact (due_used handle other rest).mp (due other holds)
    · intro other seen notHeld
      exact ((untouched_used handle other rest).mp (untouched other seen notHeld)).2
  · rintro ⟨holds, givenUpOnce, unusedAfter, due, untouched⟩
    refine ⟨givenUpOnce, unusedAfter, ?_, ?_⟩
    · intro other otherHolds
      exact (due_used handle other rest).mpr (due other otherHolds)
    · intro other seen notHeld
      rw [untouched_used]
      exact ⟨(ne_of_mem_of_not_mem holds notHeld).symm, untouched other seen notHeld⟩

/-- Giving up has to be of a handle that is held, and leaves nothing to do for it. -/
theorem owed_ends {ledger : Ledger Handle} {handle : Handle} {event : Event Handle}
    (ends : Ends handle event) (known : handle ∈ ledger.seen) (rest : List (Event Handle)) :
    Owed ledger (event :: rest) ↔
      handle ∈ ledger.held ∧ Owed ⟨ledger.held.erase handle, ledger.seen⟩ rest := by
  have once : GivenUpOnce (event :: rest) ↔ GivenUpOnce rest := by
    rcases ends with rfl | rfl <;> rfl
  have after : UnusedAfter (event :: rest) ↔ .used handle ∉ tenure handle rest ∧ UnusedAfter rest := by
    rcases ends with rfl | rfl <;> rfl
  constructor
  · rintro ⟨givenUpOnce, unusedAfter, due, untouched⟩
    have holds : handle ∈ ledger.held := by
      by_contra released
      exact ((untouched_ends ends rest).mp (untouched handle known released)).1 rfl
    refine ⟨holds, once.mp givenUpOnce, (after.mp unusedAfter).2, ?_, ?_⟩
    · intro other otherHolds
      obtain ⟨distinct, stays⟩ := Finset.mem_erase.mp otherHolds
      exact (due_ends_other ends distinct rest).mp (due other stays)
    · intro other seen notHeld
      by_cases same : other = handle
      · subst same
        exact ⟨(due_ends ends rest).mp (due other holds), (after.mp unusedAfter).1⟩
      · have earlier : other ∉ ledger.held := fun stays => notHeld (Finset.mem_erase.mpr ⟨same, stays⟩)
        exact ((untouched_ends ends rest).mp (untouched other seen earlier)).2
  · rintro ⟨holds, givenUpOnce, unusedAfter, due, untouched⟩
    have alone : Untouched handle rest := untouched handle known (Finset.notMem_erase _ _)
    refine ⟨once.mpr givenUpOnce, after.mpr ⟨alone.2, unusedAfter⟩, ?_, ?_⟩
    · intro other stays
      by_cases same : other = handle
      · subst same
        exact (due_ends ends rest).mpr alone.1
      · exact (due_ends_other ends same rest).mpr (due other (Finset.mem_erase.mpr ⟨same, stays⟩))
    · intro other seen notHeld
      rw [untouched_ends ends]
      refine ⟨(ne_of_mem_of_not_mem holds notHeld).symm, untouched other seen ?_⟩
      exact fun stays => notHeld (Finset.mem_of_mem_erase stays)

/-- What is held was handed out. -/
theorem recorded_enter {ledger : Ledger Handle} (recorded : ledger.held ⊆ ledger.seen)
    (event : Event Handle) : (ledger.enter event).held ⊆ (ledger.enter event).seen := by
  cases event with
  | handed handle => exact Finset.insert_subset_insert handle recorded
  | used handle => exact recorded
  | closed handle => exact (Finset.erase_subset _ _).trans recorded
  | passed handle => exact (Finset.erase_subset _ _).trans recorded

/-- What is owed is paid exactly when every event is on a handle that is held and nothing
is held in the end. -/
theorem owed_iff (ledger : Ledger Handle) (events : List (Event Handle))
    (fresh : Along Fresh ledger events) (known : Along Known ledger events)
    (recorded : ledger.held ⊆ ledger.seen) :
    Owed ledger events ↔ Along Held ledger events ∧ (ledger.enterAll events).held = ∅ := by
  induction events generalizing ledger with
  | nil =>
    constructor
    · rintro ⟨-, -, due, -⟩
      refine ⟨trivial, Finset.eq_empty_of_forall_notMem fun handle holds => ?_⟩
      exact absurd (due handle holds) (by simp [Due, endings, tenure])
    · rintro ⟨-, nothing⟩
      change ledger.held = ∅ at nothing
      refine ⟨trivial, trivial, ?_, fun handle _ _ => by simp [Untouched, endings, tenure]⟩
      intro handle holds
      rw [nothing] at holds
      cases holds
  | cons event rest inductionHypothesis =>
    have here : Owed ledger (event :: rest) ↔ ledger.Held event ∧ Owed (ledger.enter event) rest := by
      cases event with
      | handed handle => exact (owed_handed fresh.1 rest).trans (and_iff_right trivial).symm
      | used handle => exact owed_used known.1 rest
      | closed handle => exact owed_ends (.inl rfl) known.1 rest
      | passed handle => exact owed_ends (.inr rfl) known.1 rest
    have later := inductionHypothesis (ledger.enter event) fresh.2 known.2 (recorded_enter recorded event)
    rw [here, later, ← and_assoc]
    rfl

/-- Where fresh handles are handed out and only those are touched, every handle is given up
exactly once and not used afterwards exactly when every event is on a handle that is held
and nothing is held in the end. -/
theorem disciplined_iff (events : List (Event Handle)) (fresh : Along Fresh {} events)
    (known : Along Known {} events) :
    GivenUpOnce events ∧ UnusedAfter events ↔
      Along Held {} events ∧ (enterAll {} events).held = ∅ := by
  rw [← owed_iff {} events fresh known (Finset.Subset.refl _)]
  constructor
  · rintro ⟨givenUpOnce, unusedAfter⟩
    refine ⟨givenUpOnce, unusedAfter, ?_, ?_⟩
    · intro handle holds
      cases holds
    · intro handle seen
      cases seen
  · intro owed
    exact ⟨owed.givenUpOnce, owed.unusedAfter⟩

end Handles
