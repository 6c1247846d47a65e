import BluetoothFramework.Library.Runs
import Mathlib.Logic.Function.Basic

/-!
# Threads under non-recursive mutexes

Each thread has a list of actions still to do: lock a mutex, unlock one, or make a
call. A call is replaced by its body, which may depend on the shared state and on an
answer of the environment and may change the shared state; the replacement is one
atomic step. A thread with nothing left to do may start any call the code offers as an
entry. Locking is enabled only while nobody owns the mutex, so a thread that asks for a
mutex of its own stays where it is forever.

`leaves` follows the brackets of an action list without running it. A `Discipline`
says which mutexes a thread may own when a call begins, innermost first, and tells the
calls whose bodies respect them from those whose bodies begin with a second request.
`never_own_iff` then decides a run by the calls it makes.
-/

namespace Mutexes

open Runs

inductive Action (Mutex Call : Type) where
  | lock (mutex : Mutex)
  | unlock (mutex : Mutex)
  | call (call : Call)
deriving DecidableEq

/-- The scope of a lock guard: the mutex is released on every way out of the body. -/
def guarded {Mutex Call : Type} (mutex : Mutex) (body : List (Action Mutex Call)) :
    List (Action Mutex Call) :=
  .lock mutex :: body ++ [.unlock mutex]

/-- What calls do, and which of them a thread may start with. -/
structure Code (Thread Mutex Call Answer Shared : Type) where
  isEntry : Call → Bool
  body : Thread → Answer → Call → Shared → List (Action Mutex Call) × Shared

structure State (Thread Mutex Call Shared : Type) where
  owner : Mutex → Option Thread
  pending : Thread → List (Action Mutex Call)
  shared : Shared

inductive Label (Thread Call Answer : Type) where
  | start (thread : Thread) (call : Call)
  | advance (thread : Thread) (answer : Answer)

variable {Thread Mutex Call Answer Shared : Type}

/-- One step of one thread. -/
def step [DecidableEq Thread] [DecidableEq Mutex] (code : Code Thread Mutex Call Answer Shared)
    (state : State Thread Mutex Call Shared) :
    Label Thread Call Answer → Option (State Thread Mutex Call Shared)
  | .start thread call =>
      if state.pending thread = [] ∧ code.isEntry call then
        some { state with pending := Function.update state.pending thread [.call call] }
      else none
  | .advance thread answer =>
      match state.pending thread with
      | [] => none
      | .lock mutex :: rest =>
          if state.owner mutex = none then
            some { state with
              owner := Function.update state.owner mutex (some thread)
              pending := Function.update state.pending thread rest }
          else none
      | .unlock mutex :: rest =>
          if state.owner mutex = some thread then
            some { state with
              owner := Function.update state.owner mutex none
              pending := Function.update state.pending thread rest }
          else none
      | .call call :: rest =>
          let (actions, shared) := code.body thread answer call state.shared
          some { state with
            pending := Function.update state.pending thread (actions ++ rest)
            shared := shared }

/-- No mutex is owned and no thread has anything to do. -/
def idle (shared : Shared) : State Thread Mutex Call Shared where
  owner _ := none
  pending _ := []
  shared := shared

/-- The thread asks next for a mutex that it owns. -/
def RequestsOwn (state : State Thread Mutex Call Shared) (thread : Thread) : Prop :=
  ∃ mutex, (state.pending thread).head? = some (.lock mutex) ∧ state.owner mutex = some thread

/-- No thread asks for a mutex that it owns. -/
def NeverOwn (state : State Thread Mutex Call Shared) : Prop :=
  ∀ thread, ¬ RequestsOwn state thread

/-- Threads that have nothing to do ask for no mutex. -/
theorem neverOwn_idle (shared : Shared) :
    NeverOwn (idle shared : State Thread Mutex Call Shared) := by
  rintro thread ⟨mutex, asked, _⟩
  simp [idle] at asked

/-- The work and the mutexes of a thread decide where it stands. -/
theorem requests_congr {state next : State Thread Mutex Call Shared} {thread : Thread}
    (pending : next.pending thread = state.pending thread)
    (owner : ∀ mutex, next.owner mutex = some thread ↔ state.owner mutex = some thread) :
    RequestsOwn next thread ↔ RequestsOwn state thread := by
  simp only [RequestsOwn, pending, owner]

/-- A call is made only if it has the property. -/
def Makes (allowed : Call → Prop) (state : State Thread Mutex Call Shared) :
    Label Thread Call Answer → Prop
  | .start _ _ => True
  | .advance thread _ => ∀ call, (state.pending thread).head? = some (.call call) → allowed call

section Brackets

variable [DecidableEq Mutex]

/-- The mutexes owned after the actions, innermost first, for a thread that owns `held`
before; `none` if the actions ask for an owned mutex, release another than the innermost
one or make a call in a place it does not belong. -/
def leaves (placed : Call → List Mutex → Bool) :
    List Mutex → List (Action Mutex Call) → Option (List Mutex)
  | held, [] => some held
  | held, .lock mutex :: rest =>
      if mutex ∈ held then none else leaves placed (mutex :: held) rest
  | [], .unlock _ :: _ => none
  | inner :: held, .unlock mutex :: rest =>
      if inner = mutex then leaves placed held rest else none
  | held, .call call :: rest =>
      if placed call held then leaves placed held rest else none

/-- One action list after another. -/
theorem leaves_append (placed : Call → List Mutex → Bool) (held : List Mutex)
    (first second : List (Action Mutex Call)) :
    leaves placed held (first ++ second) =
      (leaves placed held first).bind (fun left => leaves placed left second) := by
  induction first generalizing held with
  | nil => rfl
  | cons action rest inductionHypothesis =>
    cases action with
    | lock mutex =>
      simp only [List.cons_append, leaves]
      split
      · rfl
      · exact inductionHypothesis _
    | unlock mutex =>
      cases held with
      | nil => rfl
      | cons inner held =>
        simp only [List.cons_append, leaves]
        split
        · exact inductionHypothesis _
        · rfl
    | call call =>
      simp only [List.cons_append, leaves]
      split
      · exact inductionHypothesis _
      · rfl

/-- A guarded body leaves what it found if the body does so below the new mutex. -/
theorem leaves_guarded (placed : Call → List Mutex → Bool) (held : List Mutex) (mutex : Mutex)
    (body : List (Action Mutex Call)) (fresh : mutex ∉ held)
    (inside : leaves placed (mutex :: held) body = some (mutex :: held)) :
    leaves placed held (guarded mutex body) = some held := by
  rw [guarded, List.cons_append, leaves, if_neg fresh, leaves_append, inside]
  simp [leaves]

/-- Calls made where they belong change nothing. -/
theorem leaves_calls (placed : Call → List Mutex → Bool) (held : List Mutex) (calls : List Call)
    (belong : ∀ call ∈ calls, placed call held) :
    leaves placed held (calls.map .call) = some held := by
  induction calls with
  | nil => rfl
  | cons call rest inductionHypothesis =>
    rw [List.map_cons, leaves, if_pos (belong call List.mem_cons_self)]
    exact inductionHypothesis (fun later member => belong later (List.mem_cons_of_mem call member))

/-- The mutexes a thread may own when it makes a call, and the calls that respect them. -/
structure Discipline (code : Code Thread Mutex Call Answer Shared) where
  placed : Call → List Mutex → Bool
  allowed : Call → Prop
  entry : ∀ call, code.isEntry call → placed call []
  kept : ∀ thread answer call shared held, placed call held → allowed call →
    leaves placed held (code.body thread answer call shared).1 = some held
  broken : ∀ thread answer call shared held, placed call held → ¬ allowed call →
    ∃ mutex ∈ held, (code.body thread answer call shared).1.head? = some (.lock mutex)

section Closed

variable {code : Code Thread Mutex Call Answer Shared} (discipline : Discipline code)

/-- The mutexes the thread owns, innermost first, are closed by the brackets of what it
still has to do. -/
def Closed (state : State Thread Mutex Call Shared) (thread : Thread) : Prop :=
  ∃ held : List Mutex, held.Nodup ∧ (∀ mutex, state.owner mutex = some thread ↔ mutex ∈ held) ∧
    leaves discipline.placed held (state.pending thread) = some []

/-- A thread whose brackets close does not ask for a mutex of its own. -/
theorem closed_not_requests {state : State Thread Mutex Call Shared} {thread : Thread}
    (closed : Closed discipline state thread) : ¬ RequestsOwn state thread := by
  rintro ⟨mutex, asked, own⟩
  obtain ⟨held, _, owned, brackets⟩ := closed
  have member : mutex ∈ held := (owned mutex).mp own
  cases work : state.pending thread with
  | nil => simp [work] at asked
  | cons action rest =>
    rw [work, List.head?_cons] at asked
    rw [work, Option.some.inj asked, leaves, if_pos member] at brackets
    cases brackets

/-- Every thread is between closed brackets or stuck at a mutex of its own. -/
def Settled (state : State Thread Mutex Call Shared) : Prop :=
  ∀ thread, Closed discipline state thread ∨ RequestsOwn state thread

/-- Threads that have nothing to do have their brackets closed. -/
theorem settled_idle (shared : Shared) :
    Settled discipline (idle shared : State Thread Mutex Call Shared) := by
  intro thread
  exact .inl ⟨[], List.nodup_nil, fun mutex => by simp [idle], rfl⟩

/-- Whether a thread's brackets close depends on its actions and on the mutexes it owns, not on
the other threads. -/
theorem closed_congr {state next : State Thread Mutex Call Shared} {thread : Thread}
    (pending : next.pending thread = state.pending thread)
    (owner : ∀ mutex, next.owner mutex = some thread ↔ state.owner mutex = some thread) :
    Closed discipline next thread ↔ Closed discipline state thread := by
  simp only [Closed, pending, owner]

end Closed

end Brackets

section Steps

variable [DecidableEq Thread] [DecidableEq Mutex] {code : Code Thread Mutex Call Answer Shared}

/-- The ways a step changes the state, one for each action and one for a start. -/
inductive Steps (code : Code Thread Mutex Call Answer Shared)
    (state : State Thread Mutex Call Shared) :
    Label Thread Call Answer → State Thread Mutex Call Shared → Prop where
  | starts (thread : Thread) (call : Call) (free : state.pending thread = [])
      (entry : code.isEntry call) :
      Steps code state (.start thread call)
        { state with pending := Function.update state.pending thread [.call call] }
  | locks (thread : Thread) (answer : Answer) (mutex : Mutex) (rest : List (Action Mutex Call))
      (work : state.pending thread = .lock mutex :: rest) (free : state.owner mutex = none) :
      Steps code state (.advance thread answer)
        { state with
          owner := Function.update state.owner mutex (some thread)
          pending := Function.update state.pending thread rest }
  | unlocks (thread : Thread) (answer : Answer) (mutex : Mutex) (rest : List (Action Mutex Call))
      (work : state.pending thread = .unlock mutex :: rest) (own : state.owner mutex = some thread) :
      Steps code state (.advance thread answer)
        { state with
          owner := Function.update state.owner mutex none
          pending := Function.update state.pending thread rest }
  | calls (thread : Thread) (answer : Answer) (call : Call) (rest : List (Action Mutex Call))
      (work : state.pending thread = .call call :: rest) :
      Steps code state (.advance thread answer)
        { state with
          pending := Function.update state.pending thread
            ((code.body thread answer call state.shared).1 ++ rest)
          shared := (code.body thread answer call state.shared).2 }

/-- An enabled step is one of the four kinds of steps, with what it needs and what it changes.
-/
theorem step_steps {state next : State Thread Mutex Call Shared} {label : Label Thread Call Answer}
    (taken : step code state label = some next) : Steps code state label next := by
  cases label with
  | start thread call =>
    rw [step] at taken
    split at taken
    · rename_i enabled
      cases taken
      exact .starts thread call enabled.1 enabled.2
    · cases taken
  | advance thread answer =>
    cases work : state.pending thread with
    | nil => simp [step, work] at taken
    | cons action rest =>
      cases action with
      | lock mutex =>
        simp only [step, work] at taken
        split at taken
        · rename_i free
          cases taken
          exact .locks thread answer mutex rest work free
        · cases taken
      | unlock mutex =>
        simp only [step, work] at taken
        split at taken
        · rename_i own
          cases taken
          exact .unlocks thread answer mutex rest work own
        · cases taken
      | call call =>
        simp only [step, work, Option.some.injEq] at taken
        rw [← taken]
        exact .calls thread answer call rest work

/-- The thread a label belongs to. -/
def Label.thread : Label Thread Call Answer → Thread
  | .start thread _ => thread
  | .advance thread _ => thread

/-- The other threads keep their work and their mutexes. A step belongs to one thread, which may
take a mutex that is free or give back one of its own. -/
theorem others_unchanged {state next : State Thread Mutex Call Shared}
    {label : Label Thread Call Answer}
    (taken : Steps code state label next) (other : Thread) (different : other ≠ label.thread) :
    next.pending other = state.pending other ∧
      ∀ mutex, next.owner mutex = some other ↔ state.owner mutex = some other := by
  cases taken with
  | starts thread call free entry => exact ⟨Function.update_of_ne different _ _, fun _ => Iff.rfl⟩
  | locks thread answer mutex rest work free =>
    refine ⟨Function.update_of_ne different _ _, fun tested => ?_⟩
    by_cases same : tested = mutex
    · subst same
      simp only [Function.update_self, free, reduceCtorEq, iff_false, Option.some.injEq]
      exact Ne.symm different
    · simp [Function.update_of_ne same]
  | unlocks thread answer mutex rest work own =>
    refine ⟨Function.update_of_ne different _ _, fun tested => ?_⟩
    by_cases same : tested = mutex
    · subst same
      simp only [Function.update_self, own, reduceCtorEq, false_iff, Option.some.injEq]
      exact Ne.symm different
    · simp [Function.update_of_ne same]
  | calls thread answer call rest work => exact ⟨Function.update_of_ne different _ _, fun _ => Iff.rfl⟩

/-- A thread at a mutex of its own has no step. -/
theorem requests_not_moves {state next : State Thread Mutex Call Shared}
    {label : Label Thread Call Answer}
    (taken : Steps code state label next) : ¬ RequestsOwn state label.thread := by
  rintro ⟨asked, front, own⟩
  cases taken with
  | starts thread call free entry => simp [Label.thread, free] at front
  | locks thread answer mutex rest work free =>
    simp only [Label.thread, work, List.head?_cons, Option.some.injEq, Action.lock.injEq] at front
    rw [← front, free] at own
    cases own
  | unlocks thread answer mutex rest work owner => simp [Label.thread, work] at front
  | calls thread answer call rest work => simp [Label.thread, work] at front

variable (discipline : Discipline code)

/-- What a step makes of its own thread: its brackets stay closed, except that a call
without leave ends at a mutex the thread owns. -/
theorem own_step {state next : State Thread Mutex Call Shared} {label : Label Thread Call Answer}
    (taken : Steps code state label next) (closed : Closed discipline state label.thread) :
    (Makes discipline.allowed state label ∧ Closed discipline next label.thread) ∨
      (¬ Makes discipline.allowed state label ∧ RequestsOwn next label.thread) := by
  obtain ⟨held, distinct, owned, brackets⟩ := closed
  cases taken with
  | starts thread call free entry =>
    simp only [Label.thread, free] at owned brackets ⊢
    have nothing : held = [] := Option.some.inj brackets
    refine .inl ⟨trivial, held, distinct, owned, ?_⟩
    simp only [Function.update_self, leaves, nothing, discipline.entry call entry, ↓reduceIte]
  | locks thread answer mutex rest work free =>
    simp only [Label.thread, work, leaves] at owned brackets ⊢
    have fresh : mutex ∉ held := by
      rw [← owned mutex, free]
      simp
    rw [if_neg fresh] at brackets
    refine .inl ⟨by simp [Makes, work], mutex :: held, List.nodup_cons.mpr ⟨fresh, distinct⟩, ?_, ?_⟩
    · intro tested
      by_cases same : tested = mutex
      · simp [same]
      · simp [same, owned tested]
    · simpa using brackets
  | unlocks thread answer mutex rest work own =>
    simp only [Label.thread, work] at owned brackets ⊢
    cases held with
    | nil => simp [leaves] at brackets
    | cons inner held =>
      simp only [leaves] at brackets
      split at brackets
      · rename_i same
        subst same
        obtain ⟨outside, distinct⟩ := List.nodup_cons.mp distinct
        refine .inl ⟨by simp [Makes, work], held, distinct, ?_, ?_⟩
        · intro tested
          by_cases same : tested = inner
          · simp [same, outside]
          · simp [same, owned tested]
        · simpa using brackets
      · cases brackets
  | calls thread answer call rest work =>
    simp only [Label.thread, work, leaves] at owned brackets ⊢
    split at brackets
    · rename_i place
      by_cases allowed : discipline.allowed call
      · refine .inl ⟨by simp [Makes, work, allowed], held, distinct, owned, ?_⟩
        have body := discipline.kept thread answer call state.shared held place allowed
        simp only [Function.update_self, leaves_append, body, Option.bind_some]
        exact brackets
      · obtain ⟨mutex, member, front⟩ :=
          discipline.broken thread answer call state.shared held place allowed
        refine .inr ⟨by simp [Makes, work, allowed], mutex, ?_, ?_⟩
        · simp [front]
        · exact (owned mutex).mpr member
    · cases brackets

/-- Every step leaves the brackets of all threads closed: a call is replaced by a body that
keeps to the discipline, and a lock and an unlock move one bracket from the actions to the
owner. -/
theorem step_settled {state next : State Thread Mutex Call Shared}
    {label : Label Thread Call Answer}
    (settled : Settled discipline state) (taken : Steps code state label next) :
    Settled discipline next := by
  intro thread
  by_cases own : thread = label.thread
  · subst own
    rcases settled label.thread with closed | stuck
    · rcases own_step discipline taken closed with ⟨_, closes⟩ | ⟨_, stuck⟩
      · exact .inl closes
      · exact .inr stuck
    · exact absurd stuck (requests_not_moves taken)
  · obtain ⟨pending, owner⟩ := others_unchanged taken thread own
    rw [closed_congr discipline pending owner, requests_congr pending owner]
    exact settled thread

/-- From a state in which nobody asks for a mutex of its own, a step leads to such a state
exactly when the call it makes, if any, has leave. -/
theorem step_neverOwn {state next : State Thread Mutex Call Shared}
    {label : Label Thread Call Answer} (settled : Settled discipline state) (never : NeverOwn state)
    (taken : Steps code state label next) :
    NeverOwn next ↔ Makes discipline.allowed state label := by
  have closed : Closed discipline state label.thread :=
    (settled label.thread).resolve_right (never label.thread)
  rcases own_step discipline taken closed with ⟨makes, closes⟩ | ⟨refused, stuck⟩
  · refine iff_of_true ?_ makes
    intro thread
    by_cases own : thread = label.thread
    · rw [own]
      exact closed_not_requests discipline closes
    · obtain ⟨pending, owner⟩ := others_unchanged taken thread own
      rw [requests_congr pending owner]
      exact never thread
  · exact iff_of_false (fun later => later label.thread stuck) refused

/-- In a run from a state without calls in progress, nobody ever asks for a mutex of its
own exactly when every call made has leave. -/
theorem never_own_iff (shared : Shared) (labels : List (Label Thread Call Answer)) :
    Always (step code) NeverOwn (idle shared) labels ↔
      Meets (step code) (Makes discipline.allowed) (idle shared) labels := by
  apply @always_iff_meets _ _ (step code) NeverOwn (Settled discipline) (Makes discipline.allowed)
  · exact fun state label next settled taken => step_settled discipline settled (step_steps taken)
  · exact fun state label next settled never taken =>
      step_neverOwn discipline settled never (step_steps taken)
  · exact settled_idle discipline shared
  · exact neverOwn_idle shared

/-- Where every entry has leave and bodies of calls with leave make no others, every call
of every run has it. -/
theorem makes_of_bodies {allowed : Call → Prop} (entries : ∀ call, code.isEntry call → allowed call)
    (bodies : ∀ thread answer call shared, allowed call →
      ∀ inner, .call inner ∈ (code.body thread answer call shared).1 → allowed inner)
    (shared : Shared) (labels : List (Label Thread Call Answer)) :
    Meets (step code) (Makes allowed) (idle shared) labels := by
  apply @guarded_steps _ _ (step code)
    (fun state => ∀ thread call, .call call ∈ state.pending thread → allowed call) (fun _ _ => True)
  · intro state label next work _ taken thread call member
    by_cases own : thread = label.thread
    · subst own
      cases step_steps taken with
      | starts thread first free entry =>
        simp only [Label.thread, Function.update_self, List.mem_singleton, Action.call.injEq] at member
        exact member ▸ entries first entry
      | locks thread answer mutex rest before free =>
        simp only [Label.thread, Function.update_self] at member
        exact work thread call (before ▸ List.mem_cons_of_mem _ member)
      | unlocks thread answer mutex rest before owner =>
        simp only [Label.thread, Function.update_self] at member
        exact work thread call (before ▸ List.mem_cons_of_mem _ member)
      | calls thread answer made rest before =>
        simp only [Label.thread, Function.update_self, List.mem_append] at member
        rcases member with inside | later
        · have allowedHere : allowed made := work thread made (before ▸ List.mem_cons_self)
          exact bodies thread answer made state.shared allowedHere call inside
        · exact work thread call (before ▸ List.mem_cons_of_mem _ later)
    · rw [(others_unchanged (step_steps taken) thread own).1] at member
      exact work thread call member
  · intro state label next work _ _
    cases label with
    | start thread call => trivial
    | advance thread answer =>
      intro call front
      exact work thread call (List.mem_of_mem_head? front)
  · intro thread call member
    simp [idle] at member
  · exact meets_of_forall (fun _ _ => trivial) _ _

end Steps

end Mutexes
