import BluetoothFramework.Library.Runs
import Mathlib.Data.List.Induction

/-!
# The subscriptions of the JavaScript modules

`NapiEventSubscribeModule` keeps a list of callbacks for each event. A callback belongs to an
environment, and when the environment exits it stays in the list and is marked as invalid. It
is equal to nothing then, and a later registration for the event removes it.

`subscribed_in_order` says that the valid callbacks are those whose registration is in force,
each once and in the order of these registrations, and that publishing and the tasks it posts
keep to them. This holds in every run.
-/

namespace BluetoothFramework.Napi

open Runs

universe u v w
variable {Env : Type u} {Callback : Type v} {Object : Type w}

/-- `NapiCallback`, with the function its reference stands for and the number of steps before
it was made. -/
structure NapiCallback (Env : Type u) (Callback : Type v) where
  env : Env
  function : Callback
  isValidNapiEnv : Bool := true
  registered : Nat
deriving DecidableEq

namespace NapiCallback

/-- `Equal` -/
def equal [DecidableEq Env] [DecidableEq Callback] (self : NapiCallback Env Callback) (env : Env)
    (callback : Callback) : Bool :=
  if !self.isValidNapiEnv then false
  else if env ≠ self.env then false
  else self.function = callback

/-- `NapiCallbackEnvCleanupHook`, which is called for the callbacks of an environment. -/
def cleanUp [DecidableEq Env] (env : Env) (self : NapiCallback Env Callback) :
    NapiCallback Env Callback :=
  if self.env = env then { self with isValidNapiEnv := false } else self

end NapiCallback

namespace NapiEventSubscribeModule

/-- A task that is posted to the thread of an environment. A null object is none. -/
structure Task (Env : Type u) (Callback : Type v) (Object : Type w) where
  callback : NapiCallback Env Callback
  nativeObject : Option Object

/-- A call of a function of the application. -/
structure Call (Env : Type u) (Callback : Type v) (Object : Type w) where
  env : Env
  function : Callback
  object : Object

/-- What can happen: the operations of the module, the exit of an environment, and the run of
the first task that is posted to an environment. -/
inductive Label (Env : Type u) (Callback : Type v) (Object : Type w) where
  | registerCallback (name : String) (env : Env) (callback : Callback)
  | deregisterCallback (name : String) (env : Env) (callback : Callback)
  | deregisterAllCallback (name : String)
  | publishEvent (name : String) (nativeObject : Option Object)
  | exits (env : Env)
  | runsTask (env : Env)

/-- The event an operation is on. -/
def Label.event : Label Env Callback Object → Option String
  | .registerCallback name .. | .deregisterCallback name .. | .deregisterAllCallback name
  | .publishEvent name _ => some name
  | .exits _ | .runsTask _ => none

end NapiEventSubscribeModule

open NapiEventSubscribeModule

/-- `NapiEventSubscribeModule`, with the tasks it has posted, the calls they have made, and all
that has happened. -/
structure NapiEventSubscribeModule (Env : Type u) (Callback : Type v) (Object : Type w) where
  eventSubscribeMap : String → Option (List (NapiCallback Env Callback)) := fun _ => none
  tasks : List (Task Env Callback Object) := []
  calls : List (Call Env Callback Object) := []
  history : List (Label Env Callback Object) := []

namespace NapiEventSubscribeModule

variable [DecidableEq Env] [DecidableEq Callback]

/-- `IsNapiCallbackExist` -/
def isNapiCallbackExist (napiCallbackVec : List (NapiCallback Env Callback)) (env : Env)
    (callback : Callback) : Bool :=
  napiCallbackVec.any fun napiCallback => napiCallback.equal env callback

/-- `ChangeValueByLambda`, which makes an entry where there is none. -/
def changeValueByLambda (map : String → Option (List (NapiCallback Env Callback))) (name : String)
    (change : List (NapiCallback Env Callback) → List (NapiCallback Env Callback)) :
    String → Option (List (NapiCallback Env Callback)) :=
  fun other => if other = name then some (change ((map name).getD [])) else map other

/-- The callbacks whose environments are live. -/
def onlyValid (callbackVec : List (NapiCallback Env Callback)) : List (NapiCallback Env Callback) :=
  callbackVec.filter fun callback => callback.isValidNapiEnv

/-- The change of `RegisterCallback`. -/
def register (registered : Nat) (env : Env) (callback : Callback)
    (callbackVec : List (NapiCallback Env Callback)) :
    List (NapiCallback Env Callback) :=
  if isNapiCallbackExist callbackVec env callback then callbackVec
  else onlyValid callbackVec ++
    [{ env := env, function := callback, registered := registered }]

/-- The change of `DeregisterCallback`. -/
def deregister (env : Env) (callback : Callback) (callbackVec : List (NapiCallback Env Callback)) :
    List (NapiCallback Env Callback) :=
  callbackVec.eraseP fun napiCallback => napiCallback.equal env callback

/-- `CallFunction` of the module, for the list that `PublishEvent` finds. -/
def callFunction (nativeObject : Option Object)
    (napiCallbackVec : List (NapiCallback Env Callback)) :
    List (Task Env Callback Object) :=
  napiCallbackVec.map fun callback => { callback := callback, nativeObject := nativeObject }

/-- `NapiCallback::CallFunction` -/
def Task.run (task : Task Env Callback Object) : Option (Call Env Callback Object) :=
  if !task.callback.isValidNapiEnv then none
  else task.nativeObject.map fun object =>
    { env := task.callback.env, function := task.callback.function, object := object }

/-- What happens to the map, the tasks and the calls. -/
def act (subscribe : NapiEventSubscribeModule Env Callback Object) :
    Label Env Callback Object → Option (NapiEventSubscribeModule Env Callback Object)
  | .registerCallback name env callback => some { subscribe with
      eventSubscribeMap := changeValueByLambda subscribe.eventSubscribeMap name
        (register subscribe.history.length env callback) }
  | .deregisterCallback name env callback => some { subscribe with
      eventSubscribeMap := changeValueByLambda subscribe.eventSubscribeMap name (deregister env callback) }
  | .deregisterAllCallback name => some { subscribe with
      eventSubscribeMap := fun other => if other = name then none else subscribe.eventSubscribeMap other }
  | .publishEvent name nativeObject => some { subscribe with
      tasks := subscribe.tasks ++ callFunction nativeObject ((subscribe.eventSubscribeMap name).getD []) }
  | .exits env => some { subscribe with
      eventSubscribeMap := fun name => (subscribe.eventSubscribeMap name).map
        (List.map (NapiCallback.cleanUp env))
      tasks := subscribe.tasks.map fun task => { task with callback := task.callback.cleanUp env } }
  | .runsTask env =>
      match subscribe.tasks.find? fun task => task.callback.env = env with
      | none => none
      | some task => some { subscribe with
          tasks := subscribe.tasks.eraseP fun task => task.callback.env = env
          calls := subscribe.calls ++ task.run.toList }

/-- One step. -/
def step (subscribe : NapiEventSubscribeModule Env Callback Object)
    (label : Label Env Callback Object) :
    Option (NapiEventSubscribeModule Env Callback Object) :=
  (subscribe.act label).map fun next => { next with history := subscribe.history ++ [label] }

/-! ## Which registrations are in force -/

/-- The registration in force after a step, if one was in force before it. A registration that
finds one in force leaves that one. -/
def inForceAfter (name : String) (env : Env) (callback : Callback) (time : Nat)
    (before : Option Nat) :
    Label Env Callback Object → Option Nat
  | .registerCallback other otherEnv otherCallback =>
      if other = name ∧ otherEnv = env ∧ otherCallback = callback
        then before.or (some time) else before
  | .deregisterCallback other otherEnv otherCallback =>
      if other = name ∧ otherEnv = env ∧ otherCallback = callback then none else before
  | .deregisterAllCallback other => if other = name then none else before
  | .exits exited => if exited = env then none else before
  | .publishEvent .. | .runsTask _ => before

/-- The registration of a function of an environment for an event that is in force, by the
number of steps before it. -/
def inForce (history : List (Label Env Callback Object)) (name : String) (env : Env)
    (callback : Callback) :
    Option Nat :=
  history.zipIdx.foldl (fun before label => inForceAfter name env callback label.2 before label.1) none

/-- The callbacks of an event. -/
def callbacks (subscribe : NapiEventSubscribeModule Env Callback Object) (name : String) :
    List (NapiCallback Env Callback) :=
  (subscribe.eventSubscribeMap name).getD []

/-- The callbacks of an event whose environments are live. -/
def live (subscribe : NapiEventSubscribeModule Env Callback Object) (name : String) :
    List (NapiCallback Env Callback) :=
  onlyValid (subscribe.callbacks name)

/-- The environment has not exited since the callback was made. -/
def IsLive (history : List (Label Env Callback Object))
    (callback : NapiCallback Env Callback) : Prop :=
  .exits callback.env ∉ history.drop callback.registered

/-- The callbacks of an event whose environments are live are those with a registration in
force, in the order of these registrations. -/
structure Subscribed (subscribe : NapiEventSubscribeModule Env Callback Object) : Prop where
  valid (name : String) : ∀ callback ∈ subscribe.callbacks name,
    callback.isValidNapiEnv = true ↔ IsLive subscribe.history callback
  exactly (name : String) (env : Env) (callback : Callback) (time : Nat) :
    { env := env, function := callback, registered := time } ∈ subscribe.live name ↔
      inForce subscribe.history name env callback = some time
  ordered (name : String) :
    (subscribe.live name).Pairwise fun earlier later => earlier.registered < later.registered

/-- A step is on one event only, posts each live callback of an event that is published once and
in order, and calls functions of live environments only. The first task of an environment that is
still live does call its function, unless it has no object to hand over. -/
structure Keeps (subscribe : NapiEventSubscribeModule Env Callback Object)
    (label : Label Env Callback Object)
    (next : NapiEventSubscribeModule Env Callback Object) : Prop where
  others : ∀ name ∈ label.event, ∀ other, other ≠ name → next.callbacks other = subscribe.callbacks other
  posts : ∀ name nativeObject, label = .publishEvent name nativeObject →
    ∃ posted, next.tasks = subscribe.tasks ++ posted ∧
      (posted.filter fun task => task.callback.isValidNapiEnv) =
        (subscribe.live name).map fun callback => { callback := callback, nativeObject := nativeObject }
  calls : next.calls = subscribe.calls ∨ ∃ task ∈ subscribe.tasks, ∃ object ∈ task.nativeObject,
    IsLive subscribe.history task.callback ∧ next.calls = subscribe.calls ++
      [{ env := task.callback.env, function := task.callback.function, object := object }]
  runs : ∀ env task object, label = .runsTask env →
    (subscribe.tasks.find? fun task => task.callback.env = env) = some task →
    IsLive subscribe.history task.callback → task.nativeObject = some object →
    next.calls = subscribe.calls ++
      [{ env := task.callback.env, function := task.callback.function, object := object }]

/-! ## One step more -/

/-- The registration in force after one more step follows from the one before, so that an
invariant can be carried from step to step. -/
theorem inForce_append (history : List (Label Env Callback Object))
    (label : Label Env Callback Object) (name : String) (env : Env) (callback : Callback) :
    inForce (history ++ [label]) name env callback =
      inForceAfter name env callback history.length (inForce history name env callback) label := by
  rw [inForce, List.zipIdx_append, List.foldl_append, Nat.zero_add]
  rfl

/-- A callback is marked by its environment's exit. -/
structure Marked (history : List (Label Env Callback Object))
    (callback : NapiCallback Env Callback) : Prop where
  earlier : callback.registered < history.length
  valid : callback.isValidNapiEnv = true ↔ IsLive history callback

omit [DecidableEq Env] [DecidableEq Callback] in
/-- Exits of other environments, and all other steps, leave a callback as it is. -/
theorem Marked.later {history : List (Label Env Callback Object)}
    {callback : NapiCallback Env Callback}
    (marked : Marked history callback) {label : Label Env Callback Object}
    (stays : label ≠ .exits callback.env) :
    Marked (history ++ [label]) callback := by
  refine ⟨by rw [List.length_append]; exact Nat.lt_add_right _ marked.earlier, marked.valid.trans ?_⟩
  rw [IsLive, IsLive, List.drop_append_of_le_length (Nat.le_of_lt marked.earlier), List.mem_append,
    List.mem_singleton, or_iff_left (Ne.symm stays)]

omit [DecidableEq Callback] in
/-- The exit of an environment marks its callbacks. -/
theorem Marked.cleanUp {history : List (Label Env Callback Object)}
    {callback : NapiCallback Env Callback} (marked : Marked history callback) (env : Env) :
      Marked (history ++ [.exits env]) (callback.cleanUp env) := by
  rw [NapiCallback.cleanUp]
  split
  · rename_i same
    refine ⟨by rw [List.length_append]; exact Nat.lt_add_right _ marked.earlier, iff_of_false nofun ?_⟩
    rw [IsLive, List.drop_append_of_le_length (Nat.le_of_lt marked.earlier), not_not, List.mem_append]
    exact .inr (by rw [same]; exact List.mem_singleton_self _)
  · rename_i other
    exact marked.later fun exits => other (Label.exits.inj exits).symm

/-- Two callbacks are equal exactly if they agree in the environment and the function and the
environment of the first is still valid. When it was registered plays no part. -/
theorem equal_iff (self : NapiCallback Env Callback) (env : Env) (callback : Callback) :
    self.equal env callback = true ↔
      self = { env := env, function := callback, isValidNapiEnv := true, registered := self.registered } := by
  obtain ⟨selfEnv, function, isValidNapiEnv, registered⟩ := self
  cases isValidNapiEnv
  · simp [NapiCallback.equal]
  · simp only [NapiCallback.equal, NapiCallback.mk.injEq, and_true, Bool.not_true, Bool.false_eq_true,
      if_false, ne_eq, ite_not]
    by_cases same : env = selfEnv
    · simp [same]
    · simp [same, Ne.symm same]

/-- Where no two elements satisfy it, erasing one of them is filtering. -/
theorem eraseP_eq_filter {α : Type u} {p : α → Bool} {items : List α}
    (unique : items.Pairwise fun earlier later => p earlier = true → p later = false) :
    items.eraseP p = items.filter fun item => !p item := by
  induction items with
  | nil => rfl
  | cons item rest inductionHypothesis =>
    obtain ⟨alone, restUnique⟩ := List.pairwise_cons.mp unique
    cases here : p item with
    | true =>
      rw [List.eraseP_cons_of_pos here, List.filter_cons_of_neg (by simp [here])]
      exact (List.filter_eq_self.mpr fun other member => by simp [alone other member here]).symm
    | false =>
      rw [List.eraseP_cons_of_neg (by simp [here]), List.filter_cons_of_pos (by simp [here]),
        inductionHypothesis restUnique]

/-! ## The list of one event -/

/-- The list of an event is as the history says. -/
structure Follows (history : List (Label Env Callback Object)) (name : String)
    (callbackVec : List (NapiCallback Env Callback)) : Prop where
  marked : ∀ callback ∈ callbackVec, Marked history callback
  exactly (env : Env) (callback : Callback) (time : Nat) :
    { env := env, function := callback, registered := time } ∈ onlyValid callbackVec ↔
      inForce history name env callback = some time
  ordered : (onlyValid callbackVec).Pairwise fun earlier later =>
    earlier.registered < later.registered

section Follows

variable {history : List (Label Env Callback Object)} {name : String}
    {callbackVec : List (NapiCallback Env Callback)}

/-- A step that changes no registration of the event leaves its list. -/
theorem Follows.later (follows : Follows history name callbackVec)
    {label : Label Env Callback Object} (noExit : ∀ env, label ≠ .exits env)
    (unchanged : ∀ env callback,
      inForceAfter name env callback history.length (inForce history name env callback)
      label = inForce history name env callback) :
        Follows (history ++ [label]) name callbackVec where
  marked callback member := (follows.marked callback member).later (noExit _)
  exactly env callback time := by
    rw [inForce_append, unchanged]
    exact follows.exactly env callback time
  ordered := follows.ordered

/-- The search finds a registration in force. -/
theorem exist_iff (follows : Follows history name callbackVec) (env : Env) (callback : Callback) :
    isNapiCallbackExist callbackVec env callback = true ↔
      inForce history name env callback ≠ none := by
  rw [isNapiCallbackExist, List.any_eq_true, Option.ne_none_iff_exists']
  constructor
  · rintro ⟨found, member, equal⟩
    rw [equal_iff] at equal
    refine ⟨found.registered, (follows.exactly env callback found.registered).mp ?_⟩
    exact List.mem_filter.mpr ⟨equal ▸ member, rfl⟩
  · rintro ⟨time, there⟩
    have member := (follows.exactly env callback time).mpr there
    exact ⟨_, (List.mem_filter.mp member).1, (equal_iff ..).mpr rfl⟩

/-- `RegisterCallback` adds the callback unless its registration is in force. A new one is put
behind those that are not marked; the marked ones are dropped, and they neither counted nor were
called. -/
theorem follows_register (follows : Follows history name callbackVec) (env : Env)
    (callback : Callback) :
    Follows (history ++ [.registerCallback name env callback]) name
      (register history.length env callback callbackVec) := by
  rw [register]
  split
  · rename_i exist
    have there := (exist_iff follows env callback).mp exist
    refine follows.later nofun fun otherEnv otherCallback => ?_
    rw [inForceAfter]
    split
    · rename_i same
      obtain ⟨-, rfl, rfl⟩ := same
      obtain ⟨time, there⟩ := Option.ne_none_iff_exists'.mp there
      rw [there, Option.some_or]
    · rfl
  · rename_i notExist
    have absent : inForce history name env callback = none := by
      by_contra there
      exact notExist ((exist_iff follows env callback).mpr there)
    have valid : onlyValid (onlyValid callbackVec ++
          [{ env := env, function := callback, registered := history.length }]) =
        onlyValid callbackVec ++ [{ env := env, function := callback, registered := history.length }] := by
      simp [onlyValid]
    constructor
    · intro other member
      rcases List.mem_append.mp member with old | new
      · exact (follows.marked other (List.mem_filter.mp old).1).later nofun
      · obtain rfl := List.mem_singleton.mp new
        refine ⟨by simp, iff_of_true rfl ?_⟩
        rw [IsLive, List.drop_append_of_le_length (Nat.le_refl _), List.drop_length, List.nil_append,
          List.mem_singleton]
        exact nofun
    · intro otherEnv otherCallback time
      rw [valid, List.mem_append, follows.exactly, inForce_append, inForceAfter, List.mem_singleton]
      by_cases same : env = otherEnv ∧ callback = otherCallback
      · obtain ⟨rfl, rfl⟩ := same
        simp [absent, eq_comm]
      · simp only [NapiCallback.mk.injEq, true_and, same, if_false, or_iff_left_iff_imp]
        rintro ⟨rfl, rfl, -⟩
        exact absurd ⟨rfl, rfl⟩ same
    · rw [valid, List.pairwise_append]
      refine ⟨follows.ordered, List.pairwise_singleton _ _, fun old member new listed => ?_⟩
      obtain rfl := List.mem_singleton.mp listed
      exact (follows.marked old (List.mem_filter.mp member).1).earlier

/-- `DeregisterCallback` erases the callback whose registration is in force. There is one such
callback at most, so erasing those that are equal erases it alone. -/
theorem follows_deregister (follows : Follows history name callbackVec) (env : Env)
    (callback : Callback) :
    Follows (history ++ [.deregisterCallback name env callback]) name
      (deregister env callback callbackVec) := by
  have unique : (onlyValid callbackVec).Pairwise fun earlier later =>
      earlier.equal env callback = true → later.equal env callback = false := by
    refine follows.ordered.imp_of_mem fun {earlier later} first second before equal => ?_
    rw [Bool.eq_false_iff]
    intro alsoEqual
    rw [equal_iff] at equal alsoEqual
    have firstTime := (follows.exactly env callback earlier.registered).mp (equal ▸ first)
    have secondTime := (follows.exactly env callback later.registered).mp (alsoEqual ▸ second)
    have same := Option.some.inj (firstTime.symm.trans secondTime)
    omega
  have valid : onlyValid (deregister env callback callbackVec) =
      (onlyValid callbackVec).filter fun napiCallback =>
        !napiCallback.equal env callback := by
    rw [← eraseP_eq_filter unique, onlyValid, onlyValid, List.eraseP_filter, deregister]
    congr 2
    funext napiCallback
    cases equal : napiCallback.equal env callback with
    | true => rw [(equal_iff ..).mp equal]; rfl
    | false => rfl
  constructor
  · intro other member
    exact (follows.marked other (List.mem_of_mem_eraseP member)).later nofun
  · intro otherEnv otherCallback time
    rw [valid, List.mem_filter, follows.exactly, inForce_append, inForceAfter, Bool.not_eq_true',
      Bool.eq_false_iff, Ne, equal_iff]
    by_cases same : env = otherEnv ∧ callback = otherCallback
    · obtain ⟨rfl, rfl⟩ := same
      simp
    · have apart : ¬ (otherEnv = env ∧ otherCallback = callback) :=
        fun equal => same ⟨equal.1.symm, equal.2.symm⟩
      simp [same, apart]
  · rw [valid]
    exact follows.ordered.filter _

/-- The exit of an environment leaves the callbacks of the others. Its own are marked, and no
registration of it is in force any more. -/
theorem follows_exits (follows : Follows history name callbackVec) (env : Env) :
    Follows (history ++ [.exits env]) name (callbackVec.map (NapiCallback.cleanUp env)) := by
  have kept (callback : NapiCallback Env Callback) :
      (callback.cleanUp env).isValidNapiEnv = (decide (callback.env ≠ env) && callback.isValidNapiEnv) := by
    rw [NapiCallback.cleanUp]
    split
    · rename_i same
      simp [same]
    · rename_i other
      simp [other]
  have valid : onlyValid (callbackVec.map (NapiCallback.cleanUp env)) =
      (onlyValid callbackVec).filter fun callback => callback.env ≠ env := by
    rw [onlyValid, onlyValid, List.filter_map, List.filter_filter, List.map_congr_left, List.map_id]
    · exact congrArg (List.filter · callbackVec) (funext kept)
    · intro callback member
      rw [List.mem_filter, Function.comp_apply, kept, Bool.and_eq_true, decide_eq_true_eq] at member
      rw [NapiCallback.cleanUp, if_neg member.2.1]
      rfl
  constructor
  · intro other member
    obtain ⟨callback, listed, rfl⟩ := List.mem_map.mp member
    exact (follows.marked callback listed).cleanUp env
  · intro otherEnv otherCallback time
    rw [valid, List.mem_filter, follows.exactly, inForce_append, inForceAfter]
    by_cases same : env = otherEnv
    · simp [same]
    · simp [same, Ne.symm same]
  · rw [valid]
    exact follows.ordered.filter _

end Follows

/-! ## All lists in every run -/

/-- All lists are as the history says, and the tasks have callbacks that are marked. -/
structure Coherent (subscribe : NapiEventSubscribeModule Env Callback Object) : Prop where
  follows (name : String) : Follows subscribe.history name (subscribe.callbacks name)
  posted : ∀ task ∈ subscribe.tasks, Marked subscribe.history task.callback

/-- In a coherent state the module is subscribed as the history says. -/
theorem Coherent.subscribed {subscribe : NapiEventSubscribeModule Env Callback Object}
    (coherent : Coherent subscribe) :
    Subscribed subscribe where
  valid name callback member := ((coherent.follows name).marked callback member).valid
  exactly name := (coherent.follows name).exactly
  ordered name := (coherent.follows name).ordered

/-- At the start nobody is subscribed and no task waits. -/
theorem coherent_start : Coherent ({} : NapiEventSubscribeModule Env Callback Object) where
  follows _ := ⟨nofun, fun _ _ _ => iff_of_false nofun nofun, List.Pairwise.nil⟩
  posted := nofun

omit [DecidableEq Env] [DecidableEq Callback] in
/-- A change of the list of a name leaves the lists of the other names. A name without a list is
changed as if its list were empty. -/
theorem callbacks_changed (map : String → Option (List (NapiCallback Env Callback)))
    (name other : String)
    (change : List (NapiCallback Env Callback) → List (NapiCallback Env Callback)) :
    (changeValueByLambda map name change other).getD [] =
      if other = name then change ((map name).getD []) else (map other).getD [] := by
  rw [changeValueByLambda]
  split <;> rfl

/-- A step on another event says nothing of a registration. -/
theorem inForceAfter_other {label : Label Env Callback Object} {name other : String}
    (on : label.event = some name)
    (apart : name ≠ other) (time : Nat) (env : Env) (callback : Callback) (before : Option Nat) :
    inForceAfter other env callback time before label = before := by
  cases label with
  | registerCallback | deregisterCallback | deregisterAllCallback =>
    obtain rfl := Option.some.inj on
    simp [inForceAfter, apart]
  | publishEvent => rfl
  | exits | runsTask => cases on

/-- A step on an event that changes its list as the history says leaves all lists as it says. -/
theorem follows_on {subscribe next : NapiEventSubscribeModule Env Callback Object}
    {label : Label Env Callback Object} {name : String} (coherent : Coherent subscribe)
    (on : label.event = some name)
    (others : ∀ other, other ≠ name → next.callbacks other = subscribe.callbacks other)
    (here : Follows (subscribe.history ++ [label]) name (next.callbacks name)) (other : String) :
    Follows (subscribe.history ++ [label]) other (next.callbacks other) := by
  by_cases same : other = name
  · rw [same]
    exact here
  · rw [others other same]
    refine (coherent.follows other).later (fun env exits => ?_) fun env callback =>
      inForceAfter_other on (Ne.symm same) _ env callback _
    rw [exits] at on
    cases on

/-- A step that is no exit leaves the marks of the callbacks in the tasks as they are. -/
theorem marked_tasks {subscribe : NapiEventSubscribeModule Env Callback Object}
    (coherent : Coherent subscribe)
    {label : Label Env Callback Object} (noExit : ∀ env, label ≠ .exits env) :
    ∀ task ∈ subscribe.tasks, Marked (subscribe.history ++ [label]) task.callback :=
  fun task member => (coherent.posted task member).later (noExit _)

/-- Every step leaves all lists as the history says. A registration changes the list of its name,
an exit marks in all lists, and publishing and running a task change none. -/
theorem coherent_step (subscribe : NapiEventSubscribeModule Env Callback Object)
    (label : Label Env Callback Object)
    (next : NapiEventSubscribeModule Env Callback Object) (coherent : Coherent subscribe)
    (enabled : subscribe.step label = some next) : Coherent next := by
  obtain ⟨acted, acts, rfl⟩ := Option.map_eq_some_iff.mp enabled
  cases label with
  | registerCallback name env callback =>
    obtain rfl := Option.some.inj acts
    refine ⟨follows_on coherent rfl (fun other apart => ?_) ?_, marked_tasks coherent fun _ => nofun⟩
    · exact (callbacks_changed ..).trans (if_neg apart)
    · rw [callbacks, callbacks_changed, if_pos rfl]
      exact follows_register (coherent.follows name) env callback
  | deregisterCallback name env callback =>
    obtain rfl := Option.some.inj acts
    refine ⟨follows_on coherent rfl (fun other apart => ?_) ?_, marked_tasks coherent fun _ => nofun⟩
    · exact (callbacks_changed ..).trans (if_neg apart)
    · rw [callbacks, callbacks_changed, if_pos rfl]
      exact follows_deregister (coherent.follows name) env callback
  | deregisterAllCallback name =>
    obtain rfl := Option.some.inj acts
    refine ⟨follows_on coherent rfl (fun other apart => ?_) ?_, marked_tasks coherent fun _ => nofun⟩
    · rw [callbacks, callbacks]
      exact congrArg (Option.getD · []) (if_neg apart)
    · rw [callbacks]
      have erased : (if name = name then none else subscribe.eventSubscribeMap name) = none := if_pos rfl
      dsimp only
      rw [erased]
      refine ⟨nofun, fun env callback time => iff_of_false nofun ?_, List.Pairwise.nil⟩
      rw [inForce_append, inForceAfter, if_pos rfl]
      exact nofun
  | publishEvent name nativeObject =>
    obtain rfl := Option.some.inj acts
    have noExit (env : Env) :
        (.publishEvent name nativeObject : Label Env Callback Object) ≠ .exits env := nofun
    refine ⟨fun other => (coherent.follows other).later noExit fun _ _ => rfl, fun task member => ?_⟩
    rcases List.mem_append.mp member with old | new
    · exact marked_tasks coherent noExit task old
    · obtain ⟨callback, listed, rfl⟩ := List.mem_map.mp new
      exact ((coherent.follows name).marked callback listed).later nofun
  | exits env =>
    obtain rfl := Option.some.inj acts
    refine ⟨fun name => ?_, fun task member => ?_⟩
    · have marked : ((subscribe.eventSubscribeMap name).map (List.map (NapiCallback.cleanUp env))).getD [] =
          (subscribe.callbacks name).map (NapiCallback.cleanUp env) := by
        rw [callbacks]
        cases subscribe.eventSubscribeMap name <;> rfl
      rw [callbacks, marked]
      exact follows_exits (coherent.follows name) env
    · obtain ⟨before, old, rfl⟩ := List.mem_map.mp member
      exact (coherent.posted before old).cleanUp env
  | runsTask env =>
    rw [act] at acts
    split at acts
    · cases acts
    · obtain rfl := Option.some.inj acts
      have noExit (exited : Env) : (.runsTask env : Label Env Callback Object) ≠ .exits exited := nofun
      refine ⟨fun other => (coherent.follows other).later noExit fun _ _ => rfl, fun task member => ?_⟩
      exact marked_tasks coherent noExit task (List.mem_of_mem_eraseP member)

omit [DecidableEq Env] [DecidableEq Callback] in
/-- A task calls nothing, or a function of a live environment. -/
theorem run_cases (task : Task Env Callback Object) :
    task.run = none ∨ task.callback.isValidNapiEnv = true ∧ ∃ object ∈ task.nativeObject,
      task.run = some { env := task.callback.env, function := task.callback.function, object := object } := by
  rw [Task.run]
  cases valid : task.callback.isValidNapiEnv with
  | false => exact .inl rfl
  | true =>
    cases there : task.nativeObject with
    | none => exact .inl rfl
    | some object => exact .inr ⟨rfl, object, rfl, rfl⟩

/-- What a step keeps to, whatever its label. Publishing posts the live callbacks in order, and
only the running of a task calls a function, that of its callback if the environment is still
alive. -/
theorem keeps_step {subscribe next : NapiEventSubscribeModule Env Callback Object}
    {label : Label Env Callback Object}
    (coherent : Coherent subscribe) (enabled : subscribe.step label = some next) :
      Keeps subscribe label next := by
  obtain ⟨acted, acts, rfl⟩ := Option.map_eq_some_iff.mp enabled
  cases label with
  | registerCallback name env callback | deregisterCallback name env callback =>
    obtain rfl := Option.some.inj acts
    refine ⟨?_, nofun, .inl rfl, nofun⟩
    rintro _ ⟨⟩ other apart
    exact (callbacks_changed ..).trans (if_neg apart)
  | deregisterAllCallback name =>
    obtain rfl := Option.some.inj acts
    refine ⟨?_, nofun, .inl rfl, nofun⟩
    rintro _ ⟨⟩ other apart
    rw [callbacks, callbacks]
    exact congrArg (Option.getD · []) (if_neg apart)
  | publishEvent name nativeObject =>
    obtain rfl := Option.some.inj acts
    refine ⟨fun _ _ _ _ => rfl, ?_, .inl rfl, nofun⟩
    rintro _ _ ⟨⟩
    refine ⟨_, rfl, ?_⟩
    rw [callFunction, List.filter_map]
    rfl
  | exits env =>
    obtain rfl := Option.some.inj acts
    exact ⟨nofun, nofun, .inl rfl, nofun⟩
  | runsTask env =>
    rw [act] at acts
    split at acts
    · cases acts
    · rename_i task found
      obtain rfl := Option.some.inj acts
      have member := List.mem_of_find?_eq_some found
      refine ⟨nofun, nofun, ?_, ?_⟩
      · rcases run_cases task with nothing | ⟨valid, object, there, called⟩
        · left
          rw [nothing]
          exact List.append_nil _
        · right
          refine ⟨task, member, object, there, (coherent.posted task member).valid.mp valid, ?_⟩
          rw [called]
          rfl
      · rintro _ first object ⟨⟩ isFirst isLive there
        obtain rfl := Option.some.inj (found.symm.trans isFirst)
        have called : task.run =
            some { env := task.callback.env, function := task.callback.function, object := object } := by
          rw [Task.run, (coherent.posted task member).valid.mpr isLive, there]
          rfl
        rw [called]
        rfl

/-- **The subscriptions are a set in registration order.** In every state that is reached, the
callbacks of live environments stored for an event are those with a registration in force,
in the order of these registrations. No operation changes the callbacks of another event,
publishing posts each of them once and in that order, a task that runs calls its function as
long as its environment is live, and no function of an environment that has exited is called. -/
theorem subscribed_in_order (labels : List (Label Env Callback Object))
    (subscribe : NapiEventSubscribeModule Env Callback Object)
    (reached : run step {} labels = some subscribe) :
    Subscribed subscribe ∧ ∀ label next, subscribe.step label = some next →
      Keeps subscribe label next := by
  have coherent : Coherent subscribe :=
    preserved_last coherent_step {} subscribe labels coherent_start reached
  exact ⟨coherent.subscribed, fun label next enabled => keeps_step coherent enabled⟩

/-- Two environments subscribe, one of them exits, and the other registers again. -/
theorem subscribed_after_exit :
    ∃ subscribe : NapiEventSubscribeModule Nat Nat Unit, Subscribed subscribe ∧
      subscribe.live "stateChange" = [{ env := 1, function := 7, registered := 1 }] := by
  refine ⟨_, (subscribed_in_order
    [.registerCallback "stateChange" 0 7, .registerCallback "stateChange" 1 7, .exits 0,
      .registerCallback "stateChange" 1 7] _ rfl).1, rfl⟩

end NapiEventSubscribeModule
end BluetoothFramework.Napi
