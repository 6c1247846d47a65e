import BluetoothFramework.Library.Runs
import BluetoothFramework.Napi.AsyncWork

/-!
# How often a work is settled

A work that has been triggered has called the application or posted a task that will. The
converse holds for callbacks, so the flag tells whether a callback is spent, and a callback is
called once as long as nobody triggers it again. `CallFunction` and a failing `Complete` do
not look at the flag. A promise looks at a flag of its own.

`step_outcome` says of every step whether it triggers a work, and `Outcome.settles` what that
means for how often the work is settled. What is owed is done or under way without any
condition, and `owed_reaches` says that what is under way can always be finished.
-/

namespace BluetoothFramework.Napi

open Runs

namespace NapiAsyncWork

/-- How often the application has been called or will be called by a task that is posted. -/
def count (work : NapiAsyncWork) : Nat :=
  work.invocations.length + work.posted.length

/-- `Execute` has failed and `Complete` is to come. -/
def HasFailed (work : NapiAsyncWork) : Prop :=
  ∃ errCode, errCode ≠ btNoError ∧ work.phase = .executed errCode

/-- The application is called at most once; for a callback the posted tasks count too. What is
owed has been done, is posted, or is under way. -/
structure SettlesOnce (work : NapiAsyncWork) : Prop where
  atMostOnce : work.invocations.length ≤ 1
  callback : work.isPromise = false → work.count ≤ 1
  served : work.owed = true → work.invocations ≠ [] ∨ work.posted ≠ [] ∨ work.calls ≠ [] ∨ work.HasFailed

/-- What holds of a work that needs a callback, however often it is triggered. -/
structure Coherent (work : NapiAsyncWork) : Prop where
  resolved : work.isPromise = true → work.invocations.length = if work.isResolvedOrRejected then 1 else 0
  marks : work.triggered = true → 0 < work.count
  marked : 0 < work.count → work.triggered = true
  owed : work.owed = true → work.triggered = true ∨ work.calls ≠ [] ∨ work.HasFailed

/-- What is owed has been done, or is posted or under way, however often the work is triggered. -/
theorem Coherent.served {work : NapiAsyncWork} (coherent : Coherent work)
    (owed : work.owed = true) :
    work.invocations ≠ [] ∨ work.posted ≠ [] ∨ work.calls ≠ [] ∨ work.HasFailed := by
  rcases coherent.owed owed with triggered | calls | failed
  · have counted := coherent.marks triggered
    rw [count] at counted
    by_cases called : work.invocations = []
    · refine .inr (.inl fun none => ?_)
      simp [called, none] at counted
    · exact .inl called
  · exact .inr (.inr (.inl calls))
  · exact .inr (.inr (.inr failed))

/-- Only the posted tasks of a callback can make it settle twice. -/
theorem settlesOnce_iff {work : NapiAsyncWork} (coherent : Coherent work) :
    SettlesOnce work ↔ (work.isPromise = false → work.count ≤ 1) := by
  constructor
  · exact fun settles => settles.callback
  · intro callback
    refine ⟨?_, callback, coherent.served⟩
    cases promise : work.isPromise with
    | false =>
      have bound := callback promise
      rw [count] at bound
      omega
    | true =>
      rw [coherent.resolved promise]
      split <;> omega

/-- A change by which no callback is called that was not posted, and none is posted. -/
structure Quiet (before after : NapiAsyncWork) : Prop where
  isPromise : after.isPromise = before.isPromise
  needCallback : after.needCallback = before.needCallback
  coherent : Coherent after
  count : after.isPromise = false → after.count = before.count

/-- A change by which a work is triggered. -/
structure Triggers (before after : NapiAsyncWork) : Prop where
  isPromise : after.isPromise = before.isPromise
  needCallback : after.needCallback = before.needCallback
  coherent : Coherent after
  count : after.isPromise = false → after.count = before.count + 1

/-- A callback is not spent. -/
def Untriggered (work : NapiAsyncWork) : Prop :=
  work.needCallback = true → work.isPromise = false → work.triggered = false

variable {work after : NapiAsyncWork}

/-- A quiet change keeps that the application is called once: what was posted or called before
is still the whole of it. -/
theorem Quiet.settles (quiet : Quiet work after) (settled : SettlesOnce work) :
    SettlesOnce after := by
  rw [settlesOnce_iff quiet.coherent]
  intro callback
  rw [quiet.count callback]
  exact settled.callback (quiet.isPromise ▸ callback)

/-- A work that settles once and is triggered goes on to settle once exactly if it is a
promise or was not triggered before. -/
theorem Triggers.settles (triggers : Triggers work after) (coherent : Coherent work) :
    SettlesOnce after ↔ (work.isPromise = false → work.triggered = false) := by
  rw [settlesOnce_iff triggers.coherent]
  have kind := triggers.isPromise
  constructor
  · intro once callback
    have bound := once (kind.trans callback)
    rw [triggers.count (kind.trans callback)] at bound
    rw [← Bool.not_eq_true]
    intro triggered
    have counted := coherent.marks triggered
    omega
  · intro untriggered callback
    have before := untriggered (kind.symm.trans callback)
    rw [triggers.count callback]
    have none : work.count = 0 := by
      by_contra some
      have triggered := coherent.marked (Nat.pos_of_ne_zero some)
      rw [before] at triggered
      cases triggered
    omega

/-- What calls nobody, posts nothing and gives a reason for what is owed is quiet. -/
theorem quiet_of (coherent : Coherent work) (isPromise : after.isPromise = work.isPromise)
    (needCallback : after.needCallback = work.needCallback)
    (triggered : after.triggered = work.triggered)
    (isResolved : after.isResolvedOrRejected = work.isResolvedOrRejected)
    (invocations : after.invocations = work.invocations) (posted : after.posted = work.posted)
    (owed : after.owed = true → after.triggered = true ∨ after.calls ≠ [] ∨ after.HasFailed) :
    Quiet work after := by
  have same : after.count = work.count := by rw [count, invocations, posted, count]
  refine ⟨isPromise, needCallback, ⟨?_, ?_, ?_, owed⟩, fun _ => same⟩
  · rw [isPromise, invocations, isResolved]
    exact coherent.resolved
  · rw [triggered, same]
    exact coherent.marks
  · rw [same, triggered]
    exact coherent.marked

/-- Without a failed `Execute` that is to be completed, what is owed has another reason. -/
theorem owed_elsewhere (coherent : Coherent work) (notFailed : ¬ work.HasFailed)
    (owed : work.owed = true) :
    work.triggered = true ∨ work.calls ≠ [] := by
  rcases coherent.owed owed with triggered | calls | failed
  · exact .inl triggered
  · exact .inr calls
  · exact absurd failed notFailed

/-- A work that has not failed may go on to any phase and lose its timer or get one. -/
theorem quiet_phase (coherent : Coherent work) (notFailed : ¬ work.HasFailed) (phase : Phase)
    (timerId : Nat) (timer : Option Nat) : Quiet work { work with phase, timerId, timer } := by
  apply quiet_of coherent <;> try rfl
  intro owed
  rcases owed_elsewhere coherent notFailed owed with triggered | calls
  · exact .inl triggered
  · exact .inr (.inl calls)

/-- To execute a work is quiet. -/
theorem quiet_execute (coherent : Coherent work) (created : work.phase = .created)
    (errCode : Int32) :
    Quiet work (work.execute errCode) := by
  apply quiet_of coherent <;> try rfl
  have notFailed : ¬ work.HasFailed := by simp [HasFailed, created]
  intro owed
  by_cases failed : errCode = btNoError
  · rcases owed_elsewhere coherent notFailed (by simpa [execute, failed] using owed) with triggered | calls
    · exact .inl triggered
    · exact .inr (.inl calls)
  · exact .inr (.inr ⟨errCode, failed, rfl⟩)

/-- To complete a work that waits for its event is quiet. A work that needs a callback is
settled by the event and not here. -/
theorem quiet_complete (coherent : Coherent work) (executed : work.phase = .executed btNoError)
    (needCallback : work.needCallback = true) : Quiet work (work.complete btNoError) := by
  have notFailed : ¬ work.HasFailed := by simp [HasFailed, executed]
  rw [complete, if_pos ⟨needCallback, rfl⟩]
  split
  · exact quiet_phase coherent notFailed .completed work.timerId work.timer
  · exact quiet_phase coherent notFailed .registering work.timerId work.timer

/-- To register a work is quiet: the map keeps it, and perhaps a timer. -/
theorem quiet_register (coherent : Coherent work) (registering : work.phase = .registering)
    (timer : Option Nat) : Quiet work (work.register timer) := by
  have notFailed : ¬ work.HasFailed := by simp [HasFailed, registering]
  cases timer with
  | none => exact quiet_phase coherent notFailed .completed work.timerId work.timer
  | some timerId => exact quiet_phase coherent notFailed (.registered timerId) work.timerId (some timerId)

/-- To store the id of the timer is quiet. -/
theorem quiet_storeTimerId (coherent : Coherent work) {timerId : Nat}
    (registered : work.phase = .registered timerId) : Quiet work (work.storeTimerId timerId) := by
  have notFailed : ¬ work.HasFailed := by simp [HasFailed, registered]
  exact quiet_phase coherent notFailed .completed timerId work.timer

/-- To register a work leaves whether it needs a callback. -/
theorem needCallback_register (work : NapiAsyncWork) (timer : Option Nat) :
    (work.register timer).needCallback = work.needCallback := by
  cases timer <;> rfl

/-- To take up a posted task is quiet, as the call comes after it. -/
theorem quiet_takeUp (coherent : Coherent work) : Quiet work work.takeUp := by
  apply quiet_of coherent <;> try rfl
  exact coherent.owed

/-- A timer that fires leaves whether the work needs a callback. -/
theorem needCallback_fire (work : NapiAsyncWork) (alive stored : Bool) :
    (work.fire alive stored).needCallback = work.needCallback := by
  cases alive <;> rfl

/-- A timer that fires is quiet: it only begins a call of the callback function. -/
theorem quiet_fire (coherent : Coherent work) (alive stored : Bool) :
    Quiet work (work.fire alive stored) := by
  cases alive with
  | false =>
    apply quiet_of coherent <;> try rfl
    exact coherent.owed
  | true =>
    apply quiet_of coherent <;> try rfl
    intro _
    exact .inr (.inl (by simp [fire]))

/-- A thread that finds the work in the map is quiet so far. -/
theorem quiet_get (coherent : Coherent work) (type : NapiAsyncType) (errCode : Int32) :
    Quiet work (work.get type errCode) := by
  apply quiet_of coherent <;> try rfl
  intro _
  exact .inr (.inl (by simp [get]))

/-- A thread that proceeds in the callback function is quiet so far. -/
theorem quiet_proceed (coherent : Coherent work) (errCode : Int32) (now next : Stage) :
    Quiet work (work.proceed errCode now next) := by
  apply quiet_of coherent <;> try rfl
  intro _
  exact .inr (.inl (by simp [proceed]))

/-- To enter the callback function leaves whether the work needs a callback. -/
theorem needCallback_enter (work : NapiAsyncWork) (errCode : Int32) :
    (work.enter errCode).needCallback = work.needCallback := by
  rw [enter, unregister]
  split_ifs <;> rfl

/-- To enter the callback function is quiet: the thread either goes on or finds the work
triggered already. -/
theorem quiet_enter (coherent : Coherent work) (needCallback : work.needCallback = true)
    (errCode : Int32) :
    Quiet work (work.enter errCode) := by
  have entered : ∃ timer, work.enter errCode =
      { work.proceed errCode .entering .triggering with timer } := by
    rw [enter, if_neg (by simp [needCallback]), unregister]
    split_ifs <;> exact ⟨_, rfl⟩
  obtain ⟨timer, entered⟩ := entered
  rw [entered]
  have proceeds := quiet_proceed coherent errCode .entering .triggering
  exact ⟨rfl, rfl, { proceeds.coherent with }, proceeds.count⟩

section Settling

/-- To call the application changes neither the kind of the work nor its mark. -/
theorem callFunction_frame (work : NapiAsyncWork) (errCode : Int32) :
    (work.callFunction errCode).isPromise = work.isPromise ∧
      (work.callFunction errCode).needCallback = work.needCallback ∧
      (work.callFunction errCode).triggered = work.triggered := by
  rw [callFunction]
  split_ifs <;> exact ⟨rfl, rfl, rfl⟩

/-- To complete a work leaves whether it needs a callback. -/
theorem needCallback_complete (work : NapiAsyncWork) (errCode : Int32) :
    (work.complete errCode).needCallback = work.needCallback := by
  rw [complete]
  split_ifs
  · rfl
  · rfl
  · exact (callFunction_frame { work with triggered := true, phase := .completed } errCode).2.1

/-- A posted task leaves whether the work needs a callback. -/
theorem needCallback_runTask (work : NapiAsyncWork) (errCode : Int32) :
    (work.runTask errCode).needCallback = work.needCallback :=
  (callFunction_frame { work with posted := work.posted.erase errCode } errCode).2.1

/-- A callback is called. -/
theorem count_callFunction (callback : work.isPromise = false) (errCode : Int32) :
    (work.callFunction errCode).count = work.count + 1 := by
  simp only [callFunction, callback, count, Bool.not_false, if_true, List.length_append,
    List.length_singleton]
  omega

/-- Whoever is called settles, a promise at most once. A callback is called each time, which is
how it can be called twice. -/
theorem coherent_callFunction (work : NapiAsyncWork)
    (resolved : work.isPromise = true →
      work.invocations.length = if work.isResolvedOrRejected then 1 else 0)
    (triggered : work.triggered = true) (errCode : Int32) :
      Coherent (work.callFunction errCode) := by
  obtain ⟨isPromise, _, sameTriggered⟩ := callFunction_frame work errCode
  have settled : (work.callFunction errCode).isPromise = true →
      (work.callFunction errCode).invocations.length =
        if (work.callFunction errCode).isResolvedOrRejected then 1 else 0 := by
    rw [isPromise]
    intro promise
    have before := resolved promise
    cases isResolved : work.isResolvedOrRejected <;> simp [callFunction, promise, isResolved] at before ⊢ <;>
      simp [before]
  have marked : (work.callFunction errCode).triggered = true := sameTriggered.trans triggered
  refine ⟨settled, fun _ => ?_, fun _ => marked, fun _ => .inl marked⟩
  cases promise : work.isPromise with
  | false =>
    rw [count_callFunction promise]
    exact Nat.succ_pos _
  | true =>
    have resolved : (work.callFunction errCode).isResolvedOrRejected = true := by
      cases isResolved : work.isResolvedOrRejected <;> simp [callFunction, promise, isResolved]
    have called := settled (isPromise.trans promise)
    rw [resolved, if_pos rfl] at called
    rw [count]
    omega

/-- `Complete` of a failed `Execute` triggers the work. -/
theorem triggers_complete (coherent : Coherent work) {errCode : Int32}
    (failed : errCode ≠ btNoError) :
    Triggers work (work.complete errCode) := by
  rw [complete, if_neg fun fine => failed fine.2]
  obtain ⟨isPromise, needCallback, _⟩ :=
    callFunction_frame { work with triggered := true, phase := .completed } errCode
  have called := coherent_callFunction { work with triggered := true, phase := .completed }
    coherent.resolved rfl errCode
  refine ⟨isPromise, needCallback, called, fun callback => ?_⟩
  exact count_callFunction (isPromise.symm.trans callback) errCode

/-- `CallFunction` triggers the work. -/
theorem triggers_trigger (coherent : Coherent work) (errCode : Int32) :
    Triggers work (work.trigger errCode) := by
  have posted : (work.trigger errCode).count = work.count + 1 := by
    simp only [count, trigger, List.length_append, List.length_singleton]
    omega
  refine ⟨rfl, rfl, ⟨coherent.resolved, fun _ => ?_, fun _ => rfl, fun _ => .inl rfl⟩, fun _ => posted⟩
  rw [posted]
  exact Nat.succ_pos _

/-- A task is posted by who triggers the work. -/
theorem quiet_runTask (coherent : Coherent work) {errCode : Int32}
    (posted : errCode ∈ work.posted) :
    Quiet work (work.runTask errCode) := by
  obtain ⟨isPromise, needCallback, _⟩ :=
    callFunction_frame { work with posted := work.posted.erase errCode } errCode
  have some := List.length_pos_of_mem posted
  have triggered : work.triggered = true := coherent.marked (Nat.add_pos_right _ some)
  have called := coherent_callFunction { work with posted := work.posted.erase errCode }
    coherent.resolved triggered errCode
  refine ⟨isPromise, needCallback, called, fun callback => ?_⟩
  rw [runTask, count_callFunction (isPromise.symm.trans callback), count, count]
  have fewer := List.length_erase_of_mem posted
  simp only [fewer]
  omega

end Settling
end NapiAsyncWork

open NapiAsyncWork

/-- Every work that needs a callback is coherent. -/
def AllCoherent (state : State) : Prop :=
  ∀ id, (state.work id).needCallback = true → Coherent (state.work id)

/-- Every work that needs a callback settles once. -/
def AllSettleOnce (state : State) : Prop :=
  ∀ id, (state.work id).needCallback = true → SettlesOnce (state.work id)

/-- `CallFunction`, and `Complete` of a failed `Execute`, trigger no callback that is spent. -/
def FindsUntriggered (state : State) : Label → Prop
  | .completes id => (state.work id).HasFailed → (state.work id).Untriggered
  | .triggers id _ => (state.work id).Untriggered
  | _ => True

/-- What a step does to the works: nothing; a quiet change of one; or one is triggered. -/
inductive Outcome (state next : State) (guard : Prop) : Prop where
  | same (works : next.work = state.work) (free : guard)
  | quiet (id : Nat) (after : NapiAsyncWork) (works : next.work = Function.update state.work id after)
      (needCallback : after.needCallback = (state.work id).needCallback)
      (changes : (state.work id).needCallback = true → Quiet (state.work id) after) (free : guard)
  | triggers (id : Nat) (after : NapiAsyncWork) (works : next.work = Function.update state.work id after)
      (needCallback : after.needCallback = (state.work id).needCallback)
      (changes : (state.work id).needCallback = true → Triggers (state.work id) after)
      (guarded : guard ↔ (state.work id).Untriggered)

variable {state next : State}

/-- A property of all works that need a callback is one of the work that changes, where it
holds of the others. -/
theorem forall_update {property : NapiAsyncWork → Prop} {id : Nat} {after : NapiAsyncWork}
    (all : ∀ id, (state.work id).needCallback = true → property (state.work id))
    (works : next.work = Function.update state.work id after)
    (needCallback : after.needCallback = (state.work id).needCallback) :
    (∀ id, (next.work id).needCallback = true → property (next.work id)) ↔
      ((state.work id).needCallback = true → property after) := by
  rw [works]
  constructor
  · intro every needs
    have here := every id
    rw [Function.update_self, needCallback] at here
    exact here needs
  · intro here other
    by_cases same : other = id
    · rw [same, Function.update_self, needCallback]
      exact here
    · rw [Function.update_of_ne same]
      exact all other

/-- What an outcome means for all works. One work changes at most, so whether all settle once is
decided by that one and its guard. -/
theorem Outcome.settles {guard : Prop} (outcome : Outcome state next guard)
    (coherent : AllCoherent state) :
    AllCoherent next ∧ (AllSettleOnce state → (AllSettleOnce next ↔ guard)) := by
  cases outcome with
  | same works free =>
    rw [AllCoherent, AllSettleOnce, AllSettleOnce, works]
    exact ⟨coherent, fun settled => iff_of_true settled free⟩
  | quiet id after works needCallback changes free =>
    constructor
    · exact (forall_update coherent works needCallback).mpr fun needs => (changes needs).coherent
    · intro settled
      refine iff_of_true ?_ free
      exact (forall_update settled works needCallback).mpr
        fun needs => (changes needs).settles (settled id needs)
  | triggers id after works needCallback changes guarded =>
    constructor
    · exact (forall_update coherent works needCallback).mpr fun needs => (changes needs).coherent
    · intro settled
      rw [guarded, Untriggered]
      refine (forall_update settled works needCallback).trans ?_
      exact forall_congr' fun needs => (changes needs).settles (coherent id needs)

/-- `TryPush` changes no work. -/
theorem tryPush_work (state : State) (type : NapiAsyncType) (id : Nat) :
    (state.tryPush type id).1.work = state.work := by
  rw [State.tryPush]
  split
  · split <;> rfl
  · rfl

/-- The outcome of a step: it is quiet, or it settles one work. Where it finds a work that has
been triggered already, it settles it a second time, and that is said by the last argument. -/
theorem step_outcome {label : Label} (coherent : AllCoherent state)
    (taken : step state label = some next) :
    Outcome state next (FindsUntriggered state label) := by
  cases label with
  | tryPush type id =>
    cases taken
    exact .same (tryPush_work state type id) trivial
  | executes id errCode =>
    rw [step] at taken
    split at taken
    · rename_i created
      cases taken
      exact .quiet id _ rfl rfl (fun needs => quiet_execute (coherent id needs) created errCode) trivial
    · cases taken
  | completes id =>
    rw [step] at taken
    split at taken
    · rename_i errCode executed
      cases taken
      have frame := needCallback_complete (state.work id) errCode
      by_cases failed : errCode = btNoError
      · rw [failed] at executed frame ⊢
        refine .quiet id _ rfl frame (fun needs => quiet_complete (coherent id needs) executed needs) ?_
        rintro ⟨code, failed, sameCode⟩
        rw [executed] at sameCode
        cases sameCode
        exact absurd rfl failed
      · refine .triggers id _ rfl frame (fun needs => triggers_complete (coherent id needs) failed) ?_
        have hasFailed : (state.work id).HasFailed := ⟨errCode, failed, executed⟩
        exact forall_prop_of_true hasFailed
    · cases taken
  | registers id timer =>
    rw [step] at taken
    split at taken
    · rename_i registering
      cases taken
      exact .quiet id _ rfl (needCallback_register _ timer)
        (fun needs => quiet_register (coherent id needs) registering.1 timer) trivial
    · cases taken
  | storesTimerId id =>
    rw [step] at taken
    split at taken
    · rename_i timerId registered
      cases taken
      exact .quiet id _ rfl rfl (fun needs => quiet_storeTimerId (coherent id needs) registered) trivial
    · cases taken
  | takesUp id =>
    rw [step] at taken
    split at taken
    · cases taken
      exact .quiet id _ rfl rfl (fun needs => quiet_takeUp (coherent id needs)) trivial
    · cases taken
  | fires id =>
    rw [step] at taken
    split at taken
    · cases taken
      exact .quiet id _ rfl (needCallback_fire _ _ _) (fun needs => quiet_fire (coherent id needs) _ _) trivial
    · cases taken
  | gets type errCode =>
    rw [step] at taken
    split at taken
    · rename_i id _
      cases taken
      exact .quiet id _ rfl rfl (fun needs => quiet_get (coherent id needs) type errCode) trivial
    · cases taken
      exact .same rfl trivial
  | erases id type errCode =>
    rw [step] at taken
    split at taken
    · cases taken
      exact .quiet id _ rfl rfl (fun needs => quiet_proceed (coherent id needs) errCode _ _) trivial
    · cases taken
  | enters id errCode =>
    rw [step] at taken
    split at taken
    · cases taken
      exact .quiet id _ rfl (needCallback_enter _ errCode)
        (fun needs => quiet_enter (coherent id needs) needs errCode) trivial
    · cases taken
  | triggers id errCode =>
    rw [step] at taken
    split at taken
    · cases taken
      exact .triggers id _ rfl rfl (fun needs => triggers_trigger (coherent id needs) errCode) Iff.rfl
    · cases taken
  | runsTask id errCode =>
    rw [step] at taken
    split at taken
    · rename_i posted
      cases taken
      exact .quiet id _ rfl (needCallback_runTask _ errCode)
        (fun needs => quiet_runTask (coherent id needs) posted) trivial
    · cases taken

/-- A work that was written is the one that is read. -/
theorem update_work (state : State) (id : Nat) (work : NapiAsyncWork) :
    (state.update id work).work id = work :=
  Function.update_self ..

/-- The application is called in a state that can be reached. -/
def Reaches (state : State) (id : Nat) : Prop :=
  ∃ labels last, run step state labels = some last ∧ (last.work id).invocations ≠ []

/-- What can be reached after a step can be reached before it. -/
theorem reaches_of_step {id : Nat} {label : Label} (taken : step state label = some next)
    (reaches : Reaches next id) : Reaches state id := by
  obtain ⟨labels, last, reached, called⟩ := reaches
  exact ⟨label :: labels, last, (run_cons taken labels).trans reached, called⟩

/-- An application that has been called is reached at once, in the state that is there. -/
theorem reaches_now {id : Nat} (called : (state.work id).invocations ≠ []) : Reaches state id :=
  ⟨[], state, rfl, called⟩

/-- The application is called whenever the function is run, since a promise that is resolved
already has been counted. -/
theorem callFunction_calls {work : NapiAsyncWork} (errCode : Int32)
    (resolved : work.isPromise = true →
      work.invocations.length = if work.isResolvedOrRejected then 1 else 0) :
    (work.callFunction errCode).invocations ≠ [] := by
  rw [callFunction]
  split_ifs with callback isResolved
  · simp
  · intro none
    have settled := resolved (by simpa using callback)
    simp [isResolved, none] at settled
  · simp

/-- A posted task calls the application. -/
theorem posted_reaches {id : Nat} (coherent : Coherent (state.work id))
    (posted : (state.work id).posted ≠ []) :
    Reaches state id := by
  obtain ⟨errCode, isPosted⟩ := List.exists_mem_of_ne_nil _ posted
  have taken : step state (.runsTask id errCode) =
      some (state.update id ((state.work id).runTask errCode)) :=
    if_pos isPosted
  apply reaches_of_step taken
  apply reaches_now
  rw [update_work]
  exact callFunction_calls errCode coherent.resolved

/-- A thread that is to call the work posts a task. -/
theorem triggering_reaches {id : Nat} {errCode : Int32} (coherent : Coherent (state.work id))
    (under : ⟨.triggering, errCode⟩ ∈ (state.work id).calls) : Reaches state id := by
  have taken : step state (.triggers id errCode) =
      some (state.update id ((state.work id).trigger errCode)) :=
    if_pos under
  apply reaches_of_step taken
  apply posted_reaches
  · rw [update_work]
    exact (triggers_trigger coherent errCode).coherent
  · rw [update_work]
    simp [trigger]

/-- From a thread that has entered the callback function the application is reached: the thread
marks the work, posts the task, and the task runs. -/
theorem entering_reaches {id : Nat} {errCode : Int32} (coherent : Coherent (state.work id))
    (needCallback : (state.work id).needCallback = true)
    (under : ⟨.entering, errCode⟩ ∈ (state.work id).calls) : Reaches state id := by
  have taken : step state (.enters id errCode) = some (state.update id ((state.work id).enter errCode)) :=
    if_pos under
  apply reaches_of_step taken
  apply @triggering_reaches _ id errCode
  · rw [update_work]
    exact (quiet_enter coherent needCallback errCode).coherent
  · rw [update_work, enter, if_neg (by simp [needCallback])]
    simp [proceed]

/-- From any thread in the callback function the application is reached. The stages are taken
one after the other, the last one being to enter. -/
theorem call_reaches {id : Nat} {call : Call} (coherent : Coherent (state.work id))
    (needCallback : (state.work id).needCallback = true) (under : call ∈ (state.work id).calls) :
    Reaches state id := by
  obtain ⟨stage, errCode⟩ := call
  cases stage with
  | triggering => exact triggering_reaches coherent under
  | entering => exact entering_reaches coherent needCallback under
  | got type =>
    have taken : step state (.erases id type errCode) =
        some ((state.update id ((state.work id).proceed errCode (.got type) .entering)).erase type) :=
      if_pos under
    apply reaches_of_step taken
    have work : ((state.update id ((state.work id).proceed errCode (.got type) .entering)).erase type).work id =
        (state.work id).proceed errCode (.got type) .entering := update_work state id _
    apply @entering_reaches _ id errCode
    · rw [work]
      exact (quiet_proceed coherent errCode _ _).coherent
    · rw [work]
      exact needCallback
    · rw [work]
      simp [proceed]

/-- What is owed can be done: the threads under way and the posted tasks need nobody else to
go on. -/
theorem owed_reaches {id : Nat} (coherent : Coherent (state.work id))
    (needCallback : (state.work id).needCallback = true) (owed : (state.work id).owed = true) :
    Reaches state id := by
  rcases coherent.served owed with called | posted | calls | ⟨errCode, failed, executed⟩
  · exact reaches_now called
  · exact posted_reaches coherent posted
  · obtain ⟨call, under⟩ := List.exists_mem_of_ne_nil _ calls
    exact call_reaches coherent needCallback under
  · have taken : step state (.completes id) =
        some (state.update id ((state.work id).complete errCode)) := by
      rw [step, executed]
    apply reaches_of_step taken
    apply reaches_now
    rw [update_work, complete, if_neg fun fine => failed fine.2]
    exact callFunction_calls errCode coherent.resolved

end BluetoothFramework.Napi
