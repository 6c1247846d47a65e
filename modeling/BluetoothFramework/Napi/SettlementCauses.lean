import BluetoothFramework.Napi.Settlement

/-!
# What settles a work

Three things give cause to call the application of a work: its `Execute` fails, an event of the
service gets it from the map, or the function of its timer runs while somebody holds the work.
A callback is called once for each of them. What is not yet called is posted, is under way in a
thread, or awaits `Complete`, so the causes of a run can be counted off against the calls
(`outstanding_step`).

`settled_once_iff` puts this next to the condition on single steps. Works settle once in every run
in which no callback has two causes, in whatever order events and timers come. In a run after which
nobody is to call a work any more the converse holds. Cut off anywhere, a run settles every work
once exactly when no callback that is spent is triggered again.
-/

namespace BluetoothFramework.Napi

open Runs

namespace NapiAsyncWork

/-- The work awaits events, and the application gave a callback. -/
def isCallback (work : NapiAsyncWork) : Bool :=
  work.needCallback && !work.isPromise

/-- Failures of `Execute` that `Complete` is still to report. -/
def failures (work : NapiAsyncWork) : Nat :=
  match work.phase with
  | .executed errCode => if errCode = btNoError then 0 else 1
  | _ => 0

/-- The calls made, posted, under way in a thread, and to come from `Complete`. -/
def expected (work : NapiAsyncWork) : Nat :=
  work.count + work.calls.length + work.failures

/-- What is expected of a callback. -/
def outstanding (work : NapiAsyncWork) : Nat :=
  if work.isCallback then work.expected else 0

/-- Nobody is to call the application any more. -/
def IsDone (work : NapiAsyncWork) : Prop :=
  work.posted = [] ∧ work.calls = [] ∧ ¬work.HasFailed

/-- A change that adds so many calls to what is expected of a callback. -/
structure Adds (before after : NapiAsyncWork) (number : Nat) : Prop where
  isPromise : after.isPromise = before.isPromise
  needCallback : after.needCallback = before.needCallback
  expected : before.isCallback = true → after.expected = before.expected + number

variable {work after : NapiAsyncWork}

/-- A change that adds calls leaves the kind of the work. -/
theorem Adds.isCallback {number : Nat} (adds : Adds work after number) :
    after.isCallback = work.isCallback := by
  rw [NapiAsyncWork.isCallback, adds.isPromise, adds.needCallback, NapiAsyncWork.isCallback]

/-- What is expected of a callback grows by the calls added; of a promise nothing is expected.
-/
theorem Adds.outstanding {number : Nat} (adds : Adds work after number) :
    after.outstanding = work.outstanding + if work.isCallback then number else 0 := by
  rw [NapiAsyncWork.outstanding, adds.isCallback, NapiAsyncWork.outstanding]
  cases callback : work.isCallback with
  | true => exact adds.expected callback
  | false => rfl

/-- A failure is expected exactly if `Complete` is to report one. -/
theorem failures_eq_zero_iff (work : NapiAsyncWork) : work.failures = 0 ↔ ¬work.HasFailed := by
  rw [failures, HasFailed]
  split
  · rename_i errCode executed
    by_cases fine : errCode = btNoError <;> simp [executed, fine]
  · rename_i other
    refine iff_of_true rfl ?_
    rintro ⟨errCode, -, executed⟩
    exact other errCode executed

/-- Of a work that is done nothing is expected beyond the calls it has made. -/
theorem expected_of_isDone (done : work.IsDone) : work.expected = work.invocations.length := by
  obtain ⟨posted, calls, notFailed⟩ := done
  rw [expected, count, posted, calls, (failures_eq_zero_iff work).mpr notFailed]
  rfl

/-- A change of phase or timer that `Complete` has no failure to report before or after. -/
theorem adds_phase {phase : Phase} {timerId : Nat} {timer : Option Nat} (before : work.failures = 0)
    (after : NapiAsyncWork.failures { work with phase, timerId, timer } = 0) :
    Adds work { work with phase, timerId, timer } 0 := by
  refine ⟨rfl, rfl, fun _ => ?_⟩
  rw [expected, after, expected, before]
  rfl

/-- `Execute` adds a call if it fails. -/
theorem adds_execute (created : work.phase = .created) (errCode : Int32) :
    Adds work (work.execute errCode) (if errCode = btNoError then 0 else 1) := by
  refine ⟨rfl, rfl, fun _ => ?_⟩
  have before : work.failures = 0 := by rw [failures, created]
  rw [expected, expected, before]
  rfl

/-- A callback is called, and nothing else changes. -/
theorem expected_callFunction (callback : work.isPromise = false) (errCode : Int32) :
    (work.callFunction errCode).expected = work.expected + 1 := by
  rw [expected, count_callFunction callback]
  have same : (work.callFunction errCode).calls = work.calls ∧
      (work.callFunction errCode).failures = work.failures := by
    rw [callFunction, callback]
    exact ⟨rfl, rfl⟩
  rw [same.1, same.2, expected]
  omega

/-- `Complete` reports the failure, or finds that there was none. The failure was expected from
`Execute` on, so reporting it adds nothing. -/
theorem adds_complete {errCode : Int32} (executed : work.phase = .executed errCode) :
    Adds work (work.complete errCode) 0 := by
  rw [complete]
  by_cases fine : work.needCallback ∧ errCode = btNoError
  · have before : work.failures = 0 := by rw [failures, executed, fine.2]; rfl
    rw [if_pos fine]
    split
    · exact adds_phase before rfl
    · exact adds_phase before rfl
  · rw [if_neg fine]
    obtain ⟨isPromise, needCallback, _⟩ :=
      callFunction_frame { work with triggered := true, phase := .completed } errCode
    refine ⟨isPromise, needCallback, fun callback => ?_⟩
    obtain ⟨needs, isFunction⟩ := Bool.and_eq_true_iff.mp callback
    have failed : work.failures = 1 := by
      rw [failures, executed]
      exact if_neg fun success => fine ⟨needs, success⟩
    rw [expected_callFunction (by simpa using isFunction), expected, expected, failed]
    rfl

/-- To register a work adds nothing, with a timer or without. -/
theorem adds_register (registering : work.phase = .registering) (timer : Option Nat) :
    Adds work (work.register timer) 0 := by
  have before : work.failures = 0 := by rw [failures, registering]
  cases timer with
  | none => exact adds_phase before rfl
  | some timerId => exact adds_phase before rfl

/-- To store the id of the timer adds nothing: the timer calls only when it fires. -/
theorem adds_storeTimerId {timerId : Nat} (registered : work.phase = .registered timerId) :
    Adds work (work.storeTimerId timerId) 0 := by
  have before : work.failures = 0 := by rw [failures, registered]
  exact adds_phase before rfl

/-- The function of the timer adds a call if the work is still there. -/
theorem adds_fire (work : NapiAsyncWork) (alive stored : Bool) :
    Adds work (work.fire alive stored) (if alive then 1 else 0) := by
  cases alive with
  | false => exact ⟨rfl, rfl, fun _ => rfl⟩
  | true =>
    refine ⟨rfl, rfl, fun _ => ?_⟩
    simp only [fire, expected, count, failures, if_true, List.length_append, List.length_singleton]
    omega

/-- An event that has got the work adds a call. -/
theorem adds_get (work : NapiAsyncWork) (type : NapiAsyncType) (errCode : Int32) :
    Adds work (work.get type errCode) 1 := by
  refine ⟨rfl, rfl, fun _ => ?_⟩
  simp only [get, expected, count, failures, List.length_append, List.length_singleton]
  omega

/-- A thread that goes on is still one thread. -/
theorem adds_proceed {errCode : Int32} {now : Stage} (under : ⟨now, errCode⟩ ∈ work.calls)
    (next : Stage) :
    Adds work (work.proceed errCode now next) 0 := by
  refine ⟨rfl, rfl, fun _ => ?_⟩
  have some := List.length_pos_of_mem under
  simp only [proceed, expected, count, failures, List.length_append, List.length_singleton,
    List.length_erase_of_mem under]
  omega

/-- To enter the callback function adds nothing: the thread was counted when it began its call.
-/
theorem adds_enter {errCode : Int32} (under : ⟨.entering, errCode⟩ ∈ work.calls) :
    Adds work (work.enter errCode) 0 := by
  refine ⟨?_, needCallback_enter work errCode, fun callback => ?_⟩
  · rw [enter, unregister]
    split_ifs <;> rfl
  · have needs := (Bool.and_eq_true_iff.mp callback).1
    rw [enter, if_neg (by simp [needs]), unregister]
    split_ifs <;> exact (adds_proceed under .triggering).expected callback

/-- A task that is posted takes the place of the thread that posts it. -/
theorem adds_trigger {errCode : Int32} (under : ⟨.triggering, errCode⟩ ∈ work.calls) :
    Adds work (work.trigger errCode) 0 := by
  refine ⟨rfl, rfl, fun _ => ?_⟩
  have some := List.length_pos_of_mem under
  simp only [trigger, expected, count, failures, List.length_append, List.length_singleton,
    List.length_erase_of_mem under]
  omega

/-- The call takes the place of the task. -/
theorem adds_runTask {errCode : Int32} (posted : errCode ∈ work.posted) :
    Adds work (work.runTask errCode) 0 := by
  obtain ⟨isPromise, needCallback, _⟩ :=
    callFunction_frame { work with posted := work.posted.erase errCode } errCode
  refine ⟨isPromise, needCallback, fun callback => ?_⟩
  have isFunction := (Bool.and_eq_true_iff.mp callback).2
  have some := List.length_pos_of_mem posted
  rw [runTask, expected_callFunction (by simpa using isFunction)]
  simp only [expected, count, failures, List.length_erase_of_mem posted]
  omega

end NapiAsyncWork

open NapiAsyncWork

/-- The work that a step gives cause to settle. -/
def causes (state : State) : Label → Option Nat
  | .executes id errCode => if errCode = btNoError then none else some id
  | .gets type _ => state.get type
  | .fires id => if state.isAlive id then some id else none
  | _ => none

/-- A step gives cause to call the callback of the work. -/
def settles (id : Nat) (state : State) (label : Label) : Bool :=
  (state.work id).isCallback && causes state label = some id

/-- No callback has two causes to be called. -/
def CausedOnce (state : State) (labels : List Label) : Prop :=
  ∀ id, tally step (settles id) state labels ≤ 1

/-- Nobody is to call an application any more. -/
def AllDone (state : State) : Prop :=
  ∀ id, (state.work id).IsDone

variable {state next : State}

/-- What a step adds: nothing to any work, or so many calls to one. -/
inductive Addition (state next : State) (label : Label) : Prop where
  | same (works : next.work = state.work) (cause : causes state label = none)
  | adds (id : Nat) (after : NapiAsyncWork) (number : Nat)
      (works : next.work = Function.update state.work id after)
      (change : Adds (state.work id) after number)
      (cause : number = if causes state label = some id then 1 else 0)
      (only : ∀ other, causes state label = some other → other = id)

/-- A step that gives no cause adds nothing. Most labels are of this kind, the work itself being all
that they change. -/
theorem Addition.silent {label : Label} {id : Nat} {after : NapiAsyncWork}
    (works : next.work = Function.update state.work id after)
    (change : Adds (state.work id) after 0)
    (cause : causes state label = none) : Addition state next label := by
  refine .adds id after 0 works change ?_ ?_
  · simp [cause]
  · intro other causing
    rw [cause] at causing
    cases causing

/-- The calls a step adds are those it gives cause for. One case for each label; a failed
execution, a timer that fires and an event that gets a work add one call, and everything else
moves a call on. -/
theorem step_addition {label : Label} (taken : step state label = some next) :
    Addition state next label := by
  cases label with
  | tryPush type id =>
    cases taken
    exact .same (tryPush_work state type id) rfl
  | executes id errCode =>
    obtain ⟨created, taken⟩ := Option.ite_none_right_eq_some.mp taken
    cases taken
    refine .adds id _ _ rfl (adds_execute created errCode) ?_ ?_
    · by_cases fine : errCode = btNoError <;> simp [causes, fine]
    · intro other cause
      exact (Option.some.inj (Option.ite_none_left_eq_some.mp cause).2).symm
  | completes id =>
    rw [step] at taken
    split at taken
    · rename_i errCode executed
      cases taken
      exact .silent rfl (adds_complete executed) rfl
    · cases taken
  | registers id timer =>
    obtain ⟨registering, taken⟩ := Option.ite_none_right_eq_some.mp taken
    cases taken
    exact .silent rfl (adds_register registering.1 timer) rfl
  | storesTimerId id =>
    rw [step] at taken
    split at taken
    · rename_i timerId registered
      cases taken
      exact .silent rfl (adds_storeTimerId registered) rfl
    · cases taken
  | takesUp id =>
    obtain ⟨_, taken⟩ := Option.ite_none_right_eq_some.mp taken
    cases taken
    exact .silent rfl ⟨rfl, rfl, fun _ => rfl⟩ rfl
  | fires id =>
    obtain ⟨_, taken⟩ := Option.ite_none_right_eq_some.mp taken
    cases taken
    refine .adds id _ _ rfl (adds_fire _ _ _) ?_ ?_
    · cases alive : state.isAlive id <;> simp [causes, alive]
    · intro other cause
      exact (Option.some.inj (Option.ite_none_right_eq_some.mp cause).2).symm
  | gets type errCode =>
    rw [step] at taken
    split at taken
    · rename_i id found
      cases taken
      refine .adds id _ 1 rfl (adds_get _ type errCode) ?_ ?_
      · simp [causes, found]
      · intro other cause
        exact Option.some.inj (cause.symm.trans found)
    · rename_i absent
      cases taken
      exact .same rfl absent
  | erases id type errCode =>
    obtain ⟨under, taken⟩ := Option.ite_none_right_eq_some.mp taken
    cases taken
    exact .silent rfl (adds_proceed under _) rfl
  | enters id errCode =>
    obtain ⟨under, taken⟩ := Option.ite_none_right_eq_some.mp taken
    cases taken
    exact .silent rfl (adds_enter under) rfl
  | triggers id errCode =>
    obtain ⟨under, taken⟩ := Option.ite_none_right_eq_some.mp taken
    cases taken
    exact .silent rfl (adds_trigger under) rfl
  | runsTask id errCode =>
    obtain ⟨posted, taken⟩ := Option.ite_none_right_eq_some.mp taken
    cases taken
    exact .silent rfl (adds_runTask posted) rfl

/-- What is outstanding for a callback grows by one with each cause and never shrinks. -/
theorem outstanding_step (id : Nat) {label : Label} (taken : step state label = some next) :
    (next.work id).outstanding = (state.work id).outstanding +
      if settles id state label then 1 else 0 := by
  rw [settles]
  cases step_addition taken with
  | same works cause => simp [works, cause]
  | adds changed after number works change cause only =>
    rw [works]
    by_cases same : id = changed
    · subst same
      rw [Function.update_self, change.outstanding, cause]
      cases (state.work id).isCallback <;> simp
    · have elsewhere : causes state label ≠ some id := fun cause => same (only id cause)
      rw [Function.update_of_ne same]
      simp [elsewhere]

/-! ## Runs -/

/-- All works are coherent at the start, since nothing has happened to them. -/
theorem coherent_start (isPromise needCallback : Nat → Bool) :
    AllCoherent (start isPromise needCallback) := by
  intro id _
  refine ⟨fun _ => rfl, ?_, ?_, ?_⟩
  · intro triggered
    cases triggered
  · intro counted
    cases counted
  · intro owed
    cases owed

/-- Nothing is outstanding at the start. -/
theorem outstanding_start (isPromise needCallback : Nat → Bool) (id : Nat) :
    ((start isPromise needCallback).work id).outstanding = 0 := by
  rw [outstanding]
  split <;> rfl

/-- Coherent works of which one call is expected at most settle once. -/
theorem settleOnce_of_outstanding (coherent : AllCoherent state)
    (bounded : ∀ id, (state.work id).outstanding ≤ 1) : AllSettleOnce state := by
  intro id needs
  rw [settlesOnce_iff (coherent id needs)]
  intro isFunction
  have bound := bounded id
  rw [outstanding, isCallback, needs, isFunction] at bound
  exact Nat.le_trans (Nat.le_trans (Nat.le_add_right _ _) (Nat.le_add_right _ _)) bound

/-- Works settle once in a run in which no callback has two causes. What is outstanding never
exceeds the causes there have been, so it is one at most in every state. -/
theorem settle_of_causedOnce (isPromise needCallback : Nat → Bool) (labels : List Label)
    (once : CausedOnce (start isPromise needCallback) labels) :
    Always step AllSettleOnce (start isPromise needCallback) labels := by
  have bounded : Always step (fun state => ∀ id, (state.work id).outstanding ≤ 1)
      (start isPromise needCallback) labels := by
    apply always_forall
    intro id
    have counted : ((start isPromise needCallback).work id).outstanding +
        tally step (settles id) (start isPromise needCallback) labels ≤ 1 := by
      rw [outstanding_start, Nat.zero_add]
      exact once id
    exact @measured_always _ _ step (fun _ => True) (fun state => (state.work id).outstanding) (settles id)
      (fun _ _ _ _ _ => trivial) (fun _ _ _ _ taken => outstanding_step id taken) _ _ trivial 1 counted
  have coherent := always_with
    (fun _ _ _ _ coherent taken => ((step_outcome coherent taken).settles coherent).1)
    (coherent_start isPromise needCallback) bounded
  exact always_imp (fun _ both => settleOnce_of_outstanding both.2 both.1) coherent

/-- What is outstanding for a work at the end of a run are its causes, for nothing was outstanding
at the start and each step adds what it gives cause for. -/
theorem outstanding_reached (isPromise needCallback : Nat → Bool) {labels : List Label} {last : State}
    (reached : run step (start isPromise needCallback) labels = some last) (id : Nat) :
    (last.work id).outstanding = tally step (settles id) (start isPromise needCallback) labels := by
  have counted := @measured_last _ _ step (fun _ => True) (fun state => (state.work id).outstanding)
    (settles id) (fun _ _ _ _ _ => trivial) (fun _ _ _ _ taken => outstanding_step id taken) _ last
    labels trivial reached
  rwa [outstanding_start, Nat.zero_add] at counted

/-- A callback that nobody is to call any more has been called once for each cause. -/
theorem called_for_each_cause (isPromise needCallback : Nat → Bool) {labels : List Label}
    {last : State} (reached : run step (start isPromise needCallback) labels = some last) {id : Nat}
    (done : (last.work id).IsDone) (callback : (last.work id).isCallback = true) :
    (last.work id).invocations.length =
      tally step (settles id) (start isPromise needCallback) labels := by
  rw [← outstanding_reached isPromise needCallback reached, outstanding, if_pos callback,
    expected_of_isDone done]

/-- A work for whose callback nothing was ever expected has no cause to call it. -/
theorem tally_of_not_callback (isPromise needCallback : Nat → Bool) {labels : List Label}
    {last : State} (reached : run step (start isPromise needCallback) labels = some last) {id : Nat}
    (other : (last.work id).isCallback = false) :
    tally step (settles id) (start isPromise needCallback) labels = 0 := by
  rw [← outstanding_reached isPromise needCallback reached, outstanding, other]
  rfl

/-- **When works settle once.** In every run in which no callback has two causes to be called (an
event that gets the work, the function of its timer, a failed `Execute`), every work that needs a
callback settles once all along. Where nobody is to call a work any more at the end, this is the
exact condition, because a callback is called for each of its causes. In every run, finished or
not, the works settle once exactly when no callback that is spent is triggered again. -/
theorem settled_once_iff (isPromise needCallback : Nat → Bool) (labels : List Label) :
    (CausedOnce (start isPromise needCallback) labels →
      Always step AllSettleOnce (start isPromise needCallback) labels) ∧
    (∀ last, run step (start isPromise needCallback) labels = some last → AllDone last →
      (Always step AllSettleOnce (start isPromise needCallback) labels ↔
        CausedOnce (start isPromise needCallback) labels)) ∧
    (Always step AllSettleOnce (start isPromise needCallback) labels ↔
      Meets step FindsUntriggered (start isPromise needCallback) labels) := by
  refine ⟨settle_of_causedOnce isPromise needCallback labels, ?_, ?_⟩
  · intro last reached done
    refine ⟨fun always id => ?_, settle_of_causedOnce isPromise needCallback labels⟩
    have settled : AllSettleOnce last := always_last _ _ _ always reached
    cases callback : (last.work id).isCallback with
    | true =>
      rw [← called_for_each_cause isPromise needCallback reached (done id) callback]
      exact (settled id (Bool.and_eq_true_iff.mp callback).1).atMostOnce
    | false =>
      rw [tally_of_not_callback isPromise needCallback reached callback]
      exact Nat.zero_le 1
  · apply @always_iff_meets _ _ step AllSettleOnce AllCoherent FindsUntriggered
    · exact fun state label next coherent taken => ((step_outcome coherent taken).settles coherent).1
    · exact fun state label next coherent settled taken =>
        ((step_outcome coherent taken).settles coherent).2 settled
    · exact coherent_start isPromise needCallback
    · apply settleOnce_of_outstanding (coherent_start isPromise needCallback)
      intro id
      rw [outstanding_start]
      exact Nat.zero_le 1

/-- A characteristic is read with a callback, and the read times out before the service answers.
The timer leaves the work in the map, where the answer finds it. -/
def lateEvent : List Label :=
  [.tryPush .gattClientReadCharacter 0, .executes 0 btNoError, .completes 0, .registers 0 (some 1),
    .storesTimerId 0, .takesUp 0, .fires 0, .enters 0 btErrTimeout, .triggers 0 btErrTimeout,
    .runsTask 0 btErrTimeout, .gets .gattClientReadCharacter btNoError,
    .erases 0 .gattClientReadCharacter btNoError, .enters 0 btNoError, .triggers 0 btNoError,
    .runsTask 0 btNoError]

/-- The application's callback is called with the timeout and with the answer. -/
theorem lateEvent_calls_twice :
    ¬ Always step AllSettleOnce (start (fun _ => false) fun _ => true) lateEvent := by
  intro always
  have settled := always_last _ _ _ always rfl 0 rfl
  exact absurd settled.atMostOnce (by decide)

end BluetoothFramework.Napi
