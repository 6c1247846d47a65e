import BluetoothFramework.Common.Types
import Mathlib.Logic.Function.Basic

/-!
# Asynchronous works of the script interface

A `NapiAsyncWork` that needs a callback settles the application's callback or promise by
`Complete` of a failed `Execute`, by an event of the service for its type, or by a timer.
Events find the work in a `NapiAsyncWorkMap`; the timer has a `weak_ptr` to it. An event and
the timer go through `CallFunction`, which posts a task to the script thread.

Works are numbered. Each function below is one access that other threads may come between:
`Complete` tests `triggered_`, registers the timer and stores its id in three steps;
`AsyncWorkCallFunction` gets the work, erases the entry and calls in separate steps;
`CallFunction` removes the timer and then sets `triggered_` and posts. A timer that the timer
service has taken up can no longer be removed, but its function has still to run. Tasks that
are posted run, in an environment that is valid. The value handed to the application and the
rewriting of its error code are left out.
-/

namespace BluetoothFramework.Napi

/-- `NapiAsyncType` -/
inductive NapiAsyncType where
  | gattClientReadCharacter
  | gattClientReadRemoteRssiValue
  | gattClientReadDescriptor
  | gattClientWriteCharacter
  | gattClientWriteCharacterWithContext
  | gattClientWriteDescriptor
  | gattClientEnableCharacterChanged
  | gattClientUpdateConnectionPriority
  | gattClientSetPhy
  | gattClientReadPhy
  | gattServerNotifyCharacteristic
  | gattServerSetPhy
  | gattServerReadPhy
  | getAdvertisingHandle
  | bleStopAdvertising
  | bleStartScan
  | bleStopScan
  | bleEnableAdvertising
  | bleDisableAdvertising
  | generateLocalOobData
  | basGetBatteryLevel
  | gattClientMtuChanged
deriving DecidableEq, Repr

/-- `BT_ERR_TIMEOUT` -/
def btErrTimeout : Int32 := 2900007

/-- How far a work has come: created; executed, with the code of `Execute`; in `Complete`
behind the test of `triggered_`; in `Complete` with the id of the new timer; done. -/
inductive Phase where
  | created
  | executed (errCode : Int32)
  | registering
  | registered (timerId : Nat)
  | completed
deriving DecidableEq

/-- Where a thread is that is to call a work: it has the work and is to erase the entry of the
type, it is about to enter `CallFunction`, or it has removed the timer. -/
inductive Stage where
  | got (type : NapiAsyncType)
  | entering
  | triggering
deriving DecidableEq

/-- A thread that is to call a work with a code. -/
structure Call where
  stage : Stage
  errCode : Int32
deriving DecidableEq

/-- The members of a work; the timer that is set for it, and how many functions of its timer
the timer service has taken up; the threads that are to call it; the codes of the tasks
posted, and of the calls the application has got. `owed` is set when `Execute` fails, when an
event gets the work from the map, and when the function of the timer runs while it is stored. -/
structure NapiAsyncWork where
  isPromise : Bool
  needCallback : Bool
  phase : Phase := .created
  triggered : Bool := false
  timerId : Nat := 0
  isResolvedOrRejected : Bool := false
  timer : Option Nat := none
  due : Nat := 0
  calls : List Call := []
  posted : List Int32 := []
  invocations : List Int32 := []
  owed : Bool := false
deriving DecidableEq

namespace NapiAsyncWork

/-- `NapiAsyncCallback::CallFunction`: a promise that is settled stays as it is. -/
def callFunction (work : NapiAsyncWork) (errCode : Int32) : NapiAsyncWork :=
  if !work.isPromise then { work with invocations := work.invocations ++ [errCode] }
  else if work.isResolvedOrRejected then work
  else { work with invocations := work.invocations ++ [errCode], isResolvedOrRejected := true }

/-- `Execute` -/
def execute (work : NapiAsyncWork) (errCode : Int32) : NapiAsyncWork :=
  { work with phase := .executed errCode, owed := work.owed || errCode ≠ btNoError }

/-- `Complete` up to the registration of a timer. -/
def complete (work : NapiAsyncWork) (errCode : Int32) : NapiAsyncWork :=
  if work.needCallback ∧ errCode = btNoError then
    if work.triggered then { work with phase := .completed } else { work with phase := .registering }
  else { work with triggered := true, phase := .completed }.callFunction errCode

/-- `NapiTimer::Register`, which may fail. -/
def register (work : NapiAsyncWork) : Option Nat → NapiAsyncWork
  | none => { work with phase := .completed }
  | some timerId => { work with timer := some timerId, phase := .registered timerId }

/-- The id of the timer is stored. -/
def storeTimerId (work : NapiAsyncWork) (timerId : Nat) : NapiAsyncWork :=
  { work with timerId, phase := .completed }

/-- `NapiTimer::Unregister` with the stored id. -/
def unregister (work : NapiAsyncWork) : NapiAsyncWork :=
  if work.timerId = 0 then work
  else if work.timer = some work.timerId then { work with timer := none }
  else work

/-- The timer service takes up the function of the timer. -/
def takeUp (work : NapiAsyncWork) : NapiAsyncWork :=
  { work with timer := none, due := work.due + 1 }

/-- The function of the timer: `TimeoutCallback` if the work is still there. -/
def fire (work : NapiAsyncWork) (alive stored : Bool) : NapiAsyncWork :=
  if alive then
    { work with
      due := work.due - 1
      calls := work.calls ++ [⟨.entering, btErrTimeout⟩]
      owed := work.owed || stored }
  else { work with due := work.due - 1 }

/-- An event has got the work. -/
def get (work : NapiAsyncWork) (type : NapiAsyncType) (errCode : Int32) : NapiAsyncWork :=
  { work with calls := work.calls ++ [⟨.got type, errCode⟩], owed := true }

/-- A thread goes on to another stage. -/
def proceed (work : NapiAsyncWork) (errCode : Int32) (now next : Stage) : NapiAsyncWork :=
  { work with calls := work.calls.erase ⟨now, errCode⟩ ++ [⟨next, errCode⟩] }

/-- `CallFunction` up to the removal of the timer. -/
def enter (work : NapiAsyncWork) (errCode : Int32) : NapiAsyncWork :=
  if !work.needCallback then { work with calls := work.calls.erase ⟨.entering, errCode⟩ }
  else work.unregister.proceed errCode .entering .triggering

/-- The rest of `CallFunction`. -/
def trigger (work : NapiAsyncWork) (errCode : Int32) : NapiAsyncWork :=
  { work with
    calls := work.calls.erase ⟨.triggering, errCode⟩
    triggered := true
    posted := work.posted ++ [errCode] }

/-- A posted task runs. -/
def runTask (work : NapiAsyncWork) (errCode : Int32) : NapiAsyncWork :=
  { work with posted := work.posted.erase errCode }.callFunction errCode

end NapiAsyncWork

/-- The works, and the map of works that await an event. -/
structure State where
  work : Nat → NapiAsyncWork
  map : List (NapiAsyncType × Nat) := []

namespace State

/-- `NapiAsyncWorkMap::Get` -/
def get (state : State) (type : NapiAsyncType) : Option Nat :=
  (state.map.find? fun entry => entry.1 = type).map Prod.snd

/-- `NapiAsyncWorkMap::Erase` -/
def erase (state : State) (type : NapiAsyncType) : State :=
  { state with map := state.map.filter fun entry => entry.1 ≠ type }

/-- `NapiAsyncWorkMap::TryPush` -/
def tryPush (state : State) (type : NapiAsyncType) (id : Nat) : State × Bool :=
  match state.get type with
  | some stored =>
      if !(state.work stored).triggered then (state, false)
      else ({ state.erase type with map := (state.erase type).map ++ [(type, id)] }, true)
  | none => ({ state with map := state.map ++ [(type, id)] }, true)

/-- The work is in the map. -/
def isStored (state : State) (id : Nat) : Bool :=
  state.map.any fun entry => entry.2 = id

/-- Somebody holds a `shared_ptr` to the work: the map, its `Info`, a thread that is to call
it, or a task. -/
def isAlive (state : State) (id : Nat) : Bool :=
  state.isStored id || (state.work id).phase ≠ .completed || (state.work id).calls ≠ [] ||
    (state.work id).posted ≠ []

/-- One work changes. -/
def update (state : State) (id : Nat) (work : NapiAsyncWork) : State :=
  { state with work := Function.update state.work id work }

end State

/-- What can happen: to a work on the script thread, to its timer, by an event, inside
`CallFunction`. -/
inductive Label where
  | tryPush (type : NapiAsyncType) (id : Nat)
  | executes (id : Nat) (errCode : Int32)
  | completes (id : Nat)
  | registers (id : Nat) (timer : Option Nat)
  | storesTimerId (id : Nat)
  | takesUp (id : Nat)
  | fires (id : Nat)
  | gets (type : NapiAsyncType) (errCode : Int32)
  | erases (id : Nat) (type : NapiAsyncType) (errCode : Int32)
  | enters (id : Nat) (errCode : Int32)
  | triggers (id : Nat) (errCode : Int32)
  | runsTask (id : Nat) (errCode : Int32)

/-- One step. Ids of timers are not zero. -/
def step (state : State) : Label → Option State
  | .tryPush type id => some (state.tryPush type id).1
  | .executes id errCode =>
      if (state.work id).phase = .created
        then some (state.update id ((state.work id).execute errCode)) else none
  | .completes id =>
      match (state.work id).phase with
      | .executed errCode => some (state.update id ((state.work id).complete errCode))
      | _ => none
  | .registers id timer =>
      if (state.work id).phase = .registering ∧ timer ≠ some 0 then
        some (state.update id ((state.work id).register timer))
      else none
  | .storesTimerId id =>
      match (state.work id).phase with
      | .registered timerId => some (state.update id ((state.work id).storeTimerId timerId))
      | _ => none
  | .takesUp id =>
      if (state.work id).timer.isSome then some (state.update id (state.work id).takeUp) else none
  | .fires id =>
      if 0 < (state.work id).due then
        some (state.update id ((state.work id).fire (state.isAlive id) (state.isStored id)))
      else none
  | .gets type errCode =>
      match state.get type with
      | some id => some (state.update id ((state.work id).get type errCode))
      | none => some state
  | .erases id type errCode =>
      if ⟨.got type, errCode⟩ ∈ (state.work id).calls then
        some ((state.update id ((state.work id).proceed errCode (.got type) .entering)).erase type)
      else none
  | .enters id errCode =>
      if ⟨.entering, errCode⟩ ∈ (state.work id).calls then
        some (state.update id ((state.work id).enter errCode))
      else none
  | .triggers id errCode =>
      if ⟨.triggering, errCode⟩ ∈ (state.work id).calls then
        some (state.update id ((state.work id).trigger errCode))
      else none
  | .runsTask id errCode =>
      if errCode ∈ (state.work id).posted
        then some (state.update id ((state.work id).runTask errCode)) else none

/-- The works before anything has happened to them. -/
def start (isPromise needCallback : Nat → Bool) : State where
  work id := { isPromise := isPromise id, needCallback := needCallback id }

end BluetoothFramework.Napi
