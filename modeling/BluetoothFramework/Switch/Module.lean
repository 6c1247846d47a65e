import Mathlib.Tactic.Common

/-!
# The Bluetooth switch module

`BluetoothSwitchModule` serializes the requests that turn Bluetooth on, off or into
restrict mode. One action runs at a time; requests arriving meanwhile are cached and
the completion event of the action decides which cached request is replayed. The
replay is a task on the module's ffrt queue, and each action arms a delayed timeout
task on the same queue.

Every function below runs under `bluetoothSwitchEventMutex_`, so it is one atomic
update of the module. The ffrt queue is part of the state: timeout tasks that were
submitted and have not started, timeout tasks that have started and wait for the
mutex, and posted replay tasks in order. `cancel` removes a task that has not
started and nothing else.

`switchAction_` is outside this code. What its call returns, and whether the call
outlasts the delay of the timeout task armed before it, is the `Outcome` handed in.
Calls made on it are recorded in order. The type parameter `Tag` identifies the
request a cache entry or a call belongs to; no function reads a tag, and at `Unit`
the entries are exactly the source's. `switchAction_` itself is never null: its
only constructor call passes a fresh object.
-/

namespace BluetoothFramework.Switch

/-- `BT_NO_ERROR` -/
def btNoError : Int := 0

/-- `BT_ERR_INTERNAL_ERROR` -/
def btErrInternalError : Int := 2900099

/-- `BT_ERR_DIALOG_FOR_USER_CONFIRM` -/
def btErrDialogForUserConfirm : Int := -100

/-- `BT_ERR_SWITCH_OP_TRANSFERRED` -/
def btErrSwitchOpTransferred : Int := -101

/-- `BluetoothSwitchEvent`, the default `NONE` included. -/
inductive BluetoothSwitchEvent where
  | none
  | enableBluetooth
  | disableBluetooth
  | enableBluetoothToRestriceMode
  | bluetoothOn
  | bluetoothOff
  | bluetoothHalf
deriving DecidableEq, Repr

/-- The three events by which a caller asks for a switch action. -/
def BluetoothSwitchEvent.IsRequest : BluetoothSwitchEvent → Prop
  | .enableBluetooth | .disableBluetooth | .enableBluetoothToRestriceMode => True
  | _ => False

instance (event : BluetoothSwitchEvent) : Decidable event.IsRequest :=
  match event with
  | .enableBluetooth | .disableBluetooth | .enableBluetoothToRestriceMode => isTrue trivial
  | .none | .bluetoothOn | .bluetoothOff | .bluetoothHalf => isFalse id

/-- `BluetoothSwitchCacheEvent`: the event and the caller's name, nothing else of
the request. The replay task captures the same two values. -/
structure BluetoothSwitchCacheEvent (Tag : Type) where
  event : BluetoothSwitchEvent
  callingName : String
  tag : Tag
deriving DecidableEq

/-- A call on `IBluetoothSwitchAction` with its arguments. -/
inductive SwitchCall where
  | enableBluetooth (noAutoConnect : Bool) (callingName : String) (isAsync : Bool)
  | disableBluetooth (callingName : String) (isAsync : Bool)
  | enableBluetoothToRestrictMode (callingName : String) (isBleOwnerMode : Bool)
deriving DecidableEq

/-- What the environment does with one call on `IBluetoothSwitchAction`: the code it
returns, and whether the timeout task armed before the call has started by then. -/
structure Outcome where
  ret : Int := btNoError
  outlastsTimeout : Bool := false
deriving DecidableEq

/-- A recorded call: whose request it executes, the call, the timeout task armed for
it and the code it returned. -/
structure Invocation (Tag : Type) where
  tag : Tag
  call : SwitchCall
  timeout : Nat
  ret : Int
deriving DecidableEq

/-- The ffrt queue `bt_switch`. Timeout tasks are named by their handles, replay
tasks by what they captured, oldest first. -/
structure FfrtQueue (Tag : Type) where
  timeouts : List Nat := []
  started : List Nat := []
  replays : List (BluetoothSwitchCacheEvent Tag) := []
  nextHandle : Nat := 0
deriving DecidableEq

namespace FfrtQueue
variable {Tag : Type}

/-- `submit_h` of a delayed timeout task; its handle is `nextHandle`. -/
def submitTimeout (queue : FfrtQueue Tag) : FfrtQueue Tag :=
  { queue with timeouts := queue.timeouts ++ [queue.nextHandle], nextHandle := queue.nextHandle + 1 }

/-- `submit` of a replay task. -/
def submitReplay (queue : FfrtQueue Tag) (task : BluetoothSwitchCacheEvent Tag) : FfrtQueue Tag :=
  { queue with replays := queue.replays ++ [task] }

/-- `cancel` of a handle, which may be the default one that names no task. -/
def cancel (queue : FfrtQueue Tag) (handle : Option Nat) : FfrtQueue Tag :=
  { queue with timeouts := queue.timeouts.filter (fun task => some task ≠ handle) }

/-- A timeout task leaves the queue and waits for the mutex. -/
def start (queue : FfrtQueue Tag) (handle : Nat) : FfrtQueue Tag :=
  { queue with
    timeouts := queue.timeouts.filter (· ≠ handle)
    started := queue.started ++ [handle] }

end FfrtQueue

/-- The members of `BluetoothSwitchModule` that its functions read or write, the
queue it owns, and the record of the calls made on `switchAction_`. -/
structure BluetoothSwitchModule (Tag : Type) where
  isBtSwitchProcessing : Bool := false
  cachedEventVec : List (BluetoothSwitchCacheEvent Tag) := []
  noAutoConnect : Bool := false
  taskTimeoutHandle : Option Nat := none
  ffrtQueue : FfrtQueue Tag := {}
  invocations : List (Invocation Tag) := []
deriving DecidableEq

namespace BluetoothSwitchModule
variable {Tag : Type}

/-- `SetNoAutoConnect` -/
def setNoAutoConnect (module : BluetoothSwitchModule Tag) (noAutoConnect : Bool) :
    BluetoothSwitchModule Tag :=
  { module with noAutoConnect := noAutoConnect }

/-- `OnTaskTimeout`: clear resources. -/
def onTaskTimeout (module : BluetoothSwitchModule Tag) : BluetoothSwitchModule Tag :=
  { module with isBtSwitchProcessing := false, cachedEventVec := [] }

/-- The part of `ProcessBluetoothSwitchAction` after the check of the flag. The
timeout task is armed and the flag set before the call; a failing call resets the
flag and cancels the timeout task, which removes it only if it has not started. -/
def startAction (action : BluetoothSwitchModule Tag → SwitchCall × BluetoothSwitchModule Tag)
    (tag : Tag) (outcome : Outcome) (module : BluetoothSwitchModule Tag) :
    Int × BluetoothSwitchModule Tag :=
  let handle := module.ffrtQueue.nextHandle
  let armed := { module with
    ffrtQueue := module.ffrtQueue.submitTimeout
    taskTimeoutHandle := some handle
    isBtSwitchProcessing := true }
  let (call, consumed) := action armed
  let called := { consumed with
    invocations := consumed.invocations ++ [⟨tag, call, handle, outcome.ret⟩]
    ffrtQueue := if outcome.outlastsTimeout then consumed.ffrtQueue.start handle
      else consumed.ffrtQueue }
  let finished :=
    if outcome.ret ≠ btNoError then
      { called with
        isBtSwitchProcessing := false
        ffrtQueue := called.ffrtQueue.cancel called.taskTimeoutHandle }
    else called
  -- interface compatibility: a dialog or a transferred operation counts as success
  let ret := if outcome.ret = btErrDialogForUserConfirm ∨ outcome.ret = btErrSwitchOpTransferred
    then btNoError else outcome.ret
  (ret, finished)

/-- `ProcessBluetoothSwitchAction` -/
def processBluetoothSwitchAction
    (action : BluetoothSwitchModule Tag → SwitchCall × BluetoothSwitchModule Tag)
    (cachedEvent : BluetoothSwitchCacheEvent Tag) (outcome : Outcome)
    (module : BluetoothSwitchModule Tag) : Int × BluetoothSwitchModule Tag :=
  if module.isBtSwitchProcessing then
    (btNoError, { module with cachedEventVec := module.cachedEventVec ++ [cachedEvent] })
  else
    module.startAction action cachedEvent.tag outcome

/-- The closure of `ProcessEnableBluetoothEvent`: it consumes `noAutoConnect_`. -/
def enableBluetoothAction (callingName : String) (isAsync : Bool)
    (module : BluetoothSwitchModule Tag) : SwitchCall × BluetoothSwitchModule Tag :=
  let noAutoConnect := module.noAutoConnect
  let consumed := if noAutoConnect then module.setNoAutoConnect false else module
  (.enableBluetooth noAutoConnect callingName isAsync, consumed)

/-- `ProcessEnableBluetoothEvent` -/
def processEnableBluetoothEvent (callingName : String) (isAsync : Bool) (tag : Tag)
    (outcome : Outcome) (module : BluetoothSwitchModule Tag) : Int × BluetoothSwitchModule Tag :=
  module.processBluetoothSwitchAction (enableBluetoothAction callingName isAsync)
    ⟨.enableBluetooth, callingName, tag⟩ outcome

/-- `ProcessDisableBluetoothEvent` -/
def processDisableBluetoothEvent (callingName : String) (isAsync : Bool) (tag : Tag)
    (outcome : Outcome) (module : BluetoothSwitchModule Tag) : Int × BluetoothSwitchModule Tag :=
  module.processBluetoothSwitchAction (fun armed => (.disableBluetooth callingName isAsync, armed))
    ⟨.disableBluetooth, callingName, tag⟩ outcome

/-- `ProcessEnableBluetoothToRestrictModeEvent` -/
def processEnableBluetoothToRestrictModeEvent (callingName : String) (isBleOwnerMode : Bool)
    (tag : Tag) (outcome : Outcome) (module : BluetoothSwitchModule Tag) :
    Int × BluetoothSwitchModule Tag :=
  module.processBluetoothSwitchAction
    (fun armed => (.enableBluetoothToRestrictMode callingName isBleOwnerMode, armed))
    ⟨.enableBluetoothToRestriceMode, callingName, tag⟩ outcome

/-- `DeduplicateCacheEvent`: find the last entry of the current event, searching from
the back, and erase everything up to and including it. -/
def deduplicateCacheEvent (curEvent : BluetoothSwitchEvent)
    (cachedEventVec : List (BluetoothSwitchCacheEvent Tag)) :
      List (BluetoothSwitchCacheEvent Tag) :=
  match cachedEventVec.reverse.findIdx? (fun cachedEvent => cachedEvent.event = curEvent) with
  | some back =>
      -- `it.base()` lies `back` entries before the end, and `pos` is one less
      let pos := cachedEventVec.length - back - 1
      cachedEventVec.drop (pos + 1)
  | none => cachedEventVec

/-- `ProcessBluetoothSwitchCachedEvent`: post the replay task. -/
def processBluetoothSwitchCachedEvent (task : BluetoothSwitchCacheEvent Tag)
    (module : BluetoothSwitchModule Tag) : Int × BluetoothSwitchModule Tag :=
  (btNoError, { module with ffrtQueue := module.ffrtQueue.submitReplay task })

/-- `ProcessBluetoothSwitchActionEnd`. The first cached entry whose event is expected
is taken out together with everything before it; without one the cache is cleared. -/
def processBluetoothSwitchActionEnd (curSwitchActionEvent : BluetoothSwitchEvent)
    (expectedEventVec : List BluetoothSwitchEvent) (module : BluetoothSwitchModule Tag) :
    Int × BluetoothSwitchModule Tag :=
  let ended := { module with
    isBtSwitchProcessing := false
    ffrtQueue := module.ffrtQueue.cancel module.taskTimeoutHandle }
  let cached := deduplicateCacheEvent curSwitchActionEvent module.cachedEventVec
  match cached.dropWhile (fun cachedEvent => !expectedEventVec.contains cachedEvent.event) with
  | it :: rest => processBluetoothSwitchCachedEvent it { ended with cachedEventVec := rest }
  | [] => (btNoError, { ended with cachedEventVec := [] })

/-- `ProcessBluetoothOnEvent` -/
def processBluetoothOnEvent (module : BluetoothSwitchModule Tag) :
    Int × BluetoothSwitchModule Tag :=
  module.processBluetoothSwitchActionEnd .enableBluetooth [.disableBluetooth]

/-- `ProcessBluetoothOffEvent` -/
def processBluetoothOffEvent (module : BluetoothSwitchModule Tag) :
    Int × BluetoothSwitchModule Tag :=
  module.processBluetoothSwitchActionEnd .disableBluetooth
    [.enableBluetooth, .enableBluetoothToRestriceMode]

/-- `ProcessBluetoothHalfEvent` -/
def processBluetoothHalfEvent (module : BluetoothSwitchModule Tag) :
    Int × BluetoothSwitchModule Tag :=
  module.processBluetoothSwitchActionEnd .enableBluetoothToRestriceMode
    [.enableBluetooth, .disableBluetooth]

/-- `ProcessBluetoothSwitchEvent`. The tag names the request and the outcome is that
of the call on `switchAction_`, used only if the event makes one. -/
def processBluetoothSwitchEvent (event : BluetoothSwitchEvent) (callingName : String)
    (isAsync isBleOwnerMode : Bool) (tag : Tag) (outcome : Outcome)
    (module : BluetoothSwitchModule Tag) : Int × BluetoothSwitchModule Tag :=
  match event with
  | .enableBluetooth => module.processEnableBluetoothEvent callingName isAsync tag outcome
  | .disableBluetooth => module.processDisableBluetoothEvent callingName isAsync tag outcome
  | .enableBluetoothToRestriceMode =>
      module.processEnableBluetoothToRestrictModeEvent callingName isBleOwnerMode tag outcome
  | .bluetoothOn => module.processBluetoothOnEvent
  | .bluetoothOff => module.processBluetoothOffEvent
  | .bluetoothHalf => module.processBluetoothHalfEvent
  | .none => (btErrInternalError, module)

/-- The oldest posted replay task runs: it passes on the event and the caller's name
and leaves the two flags at their defaults. -/
def runReplay (task : BluetoothSwitchCacheEvent Tag) (outcome : Outcome)
    (module : BluetoothSwitchModule Tag) : Int × BluetoothSwitchModule Tag :=
  module.processBluetoothSwitchEvent task.event task.callingName false false task.tag outcome

/-- The switch action in progress: the last call made, as long as the flag is set. -/
def inProgress (module : BluetoothSwitchModule Tag) : Option (Invocation Tag) :=
  if module.isBtSwitchProcessing then module.invocations.getLast? else none

end BluetoothSwitchModule
end BluetoothFramework.Switch
