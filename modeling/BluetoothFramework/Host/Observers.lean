import BluetoothFramework.Library.Mutexes
import BluetoothFramework.Common.Types
import BluetoothFramework.Switch.System

/-!
# The observers of the host

`BluetoothHost` keeps the application's observers in a list with a mutex of its own and the
switch module behind `switchModuleMutex_`; the switch module has `bluetoothSwitchEventMutex_`.
The service's notifications arrive at `observerImp_` and `bleObserverImp_`, which walk the
list with its mutex held and call each observer. What an observer does in a callback is a
program of further host calls, made on the same thread before the walk goes on.

Every function below is the list of actions its source performs: the scopes of its lock
guards and, in between, calls that read or change the state. The pointer to the host's
members and the two stubs are never null. Of `OnStateChanged` the calls that reach neither
the list nor the switch module are left out, and so is `OnRefusePolicyChanged`, which takes
no mutex.
-/

namespace BluetoothFramework.Host

open Mutexes Switch

/-- The list's `lock_`, `switchModuleMutex_` and `bluetoothSwitchEventMutex_` -/
inductive HostMutex where
  | lock
  | switchModuleMutex
  | bluetoothSwitchEventMutex
deriving DecidableEq, Repr

/-- The `BluetoothObserverList` of the host, without its mutex. -/
structure BluetoothObserverList (Observer : Type) where
  observers : List (Option Observer) := []

namespace BluetoothObserverList
variable {Observer : Type} [DecidableEq Observer]

/-- `Register` -/
def register (list : BluetoothObserverList Observer) (observer : Option Observer) :
    BluetoothObserverList Observer :=
  if observer ∈ list.observers then list else ⟨list.observers ++ [observer]⟩

/-- `Deregister` -/
def deregister (list : BluetoothObserverList Observer) (observer : Option Observer) :
    BluetoothObserverList Observer :=
  ⟨list.observers.erase observer⟩

end BluetoothObserverList

/-- What the walk calls on one observer. `onDiscoveryResult` stands for its two overloads,
called one after the other. -/
inductive Callback where
  | onStateChanged (transport status : Int32)
  | onBluetoothStateChanged (state : Int32)
  | onDiscoveryStateChanged (status : Int32)
  | onDiscoveryResult (device : BluetoothRemoteDevice) (rssi : Int32) (deviceName : ByteString)
      (deviceClass transport : Int32)
  | onPairRequested (device : BluetoothRemoteDevice)
  | onPairConfirmed (device : BluetoothRemoteDevice) (reqType number : Int32)
  | onScanModeChanged (mode : Int32)
  | onDeviceNameChanged (deviceName : ByteString)
  | onDeviceAddrChanged (address : ByteString)
deriving DecidableEq

/-- The host calls an application makes, on a thread of its own or inside a callback. -/
inductive HostCall (Observer : Type) where
  | registerObserver (observer : Option Observer)
  | deregisterObserver (observer : Option Observer)
  | enableBle (name : String) (isAsync : Bool)
  | disableBt (name : String) (isAsync : Bool)
  | restrictBluetooth (name : String)
  | enableBluetoothToRestrictMode (name : String) (isBleOwnerMode : Bool)

/-- The two `BluetoothHostObserverImp` objects. -/
inductive HostObserver where
  | observerImp
  | bleObserverImp
deriving DecidableEq

/-- The ways into the host, and the places inside its functions where they read or change
the state: with the list's mutex, with the host's, with the host's and the module's, and
with the module's alone. -/
inductive Call (Observer : Type) where
  | host (inside : Option Callback) (call : HostCall Observer)
  | onStateChanged (imp : HostObserver) (transport status : Int32)
  | onBluetoothStateChanged (state : Int32)
  | onBluetoothSwitchAction (action : Int32) (callingName : String)
  | onDiscoveryStateChanged (status : Int32)
  | onDiscoveryResult (address : ByteString) (rssi : Int32) (deviceName : ByteString)
      (deviceClass transport : Int32)
  | onPairRequested (transport : Int32) (address : ByteString)
  | onPairConfirmed (transport : Int32) (address : ByteString) (reqType number : Int32)
  | onScanModeChanged (mode : Int32)
  | onDeviceNameChanged (deviceName : ByteString)
  | onDeviceAddrChanged (address : ByteString)
  | onRemoveBluetoothSystemAbility
  | close
  | replayTask
  | timeoutTask (handle : Nat)
  | register (observer : Option Observer)
  | deregister (observer : Option Observer)
  | forEach (callback : Callback)
  | requestEvent (event : BluetoothSwitchEvent) (callingName : String) (isAsync isBleOwnerMode : Bool)
  | restrictEvent (callingName : String)
  | completionEvent (state : Int32)
  | actionEvent (action : Int32) (callingName : String)
  | removalEvent
  | clearModule
  | processEvent (event : BluetoothSwitchEvent) (callingName : String) (isAsync isBleOwnerMode : Bool)
  | runReplay
  | runTimeout (handle : Nat)

/-- `preBrState_` and `preBleState_` of one `BluetoothHostObserverImp`. -/
structure SwitchStates where
  preBrState : Int32 := -1
  preBleState : Int32 := -1
deriving DecidableEq

/-- The members of the host that its functions read or write, and the code that the last
event returned on each thread. -/
structure HostState (Thread Observer : Type) where
  observers : BluetoothObserverList Observer := {}
  observerImp : SwitchStates := {}
  bleObserverImp : SwitchStates := {}
  switchModule : Option (BluetoothSwitchModule Unit) := some {}
  returned : Thread → Int := fun _ => Switch.btNoError

/-- What the environment answers: `IsBluetoothServiceOn` of the profile manager,
`IsBluetoothSystemAbilityOn`, and what becomes of a call on `switchAction_`. -/
structure Answer where
  isBluetoothServiceOn : Bool := false
  isBluetoothSystemAbilityOn : Bool := false
  outcome : Outcome := {}

/-- `BTStateID::STATE_TURN_OFF` -/
def stateTurnOff : Int32 := 3

/-- `BluetoothSwitchState` -/
def switchStateOn : Int32 := 0
def switchStateOff : Int32 := 1
def switchStateHalf : Int32 := 2

/-- `BluetoothTransferredSwitchAction` -/
def transActionEnableBluetooth : Int32 := 0
def transActionDisableBluetooth : Int32 := 1
def transActionEnableBluetoothToRestrictMode : Int32 := 2

/-- `isNeedInterceptSwitchStatus` -/
def SwitchStates.isNeedInterceptSwitchStatus (states : SwitchStates) (transport status : Int32)
    (isBluetoothServiceOn : Bool) : Bool × SwitchStates :=
  if status = stateTurnOff ∧ !isBluetoothServiceOn ∧
      (transport = btTransportBle ∧ states.preBleState = stateTurnOff ∨
        transport = btTransportBredr ∧ states.preBrState = stateTurnOff) then
    (true, states)
  else if transport = btTransportBredr then (false, { states with preBrState := status })
  else (false, { states with preBleState := status })

section Bodies

variable {Thread Observer : Type}

abbrev Actions (Observer : Type) : Type :=
  List (Action HostMutex (Call Observer))

/-- `observers_.ForEach` -/
def observersForEach (callback : Callback) : Actions Observer :=
  guarded .lock [.call (.forEach callback)]

/-- `ProcessBluetoothSwitchEvent` -/
def processBluetoothSwitchEvent (event : BluetoothSwitchEvent) (callingName : String)
    (isAsync isBleOwnerMode : Bool) : Actions Observer :=
  guarded .bluetoothSwitchEventMutex [.call (.processEvent event callingName isAsync isBleOwnerMode)]

/-- The host calls of an application. -/
def HostCall.actions : HostCall Observer → Actions Observer
  | .registerObserver observer =>
      if observer.isNone then [] else guarded .lock [.call (.register observer)]
  | .deregisterObserver observer => guarded .lock [.call (.deregister observer)]
  | .enableBle name isAsync =>
      guarded .switchModuleMutex [.call (.requestEvent .enableBluetooth name isAsync false)]
  | .disableBt name isAsync =>
      guarded .switchModuleMutex [.call (.requestEvent .disableBluetooth name isAsync false)]
  | .restrictBluetooth name =>
      guarded .switchModuleMutex
        [.call (.requestEvent .disableBluetooth name false false), .call (.restrictEvent name)]
  | .enableBluetoothToRestrictMode name isBleOwnerMode =>
      guarded .switchModuleMutex
        [.call (.requestEvent .enableBluetoothToRestriceMode name false isBleOwnerMode)]

/-- `OnStateChanged` -/
def onStateChanged (imp : HostObserver) (transport status : Int32) (answer : Answer)
    (state : HostState Thread Observer) : Actions Observer × HostState Thread Observer :=
  let states := match imp with
    | .observerImp => state.observerImp
    | .bleObserverImp => state.bleObserverImp
  let (intercepted, seen) :=
    states.isNeedInterceptSwitchStatus transport status answer.isBluetoothServiceOn
  let after := match imp with
    | .observerImp => { state with observerImp := seen }
    | .bleObserverImp => { state with bleObserverImp := seen }
  (if intercepted then [] else observersForEach (.onStateChanged transport status), after)

/-- The events `OnBluetoothStateChanged` passes on before it walks the list. -/
def completionEvents (state : Int32) : Actions Observer :=
  (if state = switchStateOn then processBluetoothSwitchEvent .bluetoothOn "" false false else []) ++
  (if state = switchStateOff then processBluetoothSwitchEvent .bluetoothOff "" false false else []) ++
  (if state = switchStateHalf then processBluetoothSwitchEvent .bluetoothHalf "" false false else [])

/-- The events of `OnBluetoothSwitchAction`. -/
def actionEvents (action : Int32) (callingName : String) : Actions Observer :=
  (if action = transActionEnableBluetooth then
    processBluetoothSwitchEvent .enableBluetooth callingName false false else []) ++
  (if action = transActionDisableBluetooth then
    processBluetoothSwitchEvent .disableBluetooth callingName false false else []) ++
  (if action = transActionEnableBluetoothToRestrictMode then
    processBluetoothSwitchEvent .enableBluetoothToRestriceMode callingName false false else [])

/-- `OnRemoveBluetoothSystemAbility` -/
def onRemoveBluetoothSystemAbility (isBluetoothSystemAbilityOn : Bool) : Actions Observer :=
  (if isBluetoothSystemAbilityOn then []
    else [.call (.onStateChanged .observerImp btTransportBredr stateTurnOff),
      .call (.onStateChanged .bleObserverImp btTransportBle stateTurnOff)]) ++
  guarded .switchModuleMutex [.call .removalEvent]

/-- What the walk makes of the list: the programs of the observers, one after the other. -/
def forEach (programs : Observer → Callback → List (HostCall Observer)) (callback : Callback)
    (list : BluetoothObserverList Observer) : Actions Observer :=
  (list.observers.filterMap id).flatMap fun observer =>
    (programs observer callback).map fun call => .call (.host (some callback) call)

/-- A task of the module's queue has the module's mutex; its `weak_ptr` may find nothing. -/
def runTask (label : BluetoothSwitchModule.Label Unit) (state : HostState Thread Observer) :
    HostState Thread Observer :=
  { state with switchModule := state.switchModule.map fun module => (module.step label).getD module }

/-- The module's part of `ProcessBluetoothSwitchEvent`. -/
def processEvent [DecidableEq Thread] (thread : Thread) (event : BluetoothSwitchEvent)
    (callingName : String)
    (isAsync isBleOwnerMode : Bool) (outcome : Outcome) (state : HostState Thread Observer) :
    HostState Thread Observer :=
  match state.switchModule with
  | none => state
  | some module =>
      let (ret, processed) :=
        module.processBluetoothSwitchEvent event callingName isAsync isBleOwnerMode () outcome
      { state with
        switchModule := some processed
        returned := Function.update state.returned thread ret }

/-- What each call does, given the programs of the observers. -/
def body [DecidableEq Thread] [DecidableEq Observer]
    (programs : Observer → Callback → List (HostCall Observer)) (thread : Thread) (answer : Answer)
    (call : Call Observer) (state : HostState Thread Observer) :
    Actions Observer × HostState Thread Observer :=
  match call with
  | .host _ call => (call.actions, state)
  | .onStateChanged imp transport status => onStateChanged imp transport status answer state
  | .onBluetoothStateChanged new => (guarded .switchModuleMutex [.call (.completionEvent new)], state)
  | .onBluetoothSwitchAction action callingName =>
      (guarded .switchModuleMutex [.call (.actionEvent action callingName)], state)
  | .onDiscoveryStateChanged status => (observersForEach (.onDiscoveryStateChanged status), state)
  | .onDiscoveryResult address rssi deviceName deviceClass transport =>
      (observersForEach (.onDiscoveryResult ⟨address, btTransportBredr⟩ rssi deviceName deviceClass
        transport), state)
  | .onPairRequested transport address => (observersForEach (.onPairRequested ⟨address, transport⟩), state)
  | .onPairConfirmed transport address reqType number =>
      (observersForEach (.onPairConfirmed ⟨address, transport⟩ reqType number), state)
  | .onScanModeChanged mode => (observersForEach (.onScanModeChanged mode), state)
  | .onDeviceNameChanged deviceName => (observersForEach (.onDeviceNameChanged deviceName), state)
  | .onDeviceAddrChanged address => (observersForEach (.onDeviceAddrChanged address), state)
  | .onRemoveBluetoothSystemAbility =>
      (onRemoveBluetoothSystemAbility answer.isBluetoothSystemAbilityOn, state)
  | .close => (guarded .switchModuleMutex [.call .clearModule], state)
  | .replayTask =>
      if state.switchModule.isNone then ([], state)
      else (guarded .bluetoothSwitchEventMutex [.call .runReplay], state)
  | .timeoutTask handle =>
      if state.switchModule.isNone then ([], state)
      else (guarded .bluetoothSwitchEventMutex [.call (.runTimeout handle)],
        runTask (.timeoutStarts handle) state)
  | .register observer => ([], { state with observers := state.observers.register observer })
  | .deregister observer => ([], { state with observers := state.observers.deregister observer })
  | .forEach callback => (forEach programs callback state.observers, state)
  | .requestEvent event callingName isAsync isBleOwnerMode =>
      if state.switchModule.isNone then
        ([], { state with returned := Function.update state.returned thread Switch.btErrInternalError })
      else (processBluetoothSwitchEvent event callingName isAsync isBleOwnerMode, state)
  | .restrictEvent callingName =>
      if state.returned thread ≠ Switch.btNoError then ([], state)
      else (processBluetoothSwitchEvent .enableBluetoothToRestriceMode callingName false false, state)
  | .completionEvent new =>
      if state.switchModule.isNone then ([], state)
      else (completionEvents new ++ observersForEach (.onBluetoothStateChanged new), state)
  | .actionEvent action callingName =>
      if state.switchModule.isNone then ([], state) else (actionEvents action callingName, state)
  | .removalEvent =>
      if state.switchModule.isNone then ([], state)
      else (processBluetoothSwitchEvent .bluetoothOff "" false false, state)
  | .clearModule => ([], { state with switchModule := none })
  | .processEvent event callingName isAsync isBleOwnerMode =>
      ([], processEvent thread event callingName isAsync isBleOwnerMode answer.outcome state)
  | .runReplay => ([], runTask (.replay answer.outcome) state)
  | .runTimeout handle => ([], runTask (.timeoutRuns handle) state)

end Bodies

/-- The calls of other components: an application's own calls, the service's notifications,
the removal of the service, `Close`, and the tasks of the module's queue. -/
def Call.isEntry {Observer : Type} : Call Observer → Bool
  | .host inside _ => inside.isNone
  | .onStateChanged .. | .onBluetoothStateChanged _ | .onBluetoothSwitchAction .. => true
  | .onDiscoveryStateChanged _ | .onDiscoveryResult .. | .onPairRequested .. => true
  | .onPairConfirmed .. | .onScanModeChanged _ | .onDeviceNameChanged _ | .onDeviceAddrChanged _ => true
  | .onRemoveBluetoothSystemAbility | .close | .replayTask | .timeoutTask _ => true
  | _ => false

/-- The host with the programs that its observers run in their callbacks. -/
def bluetoothHostCode {Thread Observer : Type} [DecidableEq Thread] [DecidableEq Observer]
    (programs : Observer → Callback → List (HostCall Observer)) :
    Code Thread HostMutex (Call Observer) Answer (HostState Thread Observer) where
  isEntry := Call.isEntry
  body := body programs

end BluetoothFramework.Host
