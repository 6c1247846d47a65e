import Mathlib.Logic.Function.Basic
import BluetoothFramework.Advertisement.PeripheralDevice
import BluetoothFramework.CAdapter.AddressText
import BluetoothFramework.CAdapter.AdvAddresses

/-!
# Advertising in the C adapter

Seven slots hold the callback objects of the advertisements, and applications name an
advertisement by the index of its slot. Starting and stopping is left to tasks in a queue; an
advertisement with an address of its own is stopped by a timer as well, and `BleAdvertiser`
calls back the object when an advertisement has stopped.

Tasks, timers and callbacks go by the index. The model keeps the callback object that each of
them stems from beside it, which no function reads. A step is what one thread does under
`g_advMutex`, or under `g_advTimerMutex` alone.
-/

namespace BluetoothFramework.CAdapter

/-- `MAX_BLE_ADV_NUM` -/
abbrev maxBleAdvNum : Nat := 7

/-- An index of `g_bleAdvCallbacks`. -/
abbrev AdvId : Type :=
  Fin maxBleAdvNum

/-- `BleAdvCallback`; the objects are numbered as they are made. -/
structure BleAdvCallback where
  number : Nat
  advId : AdvId
deriving DecidableEq

/-! ## Parameters -/

/-- The results of the functions, less those that no function here returns. -/
inductive AdvStatus where
  | success
  | fail
  | notReady
  | parmInvalid
  | unhandled
  | duplicatedAddr
deriving DecidableEq

inductive BleApplicationType where
  | noRangingType
  | rangingTouch
  | rangingApproach
deriving DecidableEq

inductive BleAdvType where
  | ind
  | directIndHigh
  | scanInd
  | nonconnInd
  | directIndLow
deriving DecidableEq

/-- The fields of `BleAdvParams` that are read. -/
structure BleAdvParams where
  minInterval : Int32 := 0
  advType : BleAdvType := .ind
  txPower : Int32 := 0
  appType : BleApplicationType := .noRangingType
deriving DecidableEq

/-- `BLE_ADDR_RANDOM` -/
def bleAddrRandom : Int32 := 0x01

/-- `AdvOwnAddrParams` -/
structure AdvOwnAddrParams where
  addr : Address
  addrType : Int32
deriving DecidableEq

/-- `StartAdvRawData`, with the bytes the pointers lead to. -/
structure StartAdvRawData where
  advData : Option ByteString := none
  rspData : Option ByteString := none
  advIncludeDeviceName : Bool := false
  rspIncludeDeviceName : Bool := false
deriving DecidableEq

/-- The fields of `BleAdvertiserSettings` that are set, with their defaults. -/
structure BleAdvertiserSettings where
  connectable : Bool := true
  interval : UInt16 := 0x03E8
  txPower : Int8 := -7
  ownAddr : Address := Vector.replicate 6 0
  ownAddrType : Int8 := -1
deriving DecidableEq

/-- `MAX_LEN` -/
def maxLen : Nat := 1000

/-- `ConvertDataToVec` -/
def convertDataToVec (data : Option ByteString) : ByteString :=
  match data with
  | none => []
  | some data => if data.length = 0 ∨ maxLen < data.length then [] else data

/-- `AppendLocalName`, for a local name. -/
def appendLocalName (localName payload : ByteString) : ByteString :=
  let nameAdBytes : UInt32 := UInt32.ofNat localName.length + 2
  if 31 < payload.length + nameAdBytes.toNat then payload
  else payload ++ [UInt8.ofNat (localName.length + 1), bleAdTypeNameCmpl] ++ localName

/-- `IsRpa` -/
def isRpa (ownAddrParams : Option AdvOwnAddrParams) : Bool :=
  match ownAddrParams with
  | none => false
  | some ownAddrParams =>
      (ownAddrParams.addr.toList.headD 0 &&& 0xC0) ^^^ 0x40 = 0 && ownAddrParams.addrType = bleAddrRandom

/-- Whether the type of an advertisement leaves it connectable. -/
def isConnectable (advType : BleAdvType) : Bool :=
  !(advType = .scanInd || advType = .nonconnInd)

/-- What is handed to `BleAdvertiser::StartAdvertising`, apart from the callback. -/
structure AdvRequest where
  settings : BleAdvertiserSettings
  advData : ByteString
  scanResponse : ByteString
deriving DecidableEq

/-! ## State -/

/-- A task of `startAdvQueue`, with the callback object of the advertisement it stems from. -/
inductive AdvTask where
  /-- `startAdvFunc`; the one for an advertisement with its own address sees to the timer. -/
  | start (origin : BleAdvCallback) (withAddr : Bool) (request : AdvRequest)
  /-- `stopAdvFunc` -/
  | stop (origin : BleAdvCallback)
deriving DecidableEq

def AdvTask.origin : AdvTask → BleAdvCallback
  | start origin _ _ => origin
  | stop origin => origin

/-- A timer of `StartAdvAddrTimer`. -/
structure AdvAddrTimer where
  id : UInt32
  origin : BleAdvCallback
deriving DecidableEq

/-- An `OnStopResultEvent` that has not returned yet. -/
inductive StopEvent where
  /-- It has been taken from the advertiser's callbacks. -/
  | popped (observer : BleAdvCallback)
  /-- It has cleared the slot. -/
  | cleared (observer : BleAdvCallback)
deriving DecidableEq

/-- A call of `BleAdvertiser::StartAdvertising`, through a pointer that may be null. -/
structure StartedAdv where
  bleAdvertiser : Bool
  callback : Option BleAdvCallback
  request : AdvRequest
deriving DecidableEq

/-- `g_bleAdvCallbacks` with the number of objects made, whether `g_BleAdvertiser` is set,
`g_advAddrTimerIds`, `g_advIdAppTypeMap`, the addresses in use and `startAdvQueue`; then the
timers that are registered, those whose callback waits for `g_advMutex`, the callbacks that the
advertiser knows and the stop events under way; then what the advertiser was called for. -/
structure Advertising where
  bleAdvCallbacks : AdvId → Option BleAdvCallback := fun _ => none
  made : Nat := 0
  bleAdvertiser : Bool := false
  advAddrTimerIds : AdvId → UInt32 := fun _ => 0
  advIdAppTypeMap : AdvId → Option BleApplicationType := fun _ => none
  addresses : AdvAddresses := {}
  startAdvQueue : List AdvTask := []
  timers : List AdvAddrTimer := []
  expired : List AdvAddrTimer := []
  observers : List BleAdvCallback := []
  events : List StopEvent := []
  started : List StartedAdv := []
  stopped : List BleAdvCallback := []
  restored : List BleApplicationType := []

/-- What `advIdReachMaxCb` writes. -/
structure AdvIdsInUse where
  advNum : Int32
  advIds : AdvId → Int32

/-- The index is one of those written. -/
def AdvIdsInUse.contains (inUse : AdvIdsInUse) (i : AdvId) : Bool :=
  (List.finRange maxBleAdvNum).any fun j => j.val < inUse.advNum.toInt && inUse.advIds j = Int32.ofNat i.val

/-- `BleStartAdvWithAddr` with what it meets: whether BLE is on, the answer of
`advIdReachMaxCb`, if there is that callback, the clock and the id of the new timer, which is
0 if none is registered. -/
structure StartWithAddr where
  rawData : Option StartAdvRawData := some {}
  advParam : Option BleAdvParams := some {}
  ownAddrParams : Option AdvOwnAddrParams
  bleEnabled : Bool := true
  inUse : Option AdvIdsInUse := none
  removed : Timespec
  started : Timespec
  timerId : UInt32

/-- `BleStartAdvEx` with what it meets. -/
structure StartEx where
  rawData : StartAdvRawData := {}
  advParam : BleAdvParams := {}
  localName : ByteString := []
  bleEnabled : Bool := true
  inUse : Option AdvIdsInUse := none

/-- The result of `BleAdvertiser::StartAdvertising` with a callback, and whether it has come to
know the callback. -/
structure StartResult where
  ret : Int32 := btNoError
  registers : Bool := true
deriving DecidableEq

/-- The state after a function, what it writes to `advId`, and its result. -/
structure AdvOutcome where
  state : Advertising
  advId : Option Int := none
  status : AdvStatus := .success

namespace Advertising

/-- A write to a slot. -/
def setCallback (state : Advertising) (i : AdvId) (callback : Option BleAdvCallback) :
    Advertising :=
  { state with bleAdvCallbacks := Function.update state.bleAdvCallbacks i callback }

/-- The timer of a slot is unregistered. `UnRegister` does nothing for 0. -/
def unRegister (state : Advertising) (i : AdvId) : Advertising :=
  let id := state.advAddrTimerIds i
  { state with
    timers := if id = 0 then state.timers else state.timers.filter fun timer => timer.id ≠ id
    advAddrTimerIds := Function.update state.advAddrTimerIds i 0 }

/-! ## Slots -/

/-- The first slot without a callback. -/
def freeSlot (state : Advertising) : Option AdvId :=
  (List.finRange maxBleAdvNum).find? fun i => (state.bleAdvCallbacks i).isNone

/-- `AllocateAdvHandle`, with the new object. -/
def allocateAdvHandle (state : Advertising) : Option BleAdvCallback × Advertising :=
  match state.freeSlot with
  | none => (none, state)
  | some i =>
      let callback : BleAdvCallback := { number := state.made, advId := i }
      (some callback, { state.setCallback i (some callback) with made := state.made + 1 })

/-- The loop of `CheckAdvIdInUse`. -/
def reclaim (state : Advertising) (inUse : AdvIdsInUse) : List AdvId → Advertising
  | [] => state
  | i :: rest =>
      if (state.bleAdvCallbacks i).isNone then state
      else if inUse.contains i then state.reclaim inUse rest
      else (state.setCallback i none).reclaim inUse rest

/-- `CheckAdvIdInUse` -/
def checkAdvIdInUse (state : Advertising) (inUse : Option AdvIdsInUse) : Advertising :=
  match inUse with
  | none => state
  | some inUse =>
      if inUse.advNum < 0 ∨ maxBleAdvNum < inUse.advNum.toInt then state
      else if inUse.advNum.toInt = maxBleAdvNum then state
      else state.reclaim inUse (List.finRange maxBleAdvNum)

/-- `CheckAndAllocateAdvHandle` -/
def checkAndAllocateAdvHandle (state : Advertising) (inUse : Option AdvIdsInUse) :
    Option BleAdvCallback × Advertising :=
  match state.freeSlot with
  | some _ => state.allocateAdvHandle
  | none => (state.checkAdvIdInUse inUse).allocateAdvHandle

/-- `StartAdvAddrTimer`; without a timer id nothing has been registered. -/
def startAdvAddrTimer (state : Advertising) (callback : BleAdvCallback)
    (ownAddrParams : AdvOwnAddrParams)
    (removed started : Timespec) (timerId : UInt32) : Bool × Advertising :=
  let (can, addresses) := state.addresses.check
    { addrStr := convertAddr ownAddrParams.addr, removed := removed, started := started }
  let checked : Advertising := { state with addresses := addresses }
  if !can then (false, checked.setCallback callback.advId none)
  else
    (true, { checked with
      timers := if timerId = 0 then checked.timers
        else checked.timers ++ [{ id := timerId, origin := callback }]
      advAddrTimerIds := Function.update checked.advAddrTimerIds callback.advId timerId })

/-! ## Starting and stopping -/

/-- `RegisterAdvIdAppType` and `submit`. -/
def submitStart (state : Advertising) (callback : BleAdvCallback) (withAddr : Bool)
    (request : AdvRequest) (appType : BleApplicationType) : Advertising :=
  { state with
    bleAdvertiser := true
    advIdAppTypeMap := Function.update state.advIdAppTypeMap callback.advId (some appType)
    startAdvQueue := state.startAdvQueue ++ [.start callback withAddr request] }

/-- `BleStartAdvWithAddr` -/
def bleStartAdvWithAddr (state : Advertising) (call : StartWithAddr) : AdvOutcome :=
  match call.rawData, call.advParam, call.ownAddrParams with
  | some rawData, some advParam, some ownAddrParams =>
      if !isRpa (some ownAddrParams) then { state := state, status := .parmInvalid }
      else if !call.bleEnabled then { state := state, advId := some (-1), status := .notReady }
      else
        match state.checkAndAllocateAdvHandle call.inUse with
        | (none, checked) => { state := checked, status := .unhandled }
        | (some callback, allocated) =>
            match allocated.startAdvAddrTimer callback ownAddrParams call.removed call.started call.timerId with
            | (false, refused) =>
                { state := refused.setCallback callback.advId none, advId := some (-1),
                  status := .duplicatedAddr }
            | (true, timed) =>
                let settings : BleAdvertiserSettings :=
                  { connectable := isConnectable advParam.advType
                    interval := advParam.minInterval.toUInt32.toUInt16
                    txPower := advParam.txPower.toInt8
                    ownAddr := ownAddrParams.addr
                    ownAddrType := ownAddrParams.addrType.toInt8 }
                let request : AdvRequest :=
                  { settings := settings
                    advData := convertDataToVec rawData.advData
                    scanResponse := convertDataToVec rawData.rspData }
                { state := timed.submitStart callback true request advParam.appType
                  advId := some callback.advId.val }
  | _, _, _ => { state := state, status := .parmInvalid }

/-- `BleStartAdvEx` -/
def bleStartAdvEx (state : Advertising) (call : StartEx) : AdvOutcome :=
  if !call.bleEnabled then { state := state, advId := some (-1), status := .notReady }
  else
    let advData := convertDataToVec call.rawData.advData
    let scanResponse := convertDataToVec call.rawData.rspData
    let request : AdvRequest :=
      { settings :=
          { connectable := isConnectable call.advParam.advType
            interval := call.advParam.minInterval.toUInt32.toUInt16 }
        advData := if call.rawData.advIncludeDeviceName then appendLocalName call.localName advData else advData
        scanResponse :=
          if call.rawData.rspIncludeDeviceName then appendLocalName call.localName scanResponse
          else scanResponse }
    match { state with bleAdvertiser := true }.checkAndAllocateAdvHandle call.inUse with
    | (none, checked) => { state := checked, status := .unhandled }
    | (some callback, allocated) =>
        { state := allocated.submitStart callback false request call.advParam.appType
          advId := some callback.advId.val }

/-- `GetAndRemoveAdvIdAppType`, and what `BleStopAdv` does with the type. -/
def restoreRanging (state : Advertising) (i : AdvId) : Advertising :=
  { state with
    advIdAppTypeMap := Function.update state.advIdAppTypeMap i none
    restored := state.restored ++
      ((state.advIdAppTypeMap i).toList.filter fun appType => appType = .rangingTouch) }

/-- `BleStopAdv`, called by an application or by a timer of an advertisement. What the
application asks for is meant for the advertisement in the slot. -/
def bleStopAdv (state : Advertising) (advId : Int) (timer : Option BleAdvCallback) : AdvOutcome :=
  if advId < 0 ∨ maxBleAdvNum ≤ advId then { state := state, status := .fail }
  else
    let i : AdvId := Fin.ofNat _ advId.toNat
    match state.bleAdvertiser, state.bleAdvCallbacks i with
    | true, some held =>
        let stopping := (state.unRegister i).restoreRanging i
        { state := { stopping with
            startAdvQueue := stopping.startAdvQueue ++ [.stop (timer.getD held)] } }
    | _, _ => { state := state, status := .fail }

/-- `startAdvFunc`. Through a null pointer nothing can be called. -/
def startAdvFunc (state : Advertising) (origin : BleAdvCallback) (withAddr : Bool)
    (request : AdvRequest) (result : StartResult) : Advertising :=
  let i := origin.advId
  let callback := state.bleAdvCallbacks i
  let called : Advertising :=
    { state with started := state.started ++ [⟨state.bleAdvertiser, callback, request⟩] }
  if !state.bleAdvertiser then called
  else
    let ret := if callback.isNone then btErrInternalError else result.ret
    let known : Advertising :=
      { called with
        observers := if result.registers then callback.toList ∪ called.observers else called.observers }
    if ret ≠ btNoError then
      let failed := known.setCallback i none
      if withAddr then failed.unRegister i else failed
    else known

/-- `stopAdvFunc` -/
def stopAdvFunc (state : Advertising) (origin : BleAdvCallback) : Advertising :=
  match state.bleAdvertiser, state.bleAdvCallbacks origin.advId with
  | true, some held => { state with stopped := state.stopped ++ [held] }
  | _, _ => state

/-- The task at the front of the queue, once it has been taken from there. -/
def runTask (state : Advertising) (result : StartResult) : AdvTask → Advertising
  | .start origin withAddr request => state.startAdvFunc origin withAddr request result
  | .stop origin => state.stopAdvFunc origin

/-- `ClearAdvertisingResource` -/
def clearAdvertisingResource (state : Advertising) (i : AdvId) : Advertising :=
  let cleared := state.setCallback i none
  if (List.finRange maxBleAdvNum).all fun j => (cleared.bleAdvCallbacks j).isNone then
    { cleared with bleAdvertiser := false }
  else cleared

end Advertising

/-! ## Steps -/

/-- A step of a thread, of the service or of the timer. -/
inductive AdvLabel where
  | startAdvWithAddr (call : StartWithAddr)
  | startAdvEx (call : StartEx)
  | stopAdv (advId : Int)
  /-- The task at the front of the queue. -/
  | runTask (result : StartResult)
  /-- A timer runs out. -/
  | timerExpires (timer : AdvAddrTimer)
  /-- Its callback gets `g_advMutex`. -/
  | timerStops (timer : AdvAddrTimer)
  /-- The advertiser loses a callback without calling it for a stop. -/
  | observerGone (observer : BleAdvCallback)
  /-- The advertiser calls a callback for a stop, and forgets it. -/
  | onStopResultEvent (observer : BleAdvCallback)
  /-- `OnStopResultEvent` clears the slot. -/
  | clearSlot (observer : BleAdvCallback)
  /-- `OnStopResultEvent` unregisters the timer. -/
  | clearTimer (observer : BleAdvCallback)

namespace Advertising

/-- No timer and no slot has the id of a new timer. -/
def IsNewTimer (state : Advertising) (timerId : UInt32) : Prop :=
  timerId = 0 ∨ (∀ timer ∈ state.timers, timer.id ≠ timerId) ∧ ∀ i, state.advAddrTimerIds i ≠ timerId

instance (state : Advertising) (timerId : UInt32) : Decidable (state.IsNewTimer timerId) :=
  inferInstanceAs (Decidable (_ ∨ _ ∧ _))

/-- One step. -/
def step (state : Advertising) : AdvLabel → Option Advertising
  | .startAdvWithAddr call =>
      if state.IsNewTimer call.timerId then some (state.bleStartAdvWithAddr call).state else none
  | .startAdvEx call => some (state.bleStartAdvEx call).state
  | .stopAdv advId => some (state.bleStopAdv advId none).state
  | .runTask result =>
      match state.startAdvQueue with
      | [] => none
      | task :: rest => some ({ state with startAdvQueue := rest }.runTask result task)
  | .timerExpires timer =>
      if timer ∈ state.timers then
        some { state with timers := state.timers.erase timer, expired := state.expired ++ [timer] }
      else none
  | .timerStops timer =>
      if timer ∈ state.expired then
        some ({ state with expired := state.expired.erase timer }.bleStopAdv timer.origin.advId.val
          (some timer.origin)).state
      else none
  | .observerGone observer =>
      if observer ∈ state.observers
        then some { state with observers := state.observers.erase observer } else none
  | .onStopResultEvent observer =>
      if observer ∈ state.observers then
        some { state with
          observers := state.observers.erase observer
          events := state.events ++ [.popped observer] }
      else none
  | .clearSlot observer =>
      if .popped observer ∈ state.events then
        let events := state.events.erase (.popped observer) ++ [StopEvent.cleared observer]
        some ({ state with events := events }.clearAdvertisingResource observer.advId)
      else none
  | .clearTimer observer =>
      if .cleared observer ∈ state.events then
        let returned : Advertising := { state with events := state.events.erase (.cleared observer) }
        some (if returned.advAddrTimerIds observer.advId ≠ 0 then returned.unRegister observer.advId
          else returned)
      else none

end Advertising
end BluetoothFramework.CAdapter
