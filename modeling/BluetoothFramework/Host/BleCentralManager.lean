import BluetoothFramework.Parcel.BleScanFilter

/-!
# The scanner of `BleCentralManager`

A manager registers with the service at its first use and keeps the id it is given. The id
is guarded by `scannerIdMutex_`, so everything a function does with it is one step. The
constructor takes more: `impl` puts the turn-on and turn-off functions into the map of the
profile manager, `RegisterFunc` then looks whether Bluetooth is on already, and only after
that the constructor stores the mode it was given. The turn-on and the turn-off function may
be called at any time from the insertion on.

What the environment answers is handed in with each call. The requests that reach a proxy
and the resets of the id are recorded in order.
-/

namespace BluetoothFramework.Host

/-- `BLE_SCAN_INVALID_ID` -/
def bleScanInvalidId : Int32 := 0

/-- `BLE_SCAN_CALLBACK_TYPE_ALL_MATCH` to `BLE_SCAN_CALLBACK_TYPE_FIRST_AND_LOST_MATCH` -/
def bleScanCallbackTypeAllMatch : UInt8 := 1
def bleScanCallbackTypeFirstMatch : UInt8 := 2
def bleScanCallbackTypeLostMatch : UInt8 := 4
def bleScanCallbackTypeFirstAndLostMatch : UInt8 := 6

/-- `ONE_MATCH_TRACK_ADV` and `MAX_MATCH_TRACK_ADV` -/
def oneMatchTrackAdv : UInt8 := 1
def maxMatchTrackAdv : UInt8 := 3

/-- `BleScanEnhanceMode` -/
structure BleScanEnhanceMode where
  mode : Int32 := 0xFF
  timeout : Int64 := 2500
deriving DecidableEq

/-- `BleScanSettings` of the API and `ScanSettings` of the IPC layer, which have the same
fields. The defaults are those of the API. The IPC class has another one for `phy_`, which is
255 there, but its objects are filled from the API's or from a parcel before they are used. -/
structure ScanSettings where
  reportDelayMillis : Int64 := 0
  scanMode : Int32 := 0
  reportMode : Int32 := 1
  legacy : Bool := true
  phy : Int32 := 1
  callbackType : UInt8 := bleScanCallbackTypeAllMatch
  sensitivityMode : UInt8 := 1
  matchTrackAdvType : UInt8 := maxMatchTrackAdv
  enhanceMode : BleScanEnhanceMode := {}
deriving DecidableEq

/-- `ConvertBleScanSetting`: every field is handed over to a new object. -/
def convertBleScanSetting (inSettings : ScanSettings) : ScanSettings where
  reportDelayMillis := inSettings.reportDelayMillis
  scanMode := inSettings.scanMode
  reportMode := inSettings.reportMode
  legacy := inSettings.legacy
  phy := inSettings.phy
  callbackType := inSettings.callbackType
  sensitivityMode := inSettings.sensitivityMode
  matchTrackAdvType := inSettings.matchTrackAdvType
  enhanceMode := ⟨inSettings.enhanceMode.mode, inSettings.enhanceMode.timeout⟩

/-- `CheckScanParams` -/
def checkScanParams (settings : ScanSettings) (filters : List BleScanFilter)
    (checkFilter : Bool) : Int32 :=
  let callbackType := settings.callbackType
  if callbackType ≠ bleScanCallbackTypeAllMatch ∧ callbackType ≠ bleScanCallbackTypeFirstMatch ∧
      callbackType ≠ bleScanCallbackTypeLostMatch ∧
      callbackType ≠ bleScanCallbackTypeFirstAndLostMatch then
    btErrInvalidParam
  else if callbackType &&& bleScanCallbackTypeFirstAndLostMatch ≠ 0 ∧ checkFilter ∧
      (filters = [] ∨ BleScanFilter.new ∈ filters) then
    btErrInvalidParam
  else if settings.matchTrackAdvType < oneMatchTrackAdv ∨ settings.matchTrackAdvType > maxMatchTrackAdv then
    btErrInvalidParam
  else btNoError

/-- The requests to the service that belong to a scanner. A registration is recorded with
the id that it leaves in `scannerId_`. -/
inductive Sent where
  | registerBleCentralManagerCallback (enableRandomAddrMode : Bool) (scannerId : Int32)
  | startScan (scannerId : Int32) (settings : ScanSettings) (filters : List BluetoothBleScanFilter)
      (isNewApi : Bool)
  | stopScan (scannerId : Int32)
  | removeScanFilter (scannerId : Int32)
  | setScanReportChannelToLpDevice (scannerId : Int32) (enable : Bool)
  | changeScanParams (scannerId : Int32) (settings : ScanSettings) (filters : List BluetoothBleScanFilter)
      (filterAction : UInt32)
  | flushBatchScanResults (scannerId : Int32)
  | isValidScannerId (scannerId : Int32)
deriving DecidableEq

/-- What happens to a scanner: a request is sent, or the id is reset. -/
inductive Event where
  | sent (request : Sent)
  | reset
deriving DecidableEq

/-- How far the constructor has come: `profileIdFuncMap_.Insert` is next; it is done; the
turn-on function is about to be called; `RegisterFunc` has returned; the mode is stored. -/
inductive Construction where
  | begun
  | inserted
  | turningOn
  | registered
  | finished
deriving DecidableEq

/-- The members of `BleCentralManager` and its `impl` that belong to the scanner, how far the
constructor has come, and the record of events. -/
structure BleCentralManager where
  construction : Construction := .begun
  scannerId : Int32 := bleScanInvalidId
  enableRandomAddrMode : Bool := true
  isNewApi : Bool := false
  events : List Event := []
deriving DecidableEq

/-- What the environment answers during one call: `IS_BLE_ENABLED`; whether `InitScannerId`
or the turn-on function has a proxy; what the registration leaves in `scannerId_`, with
`none` for a request that cannot be written; whether the function itself has a proxy; the
reply to `IsValidScannerId`; the code of the request. -/
structure Answers where
  isBleEnabled : Bool := true
  registrationProxy : Bool := true
  registered : Option Int32 := none
  proxy : Bool := true
  isValid : Bool := true
  ret : Int32 := btNoError

namespace BleCentralManager

/-- A request reaches the proxy. -/
def send (manager : BleCentralManager) (request : Sent) : BleCentralManager :=
  { manager with events := manager.events ++ [.sent request] }

/-- `ResetScannerId`, and what the turn-off function does. -/
def resetScannerId (manager : BleCentralManager) : BleCentralManager :=
  { manager with scannerId := bleScanInvalidId, events := manager.events ++ [.reset] }

/-- `RegisterBleCentralManagerCallback` -/
def registerCallback (manager : BleCentralManager) : Option Int32 → BleCentralManager
  | none => manager
  | some scannerId =>
      { manager with scannerId }.send
        (.registerBleCentralManagerCallback manager.enableRandomAddrMode scannerId)

/-- The turn-on function. -/
def bleTurnOnFunc (manager : BleCentralManager) (answers : Answers) : BleCentralManager :=
  if !answers.registrationProxy then manager
  else if manager.scannerId = bleScanInvalidId then manager.registerCallback answers.registered
  else manager

/-- The turn-off function. -/
def bluetoothTurnOffFunc (manager : BleCentralManager) : BleCentralManager :=
  manager.resetScannerId

/-- `InitScannerId` -/
def initScannerId (manager : BleCentralManager) (answers : Answers) : BleCentralManager × Bool :=
  if !answers.registrationProxy then (manager, false)
  else if manager.scannerId ≠ bleScanInvalidId then (manager, true)
  else
    let registered := manager.registerCallback answers.registered
    (registered, registered.scannerId ≠ bleScanInvalidId)

/-- The test in front of a request: there is an id, or `InitScannerId` gets one. -/
def hasScannerId (manager : BleCentralManager) (answers : Answers) : BleCentralManager × Bool :=
  if manager.scannerId = bleScanInvalidId then manager.initScannerId answers else (manager, true)

/-- `StartScan` -/
def startScan (manager : BleCentralManager) (settings : ScanSettings) (filters : List BleScanFilter)
    (answers : Answers) : BleCentralManager × Except TextFault Int32 :=
  if !answers.isBleEnabled then (manager, .ok btErrInvalidState)
  else
    let ret := checkScanParams settings filters true
    if ret ≠ btNoError then (manager, .ok ret)
    else
      let (manager, ready) := manager.hasScannerId answers
      if !ready then (manager, .ok btErrInternalError)
      else match BluetoothBleScanFilter.convertBleScanFilter filters with
        | .error fault => (manager, .error fault)
        | .ok parcelFilters =>
            if !answers.proxy then (manager, .ok btErrInternalError)
            else (manager.send (.startScan manager.scannerId (convertBleScanSetting settings) parcelFilters
              manager.isNewApi), .ok answers.ret)

/-- `StopScan` -/
def stopScan (manager : BleCentralManager) (answers : Answers) : BleCentralManager × Int32 :=
  if !answers.isBleEnabled then (manager, btErrInvalidState)
  else
    let (manager, ready) := manager.hasScannerId answers
    if !ready then (manager, btErrInternalError)
    else if !answers.proxy then (manager, btErrInternalError)
    else ((manager.send (.stopScan manager.scannerId)).send (.removeScanFilter manager.scannerId), answers.ret)

/-- `SetScanReportChannelToLpDevice` -/
def setScanReportChannelToLpDevice (manager : BleCentralManager) (enable : Bool)
    (answers : Answers) :
    BleCentralManager × Int32 :=
  if !answers.isBleEnabled then (manager, btErrInternalError)
  else
    let (manager, ready) := manager.hasScannerId answers
    if !ready then (manager, btErrInternalError)
    else if !answers.proxy then (manager, btErrInternalError)
    else (manager.send (.setScanReportChannelToLpDevice manager.scannerId enable), answers.ret)

/-- `ChangeScanParams` -/
def changeScanParams (manager : BleCentralManager) (settings : ScanSettings)
    (filters : List BleScanFilter)
    (filterAction : UInt32) (answers : Answers) : BleCentralManager × Except TextFault Int32 :=
  if !answers.isBleEnabled then (manager, .ok btErrInvalidState)
  else if manager.scannerId = bleScanInvalidId then (manager, .ok btErrInvalidParam)
  else
    let ret := checkScanParams settings filters (!filters.isEmpty)
    if ret ≠ btNoError then (manager, .ok ret)
    else match BluetoothBleScanFilter.convertBleScanFilter filters with
      | .error fault => (manager, .error fault)
      | .ok parcelFilters =>
          if !answers.proxy then (manager, .ok btErrInternalError)
          else (manager.send (.changeScanParams manager.scannerId (convertBleScanSetting settings) parcelFilters
            filterAction), .ok answers.ret)

/-- `FlushBatchScanResults` -/
def flushBatchScanResults (manager : BleCentralManager) (answers : Answers) :
    BleCentralManager × Int32 :=
  if !answers.isBleEnabled then (manager, btErrInvalidState)
  else if manager.scannerId = bleScanInvalidId then (manager, btErrInvalidParam)
  else if !answers.proxy then (manager, btErrInternalError)
  else (manager.send (.flushBatchScanResults manager.scannerId), answers.ret)

/-- `IsValidScannerId` -/
def isValidScannerId (manager : BleCentralManager) (answers : Answers) : BleCentralManager × Bool :=
  if !answers.proxy then (manager, false)
  else (manager.send (.isValidScannerId manager.scannerId), answers.isValid)

/-- `CheckValidScannerId` -/
def checkValidScannerId (manager : BleCentralManager) (answers : Answers) : BleCentralManager :=
  if !answers.isBleEnabled then manager
  else if manager.scannerId = bleScanInvalidId then manager
  else
    let (manager, isValid) := manager.isValidScannerId answers
    if !isValid then manager.resetScannerId else manager

/-- What can happen. The constructor proceeds; a notification calls the turn-on or the
turn-off function; the application calls. -/
inductive Label where
  | inserts
  | looks (isBluetoothServiceOn remote isBleEnabled : Bool)
  | turnsOn (answers : Answers)
  | stores
  | turnOn (answers : Answers)
  | turnOff
  | setNewApiFlag
  | startScan (settings : ScanSettings) (filters : List BleScanFilter) (answers : Answers)
  | stopScan (answers : Answers)
  | setScanReportChannelToLpDevice (enable : Bool) (answers : Answers)
  | changeScanParams (settings : ScanSettings) (filters : List BleScanFilter) (filterAction : UInt32)
      (answers : Answers)
  | flushBatchScanResults (answers : Answers)
  | checkValidScannerId (answers : Answers)

/-- A function of the application, which has the manager once the constructor is through. -/
def call (manager : BleCentralManager) (function : BleCentralManager → BleCentralManager) :
    Option BleCentralManager :=
  if manager.construction = .finished then some (function manager) else none

/-- One step of the manager that was given the mode. `RegisterFunc` calls the turn-on function
only if the service is on, the remote object is there and BLE is enabled. -/
def step (enableRandomAddrMode : Bool) (manager : BleCentralManager) :
    Label → Option BleCentralManager
  | .inserts =>
      if manager.construction = .begun
        then some { manager with construction := .inserted } else none
  | .looks isBluetoothServiceOn remote isBleEnabled =>
      if manager.construction = .inserted then
        some { manager with construction :=
          if isBluetoothServiceOn && remote && isBleEnabled then .turningOn else .registered }
      else none
  | .turnsOn answers =>
      if manager.construction = .turningOn then
        some { manager.bleTurnOnFunc answers with construction := .registered }
      else none
  | .stores =>
      if manager.construction = .registered
        then some { manager with construction := .finished, enableRandomAddrMode }
      else none
  | .turnOn answers =>
      if manager.construction ≠ .begun then some (manager.bleTurnOnFunc answers) else none
  | .turnOff => if manager.construction ≠ .begun then some manager.bluetoothTurnOffFunc else none
  | .setNewApiFlag => manager.call fun manager => { manager with isNewApi := true }
  | .startScan settings filters answers =>
    manager.call fun manager => (manager.startScan settings filters answers).1
  | .stopScan answers => manager.call fun manager => (manager.stopScan answers).1
  | .setScanReportChannelToLpDevice enable answers =>
      manager.call fun manager => (manager.setScanReportChannelToLpDevice enable answers).1
  | .changeScanParams settings filters filterAction answers =>
      manager.call fun manager => (manager.changeScanParams settings filters filterAction answers).1
  | .flushBatchScanResults answers => manager.call fun manager => (manager.flushBatchScanResults answers).1
  | .checkValidScannerId answers => manager.call fun manager => manager.checkValidScannerId answers

end BleCentralManager
end BluetoothFramework.Host
