import BluetoothFramework.Host.BleCentralManager
import BluetoothFramework.Ipc.Proxy
import BluetoothFramework.Parcel.BleAdvertiserData

/-!
# The BLE proxies

The functions of `BluetoothBleCentralManagerProxy` and `BluetoothBleAdvertiserProxy` that
return an error code. Most of them return an error on every failure. `StartScan` and
`StopScan` only log a transaction that fails and then read the reply, which is empty.
-/

namespace BluetoothFramework.Ipc

open Host ReplyReader

/-- `BluetoothBleScanSettings::Marshalling` -/
def scanSettingsMarshalling (self : ScanSettings) : List ParcelItem :=
  [int64Item self.reportDelayMillis, .int32 self.scanMode, .int32 self.reportMode, .bool self.legacy,
   .int32 self.phy, .uint8 self.callbackType, .uint8 self.sensitivityMode, .uint8 self.matchTrackAdvType,
   .int32 self.enhanceMode.mode, int64Item self.enhanceMode.timeout]

/-- The fields of `AdvertiserSettings`, which `BluetoothBleAdvertiserSettings` extends by none. -/
structure BluetoothBleAdvertiserSettings where
  connectable : Bool := false
  legacyMode : Bool := false
  interval : UInt16 := 0
  txPower : Int8 := 0
  primaryPhy : Int32 := 0
  secondaryPhy : Int32 := 0
  ownAddr : Vector UInt8 6 := Vector.replicate 6 0
  ownAddrType : Int8 := -1

/-- `BluetoothBleAdvertiserSettings::Marshalling` -/
def BluetoothBleAdvertiserSettings.marshalling (self : BluetoothBleAdvertiserSettings) :
    List ParcelItem :=
  [.bool self.connectable, .bool self.legacyMode, .uint16 self.interval, .int8 self.txPower,
   .int32 self.primaryPhy, .int32 self.secondaryPhy, .string self.ownAddr.toList, .int8 self.ownAddrType]

/-- The size of a list of filters and the filters. -/
def writeFilters (filters : List BluetoothBleScanFilter) : List ParcelItem :=
  Parcel.writeSized (fun filter => Parcel.writeParcelable filter.marshalling) filters

namespace BluetoothBleCentralManagerProxy

/-- `BLE_LPDEVICE_SCAN_SETTING_VALID_BIT` to `BLE_LPDEVICE_ADV_DEVICEINFO_VALID_BIT` -/
def bleLpDeviceScanSettingValidBit : UInt32 := 0x01
def bleLpDeviceScanFilterValidBit : UInt32 := 0x02
def bleLpDeviceAdvSettingValidBit : UInt32 := 0x04
def bleLpDeviceAdvDataValidBit : UInt32 := 0x08
def bleLpDeviceRespDataValidBit : UInt32 := 0x10
def bleLpDeviceAdvDeviceInfoValidBit : UInt32 := 0x20

/-- `BluetoothActiveDeviceInfo` -/
structure BluetoothActiveDeviceInfo where
  deviceId : List Int8
  status : Int32
  timeOut : Int32

/-- `BluetoothLpDeviceParamSet` -/
structure BluetoothLpDeviceParamSet where
  btScanSettings : ScanSettings
  btScanFilters : List BluetoothBleScanFilter
  btAdvSettings : BluetoothBleAdvertiserSettings
  btAdvData : BluetoothBleAdvertiserData
  btRespData : BluetoothBleAdvertiserData
  uuid : Uuid
  activeDeviceInfos : List BluetoothActiveDeviceInfo
  deliveryMode : Int32
  advHandle : Int32
  duration : Int32
  fieldValidFlagBit : UInt32

/-- What is written only for a field whose bit is set. -/
def writeIfValid (paramSet : BluetoothLpDeviceParamSet) (bit : UInt32) (items : List ParcelItem) :
    List ParcelItem :=
  if paramSet.fieldValidFlagBit &&& bit ≠ 0 then items else []

/-- `WriteScanParcelData` -/
def writeScanParcelData (paramSet : BluetoothLpDeviceParamSet) : List ParcelItem :=
  writeIfValid paramSet bleLpDeviceScanSettingValidBit
      (Parcel.writeParcelable (scanSettingsMarshalling paramSet.btScanSettings)) ++
    writeIfValid paramSet bleLpDeviceScanFilterValidBit (writeFilters paramSet.btScanFilters)

/-- `WriteAdvertiserParcelData` -/
def writeAdvertiserParcelData (paramSet : BluetoothLpDeviceParamSet) : List ParcelItem :=
  writeIfValid paramSet bleLpDeviceAdvSettingValidBit
      (Parcel.writeParcelable paramSet.btAdvSettings.marshalling) ++
    (writeIfValid paramSet bleLpDeviceAdvDataValidBit (Parcel.writeParcelable paramSet.btAdvData.marshalling) ++
      writeIfValid paramSet bleLpDeviceRespDataValidBit
        (Parcel.writeParcelable paramSet.btRespData.marshalling))

/-- `WriteActiveDeviceInfoParcelData` -/
def writeActiveDeviceInfoParcelData (paramSet : BluetoothLpDeviceParamSet) : List ParcelItem :=
  writeIfValid paramSet bleLpDeviceAdvDeviceInfoValidBit
    (Parcel.writeSized
      (fun info => [.buffer (info.deviceId.map Int8.toUInt8), .int32 info.status, .int32 info.timeOut])
      paramSet.activeDeviceInfos)

/-- A request to the central manager. -/
def request (code : InterfaceCode) (items : List ParcelItem) : Request where
  code := code
  data := .interfaceToken "ohos.ipc.IBluetootBleCentralManager" :: items.map .item
  writeFailure := btErrInternalError

/-- A function that returns `BT_ERR_INTERNAL_ERROR` on every failure and the code of the reply
otherwise. -/
def asks (code : InterfaceCode) (items : List ParcelItem) : Operation :=
  transacts (request code items) (fun _ => some btErrInternalError) result

/-- `StartScan`: a failure of `InnerTransact` is logged, then the reply is read. -/
def startScan (scannerId : Int32) (settings : ScanSettings) (filters : List BluetoothBleScanFilter)
    (isNewApi : Bool) : Operation :=
  transacts
    (request .bleStartScan (.int32 scannerId ::
      (Parcel.writeParcelable (scanSettingsMarshalling settings) ++
        (writeFilters filters ++ [.bool isNewApi]))))
    (fun _ => none) result

/-- `StopScan`, which takes a failure of `InnerTransact` as `StartScan` does. -/
def stopScan (scannerId : Int32) : Operation :=
  transacts (request .bleStopScan [.int32 scannerId]) (fun _ => none) result

/-- `SetLpDeviceAdvParam` -/
def setLpDeviceAdvParam (duration maxExtAdvEvents window interval advHandle : Int32) : Operation :=
  asks .bleSetLpDeviceAdvParam
    [.int32 duration, .int32 maxExtAdvEvents, .int32 window, .int32 interval, .int32 advHandle]

/-- `SetScanReportChannelToLpDevice` -/
def setScanReportChannelToLpDevice (scannerId : Int32) (enable : Bool) : Operation :=
  asks .bleSetScanReportChannelToLpDevice [.int32 scannerId, .bool enable]

/-- `EnableSyncDataToLpDevice` -/
def enableSyncDataToLpDevice : Operation :=
  asks .bleEnableSyncDataToLpDevice []

/-- `DisableSyncDataToLpDevice` -/
def disableSyncDataToLpDevice : Operation :=
  asks .bleDisableSyncDataToLpDevice []

/-- `SendParamsToLpDevice` -/
def sendParamsToLpDevice (dataValue : List UInt8) (type : Int32) : Operation :=
  asks .bleSendParamsToLpDevice [.buffer dataValue, .int32 type]

/-- `SetLpDeviceParam` -/
def setLpDeviceParam (paramSet : BluetoothLpDeviceParamSet) : Operation :=
  asks .bleSetLpDeviceParam (.uint32 paramSet.fieldValidFlagBit ::
    (writeScanParcelData paramSet ++ (writeAdvertiserParcelData paramSet ++
      (writeActiveDeviceInfoParcelData paramSet ++ (Parcel.writeParcelable paramSet.uuid.marshalling ++
        [.int32 paramSet.advHandle, .int32 paramSet.duration, .int32 paramSet.deliveryMode])))))

/-- `RemoveLpDeviceParam` -/
def removeLpDeviceParam (uuid : Uuid) : Operation :=
  asks .bleRemoveLpDeviceParam (Parcel.writeParcelable uuid.marshalling)

/-- `ChangeScanParams` -/
def changeScanParams (scannerId : Int32) (settings : ScanSettings)
    (filters : List BluetoothBleScanFilter) (filterAction : UInt32) : Operation :=
  asks .bleChangeScanParam (.int32 scannerId ::
    (Parcel.writeParcelable (scanSettingsMarshalling settings) ++
      (writeFilters filters ++ [.uint32 filterAction])))

/-- `FlushBatchScanResults` -/
def flushBatchScanResults (scannerId : Int32) : Operation :=
  asks .bleFlushBatchScanResults [.int32 scannerId]

/-- `IsValidScannerId` -/
def isValidScannerId (scannerId : Int32) : Operation :=
  transacts { request .bleIsValidScannerId [.int32 scannerId] with outputs := 1 }
    (fun _ => some btErrInternalError) do
      let isValid ← readBool
      pure ⟨btNoError, [some (.bool isValid)]⟩

/-- The functions with their arguments. -/
inductive Function where
  | startScan (scannerId : Int32) (settings : ScanSettings) (filters : List BluetoothBleScanFilter)
      (isNewApi : Bool)
  | stopScan (scannerId : Int32)
  | setLpDeviceAdvParam (duration maxExtAdvEvents window interval advHandle : Int32)
  | setScanReportChannelToLpDevice (scannerId : Int32) (enable : Bool)
  | enableSyncDataToLpDevice
  | disableSyncDataToLpDevice
  | sendParamsToLpDevice (dataValue : List UInt8) (type : Int32)
  | setLpDeviceParam (paramSet : BluetoothLpDeviceParamSet)
  | removeLpDeviceParam (uuid : Uuid)
  | changeScanParams (scannerId : Int32) (settings : ScanSettings) (filters : List BluetoothBleScanFilter)
      (filterAction : UInt32)
  | flushBatchScanResults (scannerId : Int32)
  | isValidScannerId (scannerId : Int32)

/-- What a function is. -/
def Function.operation : Function → Operation
  | .startScan scannerId settings filters isNewApi =>
      BluetoothBleCentralManagerProxy.startScan scannerId settings filters isNewApi
  | .stopScan scannerId => BluetoothBleCentralManagerProxy.stopScan scannerId
  | .setLpDeviceAdvParam duration maxExtAdvEvents window interval advHandle =>
      BluetoothBleCentralManagerProxy.setLpDeviceAdvParam duration maxExtAdvEvents window interval advHandle
  | .setScanReportChannelToLpDevice scannerId enable =>
      BluetoothBleCentralManagerProxy.setScanReportChannelToLpDevice scannerId enable
  | .enableSyncDataToLpDevice => BluetoothBleCentralManagerProxy.enableSyncDataToLpDevice
  | .disableSyncDataToLpDevice => BluetoothBleCentralManagerProxy.disableSyncDataToLpDevice
  | .sendParamsToLpDevice dataValue type => BluetoothBleCentralManagerProxy.sendParamsToLpDevice dataValue type
  | .setLpDeviceParam paramSet => BluetoothBleCentralManagerProxy.setLpDeviceParam paramSet
  | .removeLpDeviceParam uuid => BluetoothBleCentralManagerProxy.removeLpDeviceParam uuid
  | .changeScanParams scannerId settings filters filterAction =>
      BluetoothBleCentralManagerProxy.changeScanParams scannerId settings filters filterAction
  | .flushBatchScanResults scannerId => BluetoothBleCentralManagerProxy.flushBatchScanResults scannerId
  | .isValidScannerId scannerId => BluetoothBleCentralManagerProxy.isValidScannerId scannerId

/-- A scan that is written is delivered. -/
def Function.Reported (function : Function) (transport : Transport) : Prop :=
  match function with
  | .startScan .. | .stopScan .. =>
      transport.write function.operation.request.data = true → transport.Delivers function.operation.request
  | _ => True

variable {transport : Transport}

/-- A request of the scanner proxy without outputs reports its failures. -/
theorem asks_faithful (code : InterfaceCode) (items : List ParcelItem) :
    (asks code items).Faithful transport :=
  transacts_failing internalError_ne internalError_ne assigns_result

/-- The request that asks about an id reports its failures. Its output is read behind the code.
-/
theorem isValidScannerId_faithful (scannerId : Int32) :
    (isValidScannerId scannerId).Faithful transport := by
  apply transacts_failing internalError_ne internalError_ne
  apply assigns_bind
  intro isValid
  apply assigns_pure
  simp

/-- A function that only logs a failed transaction reports its failures exactly if there is none
to report. -/
theorem logging_iff (code : InterfaceCode) (items : List ParcelItem) :
    (transacts (request code items) (fun _ => none) result).Faithful transport ↔
      (transport.write (request code items).data = true → transport.Delivers (request code items)) :=
  transacts_logging_iff internalError_ne rfl assigns_result

/-- A function of the central manager is faithful exactly when it is no scan whose transaction
fails. -/
theorem faithful_iff (function : Function) :
    function.operation.Faithful transport ↔ function.Reported transport := by
  cases function with
  | startScan scannerId settings filters isNewApi => exact logging_iff _ _
  | stopScan scannerId => exact logging_iff _ _
  | isValidScannerId scannerId => exact iff_of_true (isValidScannerId_faithful scannerId) trivial
  | _ => exact iff_of_true (asks_faithful _ _) trivial

end BluetoothBleCentralManagerProxy

namespace BluetoothBleAdvertiserProxy

/-- A request to the advertiser. -/
def request (code : InterfaceCode) (items : List ParcelItem) : Request where
  code := code
  data := .interfaceToken "ohos.ipc.IBluetoothBleAdvertiser" :: items.map .item
  writeFailure := btErrIpcTransFailed

/-- A function that returns `BT_ERR_IPC_TRANS_FAILED` on every failure and the code of the reply
otherwise. -/
def asks (code : InterfaceCode) (items : List ParcelItem) : Operation :=
  transacts (request code items) (fun _ => some btErrIpcTransFailed) result

/-- `StartAdvertising` -/
def startAdvertising (settings : BluetoothBleAdvertiserSettings)
    (advData scanResponse : BluetoothBleAdvertiserData)
    (advHandle : Int32) (duration : UInt16) (isRawData : Bool) : Operation :=
  asks .bleStartAdvertising
    (Parcel.writeParcelable settings.marshalling ++ (Parcel.writeParcelable advData.marshalling ++
      (Parcel.writeParcelable scanResponse.marshalling ++
        [.int32 advHandle, .uint16 duration, .bool isRawData])))

/-- `EnableAdvertising` -/
def enableAdvertising (advHandle : UInt8) (duration : UInt16) : Operation :=
  asks .bleEnableAdvertising [.uint8 advHandle, .uint16 duration]

/-- `DisableAdvertising` -/
def disableAdvertising (advHandle : UInt8) : Operation :=
  asks .bleDisableAdvertising [.uint8 advHandle]

/-- `StopAdvertising` -/
def stopAdvertising (advHandle : Int32) : Operation :=
  asks .bleStopAdvertising [.int32 advHandle]

/-- `GetAdvertiserHandle`, which has an error code of its own and assigns the handle whatever
the code of the reply is. -/
def getAdvertiserHandle (callback : Nat) : Operation :=
  transacts
    { code := .bleGetAdvertiserHandle
      data := [.interfaceToken "ohos.ipc.IBluetoothBleAdvertiser", .remoteObject callback]
      writeFailure := btErrInternalError
      outputs := 1 }
    (fun _ => some btErrInternalError) do
      let ret ← readInt32
      let advHandle ← readInt32
      pure ⟨ret, [some (.int32 advHandle)]⟩

/-- `ChangeAdvertisingParams` returns the result of `InnerTransact` and leaves the reply unread. -/
def changeAdvertisingParams (advHandle : UInt8) (settings : BluetoothBleAdvertiserSettings) :
    Operation :=
  transacts
    (request .bleChangeAdvertisingParams (.uint8 advHandle :: Parcel.writeParcelable settings.marshalling))
    some (pure ⟨btNoError, []⟩)

/-- `GetAdvPowerForRangingBusiness`: the power is narrowed to eight bits. -/
def getAdvPowerForRangingBusiness (appType : Int32) : Operation :=
  transacts { request .bleGetAdvPowerForRanging [.int32 appType] with outputs := 1 }
    (fun _ => some btErrIpcTransFailed) do
      let errorCode ← readInt32
      let advpower ← readInt32
      pure ⟨errorCode, [some (.int8 advpower.toInt8)]⟩

/-- `BleRestoreRangingAntSwitch` -/
def bleRestoreRangingAntSwitch (appType : Int32) : Operation :=
  asks .bleRestoreRangingAntSwitch [.int32 appType]

/-- The functions with their arguments. -/
inductive Function where
  | startAdvertising (settings : BluetoothBleAdvertiserSettings)
      (advData scanResponse : BluetoothBleAdvertiserData) (advHandle : Int32) (duration : UInt16)
      (isRawData : Bool)
  | enableAdvertising (advHandle : UInt8) (duration : UInt16)
  | disableAdvertising (advHandle : UInt8)
  | stopAdvertising (advHandle : Int32)
  | getAdvertiserHandle (callback : Nat)
  | changeAdvertisingParams (advHandle : UInt8) (settings : BluetoothBleAdvertiserSettings)
  | getAdvPowerForRangingBusiness (appType : Int32)
  | bleRestoreRangingAntSwitch (appType : Int32)

/-- What a function is. -/
def Function.operation : Function → Operation
  | .startAdvertising settings advData scanResponse advHandle duration isRawData =>
      BluetoothBleAdvertiserProxy.startAdvertising settings advData scanResponse advHandle duration isRawData
  | .enableAdvertising advHandle duration => BluetoothBleAdvertiserProxy.enableAdvertising advHandle duration
  | .disableAdvertising advHandle => BluetoothBleAdvertiserProxy.disableAdvertising advHandle
  | .stopAdvertising advHandle => BluetoothBleAdvertiserProxy.stopAdvertising advHandle
  | .getAdvertiserHandle callback => BluetoothBleAdvertiserProxy.getAdvertiserHandle callback
  | .changeAdvertisingParams advHandle settings =>
      BluetoothBleAdvertiserProxy.changeAdvertisingParams advHandle settings
  | .getAdvPowerForRangingBusiness appType => BluetoothBleAdvertiserProxy.getAdvPowerForRangingBusiness appType
  | .bleRestoreRangingAntSwitch appType => BluetoothBleAdvertiserProxy.bleRestoreRangingAntSwitch appType

variable {transport : Transport}

/-- A request of the advertiser proxy without outputs reports its failures. -/
theorem asks_faithful (code : InterfaceCode) (items : List ParcelItem) :
    (asks code items).Faithful transport :=
  transacts_failing transFailed_ne transFailed_ne assigns_result

/-- The request for a handle reports its failures. -/
theorem getAdvertiserHandle_faithful (callback : Nat) :
    (getAdvertiserHandle callback).Faithful transport := by
  apply transacts_failing internalError_ne internalError_ne
  apply assigns_bind
  intro ret
  apply assigns_bind
  intro advHandle
  apply assigns_pure
  simp

/-- The change of parameters reports its failures. Whether one of its three records is too long
shows in the writing. -/
theorem changeAdvertisingParams_faithful (advHandle : UInt8)
    (settings : BluetoothBleAdvertiserSettings) :
    (changeAdvertisingParams advHandle settings).Faithful transport := by
  apply transacts_faithful transFailed_ne
  · exact fun result reported => ⟨result, reported, rfl⟩
  · apply assigns_pure
    simp

/-- The request for a power reports its failures. -/
theorem getAdvPowerForRangingBusiness_faithful (appType : Int32) :
    (getAdvPowerForRangingBusiness appType).Faithful transport := by
  apply transacts_failing transFailed_ne transFailed_ne
  apply assigns_bind
  intro errorCode
  apply assigns_bind
  intro advpower
  apply assigns_pure
  simp

/-- Every function of the advertiser is faithful. -/
theorem faithful (function : Function) : function.operation.Faithful transport := by
  cases function with
  | getAdvertiserHandle callback => exact getAdvertiserHandle_faithful callback
  | changeAdvertisingParams advHandle settings => exact changeAdvertisingParams_faithful advHandle settings
  | getAdvPowerForRangingBusiness appType => exact getAdvPowerForRangingBusiness_faithful appType
  | _ => exact asks_faithful _ _

end BluetoothBleAdvertiserProxy
end BluetoothFramework.Ipc
