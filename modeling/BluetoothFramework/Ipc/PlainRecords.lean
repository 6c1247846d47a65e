import BluetoothFramework.Ipc.ReportedFailures
import BluetoothFramework.Library.Fronts

/-!
# Records without limits

The parcelable records whose fields are written one after another and read without a check on
their values. A read object starts with the defaults of its class, and what is not written
keeps them: the role of a GATT device and the type of its address, and three fields of a transfer.

Every reader takes a front of the parcel (`Fifo.TakesFront`), for it is made of reads that fail when
there is nothing to read.
-/

namespace BluetoothFramework.Ipc

open Fifo Parcel BluetoothBleScanFilter BluetoothHfpHfCall

/-- `ReadUint64` with a result that is checked. -/
def readUint64Checked : ParcelReader UInt64 :=
  Fifo.take fun | .uint64 value => some value | _ => none

/-- A word that is read with a check is the one that was written. -/
theorem reads_uint64Checked (value : UInt64) : Reads readUint64Checked [.uint64 value] value :=
  .take _ _ _ rfl

instance : TakesFront readBool := takesFront_take _
instance : TakesFront readInt8 := takesFront_take _
instance : TakesFront readUint8 := takesFront_take _
instance : TakesFront readUint16 := takesFront_take _
instance : TakesFront readInt32 := takesFront_take _
instance : TakesFront readUint32 := takesFront_take _
instance : TakesFront readInt64 := takesFront_take _
instance : TakesFront readUint64Checked := takesFront_take _
instance : TakesFront readString := takesFront_take _
instance : TakesFront readUInt8Vector := takesFront_take _

/-! ## A2DP -/

/-- `CodecInfo` -/
structure BluetoothA2dpCodecInfo where
  codecPriority : UInt8
  codecType : UInt8
  sampleRate : UInt32
  bitsPerSample : UInt8
  channelMode : UInt8
  codecSpecific1 : UInt64
  codecSpecific2 : UInt64
  codecSpecific3 : UInt64
  codecSpecific4 : UInt64
deriving DecidableEq

namespace BluetoothA2dpCodecInfo

def marshalling (self : BluetoothA2dpCodecInfo) : List ParcelItem :=
  [.uint8 self.codecPriority, .uint8 self.codecType, .uint32 self.sampleRate, .uint8 self.bitsPerSample,
   .uint8 self.channelMode, .uint64 self.codecSpecific1, .uint64 self.codecSpecific2,
   .uint64 self.codecSpecific3,
   .uint64 self.codecSpecific4]

def unmarshalling : ParcelReader BluetoothA2dpCodecInfo := do
  let codecPriority ← readUint8
  let codecType ← readUint8
  let sampleRate ← readUint32
  let bitsPerSample ← readUint8
  let channelMode ← readUint8
  let codecSpecific1 ← readUint64Checked
  let codecSpecific2 ← readUint64Checked
  let codecSpecific3 ← readUint64Checked
  let codecSpecific4 ← readUint64Checked
  pure { codecPriority, codecType, sampleRate, bitsPerSample, channelMode, codecSpecific1, codecSpecific2,
         codecSpecific3, codecSpecific4 }

instance : TakesFront unmarshalling := by
  unfold unmarshalling
  infer_instance

/-- The codec information arrives as it is, by computation: each field is read with the type it
was written with. -/
theorem reads (self : BluetoothA2dpCodecInfo) : Reads unmarshalling self.marshalling self :=
  fun _ => rfl

end BluetoothA2dpCodecInfo

/-- `OffloadCodecInfo` -/
structure BluetoothA2dpOffloadCodecInfo where
  mediaPacketHeader : UInt16
  mPt : UInt8
  ssrc : UInt32
  boundaryFlag : UInt8
  broadcastFlag : UInt8
  codecType : UInt32
  maxLatency : UInt16
  scmsTEnable : UInt16
  sampleRate : UInt32
  encodedAudioBitrate : UInt32
  bitsPerSample : UInt8
  chMode : UInt8
  aclHdl : UInt16
  l2cRcid : UInt16
  mtu : UInt16
  codecSpecific0 : UInt8
  codecSpecific1 : UInt8
  codecSpecific2 : UInt8
  codecSpecific3 : UInt8
  codecSpecific4 : UInt8
  codecSpecific5 : UInt8
  codecSpecific6 : UInt8
  codecSpecific7 : UInt8
deriving DecidableEq

namespace BluetoothA2dpOffloadCodecInfo

def marshalling (self : BluetoothA2dpOffloadCodecInfo) : List ParcelItem :=
  [.uint16 self.mediaPacketHeader, .uint8 self.mPt, .uint32 self.ssrc, .uint8 self.boundaryFlag,
   .uint8 self.broadcastFlag, .uint32 self.codecType, .uint16 self.maxLatency, .uint16 self.scmsTEnable,
   .uint32 self.sampleRate, .uint32 self.encodedAudioBitrate, .uint8 self.bitsPerSample, .uint8 self.chMode,
   .uint16 self.aclHdl, .uint16 self.l2cRcid, .uint16 self.mtu, .uint8 self.codecSpecific0,
   .uint8 self.codecSpecific1, .uint8 self.codecSpecific2, .uint8 self.codecSpecific3,
   .uint8 self.codecSpecific4,
   .uint8 self.codecSpecific5, .uint8 self.codecSpecific6, .uint8 self.codecSpecific7]

def unmarshalling : ParcelReader BluetoothA2dpOffloadCodecInfo := do
  let mediaPacketHeader ← readUint16
  let mPt ← readUint8
  let ssrc ← readUint32
  let boundaryFlag ← readUint8
  let broadcastFlag ← readUint8
  let codecType ← readUint32
  let maxLatency ← readUint16
  let scmsTEnable ← readUint16
  let sampleRate ← readUint32
  let encodedAudioBitrate ← readUint32
  let bitsPerSample ← readUint8
  let chMode ← readUint8
  let aclHdl ← readUint16
  let l2cRcid ← readUint16
  let mtu ← readUint16
  let codecSpecific0 ← readUint8
  let codecSpecific1 ← readUint8
  let codecSpecific2 ← readUint8
  let codecSpecific3 ← readUint8
  let codecSpecific4 ← readUint8
  let codecSpecific5 ← readUint8
  let codecSpecific6 ← readUint8
  let codecSpecific7 ← readUint8
  pure { mediaPacketHeader, mPt, ssrc, boundaryFlag, broadcastFlag, codecType, maxLatency
         scmsTEnable, sampleRate, encodedAudioBitrate, bitsPerSample, chMode, aclHdl, l2cRcid, mtu
         codecSpecific0, codecSpecific1, codecSpecific2, codecSpecific3
         codecSpecific4, codecSpecific5, codecSpecific6, codecSpecific7 }

instance : TakesFront unmarshalling := by
  unfold unmarshalling
  infer_instance

/-- The offload codec information arrives as it is. -/
theorem reads (self : BluetoothA2dpOffloadCodecInfo) : Reads unmarshalling self.marshalling self :=
  fun _ => rfl

end BluetoothA2dpOffloadCodecInfo

/-! ## BLE -/

/-- `BluetoothBleScanSettings::ReadFromParcel` -/
def scanSettingsUnmarshalling : ParcelReader Host.ScanSettings := do
  let reportDelayMillis ← readInt64
  let scanMode ← readInt32
  let reportMode ← readInt32
  let legacy ← readBool
  let phy ← readInt32
  let callbackType ← readUint8
  let sensitivityMode ← readUint8
  let matchTrackAdvType ← readUint8
  let mode ← readInt32
  let timeout ← readInt64
  pure { reportDelayMillis, scanMode, reportMode, legacy, phy, callbackType, sensitivityMode, matchTrackAdvType
         enhanceMode := ⟨mode, timeout⟩ }

instance : TakesFront scanSettingsUnmarshalling := by
  unfold scanSettingsUnmarshalling
  infer_instance

/-- The scan settings arrive as they are, whatever the defaults of the object they are read
into. -/
theorem reads_scanSettings (self : Host.ScanSettings) :
    Reads scanSettingsUnmarshalling (scanSettingsMarshalling self) self :=
  fun _ => rfl

instance : TakesFront rawAddressUnmarshalling := by
  unfold rawAddressUnmarshalling
  infer_instance

/-- `GATT_ROLE_INVALID` -/
def gattRoleInvalid : UInt8 := 0xFF

/-- `GattDevice` -/
structure BluetoothGattDevice where
  isEncryption : Bool := false
  role : UInt8 := gattRoleInvalid
  transport : UInt8 := 0
  addressType : UInt8 := 0
  connectState : Int32 := 0
  addr : RawAddress := {}
deriving DecidableEq

namespace BluetoothGattDevice

def marshalling (self : BluetoothGattDevice) : List ParcelItem :=
  [.bool self.isEncryption, .uint8 self.transport, .uint8 self.addressType, .int32 self.connectState,
   .string self.addr.address]

/-- The address is made from its text alone. -/
def unmarshalling : ParcelReader BluetoothGattDevice := do
  let isEncryption ← readBool
  let transport ← readUint8
  let addressType ← readUint8
  let connectState ← readInt32
  let addr ← readString
  pure { isEncryption, transport, addressType, connectState, addr := { address := addr } }

instance : TakesFront unmarshalling := by
  unfold unmarshalling
  infer_instance

/-- What arrives of a device. -/
def arriving (self : BluetoothGattDevice) : BluetoothGattDevice :=
  { self with role := gattRoleInvalid, addr := { address := self.addr.address } }

/-- A device arrives with its address, and with the defaults in what is not sent. -/
theorem reads (self : BluetoothGattDevice) : Reads unmarshalling self.marshalling self.arriving :=
  fun _ => rfl

end BluetoothGattDevice

structure BluetoothGattRspContext where
  timeStamp : Int64 := 0
deriving DecidableEq

namespace BluetoothGattRspContext

def marshalling (self : BluetoothGattRspContext) : List ParcelItem :=
  [int64Item self.timeStamp]

def unmarshalling : ParcelReader BluetoothGattRspContext := do
  let timeStamp ← readInt64
  pure { timeStamp }

instance : TakesFront unmarshalling := by
  unfold unmarshalling
  infer_instance

/-- The context of a response arrives as it is. -/
theorem reads (self : BluetoothGattRspContext) : Reads unmarshalling self.marshalling self :=
  fun _ => rfl

end BluetoothGattRspContext

/-! ## Devices -/

/-- `BatteryInfo` -/
structure BluetoothBatteryInfo where
  batteryLevel : Int32 := -1
  leftEarBatteryLevel : Int32 := -1
  leftEarChargeState : Int32 := 0
  rightEarBatteryLevel : Int32 := -1
  rightEarChargeState : Int32 := 0
  boxBatteryLevel : Int32 := -1
  boxChargeState : Int32 := 0
deriving DecidableEq

namespace BluetoothBatteryInfo

def marshalling (self : BluetoothBatteryInfo) : List ParcelItem :=
  [.int32 self.batteryLevel, .int32 self.leftEarBatteryLevel, .int32 self.leftEarChargeState,
   .int32 self.rightEarBatteryLevel, .int32 self.rightEarChargeState, .int32 self.boxBatteryLevel,
   .int32 self.boxChargeState]

def unmarshalling : ParcelReader BluetoothBatteryInfo := do
  let batteryLevel ← readInt32
  let leftEarBatteryLevel ← readInt32
  let leftEarChargeState ← readInt32
  let rightEarBatteryLevel ← readInt32
  let rightEarChargeState ← readInt32
  let boxBatteryLevel ← readInt32
  let boxChargeState ← readInt32
  pure { batteryLevel, leftEarBatteryLevel, leftEarChargeState, rightEarBatteryLevel, rightEarChargeState,
         boxBatteryLevel, boxChargeState }

instance : TakesFront unmarshalling := by
  unfold unmarshalling
  infer_instance

/-- The battery information arrives as it is. -/
theorem reads (self : BluetoothBatteryInfo) : Reads unmarshalling self.marshalling self :=
  fun _ => rfl

end BluetoothBatteryInfo

structure BluetoothRemoteDeviceInfo where
  vendorId : UInt16
  productId : UInt16
  modelId : ByteString
  customType : Int32
  deviceOfType : UInt8
  manufacturerData : List UInt8
deriving DecidableEq

namespace BluetoothRemoteDeviceInfo

def marshalling (self : BluetoothRemoteDeviceInfo) : List ParcelItem :=
  [.uint16 self.vendorId, .uint16 self.productId, .string self.modelId, .int32 self.customType,
   .uint8 self.deviceOfType, .buffer self.manufacturerData]

def unmarshalling : ParcelReader BluetoothRemoteDeviceInfo := do
  let vendorId ← readUint16
  let productId ← readUint16
  let modelId ← readString
  let customType ← readInt32
  let deviceOfType ← readUint8
  let manufacturerData ← readUInt8Vector
  pure { vendorId, productId, modelId, customType, deviceOfType, manufacturerData }

instance : TakesFront unmarshalling := by
  unfold unmarshalling
  infer_instance

/-- The information of a remote device arrives as it is. -/
theorem reads (self : BluetoothRemoteDeviceInfo) : Reads unmarshalling self.marshalling self :=
  fun _ => rfl

end BluetoothRemoteDeviceInfo

/-- `P256` -/
def p256 : UInt8 := 0x02

/-- `BtOobData` -/
structure BluetoothOobData where
  hasAddressWithType : Bool := false
  addressWithType : List UInt8 := []
  hasConfirmHash : Bool := false
  confirmationHash : List UInt8 := []
  hasRandomHash : Bool := false
  randomizerHash : List UInt8 := []
  hasDeviceName : Bool := false
  deviceName : ByteString := []
  oobDataType : UInt8 := p256
  deviceRole : UInt8 := 0
deriving DecidableEq

namespace BluetoothOobData

def marshalling (self : BluetoothOobData) : List ParcelItem :=
  [.bool self.hasAddressWithType, .buffer self.addressWithType, .bool self.hasConfirmHash,
   .buffer self.confirmationHash, .bool self.hasRandomHash, .buffer self.randomizerHash,
   .bool self.hasDeviceName,
   .string self.deviceName, .uint8 self.oobDataType, .uint8 self.deviceRole]

def unmarshalling : ParcelReader BluetoothOobData := do
  let hasAddressWithType ← readBool
  let addressWithType ← readUInt8Vector
  let hasConfirmHash ← readBool
  let confirmationHash ← readUInt8Vector
  let hasRandomHash ← readBool
  let randomizerHash ← readUInt8Vector
  let hasDeviceName ← readBool
  let deviceName ← readString
  let oobDataType ← readUint8
  let deviceRole ← readUint8
  pure { hasAddressWithType, addressWithType, hasConfirmHash, confirmationHash, hasRandomHash, randomizerHash,
         hasDeviceName, deviceName, oobDataType, deviceRole }

instance : TakesFront unmarshalling := by
  unfold unmarshalling
  infer_instance

/-- The out-of-band data arrives as it is. -/
theorem reads (self : BluetoothOobData) : Reads unmarshalling self.marshalling self :=
  fun _ => rfl

end BluetoothOobData

/-! ## Sockets, calls and transfers -/

structure BluetoothSocketCocInfo where
  addr : ByteString := []
  minInterval : Int32 := 0
  maxInterval : Int32 := 0
  peripheralLatency : Int32 := 0
  supervisionTimeout : Int32 := 0
  minConnEventLen : Int32 := 0
  maxConnEventLen : Int32 := 0
deriving DecidableEq

namespace BluetoothSocketCocInfo

def marshalling (self : BluetoothSocketCocInfo) : List ParcelItem :=
  [.string self.addr, .int32 self.minInterval, .int32 self.maxInterval, .int32 self.peripheralLatency,
   .int32 self.supervisionTimeout, .int32 self.minConnEventLen, .int32 self.maxConnEventLen]

def unmarshalling : ParcelReader BluetoothSocketCocInfo := do
  let addr ← readString
  let minInterval ← readInt32
  let maxInterval ← readInt32
  let peripheralLatency ← readInt32
  let supervisionTimeout ← readInt32
  let minConnEventLen ← readInt32
  let maxConnEventLen ← readInt32
  pure { addr, minInterval, maxInterval, peripheralLatency, supervisionTimeout
         minConnEventLen, maxConnEventLen }

instance : TakesFront unmarshalling := by
  unfold unmarshalling
  infer_instance

/-- The information of a channel arrives as it is. -/
theorem reads (self : BluetoothSocketCocInfo) : Reads unmarshalling self.marshalling self :=
  fun _ => rfl

end BluetoothSocketCocInfo

structure BluetoothPhoneState where
  activeNum : Int32 := 0
  heldNum : Int32 := 0
  callState : Int32 := 0
  number : ByteString := []
  callType : Int32 := 0
  name : ByteString := []
deriving DecidableEq

namespace BluetoothPhoneState

def marshalling (self : BluetoothPhoneState) : List ParcelItem :=
  [.int32 self.activeNum, .int32 self.heldNum, .int32 self.callState, .string self.number, .int32 self.callType,
   .string self.name]

def unmarshalling : ParcelReader BluetoothPhoneState := do
  let activeNum ← readInt32
  let heldNum ← readInt32
  let callState ← readInt32
  let number ← readString
  let callType ← readInt32
  let name ← readString
  pure { activeNum, heldNum, callState, number, callType, name }

instance : TakesFront unmarshalling := by
  unfold unmarshalling
  infer_instance

/-- The state of a phone arrives as it is. -/
theorem reads (self : BluetoothPhoneState) : Reads unmarshalling self.marshalling self :=
  fun _ => rfl

end BluetoothPhoneState

/-- `IOppTransferInformation` -/
structure BluetoothIOppTransferInformation where
  id : Int32 := -1
  fileName : ByteString := []
  filePath : ByteString := []
  fileType : ByteString := []
  deviceName : ByteString := []
  deviceAddress : ByteString := []
  direction : Int32 := 0
  status : Int32 := 0
  result : Int32 := 0
  fileFd : Int32 := -1
  operationNum : Int32 := 0
  isAccept : Int32 := 0
  timeStamp : UInt64 := 0
  currentBytes : UInt64 := 0
  totalBytes : UInt64 := 0
  currentCount : Int32 := 0
  totalCount : Int32 := 0
deriving DecidableEq

namespace BluetoothIOppTransferInformation

/-- `WriteToParcel` writes the unsigned times and sizes as signed values. -/
def marshalling (self : BluetoothIOppTransferInformation) : List ParcelItem :=
  [.int32 self.id, .string self.fileName, .string self.filePath, .string self.fileType, .string self.deviceName,
   .string self.deviceAddress, .int32 self.direction, .int32 self.status, .int32 self.result,
   int64Item self.timeStamp.toInt64, int64Item self.currentBytes.toInt64, int64Item self.totalBytes.toInt64,
   .int32 self.currentCount, .int32 self.totalCount]

def unmarshalling : ParcelReader BluetoothIOppTransferInformation := do
  let id ← readInt32
  let fileName ← readString
  let filePath ← readString
  let fileType ← readString
  let deviceName ← readString
  let deviceAddress ← readString
  let direction ← readInt32
  let status ← readInt32
  let result ← readInt32
  let timeStamp ← readInt64
  let currentBytes ← readInt64
  let totalBytes ← readInt64
  let currentCount ← readInt32
  let totalCount ← readInt32
  pure { id, fileName, filePath, fileType, deviceName, deviceAddress, direction, status, result
         timeStamp := timeStamp.toUInt64, currentBytes := currentBytes.toUInt64
         totalBytes := totalBytes.toUInt64
         currentCount, totalCount }

instance : TakesFront unmarshalling := by
  unfold unmarshalling
  infer_instance

/-- What arrives of a transfer. -/
def arriving (self : BluetoothIOppTransferInformation) : BluetoothIOppTransferInformation :=
  { self with fileFd := -1, operationNum := 0, isAccept := 0 }

/-- The information of a transfer arrives with the defaults in what is not sent. -/
theorem reads (self : BluetoothIOppTransferInformation) :
    Reads unmarshalling self.marshalling self.arriving :=
  fun _ => rfl

end BluetoothIOppTransferInformation

/-- `IOppTransferFileHolder` -/
structure BluetoothIOppTransferFileHolder where
  filePath : ByteString := []
  fileSize : Int64 := 0
  fileFd : Int32 := 0
deriving DecidableEq

namespace BluetoothIOppTransferFileHolder

def marshalling (self : BluetoothIOppTransferFileHolder) : List ParcelItem :=
  [.string self.filePath, int64Item self.fileSize, .int32 self.fileFd]

def unmarshalling : ParcelReader BluetoothIOppTransferFileHolder := do
  let filePath ← readString
  let fileSize ← readInt64
  let fileFd ← readInt32
  pure { filePath, fileSize, fileFd }

instance : TakesFront unmarshalling := by
  unfold unmarshalling
  infer_instance

/-- The holder of a file arrives as it is. -/
theorem reads (self : BluetoothIOppTransferFileHolder) :
    Reads unmarshalling self.marshalling self :=
  fun _ => rfl

end BluetoothIOppTransferFileHolder

end BluetoothFramework.Ipc
