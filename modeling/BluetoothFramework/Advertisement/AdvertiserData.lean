import BluetoothFramework.Advertisement.PeripheralDevice

/-!
# Building an advertisement

`BleAdvertiserDataImpl` appends AD structures to a payload. Each function writes its
structures byte by byte behind a length byte of type `char`, so lengths are stored modulo
256. A UUID is written in its shortest form: two or four bytes in the order of the machine,
which is little-endian, or sixteen bytes in reverse.
-/

namespace BluetoothFramework

/-- `BLE_ADV_DATA_BYTE_FIELD_LEN` -/
def bleAdvDataByteFieldLen : Nat := 3

/-- `BLE_ADV_DATA_FIELD_TYPE_AND_LEN` -/
def bleAdvDataFieldTypeAndLen : Nat := 2

/-- `DEVICE_NAME_MAX_LEN` -/
def deviceNameMaxLen : Nat := 26

/-- The two bytes of `ConvertTo16Bits`. -/
def bytesOf16 (uuid : Uuid) : ByteString :=
  LittleEndian.encode bleUuidLen16 uuid.convertTo16Bits.toNat

/-- The four bytes of `ConvertTo32Bits`. -/
def bytesOf32 (uuid : Uuid) : ByteString :=
  LittleEndian.encode bleUuidLen32 uuid.convertTo32Bits.toNat

/-- The sixteen bytes of `ConvertToBytesLE`. -/
def bytesOf128 (uuid : Uuid) : ByteString :=
  uuid.convertToBytesLE.toList

/-- `BleAdvertiserDataImpl` -/
structure BleAdvertiserDataImpl where
  payload : ByteString := []
  advFlag : UInt8 := 0
deriving DecidableEq, Repr

namespace BleAdvertiserDataImpl

/-- `AddData` -/
def addData (self : BleAdvertiserDataImpl) (data : ByteString) : BleAdvertiserDataImpl :=
  { self with payload := self.payload ++ data }

/-- `SetManufacturerData` -/
def setManufacturerData (self : BleAdvertiserDataImpl) (data : ByteString) :
    BleAdvertiserDataImpl :=
  self.addData ([UInt8.ofNat (data.length + 1), bleAdManufacturerSpecificType] ++ data)

/-- `AddManufacturerData` -/
def addManufacturerData (self : BleAdvertiserDataImpl) (manufacturerId : UInt16)
    (data : ByteString) : BleAdvertiserDataImpl :=
  self.setManufacturerData
    ([(manufacturerId &&& 0xFF).toUInt8, ((manufacturerId >>> 8) &&& 0xFF).toUInt8] ++ data)

/-- `AddServiceData` -/
def addServiceData (self : BleAdvertiserDataImpl) (uuid : Uuid) (data : ByteString) :
    BleAdvertiserDataImpl :=
  if uuid.getUuidType = Uuid.uuid16BytesType then
    self.addData ([UInt8.ofNat (data.length + bleUuidLen16 + 1), bleAdTypeServiceData] ++
      bytesOf16 uuid ++ data)
  else if uuid.getUuidType = Uuid.uuid32BytesType then
    self.addData ([UInt8.ofNat (data.length + bleUuidLen32 + 1), bleAdType32ServiceData] ++
      bytesOf32 uuid ++ data)
  else if uuid.getUuidType = Uuid.uuid128BytesType then
    self.addData ([UInt8.ofNat (data.length + bleUuidLen128 + 1), bleAdType128ServiceData] ++
      bytesOf128 uuid ++ data)
  else self

/-- `SetCompleteServices` -/
def setCompleteServices (self : BleAdvertiserDataImpl) (uuid : Uuid) : BleAdvertiserDataImpl :=
  if uuid.getUuidType = Uuid.uuid16BytesType then
    self.addData ([UInt8.ofNat (bleUuidLen16 + 1), bleAdType16SrvCmpl] ++ bytesOf16 uuid)
  else if uuid.getUuidType = Uuid.uuid32BytesType then
    self.addData ([UInt8.ofNat (bleUuidLen32 + 1), bleAdType32SrvCmpl] ++ bytesOf32 uuid)
  else if uuid.getUuidType = Uuid.uuid128BytesType then
    self.addData ([UInt8.ofNat (bleUuidLen128 + 1), bleAdType128SrvCmpl] ++ bytesOf128 uuid)
  else self

/-- `AddServiceUuid` -/
def addServiceUuid (self : BleAdvertiserDataImpl) (uuid : Uuid) : BleAdvertiserDataImpl :=
  self.setCompleteServices uuid

/-- The local strings of `AddServiceUuids`. -/
structure ServiceUuids where
  serviceUuid16 : ByteString := []
  serviceUuid32 : ByteString := []
  serviceUuid128 : ByteString := []

/-- The loop body of `AddServiceUuids`. -/
def ServiceUuids.append (strings : ServiceUuids) (uuid : Uuid) : ServiceUuids :=
  if uuid.getUuidType = Uuid.uuid16BytesType then
    { strings with serviceUuid16 := strings.serviceUuid16 ++ bytesOf16 uuid }
  else if uuid.getUuidType = Uuid.uuid32BytesType then
    { strings with serviceUuid32 := strings.serviceUuid32 ++ bytesOf32 uuid }
  else
    { strings with serviceUuid128 := strings.serviceUuid128 ++ bytesOf128 uuid }

/-- One of the three blocks behind the loop of `AddServiceUuids`. -/
def addUuidString (self : BleAdvertiserDataImpl) (advType : UInt8) (serviceUuid : ByteString) :
    BleAdvertiserDataImpl :=
  if serviceUuid ≠ [] then
    self.addData ([UInt8.ofNat (serviceUuid.length + 1), advType] ++ serviceUuid)
  else self

/-- `AddServiceUuids` -/
def addServiceUuids (self : BleAdvertiserDataImpl) (uuidVec : List Uuid) : BleAdvertiserDataImpl :=
  if uuidVec = [] then self
  else
    let strings := uuidVec.foldl ServiceUuids.append {}
    let self := self.addUuidString bleAdType16SrvCmpl strings.serviceUuid16
    let self := self.addUuidString bleAdType32SrvCmpl strings.serviceUuid32
    self.addUuidString bleAdType128SrvCmpl strings.serviceUuid128

/-- `SetAppearance` -/
def setAppearance (self : BleAdvertiserDataImpl) (appearance : UInt16) : BleAdvertiserDataImpl :=
  self.addData ([UInt8.ofNat bleAdvDataByteFieldLen, bleAdTypeAppearance] ++
    LittleEndian.encode bleAdvDataFieldTypeAndLen appearance.toNat)

/-- `SetFlags` -/
def setFlags (self : BleAdvertiserDataImpl) (flag : UInt8) : BleAdvertiserDataImpl :=
  { self with advFlag := flag }.addData
    [UInt8.ofNat bleAdvDataFieldTypeAndLen, bleAdTypeFlag, flag]

/-- `SetTxPowerLevel` -/
def setTxPowerLevel (self : BleAdvertiserDataImpl) (txPowerLevel : UInt8) : BleAdvertiserDataImpl :=
  self.addData [UInt8.ofNat bleAdvDataFieldTypeAndLen, bleAdTypeTxPwr, txPowerLevel]

/-- `SetLongName`: the first 26 bytes as a shortened name. -/
def setLongName (self : BleAdvertiserDataImpl) (name : ByteString) : BleAdvertiserDataImpl :=
  self.addData ([UInt8.ofNat (deviceNameMaxLen + 1), bleAdTypeNameShort] ++ name.take deviceNameMaxLen)

/-- `SetShortName`: the complete name. -/
def setShortName (self : BleAdvertiserDataImpl) (name : ByteString) : BleAdvertiserDataImpl :=
  self.addData ([UInt8.ofNat (name.length + 1), bleAdTypeNameCmpl] ++ name)

/-- `SetDeviceName` -/
def setDeviceName (self : BleAdvertiserDataImpl) (name : ByteString) : BleAdvertiserDataImpl :=
  if name.length > deviceNameMaxLen then self.setLongName name else self.setShortName name

/-- `GetPayload` -/
def getPayload (self : BleAdvertiserDataImpl) : ByteString :=
  self.payload

/-- A call of the builder. -/
inductive Call where
  | setFlags (flag : UInt8)
  | setAppearance (appearance : UInt16)
  | setTxPowerLevel (txPowerLevel : UInt8)
  | setDeviceName (name : ByteString)
  | addManufacturerData (manufacturerId : UInt16) (data : ByteString)
  | addServiceData (uuid : Uuid) (data : ByteString)
  | addServiceUuid (uuid : Uuid)
  | addServiceUuids (uuidVec : List Uuid)

/-- Make a call. -/
def perform (self : BleAdvertiserDataImpl) : Call → BleAdvertiserDataImpl
  | .setFlags flag => self.setFlags flag
  | .setAppearance appearance => self.setAppearance appearance
  | .setTxPowerLevel txPowerLevel => self.setTxPowerLevel txPowerLevel
  | .setDeviceName name => self.setDeviceName name
  | .addManufacturerData manufacturerId data => self.addManufacturerData manufacturerId data
  | .addServiceData uuid data => self.addServiceData uuid data
  | .addServiceUuid uuid => self.addServiceUuid uuid
  | .addServiceUuids uuidVec => self.addServiceUuids uuidVec

/-- Make calls one after another. -/
def performAll (self : BleAdvertiserDataImpl) (calls : List Call) : BleAdvertiserDataImpl :=
  calls.foldl perform self

end BleAdvertiserDataImpl
end BluetoothFramework
