import BluetoothFramework.Common.Types
import BluetoothFramework.Library.Frames
import BluetoothFramework.Library.LittleEndian
import BluetoothFramework.Library.Loads

/-!
# Parsing an advertisement

`BlePeripheralDevice::ParseAdvertiserment` walks the bytes of an advertisement and hands
each AD structure to `BuildAdvertiserData`, which sets the member its type stands for.
Payload pointers are indices into a memory, and every byte the source dereferences is a
load on behalf of a range: the whole payload for the length and type bytes the walk reads,
the data of the structure for everything `BuildAdvertiserData` and its helpers read.

The while loop runs on fuel; `none` means it did not finish.
-/

namespace BluetoothFramework

open Loads

/-- The AD types `BuildAdvertiserData` distinguishes, several labels of its switch
together where they share a branch. -/
inductive AdKind where
  | name
  | txPower
  | appearance
  | flag
  | serviceUuid16
  | serviceUuid32
  | serviceUuid128
  | manufacturer
  | serviceData16
  | serviceData32
  | serviceData128
  | other
deriving DecidableEq, Repr

/-- `BLE_AD_TYPE_FLAG` -/
def bleAdTypeFlag : UInt8 := 0x01

/-- `BLE_AD_TYPE_16SRV_PART` -/
def bleAdType16SrvPart : UInt8 := 0x02

/-- `BLE_AD_TYPE_16SRV_CMPL` -/
def bleAdType16SrvCmpl : UInt8 := 0x03

/-- `BLE_AD_TYPE_32SRV_PART` -/
def bleAdType32SrvPart : UInt8 := 0x04

/-- `BLE_AD_TYPE_32SRV_CMPL` -/
def bleAdType32SrvCmpl : UInt8 := 0x05

/-- `BLE_AD_TYPE_128SRV_PART` -/
def bleAdType128SrvPart : UInt8 := 0x06

/-- `BLE_AD_TYPE_128SRV_CMPL` -/
def bleAdType128SrvCmpl : UInt8 := 0x07

/-- `BLE_AD_TYPE_NAME_SHORT` -/
def bleAdTypeNameShort : UInt8 := 0x08

/-- `BLE_AD_TYPE_NAME_CMPL` -/
def bleAdTypeNameCmpl : UInt8 := 0x09

/-- `BLE_AD_TYPE_TX_PWR` -/
def bleAdTypeTxPwr : UInt8 := 0x0A

/-- `BLE_AD_TYPE_SERVICE_DATA` -/
def bleAdTypeServiceData : UInt8 := 0x16

/-- `BLE_AD_TYPE_APPEARANCE` -/
def bleAdTypeAppearance : UInt8 := 0x19

/-- `BLE_AD_TYPE_32SERVICE_DATA` -/
def bleAdType32ServiceData : UInt8 := 0x20

/-- `BLE_AD_TYPE_128SERVICE_DATA` -/
def bleAdType128ServiceData : UInt8 := 0x21

/-- `BLE_AD_MANUFACTURER_SPECIFIC_TYPE` -/
def bleAdManufacturerSpecificType : UInt8 := 0xFF

/-- The switch of `BuildAdvertiserData`. -/
def adKind (advType : UInt8) : AdKind :=
  if advType = bleAdTypeNameCmpl ∨ advType = bleAdTypeNameShort then .name
  else if advType = bleAdTypeTxPwr then .txPower
  else if advType = bleAdTypeAppearance then .appearance
  else if advType = bleAdTypeFlag then .flag
  else if advType = bleAdType16SrvCmpl ∨ advType = bleAdType16SrvPart then .serviceUuid16
  else if advType = bleAdType32SrvCmpl ∨ advType = bleAdType32SrvPart then .serviceUuid32
  else if advType = bleAdType128SrvCmpl ∨ advType = bleAdType128SrvPart then .serviceUuid128
  else if advType = bleAdManufacturerSpecificType then .manufacturer
  else if advType = bleAdTypeServiceData then .serviceData16
  else if advType = bleAdType32ServiceData then .serviceData32
  else if advType = bleAdType128ServiceData then .serviceData128
  else .other

/-- `BLE_UUID_LEN_16` -/
def bleUuidLen16 : Nat := 2

/-- `BLE_UUID_LEN_32` -/
def bleUuidLen32 : Nat := 4

/-- `BLE_UUID_LEN_128` -/
def bleUuidLen128 : Nat := 16

/-- `ConvertFrom16Bits` of the `uint16_t` stored at the bytes. -/
def uuidOf16 (bytes : List UInt8) : Uuid :=
  Uuid.convertFrom16Bits (UInt16.ofNat (LittleEndian.decode bytes))

/-- `ConvertFrom32Bits` of the `uint32_t` stored at the bytes. -/
def uuidOf32 (bytes : List UInt8) : Uuid :=
  Uuid.convertFrom32Bits (UInt32.ofNat (LittleEndian.decode bytes))

/-- `ConvertFromBytesLE` of the sixteen bytes. -/
def uuidOf128 (bytes : List UInt8) : Uuid :=
  Uuid.convertFromBytesLE (Vector.ofFn fun i => bytes.getD i 0)

/-- `BlePeripheralDeviceParseAdvData` -/
structure BlePeripheralDeviceParseAdvData where
  payload : Nat
  length : Nat
deriving DecidableEq, Repr

/-- The bytes the structure consists of. -/
def BlePeripheralDeviceParseAdvData.range (data : BlePeripheralDeviceParseAdvData) : Range :=
  ⟨data.payload, data.payload + data.length⟩

/-- The members of `BlePeripheralDevice` that parsing sets, with the values of a new
object. The constructor initializes `txPower_` with `BLE_ADDR_TYPE_RANDOM`. -/
structure BlePeripheralDevice where
  isAppearance : Bool := false
  isManufacturerData : Bool := false
  isName : Bool := false
  isAdvertisingData : Bool := false
  isServiceData : Bool := false
  isServiceUUID : Bool := false
  isTXPower : Bool := false
  adFlag : UInt8 := 0
  appearance : UInt16 := 0
  manufacturerData : ManufacturerData := ∅
  name : ByteString := []
  serviceUUIDs : List Uuid := []
  txPower : Int8 := 1
  serviceData : List ByteString := []
  serviceDataUUIDs : List Uuid := []
  payload : Option Nat := none
  payloadLen : Nat := 0
  advertisingData : AdvertisingData := ∅

namespace BlePeripheralDevice

/-- `AddAdvertisingData` -/
def addAdvertisingData (self : BlePeripheralDevice) (advType : UInt8) (advData : ByteString) :
    BlePeripheralDevice :=
  { self with
    isAdvertisingData := true
    advertisingData := self.advertisingData.emplace advType advData }

/-- `SetName` -/
def setName (self : BlePeripheralDevice) (name : ByteString) : BlePeripheralDevice :=
  { self with name, isName := true }

/-- `SetTXPower` -/
def setTXPower (self : BlePeripheralDevice) (txPower : Int8) : BlePeripheralDevice :=
  { self with isTXPower := true, txPower }

/-- `SetAppearance` -/
def setAppearance (self : BlePeripheralDevice) (appearance : UInt16) : BlePeripheralDevice :=
  { self with appearance, isAppearance := true }

/-- `SetAdFlag` -/
def setAdFlag (self : BlePeripheralDevice) (adFlag : UInt8) : BlePeripheralDevice :=
  { self with adFlag }

/-- `SetManufacturerData`. Data of at most two bytes clears what earlier structures
contributed. -/
def setManufacturerData (self : BlePeripheralDevice) (manufacturerData : ByteString) :
    BlePeripheralDevice :=
  match manufacturerData with
  | low :: high :: first :: rest =>
      let manufacturerId : UInt16 := low.toUInt16 ||| (high.toUInt16 <<< 8)
      let iter := self.manufacturerData.find manufacturerId
      { self with
        manufacturerData :=
          if iter.isNone then self.manufacturerData.emplace manufacturerId (first :: rest)
          else self.manufacturerData
        isManufacturerData := true }
  | _ => { self with manufacturerData := ∅, isManufacturerData := false }

/-- `SetServiceUUID` -/
def setServiceUUID (self : BlePeripheralDevice) (serviceUUID : Uuid) : BlePeripheralDevice :=
  { self with
    isServiceUUID := true
    serviceUUIDs :=
      if serviceUUID ∈ self.serviceUUIDs then self.serviceUUIDs
      else self.serviceUUIDs ++ [serviceUUID] }

/-- `SetServiceDataUUID` -/
def setServiceDataUUID (self : BlePeripheralDevice) (uuid : Uuid) (data : ByteString) :
    BlePeripheralDevice :=
  if uuid ∈ self.serviceDataUUIDs then { self with isServiceData := true }
  else
    { self with
      isServiceData := true
      serviceDataUUIDs := self.serviceDataUUIDs ++ [uuid]
      serviceData := self.serviceData ++ [data] }

/-- The loop of the three functions that set service UUIDs: one UUID for each full width
in the data. -/
def setServiceUUIDs (width : Nat) (convert : List UInt8 → Uuid)
    (parseAdvData : BlePeripheralDeviceParseAdvData) (self : BlePeripheralDevice) :
    Load UInt8 BlePeripheralDevice :=
  (List.range (parseAdvData.length / width)).foldlM
    (fun device var => do
      let bytes ← loadMany parseAdvData.range (parseAdvData.payload + var * width) width
      pure (device.setServiceUUID (convert bytes)))
    self

/-- `SetServiceUUID16Bits` -/
def setServiceUUID16Bits (parseAdvData : BlePeripheralDeviceParseAdvData)
    (self : BlePeripheralDevice) : Load UInt8 BlePeripheralDevice :=
  setServiceUUIDs bleUuidLen16 uuidOf16 parseAdvData self

/-- `SetServiceUUID32Bits` -/
def setServiceUUID32Bits (parseAdvData : BlePeripheralDeviceParseAdvData)
    (self : BlePeripheralDevice) : Load UInt8 BlePeripheralDevice :=
  setServiceUUIDs bleUuidLen32 uuidOf32 parseAdvData self

/-- `SetServiceUUID128Bits` -/
def setServiceUUID128Bits (parseAdvData : BlePeripheralDeviceParseAdvData)
    (self : BlePeripheralDevice) : Load UInt8 BlePeripheralDevice :=
  setServiceUUIDs bleUuidLen128 uuidOf128 parseAdvData self

/-- What the three functions that set service data have in common: nothing for a
structure shorter than the UUID, else the UUID and the rest as its data. -/
def setServiceDataUUIDs (width : Nat) (convert : List UInt8 → Uuid)
    (parseAdvData : BlePeripheralDeviceParseAdvData) (self : BlePeripheralDevice) :
    Load UInt8 BlePeripheralDevice :=
  if parseAdvData.length < width then pure self
  else do
    let bytes ← loadMany parseAdvData.range parseAdvData.payload width
    let data ←
      if parseAdvData.length > width then
        loadMany parseAdvData.range (parseAdvData.payload + width) (parseAdvData.length - width)
      else pure []
    pure (self.setServiceDataUUID (convert bytes) data)

/-- `SetServiceDataUUID16Bits` -/
def setServiceDataUUID16Bits (parseAdvData : BlePeripheralDeviceParseAdvData)
    (self : BlePeripheralDevice) : Load UInt8 BlePeripheralDevice :=
  setServiceDataUUIDs bleUuidLen16 uuidOf16 parseAdvData self

/-- `SetServiceDataUUID32Bits` -/
def setServiceDataUUID32Bits (parseAdvData : BlePeripheralDeviceParseAdvData)
    (self : BlePeripheralDevice) : Load UInt8 BlePeripheralDevice :=
  setServiceDataUUIDs bleUuidLen32 uuidOf32 parseAdvData self

/-- `SetServiceDataUUID128Bits`, which loads the data before the UUID. -/
def setServiceDataUUID128Bits (parseAdvData : BlePeripheralDeviceParseAdvData)
    (self : BlePeripheralDevice) : Load UInt8 BlePeripheralDevice :=
  setServiceDataUUIDs bleUuidLen128 uuidOf128 parseAdvData self

/-- `BuildAdvertiserData`. Flags, TX power and appearance are loaded whatever the length
of the structure is. -/
def buildAdvertiserData (advType : UInt8) (parseAdvData : BlePeripheralDeviceParseAdvData)
    (self : BlePeripheralDevice) : Load UInt8 BlePeripheralDevice := do
  let advData ← loadMany parseAdvData.range parseAdvData.payload parseAdvData.length
  let device := self.addAdvertisingData advType advData
  match adKind advType with
  | .name => pure (device.setName advData)
  | .txPower => do
      let txPower ← load parseAdvData.range parseAdvData.payload
      pure (device.setTXPower txPower.toInt8)
  | .appearance => do
      let bytes ← loadMany parseAdvData.range parseAdvData.payload 2
      pure (device.setAppearance (UInt16.ofNat (LittleEndian.decode bytes)))
  | .flag => do
      let adFlag ← load parseAdvData.range parseAdvData.payload
      pure (device.setAdFlag adFlag)
  | .serviceUuid16 => setServiceUUID16Bits parseAdvData device
  | .serviceUuid32 => setServiceUUID32Bits parseAdvData device
  | .serviceUuid128 => setServiceUUID128Bits parseAdvData device
  | .manufacturer => pure (device.setManufacturerData advData)
  | .serviceData16 => setServiceDataUUID16Bits parseAdvData device
  | .serviceData32 => setServiceDataUUID32Bits parseAdvData device
  | .serviceData128 => setServiceDataUUID128Bits parseAdvData device
  | .other => pure device

/-- The while loop of `ParseAdvertiserment`. -/
def parseLoop (totalLength : Nat) : Nat → Nat → Nat → BlePeripheralDevice →
    Load UInt8 (Option BlePeripheralDevice)
  | 0, _, _, _ => pure none
  | fuel + 1, payload, consumed, self => do
      let length ← load ⟨0, totalLength⟩ payload
      let sizeConsumed := consumed + (1 + length.toNat)
      if sizeConsumed > totalLength then pure (some self)
      else
        let typed := payload + 1
        if length.toNat ≠ 0 then do
          let advType ← load ⟨0, totalLength⟩ typed
          let parseAdvData := ⟨typed + 1, length.toNat - 1⟩
          let device ← buildAdvertiserData advType parseAdvData self
          if sizeConsumed ≥ totalLength then pure (some device)
          else parseLoop totalLength fuel (parseAdvData.payload + parseAdvData.length) sizeConsumed device
        else
          if sizeConsumed ≥ totalLength then pure (some self)
          else parseLoop totalLength fuel typed sizeConsumed self

/-- `ParseAdvertiserment` -/
def parseAdvertiserment (fuel : Nat) (parseAdvData : BlePeripheralDeviceParseAdvData)
    (self : BlePeripheralDevice) : Load UInt8 (Option BlePeripheralDevice) :=
  parseLoop parseAdvData.length fuel parseAdvData.payload 0
    { self with payload := some parseAdvData.payload, payloadLen := parseAdvData.length }

end BlePeripheralDevice
end BluetoothFramework
