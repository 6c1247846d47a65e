import BluetoothFramework.Parcel.BleFields

/-!
# The scan result parcel

`BluetoothBleScanResult::Marshalling` writes fourteen fields one after another and
`ReadFromParcel` reads them in the same order. Reading what was written always succeeds
and consumes exactly the written items. Four things do not arrive: `timestamp_` is not
written at all, the keys of the service data are sent as 32 bits, its entries come back in
the opposite order, and `addr_` is sent as its text without its address type, which
`RawAddress::operator==` does not compare.

`scan_result_round_trip_iff` says when nothing is lost by that: the object read is equal to
the one written exactly when the timestamp and the service data hold nothing the parcel
leaves out, and its address has the same type exactly when the type is unset.
-/

namespace BluetoothFramework

open SearchTree Fifo Parcel BleFields

/-- `AddressType::UNSET_ADDRESS`, and the same value for `RawAddressType`. -/
def unsetAddress : UInt8 :=
  0xFF

/-- `RawAddress` -/
structure RawAddress where
  addressType : UInt8 := unsetAddress
  address : ByteString := []
deriving DecidableEq

/-- `RawAddress::operator==` -/
def RawAddress.equals (self rhs : RawAddress) : Bool :=
  self.address == rhs.address

/-- The fields of `ScanResult`, which `BluetoothBleScanResult` extends by none. -/
structure BluetoothBleScanResult where
  serviceUuids : List Uuid := []
  manufacturerSpecificData : ManufacturerData := ∅
  serviceData : ServiceData := .nil
  addr : RawAddress := {}
  addressType : UInt8 := unsetAddress
  rawAddressType : UInt8 := unsetAddress
  rssi : Int8 := 0
  connectable : Bool := false
  advertiseFlag : UInt8 := 0
  payload : ByteString := []
  name : ByteString := []
  eventType : UInt16 := 0
  txPowerLevel : Int8 := 0
  advertisingData : AdvertisingData := ∅
  timestamp : UInt16 := 0

namespace BluetoothBleScanResult

/-- `WriteServiceUuidsToParcel` -/
def writeServiceUuidsToParcel (self : BluetoothBleScanResult) : List ParcelItem :=
  writeSized writeServiceUuid self.serviceUuids

/-- `WriteManufacturerDataToParcel` -/
def writeManufacturerDataToParcel (self : BluetoothBleScanResult) : List ParcelItem :=
  writeSized writeManufacturer self.manufacturerSpecificData.toList

/-- `WriteServiceDataToParcel` -/
def writeServiceDataToParcel (self : BluetoothBleScanResult) : List ParcelItem :=
  writeSized writeService self.serviceData.toList

/-- `WriteAdvertisingDataToParcel` -/
def writeAdvertisingDataToParcel (self : BluetoothBleScanResult) : List ParcelItem :=
  writeSized writeAdvertising self.advertisingData.toList

/-- `Marshalling` -/
def marshalling (self : BluetoothBleScanResult) : List ParcelItem :=
  self.writeServiceUuidsToParcel ++ (self.writeManufacturerDataToParcel ++
    (self.writeServiceDataToParcel ++
      (.string self.addr.address ::
       .uint8 self.addressType ::
       .uint8 self.rawAddressType ::
       .int8 self.rssi ::
       .bool self.connectable ::
       .uint8 self.advertiseFlag ::
       .string self.payload ::
       .string self.name ::
       .uint16 self.eventType ::
       .int8 self.txPowerLevel ::
       (self.writeAdvertisingDataToParcel ++ []))))

/-- `ReadServiceUuidsFromParcel` -/
def readServiceUuidsFromParcel (serviceUuids : List Uuid) : ParcelReader (List Uuid) :=
  readSized readDataSizeMaxLen readServiceUuid serviceUuids

/-- `ReadManufacturerDataFromParcel` -/
def readManufacturerDataFromParcel (manufacturerSpecificData : ManufacturerData) :
    ParcelReader ManufacturerData :=
  readSized readDataSizeMaxLen readManufacturer manufacturerSpecificData

/-- `ReadServiceDataFromParcel` -/
def readServiceDataFromParcel (serviceData : ServiceData) : ParcelReader ServiceData :=
  readSized readDataSizeMaxLen readService serviceData

/-- `ReadAdvertisingDataFromParcel` -/
def readAdvertisingDataFromParcel (advertisingData : AdvertisingData) :
    ParcelReader AdvertisingData :=
  readSized readDataSizeMaxLen readAdvertising advertisingData

/-- `ReadFromParcel`. Lists and maps are extended; `addr_` is built from the text. -/
def readFromParcel (self : BluetoothBleScanResult) : ParcelReader BluetoothBleScanResult := do
  let serviceUuids ← readServiceUuidsFromParcel self.serviceUuids
  let manufacturerSpecificData ← readManufacturerDataFromParcel self.manufacturerSpecificData
  let serviceData ← readServiceDataFromParcel self.serviceData
  let address ← readString
  let addressType ← readUint8
  let rawAddressType ← readUint8
  let rssi ← readInt8
  let connectable ← readBool
  let advertiseFlag ← readUint8
  let payload ← readString
  let name ← readString
  let eventType ← readUint16
  let txPowerLevel ← readInt8
  let advertisingData ← readAdvertisingDataFromParcel self.advertisingData
  pure { self with
    serviceUuids, manufacturerSpecificData, serviceData, addr := { address }, addressType,
    rawAddressType, rssi, connectable, advertiseFlag, payload, name, eventType, txPowerLevel,
    advertisingData }

/-- `Unmarshalling`: read into a new object. -/
def unmarshalling : ParcelReader BluetoothBleScanResult :=
  readFromParcel {}

/-- The sizes the reader accepts. -/
structure WithinLimits (result : BluetoothBleScanResult) : Prop where
  serviceUuids : result.serviceUuids.length ≤ 0x400
  manufacturerSpecificData : result.manufacturerSpecificData.toList.length ≤ 0x400
  serviceData : result.serviceData.toList.length ≤ 0x400
  advertisingData : result.advertisingData.toList.length ≤ 0x400

/-- Equality of objects, with addresses compared by their operator. Two maps are equal when
they list the same entries in the same order. -/
structure Same (first second : BluetoothBleScanResult) : Prop where
  serviceUuids : first.serviceUuids = second.serviceUuids
  manufacturerSpecificData :
    SameEntries first.manufacturerSpecificData.tree second.manufacturerSpecificData.tree
  serviceData : SameEntries first.serviceData second.serviceData
  addr : first.addr.equals second.addr = true
  addressType : first.addressType = second.addressType
  rawAddressType : first.rawAddressType = second.rawAddressType
  rssi : first.rssi = second.rssi
  connectable : first.connectable = second.connectable
  advertiseFlag : first.advertiseFlag = second.advertiseFlag
  payload : first.payload = second.payload
  name : first.name = second.name
  eventType : first.eventType = second.eventType
  txPowerLevel : first.txPowerLevel = second.txPowerLevel
  advertisingData : SameEntries first.advertisingData.tree second.advertisingData.tree
  timestamp : first.timestamp = second.timestamp

/-- What the parcel leaves out is not there: 128-bit keys, a second entry whose place could
be lost, and a timestamp. -/
structure Transmitted (result : BluetoothBleScanResult) : Prop where
  keys : ∀ key ∈ result.serviceData.keys, key.getUuidType ≠ Uuid.uuid128BytesType
  single : result.serviceData.toList.length ≤ 1
  timestamp : result.timestamp = 0

/-- The object that arrives. -/
def rebuilt (self : BluetoothBleScanResult) : BluetoothBleScanResult :=
  { self with
    manufacturerSpecificData := (∅ : ManufacturerData).emplaceAll self.manufacturerSpecificData.toList
    serviceData := (ColorTree.nil : ServiceData).emplaceAll Uuid.less (self.serviceData.toList.map narrowed)
    addr := { address := self.addr.address }
    advertisingData := (∅ : AdvertisingData).emplaceAll self.advertisingData.toList
    timestamp := 0 }

/-- Every field is read in the order it was written. The result is what can be rebuilt of the
object, and the members that are not written keep their defaults. -/
theorem reads_rebuilt (self : BluetoothBleScanResult) (limits : self.WithinLimits) :
    Reads unmarshalling self.marshalling self.rebuilt := by
  apply Reads.bind (reads_serviceUuids self.serviceUuids limits.serviceUuids)
  apply Reads.bind (reads_manufacturerData _ limits.manufacturerSpecificData)
  apply Reads.bind (reads_serviceData _ limits.serviceData)
  apply Reads.next (reads_string _)
  apply Reads.next (reads_uint8 _)
  apply Reads.next (reads_uint8 _)
  apply Reads.next (reads_int8 _)
  apply Reads.next (reads_bool _)
  apply Reads.next (reads_uint8 _)
  apply Reads.next (reads_string _)
  apply Reads.next (reads_string _)
  apply Reads.next (reads_uint16 _)
  apply Reads.next (reads_int8 _)
  apply Reads.bind (reads_advertisingData _ limits.advertisingData)
  exact Reads.pure _

/-- The object that arrives is the one that was sent exactly when the parcel left
nothing out. -/
theorem same_rebuilt_iff (self : BluetoothBleScanResult) :
    Same self.rebuilt self ↔ self.Transmitted := by
  have short : (∀ key ∈ self.serviceData.keys, key.getUuidType ≠ Uuid.uuid128BytesType) ↔
      ∀ key ∈ self.serviceData.keys, key.IsShort := by
    simp only [ne_eq, Uuid.getUuidType_eq_128_iff, not_not]
  constructor
  · intro same
    obtain ⟨keys, single⟩ := (rebuilds_serviceData_iff self.serviceData).mp same.serviceData
    exact ⟨short.mpr keys, single, same.timestamp.symm⟩
  · rintro ⟨keys, single, timestamp⟩
    have address : self.rebuilt.addr.equals self.addr = true := beq_self_eq_true self.addr.address
    exact ⟨rfl, OrderedMap.rebuild self.manufacturerSpecificData,
      (rebuilds_serviceData_iff self.serviceData).mpr ⟨short.mp keys, single⟩, address, rfl, rfl,
      rfl, rfl, rfl, rfl, rfl, rfl, rfl, OrderedMap.rebuild self.advertisingData, timestamp.symm⟩

/-- The address that arrives has no type. -/
theorem addr_rebuilt_iff (self : BluetoothBleScanResult) :
    self.rebuilt.addr = self.addr ↔ self.addr.addressType = unsetAddress := by
  constructor
  · intro same
    exact (congrArg RawAddress.addressType same).symm
  · intro unset
    simp only [rebuilt, ← unset]

/-- Reading back what was written succeeds and leaves what follows it in the parcel. The
object read is equal to the one written exactly when there is one entry of service data at
most, its key has a short form, and the timestamp is zero. The type inside its address is
the one written exactly when that is unset. -/
theorem scan_result_round_trip_iff (self : BluetoothBleScanResult) (limits : self.WithinLimits)
    (rest : List ParcelItem) :
    ∃ read, unmarshalling.run (self.marshalling ++ rest) = some (read, rest) ∧
      (Same read self ↔ self.Transmitted) ∧
      (read.addr = self.addr ↔ self.addr.addressType = unsetAddress) :=
  ⟨self.rebuilt, reads_rebuilt self limits rest, same_rebuilt_iff self, addr_rebuilt_iff self⟩

/-- A result with a service UUID, a 16-bit service data key and a timestamp. -/
def heartRateResult : BluetoothBleScanResult where
  serviceUuids := [Uuid.convertFrom16Bits 0x180D]
  serviceData := ColorTree.nil.emplace Uuid.less (Uuid.convertFrom16Bits 0x180D) [0x42]
  timestamp := 7

/-- The result of the heart rate sensor is within the limits. -/
theorem heartRateResult_within_limits : heartRateResult.WithinLimits :=
  ⟨by decide, by decide, by decide, by decide⟩

/-- The result of a heart rate sensor comes back with its address, and is the same exactly if it
is transmitted. -/
theorem scan_result_round_trip_iff_heart_rate :
    ∃ read, unmarshalling.run heartRateResult.marshalling = some (read, []) ∧
      (Same read heartRateResult ↔ heartRateResult.Transmitted) ∧
        read.addr = heartRateResult.addr := by
  obtain ⟨read, arrived, same, addr⟩ :=
    scan_result_round_trip_iff heartRateResult heartRateResult_within_limits []
  rw [List.append_nil] at arrived
  exact ⟨read, arrived, same, addr.mpr rfl⟩

/-- Its timestamp is lost. -/
theorem timestamp_lost :
    ¬ ∀ self : BluetoothBleScanResult, self.WithinLimits →
      ∃ read, unmarshalling.run self.marshalling = some (read, []) ∧ Same read self := by
  intro claimed
  obtain ⟨read, unmarshalled, same⟩ := claimed heartRateResult heartRateResult_within_limits
  have arrives := reads_rebuilt heartRateResult heartRateResult_within_limits []
  rw [List.append_nil] at arrives
  rw [arrives] at unmarshalled
  obtain ⟨rfl, _⟩ := Prod.mk.inj (Option.some.inj unmarshalled)
  exact absurd same.timestamp (by decide)

end BluetoothBleScanResult
end BluetoothFramework
