import BluetoothFramework.Parcel.BleFields

/-!
# The advertiser data parcel

`BluetoothBleAdvertiserData::Marshalling` and `ReadFromParcel` agree on the order and the
types of all eight fields. What does not survive is service data: a key is sent as 32 bits,
and a 128-bit UUID arrives as the base UUID with its first four bytes; and the map that is
read lists its entries in the opposite order, since a new UUID counts as less than all
others. `advertiser_data_round_trip_iff` says that nothing else is lost.
-/

namespace BluetoothFramework

open SearchTree Fifo Parcel BleFields

/-- The fields of `AdvertiserData`, which `BluetoothBleAdvertiserData` extends by none. -/
structure BluetoothBleAdvertiserData where
  serviceUuids : List Uuid := []
  manufacturerSpecificData : ManufacturerData := ∅
  serviceData : ServiceData := .nil
  advFlag : UInt8 := 0
  payload : ByteString := []
  includeDeviceName : Bool := false
  advertiseName : ByteString := []
  includeTxPower : Bool := false

namespace BluetoothBleAdvertiserData

/-- `WriteServiceUuids` -/
def writeServiceUuids (self : BluetoothBleAdvertiserData) : List ParcelItem :=
  writeSized writeServiceUuid self.serviceUuids

/-- `WriteManufacturerData` -/
def writeManufacturerData (self : BluetoothBleAdvertiserData) : List ParcelItem :=
  writeSized writeManufacturer self.manufacturerSpecificData.toList

/-- `WriteServiceData` -/
def writeServiceData (self : BluetoothBleAdvertiserData) : List ParcelItem :=
  writeSized writeService self.serviceData.toList

/-- `Marshalling` -/
def marshalling (self : BluetoothBleAdvertiserData) : List ParcelItem :=
  self.writeServiceUuids ++ (self.writeManufacturerData ++ (self.writeServiceData ++
    [.uint8 self.advFlag,
     .string self.payload,
     .bool self.includeDeviceName,
     .string self.advertiseName,
     .bool self.includeTxPower]))

/-- `ReadServiceUuids` -/
def readServiceUuids (serviceUuids : List Uuid) : ParcelReader (List Uuid) :=
  readSized readDataSizeMaxLen readServiceUuid serviceUuids

/-- `ReadManufacturerData` -/
def readManufacturerData (manufacturerData : ManufacturerData) : ParcelReader ManufacturerData :=
  readSized readDataSizeMaxLen readManufacturer manufacturerData

/-- `ReadServiceData` -/
def readServiceData (serviceData : ServiceData) : ParcelReader ServiceData :=
  readSized readDataSizeMaxLen readService serviceData

/-- `ReadFromParcel`. Lists and maps are extended. -/
def readFromParcel (self : BluetoothBleAdvertiserData) :
    ParcelReader BluetoothBleAdvertiserData := do
  let serviceUuids ← readServiceUuids self.serviceUuids
  let manufacturerSpecificData ← readManufacturerData self.manufacturerSpecificData
  let serviceData ← readServiceData self.serviceData
  let advFlag ← readUint8
  let payload ← readString
  let includeDeviceName ← readBool
  let advertiseName ← readString
  let includeTxPower ← readBool
  pure { serviceUuids, manufacturerSpecificData, serviceData, advFlag, payload, includeDeviceName,
         advertiseName, includeTxPower }

/-- `Unmarshalling`: read into a new object. -/
def unmarshalling : ParcelReader BluetoothBleAdvertiserData :=
  readFromParcel {}

/-- The sizes the reader accepts. -/
structure WithinLimits (data : BluetoothBleAdvertiserData) : Prop where
  serviceUuids : data.serviceUuids.length ≤ 0x400
  manufacturerSpecificData : data.manufacturerSpecificData.toList.length ≤ 0x400
  serviceData : data.serviceData.toList.length ≤ 0x400

/-- Equality of objects. Two maps are equal when they list the same entries in the same order. -/
structure Same (first second : BluetoothBleAdvertiserData) : Prop where
  serviceUuids : first.serviceUuids = second.serviceUuids
  manufacturerSpecificData :
    SameEntries first.manufacturerSpecificData.tree second.manufacturerSpecificData.tree
  serviceData : SameEntries first.serviceData second.serviceData
  advFlag : first.advFlag = second.advFlag
  payload : first.payload = second.payload
  includeDeviceName : first.includeDeviceName = second.includeDeviceName
  advertiseName : first.advertiseName = second.advertiseName
  includeTxPower : first.includeTxPower = second.includeTxPower

/-- The object that arrives. -/
def rebuilt (self : BluetoothBleAdvertiserData) : BluetoothBleAdvertiserData :=
  { self with
    manufacturerSpecificData := (∅ : ManufacturerData).emplaceAll self.manufacturerSpecificData.toList
    serviceData := (ColorTree.nil : ServiceData).emplaceAll Uuid.less (self.serviceData.toList.map narrowed) }

/-- Every field is read in the order it was written. -/
theorem reads_rebuilt (self : BluetoothBleAdvertiserData) (limits : self.WithinLimits) :
    Reads unmarshalling self.marshalling self.rebuilt := by
  apply Reads.bind (reads_serviceUuids self.serviceUuids limits.serviceUuids)
  apply Reads.bind (reads_manufacturerData _ limits.manufacturerSpecificData)
  apply Reads.bind (reads_serviceData _ limits.serviceData)
  apply Reads.next (reads_uint8 _)
  apply Reads.next (reads_string _)
  apply Reads.next (reads_bool _)
  apply Reads.next (reads_string _)
  apply Reads.next (reads_bool _)
  exact Reads.pure _

/-- The object that arrives is the one that was sent exactly when no key of its service
data needs more than 32 bits and there is one entry at most. -/
theorem same_rebuilt_iff (self : BluetoothBleAdvertiserData) :
    Same self.rebuilt self ↔
      (∀ key ∈ self.serviceData.keys, key.getUuidType ≠ Uuid.uuid128BytesType) ∧
        self.serviceData.toList.length ≤ 1 := by
  simp only [ne_eq, Uuid.getUuidType_eq_128_iff, not_not]
  rw [← rebuilds_serviceData_iff]
  constructor
  · exact fun same => same.serviceData
  · intro serviceData
    exact ⟨rfl, OrderedMap.rebuild self.manufacturerSpecificData, serviceData, rfl, rfl, rfl, rfl, rfl⟩

/-- Reading back what was written succeeds and leaves what follows it in the parcel. The
object read is equal to the one written exactly when every key of the service data has a
short form and there is one entry of service data at most. -/
theorem advertiser_data_round_trip_iff (self : BluetoothBleAdvertiserData)
    (limits : self.WithinLimits) (rest : List ParcelItem) :
    ∃ read, unmarshalling.run (self.marshalling ++ rest) = some (read, rest) ∧
      (Same read self ↔
        (∀ key ∈ self.serviceData.keys, key.getUuidType ≠ Uuid.uuid128BytesType) ∧
          self.serviceData.toList.length ≤ 1) :=
  ⟨self.rebuilt, reads_rebuilt self limits rest, same_rebuilt_iff self⟩

/-- The index of the last byte is within the UUID. -/
theorem last_byte_inside : 15 < 16 := by
  decide

/-- A 128-bit UUID: the base UUID with another last byte. -/
def vendorUuid : Uuid :=
  ⟨baseUuid.set 15 0x00 last_byte_inside⟩

/-- Service data under a 128-bit key. -/
def vendorData : BluetoothBleAdvertiserData where
  serviceData := ColorTree.nil.emplace Uuid.less vendorUuid [0x01]
  advFlag := 0x06

/-- The vendor's data is within the limits, being only a few bytes. -/
theorem vendorData_within_limits : vendorData.WithinLimits :=
  ⟨by decide, by decide, by decide⟩

/-- The vendor's data, with a key of 128 bits, is read back but not the same. -/
theorem advertiser_data_round_trip_iff_vendor :
    ∃ read, unmarshalling.run vendorData.marshalling = some (read, []) ∧
      (Same read vendorData ↔
        (∀ key ∈ vendorData.serviceData.keys, key.getUuidType ≠ Uuid.uuid128BytesType) ∧
          vendorData.serviceData.toList.length ≤ 1) := by
  have read := advertiser_data_round_trip_iff vendorData vendorData_within_limits []
  rwa [List.append_nil] at read

/-- Its key arrives as the base UUID. -/
theorem vendor_key_narrowed :
    ¬ ∀ self : BluetoothBleAdvertiserData, self.WithinLimits →
      ∃ read, unmarshalling.run self.marshalling = some (read, []) ∧ Same read self := by
  intro claimed
  obtain ⟨read, unmarshalled, same⟩ := claimed vendorData vendorData_within_limits
  have arrives := reads_rebuilt vendorData vendorData_within_limits []
  rw [List.append_nil] at arrives
  rw [arrives] at unmarshalled
  obtain ⟨rfl, _⟩ := Prod.mk.inj (Option.some.inj unmarshalled)
  have keys := (same_rebuilt_iff vendorData).mp same
  exact absurd (keys.1 vendorUuid (by decide)) (by decide)

end BluetoothBleAdvertiserData
end BluetoothFramework
