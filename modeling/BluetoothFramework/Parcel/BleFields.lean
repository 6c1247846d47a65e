import BluetoothFramework.Parcel.Parcel
import BluetoothFramework.Uuid.KeyListing

/-!
# Containers in the BLE parcels

The scan result and the advertiser data are written with the same four kinds of
container: a list of UUIDs, and maps to strings keyed by 16-bit numbers, by 8-bit
numbers and by UUIDs. A UUID in a list is sent as its 16 bytes; a UUID that is a key is
sent as its 32-bit form.

Each container is read back unchanged, except for service data. Its keys arrive unchanged
exactly if they have a short form, and the entries arrive in the opposite order, so only a
map of at most one entry is rebuilt (`rebuilds_serviceData_iff`).
-/

namespace BluetoothFramework

open SearchTree Fifo Parcel

namespace BleFields

/-- Write one service UUID. -/
def writeServiceUuid (uuid : Uuid) : List ParcelItem :=
  [.buffer uuid.convertToBytesLE.toList]

/-- Read one service UUID and `push_back`. -/
def readServiceUuid (serviceUuids : List Uuid) : ParcelReader (List Uuid) := do
  let buffer ← readBuffer 16
  pure (serviceUuids ++ [Uuid.convertFromBytesLE buffer])

/-- Write one entry of the manufacturer data. -/
def writeManufacturer (entry : UInt16 × ByteString) : List ParcelItem :=
  [.uint16 entry.1, .string entry.2]

/-- Read one entry of the manufacturer data and `emplace` it. -/
def readManufacturer (manufacturerData : ManufacturerData) : ParcelReader ManufacturerData := do
  let manufacturerId ← readUint16
  let data ← readString
  pure (manufacturerData.emplace manufacturerId data)

/-- Write one entry of the service data. -/
def writeService (entry : Uuid × ByteString) : List ParcelItem :=
  [.uint32 entry.1.convertTo32Bits, .string entry.2]

/-- Read one entry of the service data and `emplace` it. -/
def readService (serviceData : ServiceData) : ParcelReader ServiceData := do
  let serviceId ← readUint32
  let data ← readString
  pure (serviceData.emplace Uuid.less (Uuid.convertFrom32Bits serviceId) data)

/-- Write one entry of the advertising data. -/
def writeAdvertising (entry : UInt8 × ByteString) : List ParcelItem :=
  [.uint8 entry.1, .string entry.2]

/-- Read one entry of the advertising data and `emplace` it. -/
def readAdvertising (advertisingData : AdvertisingData) : ParcelReader AdvertisingData := do
  let advType ← readUint8
  let data ← readString
  pure (advertisingData.emplace advType data)

/-- The limit of both parcels on the size of a container. -/
def readDataSizeMaxLen : Int32 :=
  0x400

/-- A length that the limit allows passes the check of the reader, which compares it as a signed
number. -/
theorem within_limit {length : Nat} (bounded : length ≤ 0x400) :
    (length : Int) ≤ readDataSizeMaxLen.toInt := by
  have limit : readDataSizeMaxLen.toInt = 0x400 := by decide
  omega

/-- Service UUIDs come back in order. They are written in full, unlike the keys of the service
data. -/
theorem reads_serviceUuids (uuids : List Uuid) (bounded : uuids.length ≤ 0x400) :
    Reads (readSized readDataSizeMaxLen readServiceUuid []) (writeSized writeServiceUuid uuids)
      uuids := by
  have each (read : List Uuid) (uuid : Uuid) (_ : uuid ∈ uuids) :
      Reads (readServiceUuid read) (writeServiceUuid uuid) (read ++ [uuid]) := by
    apply Reads.next (reads_buffer uuid.convertToBytesLE)
    rw [Uuid.convertFromBytesLE_convertToBytesLE]
    exact Reads.pure _
  have reads := reads_sized readDataSizeMaxLen writeServiceUuid (fun read uuid => read ++ [uuid])
    uuids [] (within_limit bounded) each
  have collected (added read : List Uuid) :
      added.foldl (fun read uuid => read ++ [uuid]) read = read ++ added := by
    induction added generalizing read with
    | nil => exact (List.append_nil read).symm
    | cons uuid rest inductionHypothesis =>
      rw [List.foldl_cons, inductionHypothesis, List.append_assoc, List.singleton_append]
  rwa [collected, List.nil_append] at reads

/-- Manufacturer data is read into the map of its entries. -/
theorem reads_manufacturerData (map : ManufacturerData) (bounded : map.toList.length ≤ 0x400) :
    Reads (readSized readDataSizeMaxLen readManufacturer ∅) (writeSized writeManufacturer map.toList)
      ((∅ : ManufacturerData).emplaceAll map.toList) := by
  apply reads_sized readDataSizeMaxLen writeManufacturer _ _ _ (within_limit bounded)
  intro read entry _
  apply Reads.next (reads_uint16 entry.1)
  apply Reads.next (reads_string entry.2)
  exact Reads.pure _

/-- Advertising data is read into the map of its entries. -/
theorem reads_advertisingData (map : AdvertisingData) (bounded : map.toList.length ≤ 0x400) :
    Reads (readSized readDataSizeMaxLen readAdvertising ∅) (writeSized writeAdvertising map.toList)
      ((∅ : AdvertisingData).emplaceAll map.toList) := by
  apply reads_sized readDataSizeMaxLen writeAdvertising _ _ _ (within_limit bounded)
  intro read entry _
  apply Reads.next (reads_uint8 entry.1)
  apply Reads.next (reads_string entry.2)
  exact Reads.pure _

/-- An entry whose key went through its 32-bit form. -/
def narrowed (entry : Uuid × ByteString) : Uuid × ByteString :=
  (Uuid.convertFrom32Bits entry.1.convertTo32Bits, entry.2)

/-- Service data is read into the map of its narrowed entries. -/
theorem reads_serviceData (map : ServiceData) (bounded : map.toList.length ≤ 0x400) :
    Reads (readSized readDataSizeMaxLen readService .nil) (writeSized writeService map.toList)
      ((ColorTree.nil : ServiceData).emplaceAll Uuid.less (map.toList.map narrowed)) := by
  rw [ColorTree.emplaceAll, List.foldl_map]
  apply reads_sized readDataSizeMaxLen writeService _ _ _ (within_limit bounded)
  intro read entry _
  apply Reads.next (reads_uint32 entry.1.convertTo32Bits)
  apply Reads.next (reads_string entry.2)
  exact Reads.pure _

/-- `operator==` of two maps: the entries are compared one by one, in the order in which the
maps list them. -/
def SameEntries {Key Value : Type} (first second : ColorTree Key Value) : Prop :=
  first.toList = second.toList

/-- Service data read from its narrowed entries is equal to the original exactly when every
key has a short form and there is one entry at most. Where there are more, `emplace` puts
each entry before those already read, and the map comes back turned round. -/
theorem rebuilds_serviceData_iff (map : ServiceData) :
    SameEntries ((ColorTree.nil : ServiceData).emplaceAll Uuid.less (map.toList.map narrowed)) map ↔
      (∀ key ∈ map.keys, key.IsShort) ∧ map.toList.length ≤ 1 := by
  have unchanged (short : ∀ key ∈ map.keys, key.IsShort) : map.toList.map narrowed = map.toList := by
    have each : ∀ entry ∈ map.toList, narrowed entry = entry := by
      intro entry member
      have key := short entry.1 (List.mem_map_of_mem member)
      rw [narrowed, (Uuid.convertFrom32Bits_convertTo32Bits_iff entry.1).mpr key]
    exact (List.map_congr_left each).trans (List.map_id _)
  have relisted := KeyOrder.relisted_iff KeyOrder.differs_uuid map.toList
  rw [SameEntries]
  constructor
  · intro same
    have short : ∀ key ∈ map.keys, key.IsShort := by
      intro key member
      rw [ColorTree.keys, ← same] at member
      rcases ColorTree.mem_keys_emplaceAll Uuid.less _ _ key member with none | inserted
      · cases none
      · rw [List.map_map] at inserted
        obtain ⟨entry, _, rfl⟩ := List.mem_map.mp inserted
        exact Uuid.isShort_convertFrom32Bits _
    rw [unchanged short] at same
    exact ⟨short, relisted.mp same⟩
  · rintro ⟨short, single⟩
    rw [unchanged short]
    exact relisted.mpr single

/-- Battery and heart rate data arrive in the opposite order. -/
example :
    let battery := (Uuid.convertFrom16Bits 0x180F, ([0x63] : ByteString))
    let heartRate := (Uuid.convertFrom16Bits 0x180D, ([0x42] : ByteString))
    let sent := (ColorTree.nil : ServiceData).emplaceAll Uuid.less [battery, heartRate]
    sent.toList = [heartRate, battery] ∧
      ((ColorTree.nil : ServiceData).emplaceAll Uuid.less (sent.toList.map narrowed)).toList =
        [battery, heartRate] := by
  decide

end BleFields
end BluetoothFramework
