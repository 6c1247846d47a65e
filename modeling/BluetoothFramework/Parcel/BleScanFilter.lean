import BluetoothFramework.Parcel.BleScanResult
import BluetoothFramework.Parcel.GattService
import BluetoothFramework.Uuid.Text
import Mathlib.Data.List.Forall2

/-!
# Scan filters on their way to the service

A filter of the API becomes a filter of the IPC layer field by field, with its UUIDs passed
as text, and crosses the parcel as twenty-two values. The two filter classes have the same
fields and setters and differ in the class of their UUIDs, so they are one structure here.
A setter of a UUID or of the threshold also sets its has-flag.

`ConvertBleScanFilter` hands over a UUID only where its has-flag is set. A UUID without its
flag therefore arrives as the default of the IPC class, the base UUID, while the default of
the API class is all zeros. `scan_filters_arrive` says that everything else arrives
unchanged, for every list of filters and every use of their setters.
-/

namespace BluetoothFramework

open Fifo Parcel

/-- `BLE_SCAN_MIN_RSSI_THRESHOLD` -/
def bleScanMinRssiThreshold : Int32 := -128

/-- `BleScanFilter` of the API and `ScanFilter` of the IPC layer. -/
structure ScanFilter (Id : Type) where
  deviceId : ByteString := []
  addressType : UInt8 := unsetAddress
  rawAddressType : UInt8 := unsetAddress
  irk : List UInt8 := []
  name : ByteString := []
  serviceUuid : Id
  serviceUuidMask : Id
  serviceSolicitationUuid : Id
  serviceSolicitationUuidMask : Id
  hasServiceUuid : Bool := false
  hasServiceUuidMask : Bool := false
  hasSolicitationUuid : Bool := false
  hasSolicitationUuidMask : Bool := false
  hasRssiThreshold : Bool := false
  serviceData : List UInt8 := []
  serviceDataMask : List UInt8 := []
  manufacturerId : UInt16 := 0
  manufactureData : List UInt8 := []
  manufactureDataMask : List UInt8 := []
  advIndReport : Bool := false
  filterIndex : UInt8 := 0
  rssiThreshold : Int32 := bleScanMinRssiThreshold
deriving DecidableEq

/-- A filter of the API. -/
abbrev BleScanFilter : Type :=
  ScanFilter UUID

/-- A filter of the IPC layer, which `BluetoothBleScanFilter` extends by no field. -/
abbrev BluetoothBleScanFilter : Type :=
  ScanFilter Uuid

/-- A new object of the API: the default UUID is all zeros. -/
def BleScanFilter.new : BleScanFilter where
  serviceUuid := {}
  serviceUuidMask := {}
  serviceSolicitationUuid := {}
  serviceSolicitationUuidMask := {}

/-- A new object of the IPC layer: the default UUID is the base UUID. -/
def BluetoothBleScanFilter.new : BluetoothBleScanFilter where
  serviceUuid := {}
  serviceUuidMask := {}
  serviceSolicitationUuid := {}
  serviceSolicitationUuidMask := {}

namespace ScanFilter

variable {Id : Type}

/-- The setters with their arguments. -/
inductive Setting (Id : Type) where
  | deviceId (deviceId : ByteString)
  | addressType (addressType : UInt8)
  | rawAddressType (rawAddressType : UInt8)
  | irk (irk : List UInt8)
  | name (name : ByteString)
  | serviceUuid (uuid : Id)
  | serviceUuidMask (serviceUuidMask : Id)
  | serviceSolicitationUuid (serviceSolicitationUuid : Id)
  | serviceSolicitationUuidMask (serviceSolicitationUuidMask : Id)
  | serviceData (serviceData : List UInt8)
  | serviceDataMask (serviceDataMask : List UInt8)
  | manufacturerId (manufacturerId : UInt16)
  | manufactureData (manufactureData : List UInt8)
  | manufactureDataMask (manufactureDataMask : List UInt8)
  | advIndReportFlag (advIndReport : Bool)
  | filterIndex (index : UInt8)
  | rssiThreshold (rssiThreshold : Int32)

/-- What the setters do: `SetDeviceId` to `SetRssiThreshold`. -/
def set (self : ScanFilter Id) : Setting Id → ScanFilter Id
  | .deviceId deviceId => { self with deviceId }
  | .addressType addressType => { self with addressType }
  | .rawAddressType rawAddressType => { self with rawAddressType }
  | .irk irk => { self with irk }
  | .name name => { self with name }
  | .serviceUuid uuid => { self with serviceUuid := uuid, hasServiceUuid := true }
  | .serviceUuidMask serviceUuidMask => { self with serviceUuidMask, hasServiceUuidMask := true }
  | .serviceSolicitationUuid serviceSolicitationUuid =>
      { self with serviceSolicitationUuid, hasSolicitationUuid := true }
  | .serviceSolicitationUuidMask serviceSolicitationUuidMask =>
      { self with serviceSolicitationUuidMask, hasSolicitationUuidMask := true }
  | .serviceData serviceData => { self with serviceData }
  | .serviceDataMask serviceDataMask => { self with serviceDataMask }
  | .manufacturerId manufacturerId => { self with manufacturerId }
  | .manufactureData manufactureData => { self with manufactureData }
  | .manufactureDataMask manufactureDataMask => { self with manufactureDataMask }
  | .advIndReportFlag advIndReport => { self with advIndReport }
  | .filterIndex index => { self with filterIndex := index }
  | .rssiThreshold rssiThreshold => { self with rssiThreshold, hasRssiThreshold := true }

end ScanFilter

/-- The filter an application makes with its setters. -/
def BleScanFilter.made (settings : List (ScanFilter.Setting UUID)) : BleScanFilter :=
  settings.foldl ScanFilter.set BleScanFilter.new

namespace BluetoothBleScanFilter

open ScanFilter

/-! ## Conversion -/

/-- A setter of `ConvertBleScanFilter` behind a has-flag; the UUID is passed as text. -/
def setUuidIf (has : Bool) (uuid : UUID) (setting : Uuid → Setting Uuid)
    (scanFilter : BluetoothBleScanFilter) : Except TextFault BluetoothBleScanFilter :=
  if has then do
    let converted ← Uuid.convertFromString uuid.toString
    pure (scanFilter.set (setting converted))
  else pure scanFilter

/-- The body of the loop in `ConvertBleScanFilter`. -/
def convertFilter (filter : BleScanFilter) : Except TextFault BluetoothBleScanFilter := do
  let scanFilter := new
  let scanFilter := scanFilter.set (.deviceId filter.deviceId)
  let scanFilter := scanFilter.set (.addressType filter.addressType)
  let scanFilter := scanFilter.set (.rawAddressType filter.rawAddressType)
  let scanFilter := scanFilter.set (.irk filter.irk)
  let scanFilter := scanFilter.set (.name filter.name)
  let scanFilter ← setUuidIf filter.hasServiceUuid filter.serviceUuid .serviceUuid scanFilter
  let scanFilter ← setUuidIf filter.hasServiceUuidMask filter.serviceUuidMask .serviceUuidMask scanFilter
  let scanFilter ← setUuidIf filter.hasSolicitationUuid filter.serviceSolicitationUuid
    .serviceSolicitationUuid scanFilter
  let scanFilter ← setUuidIf filter.hasSolicitationUuidMask filter.serviceSolicitationUuidMask
    .serviceSolicitationUuidMask scanFilter
  let scanFilter := if filter.hasRssiThreshold then scanFilter.set (.rssiThreshold filter.rssiThreshold)
    else scanFilter
  let scanFilter := scanFilter.set (.serviceData filter.serviceData)
  let scanFilter := scanFilter.set (.serviceDataMask filter.serviceDataMask)
  let scanFilter := scanFilter.set (.manufacturerId filter.manufacturerId)
  let scanFilter := scanFilter.set (.manufactureData filter.manufactureData)
  let scanFilter := scanFilter.set (.manufactureDataMask filter.manufactureDataMask)
  let scanFilter := scanFilter.set (.advIndReportFlag filter.advIndReport)
  let scanFilter := scanFilter.set (.filterIndex filter.filterIndex)
  pure scanFilter

/-- `ConvertBleScanFilter` -/
def convertBleScanFilter (filters : List BleScanFilter) :
    Except TextFault (List BluetoothBleScanFilter) :=
  filters.mapM convertFilter

/-! ## Parcel -/

/-- `ReadUInt8Vector`: a vector of bytes is one item. -/
def readUInt8Vector : ParcelReader (List UInt8) :=
  Fifo.take fun | .buffer value => some value | _ => none

/-- `WriteAddrInfoToParcel` -/
def writeAddrInfoToParcel (self : BluetoothBleScanFilter) : List ParcelItem :=
  [.string self.deviceId, .uint8 self.addressType, .uint8 self.rawAddressType]

/-- `WriteUuidInfoToParcel` -/
def writeUuidInfoToParcel (self : BluetoothBleScanFilter) : List ParcelItem :=
  .bool self.hasServiceUuid ::
  .bool self.hasServiceUuidMask ::
  .bool self.hasSolicitationUuid ::
  .bool self.hasSolicitationUuidMask ::
  (writeParcelable self.serviceUuid.marshalling ++
    (writeParcelable self.serviceUuidMask.marshalling ++
      (writeParcelable self.serviceSolicitationUuid.marshalling ++
        (writeParcelable self.serviceSolicitationUuidMask.marshalling ++ []))))

/-- `Marshalling` -/
def marshalling (self : BluetoothBleScanFilter) : List ParcelItem :=
  self.writeAddrInfoToParcel ++
    (.buffer self.irk ::
     .string self.name ::
     (self.writeUuidInfoToParcel ++
       [.buffer self.serviceData,
        .buffer self.serviceDataMask,
        .uint16 self.manufacturerId,
        .buffer self.manufactureData,
        .buffer self.manufactureDataMask,
        .bool self.advIndReport,
        .uint8 self.filterIndex,
        .bool self.hasRssiThreshold,
        .int32 self.rssiThreshold]))

/-- `ReadAddrInfoFromParcel` -/
def readAddrInfoFromParcel (self : BluetoothBleScanFilter) :
    ParcelReader BluetoothBleScanFilter := do
  let deviceId ← readString
  let addressType ← readUint8
  let rawAddressType ← readUint8
  pure { self with deviceId, addressType, rawAddressType }

/-- `ReadUuidInfoFromParcel` -/
def readUuidInfoFromParcel (self : BluetoothBleScanFilter) :
    ParcelReader BluetoothBleScanFilter := do
  let hasServiceUuid ← readBool
  let hasServiceUuidMask ← readBool
  let hasSolicitationUuid ← readBool
  let hasSolicitationUuidMask ← readBool
  let serviceUuid ← readParcelable Uuid.unmarshalling
  let serviceUuidMask ← readParcelable Uuid.unmarshalling
  let serviceSolicitationUuid ← readParcelable Uuid.unmarshalling
  let serviceSolicitationUuidMask ← readParcelable Uuid.unmarshalling
  pure { self with
    hasServiceUuid, hasServiceUuidMask, hasSolicitationUuid, hasSolicitationUuidMask,
    serviceUuid, serviceUuidMask, serviceSolicitationUuid, serviceSolicitationUuidMask }

/-- `ReadFromParcel` -/
def readFromParcel (self : BluetoothBleScanFilter) : ParcelReader BluetoothBleScanFilter := do
  let self ← self.readAddrInfoFromParcel
  let irk ← readUInt8Vector
  let name ← readString
  let self ← readUuidInfoFromParcel { self with irk, name }
  let serviceData ← readUInt8Vector
  let serviceDataMask ← readUInt8Vector
  let manufacturerId ← readUint16
  let manufactureData ← readUInt8Vector
  let manufactureDataMask ← readUInt8Vector
  let advIndReport ← readBool
  let filterIndex ← readUint8
  let hasRssiThreshold ← readBool
  let rssiThreshold ← readInt32
  pure { self with
    serviceData, serviceDataMask, manufacturerId, manufactureData, manufactureDataMask, advIndReport,
    filterIndex, hasRssiThreshold, rssiThreshold }

/-- Read filters one after another, each into a new object. -/
def readAll (count : Nat) : ParcelReader (List BluetoothBleScanFilter) :=
  iterate (pushBack (readFromParcel new)) count []

/-! ## What arrives -/

/-- The UUID that arrives: the one set, or the default of the IPC class. -/
def arriving (has : Bool) (uuid : UUID) : Vector UInt8 16 :=
  if has then uuid.convertTo128Bits else baseUuid

/-- Everything the filter says has arrived, the UUIDs as 128-bit values. -/
structure Arrived (filter : BleScanFilter) (scanFilter : BluetoothBleScanFilter) : Prop where
  deviceId : scanFilter.deviceId = filter.deviceId
  addressType : scanFilter.addressType = filter.addressType
  rawAddressType : scanFilter.rawAddressType = filter.rawAddressType
  irk : scanFilter.irk = filter.irk
  name : scanFilter.name = filter.name
  serviceUuid : scanFilter.serviceUuid.convertTo128Bits = arriving filter.hasServiceUuid filter.serviceUuid
  serviceUuidMask : scanFilter.serviceUuidMask.convertTo128Bits =
    arriving filter.hasServiceUuidMask filter.serviceUuidMask
  serviceSolicitationUuid : scanFilter.serviceSolicitationUuid.convertTo128Bits =
    arriving filter.hasSolicitationUuid filter.serviceSolicitationUuid
  serviceSolicitationUuidMask : scanFilter.serviceSolicitationUuidMask.convertTo128Bits =
    arriving filter.hasSolicitationUuidMask filter.serviceSolicitationUuidMask
  hasServiceUuid : scanFilter.hasServiceUuid = filter.hasServiceUuid
  hasServiceUuidMask : scanFilter.hasServiceUuidMask = filter.hasServiceUuidMask
  hasSolicitationUuid : scanFilter.hasSolicitationUuid = filter.hasSolicitationUuid
  hasSolicitationUuidMask : scanFilter.hasSolicitationUuidMask = filter.hasSolicitationUuidMask
  serviceData : scanFilter.serviceData = filter.serviceData
  serviceDataMask : scanFilter.serviceDataMask = filter.serviceDataMask
  manufacturerId : scanFilter.manufacturerId = filter.manufacturerId
  manufactureData : scanFilter.manufactureData = filter.manufactureData
  manufactureDataMask : scanFilter.manufactureDataMask = filter.manufactureDataMask
  advIndReport : scanFilter.advIndReport = filter.advIndReport
  filterIndex : scanFilter.filterIndex = filter.filterIndex
  rssiThreshold : scanFilter.rssiThreshold = filter.rssiThreshold
  hasRssiThreshold : scanFilter.hasRssiThreshold = filter.hasRssiThreshold

/-- The converted filter, with a threshold only where one was set. -/
def converted (filter : BleScanFilter) : BluetoothBleScanFilter where
  deviceId := filter.deviceId
  addressType := filter.addressType
  rawAddressType := filter.rawAddressType
  irk := filter.irk
  name := filter.name
  serviceUuid := ⟨arriving filter.hasServiceUuid filter.serviceUuid⟩
  serviceUuidMask := ⟨arriving filter.hasServiceUuidMask filter.serviceUuidMask⟩
  serviceSolicitationUuid := ⟨arriving filter.hasSolicitationUuid filter.serviceSolicitationUuid⟩
  serviceSolicitationUuidMask :=
    ⟨arriving filter.hasSolicitationUuidMask filter.serviceSolicitationUuidMask⟩
  hasServiceUuid := filter.hasServiceUuid
  hasServiceUuidMask := filter.hasServiceUuidMask
  hasSolicitationUuid := filter.hasSolicitationUuid
  hasSolicitationUuidMask := filter.hasSolicitationUuidMask
  serviceData := filter.serviceData
  serviceDataMask := filter.serviceDataMask
  manufacturerId := filter.manufacturerId
  manufactureData := filter.manufactureData
  manufactureDataMask := filter.manufactureDataMask
  advIndReport := filter.advIndReport
  filterIndex := filter.filterIndex
  rssiThreshold := if filter.hasRssiThreshold then filter.rssiThreshold else bleScanMinRssiThreshold
  hasRssiThreshold := filter.hasRssiThreshold

/-- The text of a UUID is read as the UUID with its bytes. -/
theorem convertFromString_toString_eq (uuid : UUID) :
    Uuid.convertFromString uuid.toString = .ok ⟨uuid.convertTo128Bits⟩ := by
  obtain ⟨read, returned, bytes⟩ := Uuid.convertFromString_toString uuid
  rw [returned, ← bytes]
  rfl

/-- A setter behind a has-flag never fails. -/
theorem setUuidIf_eq (has : Bool) (uuid : UUID) (setting : Uuid → Setting Uuid)
    (scanFilter : BluetoothBleScanFilter) :
    setUuidIf has uuid setting scanFilter =
      .ok (if has then scanFilter.set (setting ⟨uuid.convertTo128Bits⟩) else scanFilter) := by
  cases has with
  | false => rfl
  | true =>
    rw [setUuidIf, if_pos rfl, if_pos rfl, convertFromString_toString_eq]
    rfl

/-- One filter is always converted. No check of the conversion can fail. -/
theorem convertFilter_eq (filter : BleScanFilter) :
    convertFilter filter = .ok (converted filter) := by
  have bound {ε α β : Type} (value : α) (next : α → Except ε β) :
      (Except.ok value >>= next) = next value := rfl
  rw [convertFilter]
  simp only [setUuidIf_eq, bound]
  refine congrArg Except.ok ?_
  simp only [converted, arriving]
  cases filter.hasServiceUuid <;> cases filter.hasServiceUuidMask <;> cases filter.hasSolicitationUuid <;>
    cases filter.hasSolicitationUuidMask <;> cases filter.hasRssiThreshold <;> rfl

/-- A list of filters is converted one by one, in its order. -/
theorem convertBleScanFilter_eq (filters : List BleScanFilter) :
    convertBleScanFilter filters = .ok (filters.map converted) := by
  rw [convertBleScanFilter, funext convertFilter_eq]
  exact List.mapM_pure

/-! ## Without its has-flag a threshold is the default -/

/-- A setter leaves the threshold at the lowest one unless it sets the flag as well. -/
theorem rssiThreshold_set (filter : BleScanFilter) (setting : ScanFilter.Setting UUID)
    (unset : filter.hasRssiThreshold = false → filter.rssiThreshold = bleScanMinRssiThreshold) :
    (filter.set setting).hasRssiThreshold = false →
      (filter.set setting).rssiThreshold = bleScanMinRssiThreshold := by
  cases setting with
  | rssiThreshold rssiThreshold => exact fun has => absurd has (by simp [ScanFilter.set])
  | _ => exact unset

/-- In every filter that the setters make, a threshold without a flag is the lowest one. The
induction is on the setters, each of which keeps it. -/
theorem rssiThreshold_made (settings : List (ScanFilter.Setting UUID)) :
    (BleScanFilter.made settings).hasRssiThreshold = false →
      (BleScanFilter.made settings).rssiThreshold = bleScanMinRssiThreshold := by
  rw [BleScanFilter.made]
  have kept (settings : List (ScanFilter.Setting UUID)) (filter : BleScanFilter)
      (unset : filter.hasRssiThreshold = false → filter.rssiThreshold = bleScanMinRssiThreshold) :
      (settings.foldl ScanFilter.set filter).hasRssiThreshold = false →
        (settings.foldl ScanFilter.set filter).rssiThreshold = bleScanMinRssiThreshold := by
    induction settings generalizing filter with
    | nil => exact unset
    | cons setting rest inductionHypothesis =>
      exact inductionHypothesis (filter.set setting) (rssiThreshold_set filter setting unset)
  exact kept settings BleScanFilter.new fun _ => rfl

/-- A filter made with the setters arrives. -/
theorem arrived_converted (settings : List (ScanFilter.Setting UUID)) :
    Arrived (BleScanFilter.made settings) (converted (BleScanFilter.made settings)) := by
  have threshold : (converted (BleScanFilter.made settings)).rssiThreshold =
      (BleScanFilter.made settings).rssiThreshold := by
    cases has : (BleScanFilter.made settings).hasRssiThreshold with
    | true => simp [converted, has]
    | false => simp [converted, has, rssiThreshold_made settings has]
  exact ⟨rfl, rfl, rfl, rfl, rfl, rfl, rfl, rfl, rfl, rfl, rfl, rfl, rfl, rfl, rfl, rfl, rfl, rfl, rfl, rfl,
    threshold, rfl⟩

/-! ## Reading back -/

/-- What is written of the address is read back. The reader sets only these three fields. -/
theorem reads_addrInfo (self other : BluetoothBleScanFilter) :
    Reads other.readAddrInfoFromParcel self.writeAddrInfoToParcel
      { other with
        deviceId := self.deviceId
        addressType := self.addressType
        rawAddressType := self.rawAddressType } := by
  apply Reads.next (reads_string _)
  apply Reads.next (reads_uint8 _)
  apply Reads.next (reads_uint8 _)
  exact Reads.pure _

/-- What is written of the UUIDs is read back, each under its flag. -/
theorem reads_uuidInfo (self other : BluetoothBleScanFilter) :
    Reads other.readUuidInfoFromParcel self.writeUuidInfoToParcel
      { other with
        hasServiceUuid := self.hasServiceUuid
        hasServiceUuidMask := self.hasServiceUuidMask
        hasSolicitationUuid := self.hasSolicitationUuid
        hasSolicitationUuidMask := self.hasSolicitationUuidMask
        serviceUuid := self.serviceUuid
        serviceUuidMask := self.serviceUuidMask
        serviceSolicitationUuid := self.serviceSolicitationUuid
        serviceSolicitationUuidMask := self.serviceSolicitationUuidMask } := by
  apply Reads.next (reads_bool _)
  apply Reads.next (reads_bool _)
  apply Reads.next (reads_bool _)
  apply Reads.next (reads_bool _)
  apply Reads.bind (reads_uuid _)
  apply Reads.bind (reads_uuid _)
  apply Reads.bind (reads_uuid _)
  apply Reads.bind (reads_uuid _)
  exact Reads.pure _

/-- A vector of bytes is read back, its length first. -/
theorem reads_vector (value : List UInt8) : Reads readUInt8Vector [.buffer value] value :=
  .take _ _ _ rfl

/-- Whatever object the filter is read into, it is read back. All members are assigned, so none
of the object's own is left. -/
theorem reads_filter (self other : BluetoothBleScanFilter) :
    Reads other.readFromParcel self.marshalling self := by
  apply Reads.bind (reads_addrInfo self other)
  apply Reads.next (reads_vector _)
  apply Reads.next (reads_string _)
  apply Reads.bind (reads_uuidInfo self _)
  apply Reads.next (reads_vector _)
  apply Reads.next (reads_vector _)
  apply Reads.next (reads_uint16 _)
  apply Reads.next (reads_vector _)
  apply Reads.next (reads_vector _)
  apply Reads.next (reads_bool _)
  apply Reads.next (reads_uint8 _)
  apply Reads.next (reads_bool _)
  apply Reads.next (reads_int32 _)
  exact Reads.pure _

/-- A list of filters is read back, one after the other. -/
theorem reads_all (filters : List BluetoothBleScanFilter) :
    Reads (readAll filters.length) (filters.flatMap marshalling) filters := by
  have collected := foldl_pushBack id filters []
  rw [List.map_id, List.nil_append] at collected
  have each (read : List BluetoothBleScanFilter) (filter : BluetoothBleScanFilter) :
      Reads (pushBack (readFromParcel new) read) filter.marshalling (read ++ [filter]) := by
    rw [← List.append_nil filter.marshalling]
    apply Reads.bind (reads_filter filter new)
    exact Reads.pure _
  have read : Reads (readAll filters.length) (filters.flatMap marshalling)
      (filters.foldl (fun read filter => read ++ [id filter]) []) :=
    Reads.iterate marshalling _ filters [] fun read filter _ => each read filter
  rw [collected] at read
  exact read

/-- **Scan filters arrive, and a UUID without its has-flag arrives as the base UUID.** For
every list of filters made with the setters, the conversion throws nothing, reading back
what the converted filters marshal returns them all in order and leaves what follows in the
parcel, and each of them says what the filter of the application says; of the UUIDs and
masks, this is their 128-bit value where the has-flag is set and the base UUID elsewhere. -/
theorem scan_filters_arrive (made : List (List (ScanFilter.Setting UUID))) :
    ∃ scanFilters, convertBleScanFilter (made.map BleScanFilter.made) = .ok scanFilters ∧
      Reads (readAll made.length) (scanFilters.flatMap marshalling) scanFilters ∧
      List.Forall₂ Arrived (made.map BleScanFilter.made) scanFilters := by
  refine ⟨_, convertBleScanFilter_eq _, ?_, ?_⟩
  · have read := reads_all ((made.map BleScanFilter.made).map converted)
    rw [List.length_map, List.length_map] at read
    exact read
  · rw [List.forall₂_map_right_iff, List.forall₂_same]
    intro filter member
    obtain ⟨settings, _, rfl⟩ := List.mem_map.mp member
    exact arrived_converted settings

/-- The service UUID of a filter that sets nothing is all zeros, and the base UUID arrives. -/
theorem unset_uuid_arrives_as_base :
    ¬ ∀ made : List (List (ScanFilter.Setting UUID)), ∃ scanFilters,
      convertBleScanFilter (made.map BleScanFilter.made) = .ok scanFilters ∧
      List.Forall₂ (fun filter scanFilter => scanFilter.serviceUuid.convertTo128Bits =
        filter.serviceUuid.convertTo128Bits) (made.map BleScanFilter.made) scanFilters := by
  intro claimed
  obtain ⟨scanFilters, returned, same⟩ := claimed [[]]
  rw [convertBleScanFilter_eq, Except.ok.injEq] at returned
  rw [← returned] at same
  have first := (List.forall₂_cons.mp same).1
  exact absurd first (by decide)

end BluetoothBleScanFilter
end BluetoothFramework
