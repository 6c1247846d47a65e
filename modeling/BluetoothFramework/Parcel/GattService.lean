import BluetoothFramework.Gatt.GattData
import BluetoothFramework.Parcel.Parcel

/-!
# GATT services in parcels

A service writes itself, then copies of the services it includes and of its
characteristics, and these do the same for what they hold. A reader counts how deep it
is in objects of one type and refuses to go deeper than the limit; it also limits every
count it reads.

A service within the limits is read back as its copy (`reads_service`), so it is read
back unchanged exactly when every value handle in the tree is the one a copy has.
-/

namespace BluetoothFramework

open Fifo Parcel

/-- `BT_PARCEL_MAX_NESTING_DEPTH` -/
def btParcelMaxNestingDepth : Nat := 32

/-- `GATT_SERVICE_PARCEL_SIZE_MAX` -/
def gattServiceParcelSizeMax : UInt32 := 0x100

/-- `GATT_CHARACTERISTIC_PARCEL_SIZE_MAX` -/
def gattCharacteristicParcelSizeMax : UInt32 := 0x400

/-- `GATT_DESCRIPTOR_PARCEL_SIZE_MAX` -/
def gattDescriptorParcelSizeMax : UInt32 := 0x100

/-- The thread's `DepthCounter` of each type. -/
structure DepthCounters where
  service : Nat := 0
  characteristic : Nat := 0
  descriptor : Nat := 0

/-- `BluetoothUuid::Marshalling` -/
def Uuid.marshalling (self : Uuid) : List ParcelItem :=
  [.uint64 self.mostSigBits, .uint64 self.leastSigBits]

/-- `BluetoothUuid::Unmarshalling`, which checks no result. -/
def Uuid.unmarshalling : ParcelReader Uuid := do
  let mostSigBits ← readUint64
  let leastSigBits ← readUint64
  pure (Uuid.convertFromMostAndLeastBit mostSigBits leastSigBits)

/-- Write the bytes of a value, after their number. -/
def writeValue (value : ByteString) : List ParcelItem :=
  writeCounted (fun byte => [.uint8 byte]) value

/-- Read the bytes of a value into an array of the size read. -/
def readValue (limit : UInt32) : ParcelReader ByteString :=
  readCounted limit (pushBack readUint8) []

/-- `BluetoothGattDescriptor::Marshalling` -/
def Descriptor.marshalling (self : Descriptor) : List ParcelItem :=
  .uint16 self.handle :: .int32 self.permissions ::
    (writeValue self.value ++ writeParcelable self.uuid.marshalling)

/-- `BluetoothGattDescriptor::ReadFromParcel` -/
def Descriptor.readFromParcel (depth : DepthCounters) : ParcelReader Descriptor :=
  if depth.descriptor ≥ btParcelMaxNestingDepth then failure
  else do
    let handle ← readUint16
    let permissions ← readInt32
    let value ← readValue gattDescriptorParcelSizeMax
    let uuid ← readParcelable Uuid.unmarshalling
    pure { handle, permissions, value, uuid }

/-- Write one descriptor, of which a copy is made. -/
def writeDescriptor (des : Descriptor) : List ParcelItem :=
  writeParcelable des.copy.marshalling

/-- `BluetoothGattCharacteristic::Marshalling` -/
def Characteristic.marshalling (self : Characteristic) : List ParcelItem :=
  .uint16 self.handle :: .uint16 self.endHandle :: .uint16 self.valueHandle ::
    .int32 self.properties :: .int32 self.permissions ::
    (writeValue self.value ++
      (writeParcelable self.uuid.marshalling ++
        writeCounted writeDescriptor self.descriptors))

/-- Read one descriptor; what `push_back` takes is a copy of it. -/
def readDescriptor (depth : DepthCounters) : ParcelReader Descriptor := do
  let descriptor ← readParcelable (Descriptor.readFromParcel depth)
  pure descriptor.copy

/-- `BluetoothGattCharacteristic::ReadFromParcel` -/
def Characteristic.readFromParcel (depth : DepthCounters) : ParcelReader Characteristic :=
  if depth.characteristic ≥ btParcelMaxNestingDepth then failure
  else do
    let depthGuard := { depth with characteristic := depth.characteristic + 1 }
    let handle ← readUint16
    let endHandle ← readUint16
    let valueHandle ← readUint16
    let properties ← readInt32
    let permissions ← readInt32
    let value ← readValue gattCharacteristicParcelSizeMax
    let uuid ← readParcelable Uuid.unmarshalling
    let descriptors ← readCounted gattCharacteristicParcelSizeMax (pushBack (readDescriptor depthGuard)) []
    pure { handle, endHandle, valueHandle, properties, permissions, value, uuid, descriptors }

/-- Write one characteristic: the loop variable is a copy, and what is written is a copy of it. -/
def writeCharacteristic (character : Characteristic) : List ParcelItem :=
  writeParcelable character.copy.copy.marshalling

/-- Read one characteristic; what `push_back` takes is a copy of it. -/
def readCharacteristic (depth : DepthCounters) : ParcelReader Characteristic := do
  let characteristic ← readParcelable (Characteristic.readFromParcel depth)
  pure characteristic.copy

namespace Service

/-- `BluetoothGattService::Marshalling`. Of an included service, too, a copy of a copy is written. -/
def marshalling (self : Service) : List ParcelItem :=
  .bool self.isPrimary :: .uint16 self.handle :: .uint16 self.startHandle :: .uint16 self.endHandle ::
    (writeParcelable self.uuid.marshalling ++
      (.uint32 (UInt32.ofNat self.includeServices.length) ::
        (self.includeServices.flatMap fun serv => writeParcelable (marshalling serv.copy.copy)) ++
        writeCounted writeCharacteristic self.characteristics))
termination_by self.nesting
decreasing_by
  rw [nesting_copy, nesting_copy]
  exact nesting_included ‹_›

/-- `BluetoothGattService::ReadFromParcel`. The guard counts one level more for what the
service includes. -/
def readFromParcel (depth : DepthCounters) : ParcelReader Service :=
  if _exceeded : depth.service ≥ btParcelMaxNestingDepth then failure
  else do
    let depthGuard := { depth with service := depth.service + 1 }
    let isPrimary ← readBool
    let handle ← readUint16
    let startHandle ← readUint16
    let endHandle ← readUint16
    let uuid ← readParcelable Uuid.unmarshalling
    let includeServices ← readCounted gattServiceParcelSizeMax (pushBack do
      let service ← readParcelable (readFromParcel depthGuard)
      pure service.copy) []
    let characteristics ← readCounted gattServiceParcelSizeMax (pushBack (readCharacteristic depthGuard)) []
    pure { isPrimary, handle, startHandle, endHandle, uuid, includeServices, characteristics }
termination_by btParcelMaxNestingDepth - depth.service
decreasing_by
  omega

/-- `BluetoothGattService::Unmarshalling` of a thread that is not inside another. -/
def unmarshalling : ParcelReader Service :=
  readFromParcel {}

end Service

/-! ## What is read back -/

/-- A UUID that was written is read back. -/
theorem reads_uuid (uuid : Uuid) :
    Reads (readParcelable Uuid.unmarshalling) (writeParcelable uuid.marshalling) uuid := by
  apply reads_parcelable
  apply Reads.next (reads_uint64 _)
  apply Reads.next (reads_uint64 _)
  rw [Uuid.convertFromMostAndLeastBit_sigBits]
  exact Reads.pure uuid

/-- A value within the limit is read back. -/
theorem reads_value (limit : UInt32) (value : ByteString) (bounded : value.length ≤ limit.toNat) :
    Reads (readValue limit) (writeValue value) value := by
  have bytes := reads_list limit (fun byte => [ParcelItem.uint8 byte]) id value bounded
    fun byte _ => reads_uint8 byte
  rw [List.map_id] at bytes
  exact bytes

/-- The value of a descriptor is within its reader's limit. -/
def Descriptor.WithinLimits (descriptor : Descriptor) : Prop :=
  descriptor.value.length ≤ gattDescriptorParcelSizeMax.toNat

/-- The sizes of a characteristic and its descriptors are within their readers' limits. -/
structure Characteristic.WithinLimits (characteristic : Characteristic) : Prop where
  value : characteristic.value.length ≤ gattCharacteristicParcelSizeMax.toNat
  descriptors : characteristic.descriptors.length ≤ gattCharacteristicParcelSizeMax.toNat
  each : ∀ descriptor ∈ characteristic.descriptors, descriptor.WithinLimits

/-- The sizes of one service and its characteristics are within their readers' limits. -/
structure Service.SizesWithinLimits (service : Service) : Prop where
  includeServices : service.includeServices.length ≤ gattServiceParcelSizeMax.toNat
  characteristics : service.characteristics.length ≤ gattServiceParcelSizeMax.toNat
  each : ∀ characteristic ∈ service.characteristics, characteristic.WithinLimits

/-- A descriptor that was written is read back, at any depth that leaves room. -/
theorem reads_descriptor (depth : DepthCounters) (room : depth.descriptor < btParcelMaxNestingDepth)
    (descriptor : Descriptor) (within : descriptor.WithinLimits) :
    Reads (readDescriptor depth) (writeDescriptor descriptor) descriptor := by
  have raw : Reads (Descriptor.readFromParcel depth) descriptor.marshalling descriptor := by
    apply Reads.unless (Nat.not_le_of_lt room)
    apply Reads.next (reads_uint16 _)
    apply Reads.next (reads_int32 _)
    apply Reads.bind (reads_value _ _ within)
    rw [← List.append_nil (writeParcelable _)]
    apply Reads.bind (reads_uuid _)
    exact Reads.pure descriptor
  rw [writeDescriptor, Descriptor.copy_eq, ← List.append_nil (writeParcelable _)]
  apply Reads.bind (reads_parcelable raw)
  rw [Descriptor.copy_eq]
  exact Reads.pure descriptor

/-- Writing keeps the value handle that the copy has. The value handle is not written; the reader
sets it to the handle and one, as copying does. -/
theorem reads_characteristic (depth : DepthCounters)
    (room : depth.characteristic < btParcelMaxNestingDepth)
    (descriptorRoom : depth.descriptor < btParcelMaxNestingDepth)
    (characteristic : Characteristic) (within : characteristic.WithinLimits) :
    Reads (readCharacteristic depth) (writeCharacteristic characteristic) characteristic.copy := by
  have raw (written : Characteristic) (within : written.WithinLimits) :
      Reads (Characteristic.readFromParcel depth) written.marshalling written := by
    apply Reads.unless (Nat.not_le_of_lt room)
    apply Reads.next (reads_uint16 _)
    apply Reads.next (reads_uint16 _)
    apply Reads.next (reads_uint16 _)
    apply Reads.next (reads_int32 _)
    apply Reads.next (reads_int32 _)
    apply Reads.bind (reads_value _ _ within.value)
    apply Reads.bind (reads_uuid _)
    have descriptors := reads_list gattCharacteristicParcelSizeMax writeDescriptor id
      written.descriptors within.descriptors fun descriptor member =>
        reads_descriptor { depth with characteristic := depth.characteristic + 1 } descriptorRoom
          descriptor (within.each descriptor member)
    rw [← List.append_nil (writeCounted _ _)]
    apply Reads.bind descriptors
    rw [List.map_id]
    exact Reads.pure written
  have copyWithin : characteristic.copy.copy.WithinLimits := by
    rw [Characteristic.copy_copy, Characteristic.copy_eq]
    exact ⟨within.value, within.descriptors, within.each⟩
  rw [writeCharacteristic, ← List.append_nil (writeParcelable _)]
  apply Reads.bind (reads_parcelable (raw _ copyWithin))
  rw [Characteristic.copy_copy, Characteristic.copy_copy]
  exact Reads.pure _

namespace Service

/-- A service is written as its copy is: everything below it is copied anyway. -/
theorem marshalling_copy (service : Service) : service.copy.marshalling = service.marshalling := by
  have characteristics : writeCounted writeCharacteristic (service.characteristics.map Characteristic.copy) =
      writeCounted writeCharacteristic service.characteristics := by
    have each : (fun character => writeCharacteristic (Characteristic.copy character)) =
        writeCharacteristic := by
      funext character
      rw [writeCharacteristic, Characteristic.copy_copy, writeCharacteristic]
    rw [writeCounted, List.length_map, List.flatMap_map, each, writeCounted]
  rw [marshalling.eq_1 service, marshalling, copy]
  dsimp only
  rw [characteristics, List.length_map, List.flatMap_map]
  simp only [copy_copy]

/-- `Marshalling` with the copies of the included services left out. -/
theorem marshalling_eq (service : Service) :
    service.marshalling =
      .bool service.isPrimary :: .uint16 service.handle :: .uint16 service.startHandle ::
        .uint16 service.endHandle :: (writeParcelable service.uuid.marshalling ++
          (writeCounted (fun serv => writeParcelable (marshalling serv)) service.includeServices ++
            writeCounted writeCharacteristic service.characteristics)) := by
  rw [marshalling]
  simp only [marshalling_copy, writeCounted]

/-- A service that is not nested too deep and within the limits is read back as its copy. The
induction is on the service; the depth that is left shrinks by one with each service that is
entered. -/
theorem reads_service (service : Service) (depth : DepthCounters)
    (room : service.nesting + depth.service ≤ btParcelMaxNestingDepth)
    (characteristicRoom : depth.characteristic < btParcelMaxNestingDepth)
    (descriptorRoom : depth.descriptor < btParcelMaxNestingDepth)
    (within : service.Everywhere SizesWithinLimits) :
    Reads (readFromParcel depth) service.marshalling service.copy := by
  induction service using Service.induction generalizing depth with
  | step service included =>
    obtain ⟨_, sizes, everywhere⟩ := within
    have notDeeper : ¬ depth.service ≥ btParcelMaxNestingDepth := by
      rw [nesting] at room
      omega
    rw [readFromParcel, dif_neg notDeeper, marshalling_eq]
    apply Reads.next (reads_bool _)
    apply Reads.next (reads_uint16 _)
    apply Reads.next (reads_uint16 _)
    apply Reads.next (reads_uint16 _)
    apply Reads.bind (reads_uuid _)
    have child : ∀ child ∈ service.includeServices,
        Reads (do
          let service ← readParcelable (readFromParcel { depth with service := depth.service + 1 })
          pure service.copy) (writeParcelable child.marshalling) child.copy := by
      intro child member
      have childRoom : child.nesting + (depth.service + 1) ≤ btParcelMaxNestingDepth := by
        have fewer := nesting_included member
        omega
      have raw := included child member { depth with service := depth.service + 1 } childRoom
        characteristicRoom descriptorRoom (everywhere child member)
      rw [← List.append_nil (writeParcelable _)]
      apply Reads.bind (reads_parcelable raw)
      rw [copy_copy]
      exact Reads.pure child.copy
    have children := reads_list gattServiceParcelSizeMax
      (fun serv => writeParcelable (marshalling serv)) copy service.includeServices
      sizes.includeServices child
    have characteristics := reads_list gattServiceParcelSizeMax writeCharacteristic
      Characteristic.copy service.characteristics sizes.characteristics fun characteristic member =>
        reads_characteristic { depth with service := depth.service + 1 } characteristicRoom
          descriptorRoom characteristic (sizes.each characteristic member)
    apply Reads.bind children
    rw [← List.append_nil (writeCounted writeCharacteristic _)]
    apply Reads.bind characteristics
    rw [copy]
    exact Reads.pure _

/-- Reading back a service means reading back its copy. -/
theorem unmarshals_iff_copy_eq (service : Service)
    (nested : service.nesting ≤ btParcelMaxNestingDepth)
    (within : service.Everywhere SizesWithinLimits) :
    Reads unmarshalling service.marshalling service ↔ service.copy = service := by
  have copied : Reads unmarshalling service.marshalling service.copy :=
    reads_service service {} nested (by decide) (by decide) within
  constructor
  · intro same
    have results := (copied []).symm.trans (same [])
    exact congrArg Prod.fst (Option.some.inj results)
  · intro same
    rw [same] at copied
    exact copied

/-- A service that is not nested too deep and within the limits is read back unchanged,
consuming exactly what was written, if and only if every value handle in the tree is the
handle after the one of its characteristic. -/
theorem unmarshals_iff (service : Service)
    (nested : service.nesting ≤ btParcelMaxNestingDepth)
    (within : service.Everywhere SizesWithinLimits) :
    Reads unmarshalling service.marshalling service ↔
      service.Everywhere fun service => ∀ characteristic ∈ service.characteristics,
        characteristic.ValueHandleFollows := by
  rw [unmarshals_iff_copy_eq service nested within]
  exact copy_eq_self_iff service

/-- A service with one characteristic, which has a descriptor. -/
def sampleService (valueHandle : UInt16) : Service :=
  { isPrimary := true
    handle := 1
    characteristics := [{
      handle := 2
      valueHandle
      value := [7, 8]
      descriptors := [{ handle := 5, value := [1] }] }] }

/-- The sample service is nested within the limit. -/
theorem sampleService_nested (valueHandle : UInt16) :
    (sampleService valueHandle).nesting ≤ btParcelMaxNestingDepth := by
  rw [nesting]
  exact (by decide : 1 ≤ 32)

/-- The sizes of the sample service are within the limits, in all its parts. -/
theorem sampleService_within (valueHandle : UInt16) :
    (sampleService valueHandle).Everywhere SizesWithinLimits := by
  constructor
  · refine ⟨(by decide : 0 ≤ 0x100), (by decide : 1 ≤ 0x100), ?_⟩
    intro characteristic member
    rw [List.mem_singleton.mp member]
    refine ⟨(by decide : 2 ≤ 0x400), (by decide : 1 ≤ 0x400), ?_⟩
    intro descriptor descriptorMember
    rw [List.mem_singleton.mp descriptorMember]
    exact (by decide : 1 ≤ 0x100)
  · rintro child ⟨⟩

/-- With its value right after its declaration the characteristic arrives unchanged. -/
theorem unmarshals_following :
    Reads unmarshalling (sampleService 3).marshalling (sampleService 3) := by
  apply (unmarshals_iff (sampleService 3) (sampleService_nested 3) (sampleService_within 3)).mpr
  constructor
  · intro characteristic member
    rw [List.mem_singleton.mp member]
    rfl
  · rintro child ⟨⟩

/-- A value handle left at the default of the constructor does not arrive. -/
theorem not_unmarshals_default :
    ¬ ∀ service : Service, service.nesting ≤ btParcelMaxNestingDepth →
      service.Everywhere SizesWithinLimits → Reads unmarshalling service.marshalling service := by
  intro always
  have same := (unmarshals_iff_copy_eq (sampleService 0) (sampleService_nested 0)
    (sampleService_within 0)).mp
    (always (sampleService 0) (sampleService_nested 0) (sampleService_within 0))
  rw [copy] at same
  have handles := congrArg (fun service => service.characteristics.map Characteristic.valueHandle) same
  exact absurd handles (by decide)

end Service
end BluetoothFramework
