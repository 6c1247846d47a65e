import BluetoothFramework.Advertisement.PeripheralDevice
import Mathlib.Data.List.Basic

/-!
# What one AD structure contributes

`receive` says in terms of its type and data what a structure does to the device.
`BuildAdvertiserData` computes that from memory (`value_build`), provided the data is as
long as its type requires: one byte for flags and TX power, two for the appearance. These
three are loaded without a look at the length, and they are the only loads that can leave
the structure (`inside_build_iff`).
-/

namespace BluetoothFramework.BlePeripheralDevice

open Loads

variable {memory : Nat → UInt8}

/-- The bytes loaded whatever the length of the structure is. -/
def needed : AdKind → Nat
  | .txPower | .flag => 1
  | .appearance => 2
  | _ => 0

/-- The service UUIDs of a list of bytes. -/
def receiveUUIDs (width : Nat) (convert : List UInt8 → Uuid) (data : ByteString)
    (device : BlePeripheralDevice) : BlePeripheralDevice :=
  ((Frames.chunks width data).map convert).foldl setServiceUUID device

/-- The service data of a list of bytes. -/
def receiveServiceData (width : Nat) (convert : List UInt8 → Uuid) (data : ByteString)
    (device : BlePeripheralDevice) : BlePeripheralDevice :=
  if data.length < width then device
  else device.setServiceDataUUID (convert (data.take width)) (data.drop width)

/-- The effect of a structure on the device. -/
def receive (self : BlePeripheralDevice) (frame : Frames.Frame) : BlePeripheralDevice :=
  let device := self.addAdvertisingData frame.1 frame.2
  match adKind frame.1 with
  | .name => device.setName frame.2
  | .txPower => device.setTXPower (frame.2.headD 0).toInt8
  | .appearance => device.setAppearance (UInt16.ofNat (LittleEndian.decode (frame.2.take 2)))
  | .flag => device.setAdFlag (frame.2.headD 0)
  | .serviceUuid16 => receiveUUIDs bleUuidLen16 uuidOf16 frame.2 device
  | .serviceUuid32 => receiveUUIDs bleUuidLen32 uuidOf32 frame.2 device
  | .serviceUuid128 => receiveUUIDs bleUuidLen128 uuidOf128 frame.2 device
  | .manufacturer => device.setManufacturerData frame.2
  | .serviceData16 => receiveServiceData bleUuidLen16 uuidOf16 frame.2 device
  | .serviceData32 => receiveServiceData bleUuidLen32 uuidOf32 frame.2 device
  | .serviceData128 => receiveServiceData bleUuidLen128 uuidOf128 frame.2 device
  | .other => device

/-! ## Where the helpers look -/

/-- Loads from the middle of a structure. -/
theorem inside_slice (memory : Nat → UInt8) (parseAdvData : BlePeripheralDeviceParseAdvData)
    (offset count : Nat) :
    Each Access.Inside (loadMany parseAdvData.range (parseAdvData.payload + offset) count) memory ↔
      count = 0 ∨ offset + count ≤ parseAdvData.length := by
  have after : parseAdvData.range.first ≤ parseAdvData.payload + offset := Nat.le_add_right _ _
  rw [inside_loadMany parseAdvData.range _ count after]
  simp only [BlePeripheralDeviceParseAdvData.range]
  omega

/-- Loads from the start of a structure. -/
theorem inside_start (memory : Nat → UInt8) (parseAdvData : BlePeripheralDeviceParseAdvData)
    (count : Nat) :
    Each Access.Inside (loadMany parseAdvData.range parseAdvData.payload count) memory ↔
      count ≤ parseAdvData.length := by
  have inside := inside_slice memory parseAdvData 0 count
  rw [Nat.add_zero, Nat.zero_add] at inside
  rw [inside]
  omega

/-- The load of the first byte. -/
theorem inside_first (memory : Nat → UInt8) (parseAdvData : BlePeripheralDeviceParseAdvData) :
    Each Access.Inside (load parseAdvData.range parseAdvData.payload) memory ↔
      1 ≤ parseAdvData.length := by
  rw [each_load]
  simp only [Access.Inside, BlePeripheralDeviceParseAdvData.range]
  omega

/-- The loop over UUIDs stays inside its structure, whatever the memory holds: it goes on only
while a whole UUID is left. -/
theorem inside_setServiceUUIDs (width : Nat) (convert : List UInt8 → Uuid)
    (parseAdvData : BlePeripheralDeviceParseAdvData) (self : BlePeripheralDevice) :
    Each Access.Inside (setServiceUUIDs width convert parseAdvData self) memory := by
  apply each_foldlM
  intro device var member
  have inside : var < parseAdvData.length / width := List.mem_range.mp member
  have room : (var + 1) * width ≤ parseAdvData.length :=
    Nat.le_trans (Nat.mul_le_mul_right width inside) (Nat.div_mul_le_self _ _)
  rw [Nat.add_mul, Nat.one_mul] at room
  simp only [each_bind, each_pure, and_true]
  exact (inside_slice memory parseAdvData _ _).mpr (.inr room)

/-- The read of service data stays inside its structure. The UUID is read only where the
structure is long enough for it, and the data is what is left. -/
theorem inside_setServiceDataUUIDs (width : Nat) (convert : List UInt8 → Uuid)
    (parseAdvData : BlePeripheralDeviceParseAdvData) (self : BlePeripheralDevice) :
    Each Access.Inside (setServiceDataUUIDs width convert parseAdvData self) memory := by
  rw [setServiceDataUUIDs]
  by_cases short : parseAdvData.length < width
  · rw [if_pos short]
    exact each_pure self
  · rw [if_neg short]
    have key := (inside_start memory parseAdvData width).mpr (by omega)
    by_cases longer : parseAdvData.length > width
    · have rest := (inside_slice memory parseAdvData width (parseAdvData.length - width)).mpr
        (.inr (by omega))
      simp only [if_pos longer, each_bind, each_pure, and_true]
      exact ⟨key, rest⟩
    · simp only [if_neg longer, each_bind, each_pure, and_true]
      exact key

/-- The loads of a structure leave it exactly when the structure is too short for its
type. -/
theorem inside_build_iff (advType : UInt8) (parseAdvData : BlePeripheralDeviceParseAdvData)
    (self : BlePeripheralDevice) :
    Each Access.Inside (buildAdvertiserData advType parseAdvData self) memory ↔
      needed (adKind advType) ≤ parseAdvData.length := by
  have copied := (inside_start memory parseAdvData parseAdvData.length).mpr (Nat.le_refl _)
  rw [buildAdvertiserData]
  rw [each_bind, and_iff_right copied]
  dsimp only
  cases adKind advType with
  | name => exact iff_of_true (each_pure _) (Nat.zero_le _)
  | txPower =>
    simp only [each_bind, each_pure, and_true]
    exact inside_first memory parseAdvData
  | appearance =>
    simp only [each_bind, each_pure, and_true]
    exact inside_start memory parseAdvData 2
  | flag =>
    simp only [each_bind, each_pure, and_true]
    exact inside_first memory parseAdvData
  | serviceUuid16 => exact iff_of_true (inside_setServiceUUIDs _ _ _ _) (Nat.zero_le _)
  | serviceUuid32 => exact iff_of_true (inside_setServiceUUIDs _ _ _ _) (Nat.zero_le _)
  | serviceUuid128 => exact iff_of_true (inside_setServiceUUIDs _ _ _ _) (Nat.zero_le _)
  | manufacturer => exact iff_of_true (each_pure _) (Nat.zero_le _)
  | serviceData16 => exact iff_of_true (inside_setServiceDataUUIDs _ _ _ _) (Nat.zero_le _)
  | serviceData32 => exact iff_of_true (inside_setServiceDataUUIDs _ _ _ _) (Nat.zero_le _)
  | serviceData128 => exact iff_of_true (inside_setServiceDataUUIDs _ _ _ _) (Nat.zero_le _)
  | other => exact iff_of_true (each_pure _) (Nat.zero_le _)

/-- Every load of a structure is made on its behalf: within the range that the parser was given
for it. The builders of all types only load through the helper, with the range passed down to it.
-/
theorem each_build (within : Range → Prop) (advType : UInt8)
    (parseAdvData : BlePeripheralDeviceParseAdvData) (self : BlePeripheralDevice)
    (holds : within parseAdvData.range) :
    Each (fun access => within access.range) (buildAdvertiserData advType parseAdvData self) memory := by
  have many (index count : Nat) :
      Each (fun access => within access.range) (loadMany parseAdvData.range index count) memory :=
    each_loadMany parseAdvData.range index count holds
  have uuids (width : Nat) (convert : List UInt8 → Uuid) (device : BlePeripheralDevice) :
      Each (fun access => within access.range) (setServiceUUIDs width convert parseAdvData device)
        memory := by
    apply each_foldlM
    intro state var _
    simp only [each_bind, each_pure, and_true]
    exact many _ _
  have serviceData (width : Nat) (convert : List UInt8 → Uuid) (device : BlePeripheralDevice) :
      Each (fun access => within access.range) (setServiceDataUUIDs width convert parseAdvData device)
        memory := by
    rw [setServiceDataUUIDs]
    split
    · exact each_pure device
    · split <;> simp [many]
  rw [buildAdvertiserData]
  simp only [each_bind, many, true_and]
  cases adKind advType <;>
    simp [many, holds, setServiceUUID16Bits, setServiceUUID32Bits, setServiceUUID128Bits,
      setServiceDataUUID16Bits, setServiceDataUUID32Bits, setServiceDataUUID128Bits, uuids, serviceData]

/-! ## What they compute -/

/-- On stored data the loop over UUIDs computes what the list function does, so the rest of the
parser can be reasoned about without memory. -/
theorem value_setServiceUUIDs (width : Nat) (convert : List UInt8 → Uuid) (payload : Nat)
    (data : ByteString) (stored : Stored memory payload data) (self : BlePeripheralDevice) :
    value (setServiceUUIDs width convert ⟨payload, data.length⟩ self) memory =
      receiveUUIDs width convert data self := by
  rw [setServiceUUIDs, value_foldlM, receiveUUIDs, Frames.chunks, List.map_map, List.foldl_map]
  apply List.foldl_ext
  intro device var member
  have inside : var < data.length / width := List.mem_range.mp member
  have room : (var + 1) * width ≤ data.length :=
    Nat.le_trans (Nat.mul_le_mul_right width inside) (Nat.div_mul_le_self _ _)
  have last : var * width + width ≤ data.length := by
    rwa [Nat.add_mul, Nat.one_mul] at room
  have piece : ((data.drop (var * width)).take width).length = width := by
    rw [List.length_take, List.length_drop]
    omega
  have loaded := value_loadMany (BlePeripheralDeviceParseAdvData.range ⟨payload, data.length⟩) _ _
    (stored_take (stored_drop stored (var * width) (by omega)) width)
  rw [piece] at loaded
  simp only [value_bind, value_pure, loaded, Function.comp_apply]

/-- On stored data the read of service data computes what the list function does. The width of
the UUID and its conversion are the only things in which the three types differ. -/
theorem value_setServiceDataUUIDs (width : Nat) (convert : List UInt8 → Uuid) (payload : Nat)
    (data : ByteString) (stored : Stored memory payload data) (self : BlePeripheralDevice) :
    value (setServiceDataUUIDs width convert ⟨payload, data.length⟩ self) memory =
      receiveServiceData width convert data self := by
  rw [setServiceDataUUIDs, receiveServiceData]
  by_cases short : data.length < width
  · rw [if_pos short, if_pos short]
    rfl
  · rw [if_neg short, if_neg short]
    have key := value_loadMany (BlePeripheralDeviceParseAdvData.range ⟨payload, data.length⟩) _ _
      (stored_take stored width)
    have rest := value_loadMany (BlePeripheralDeviceParseAdvData.range ⟨payload, data.length⟩) _ _
      (stored_drop stored width (by omega))
    rw [List.length_take_of_le (by omega)] at key
    rw [List.length_drop] at rest
    by_cases longer : data.length > width
    · simp only [if_pos longer, value_bind, value_pure, key, rest]
    · have none : data.drop width = [] := List.drop_eq_nil_of_le (by omega)
      simp only [if_neg longer, value_bind, value_pure, key, none]

/-- On stored data of sufficient length `BuildAdvertiserData` has the effect of the
structure. -/
theorem value_build (advType : UInt8) (payload : Nat) (data : ByteString)
    (stored : Stored memory payload data) (enough : needed (adKind advType) ≤ data.length)
    (self : BlePeripheralDevice) :
    value (buildAdvertiserData advType ⟨payload, data.length⟩ self) memory =
      self.receive (advType, data) := by
  have copied := value_loadMany (BlePeripheralDeviceParseAdvData.range ⟨payload, data.length⟩) payload
    data stored
  have uuids (width : Nat) (convert : List UInt8 → Uuid) :=
    value_setServiceUUIDs width convert payload data stored
  have serviceData (width : Nat) (convert : List UInt8 → Uuid) :=
    value_setServiceDataUUIDs width convert payload data stored
  rw [buildAdvertiserData, receive]
  simp only [value_bind, copied]
  cases kind : adKind advType with
  | name => rfl
  | txPower =>
    cases data with
    | nil => simp [kind, needed] at enough
    | cons first rest => simp only [value_bind, value_load, value_pure, stored.1, List.headD_cons]
  | appearance =>
    have both : 2 ≤ data.length := by simpa [kind, needed] using enough
    have loaded := value_loadMany (BlePeripheralDeviceParseAdvData.range ⟨payload, data.length⟩) payload
      _ (stored_take stored 2)
    rw [List.length_take_of_le both] at loaded
    simp only [value_bind, value_pure, loaded]
  | flag =>
    cases data with
    | nil => simp [kind, needed] at enough
    | cons first rest => simp only [value_bind, value_load, value_pure, stored.1, List.headD_cons]
  | serviceUuid16 => exact uuids _ _ _
  | serviceUuid32 => exact uuids _ _ _
  | serviceUuid128 => exact uuids _ _ _
  | manufacturer => rfl
  | serviceData16 => exact serviceData _ _ _
  | serviceData32 => exact serviceData _ _ _
  | serviceData128 => exact serviceData _ _ _
  | other => rfl

end BluetoothFramework.BlePeripheralDevice
