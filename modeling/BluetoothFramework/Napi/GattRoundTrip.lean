import BluetoothFramework.Napi.GattParsing
import Mathlib.Data.List.Forall2

/-!
# Services written and read back

The writer and the parser name the same properties, so the parser accepts every service that
is written, with all the services it includes. They disagree on the permissions: the writer
looks at the bits of `GattCharacteristic::Permission`, and the parser sets those of
`GattPermission`. The bits for writing are one place higher there, so they move with every
round trip.

`written_service_read` says what is read back of every service. All of it is what was written
but for the permissions for writing, which are shifted, and the bits the API does not name.
-/

namespace BluetoothFramework.Napi

/-- The properties that are read back are those the API names. -/
def readBackProperties (properties : Int32) : Int32 :=
  if properties < 0 then 0 else (properties.toUInt32 &&& 0xFF).toInt32

/-- The bits for writing one place higher, next to those for reading. -/
def shiftWriting (bits : UInt32) : UInt32 :=
  (bits &&& (0x07 : UInt32)) ||| ((bits &&& (0xF8 : UInt32)) <<< (1 : UInt32))

/-- The permissions that are read back. Those for writing are one place higher. -/
def readBackPermissions (permissions : Int32) : Int32 :=
  if permissions < 0 then 0 else (shiftWriting permissions.toUInt32).toInt32

/-- What is read back of a descriptor. -/
def NapiBleDescriptor.readFrom (serviceUuid characteristicUuid : UUID)
    (descriptor : GattDescriptor) :
    NapiBleDescriptor where
  serviceUuid := serviceUuid
  characteristicUuid := characteristicUuid
  descriptorUuid := descriptor.uuid
  descriptorValue := descriptor.value
  descriptorHandle := descriptor.handle
  permissions := readBackPermissions descriptor.permissions

/-- What is read back of a characteristic. -/
def NapiBleCharacteristic.readFrom (serviceUuid : UUID) (characteristic : GattCharacteristic) :
    NapiBleCharacteristic where
  serviceUuid := serviceUuid
  characteristicUuid := characteristic.uuid
  characteristicValue := characteristic.value
  descriptors := characteristic.descriptors.map (.readFrom serviceUuid characteristic.uuid)
  properties := readBackProperties characteristic.properties
  characteristicValueHandle := characteristic.handle
  permissions := readBackPermissions characteristic.permissions

/-- The second is what is read back of the first. The references to the services it includes
have become these services, in order. -/
inductive ReadBack (services : Nat → Option GattService) :
    GattService → NapiGattService → Prop where
  | intro (service : GattService) (srvs : List GattService) (includeServices : List NapiGattService)
      (follows : service.includeServices.mapM services = some srvs)
      (each : List.Forall₂ (ReadBack services) srvs includeServices) :
      ReadBack services service
        { serviceUuid := service.uuid
          isPrimary := service.isPrimary
          characteristics := service.characteristics.map (.readFrom service.uuid)
          includeServices := includeServices }

/-! ## Bits -/

/-- The lowest byte, or nothing of a negative number. -/
def lowByte (bits : Int32) : UInt32 :=
  if bits < 0 then 0 else bits.toUInt32 &&& 0xFF

/-- The low byte is below 256, so it fits the number that the script sees. -/
theorem lowByte_lt (bits : Int32) : (lowByte bits).toNat < 256 := by
  rw [lowByte]
  split
  · decide
  · rw [UInt32.toNat_and]
    exact Nat.and_lt_two_pow (n := 8) _ (by decide)

/-- What holds of the bytes holds of the lowest byte. -/
theorem of_lowByte (property : UInt32 → Prop) (table : ∀ n < 256, property (UInt32.ofNat n))
    (bits : Int32) :
    property (lowByte bits) := by
  have found := table (lowByte bits).toNat (lowByte_lt bits)
  rwa [UInt32.ofNat_toNat] at found

/-- The mask is one of the bits of the lowest byte. -/
def Within (mask : Int32) : Prop :=
  ¬mask < 0 ∧ mask.toUInt32 = 0xFF &&& mask.toUInt32

instance (mask : Int32) : Decidable (Within mask) :=
  inferInstanceAs (Decidable (_ ∧ _))

/-- Such a mask sees only the lowest byte. -/
theorem hasBit_within (bits : Int32) {mask : Int32} (within : Within mask) :
    hasBit bits mask = hasBit (lowByte bits).toInt32 mask := by
  have seen (bits : Int32) : hasBit bits mask = decide (lowByte bits &&& mask.toUInt32 ≠ 0) := by
    rw [hasBit, lowByte]
    by_cases negative : bits < 0
    · simp [negative]
    · simp only [negative, within.1, decide_false, Bool.or_false, Bool.false_eq_true, if_false]
      rw [UInt32.and_assoc, ← within.2]
  have again : lowByte (lowByte bits).toInt32 = lowByte bits :=
    of_lowByte (fun low => lowByte low.toInt32 = low) (by decide +kernel) bits
  rw [seen, seen (lowByte bits).toInt32, again]

/-- The properties go there and back. -/
theorem convertGattProperties_of (properties : Int32) :
    permissionsOf (convertGattProperties (.of properties)) = readBackProperties properties := by
  have read : readBackProperties properties = (lowByte properties).toInt32 := by
    rw [readBackProperties, lowByte]
    split <;> rfl
  have seen : NapiGattProperties.of properties = .of (lowByte properties).toInt32 := by
    simp only [NapiGattProperties.of, NapiGattProperties.mk.injEq]
    refine ⟨?_, ?_, ?_, ?_, ?_, ?_, ?_, ?_⟩ <;> exact hasBit_within properties (by decide)
  rw [read, seen]
  exact of_lowByte (fun low => permissionsOf (convertGattProperties (.of low.toInt32)) = low.toInt32)
    (by decide +kernel) properties

/-- The permissions for reading go there and back, those for writing go up by one. -/
theorem convertGattPermissions_of (permissions : Int32) :
    permissionsOf (convertGattPermissions (.of permissions)) = readBackPermissions permissions := by
  have read : readBackPermissions permissions = (shiftWriting (lowByte permissions)).toInt32 := by
    rw [readBackPermissions, lowByte]
    split
    · rfl
    · rw [shiftWriting, shiftWriting, UInt32.and_assoc, UInt32.and_assoc]
      rfl
  have seen : NapiGattPermission.of permissions = .of (lowByte permissions).toInt32 := by
    simp only [NapiGattPermission.of, NapiGattPermission.mk.injEq]
    refine ⟨?_, ?_, ?_, ?_, ?_, ?_, ?_, ?_⟩ <;> exact hasBit_within permissions (by decide)
  rw [read, seen]
  exact of_lowByte (fun low => permissionsOf (convertGattPermissions (.of low.toInt32)) =
    (shiftWriting low).toInt32) (by decide +kernel) permissions

/-! ## Attributes -/

section Properties

variable {object : JsValue} {properties : List (String × JsValue)} {name : String}

/-- The permissions that were written are parsed to the flags of the bits written. Only the
property under the name matters, whatever else the object has. -/
theorem napiParseObjectGattPermissions_written {permissions : Int32}
    (found : properties.lookup name = some (convertGattPermissionsToJs permissions)) :
    napiParseObjectGattPermissions (.object properties) name = .ok (.of permissions) := by
  have whole : napiParseObjectGattPermissions (.object properties) name = _ :=
    napiParseObject_object _ properties name
  rw [whole, found]
  rfl

/-- The properties that were written are parsed to the flags of the bits written. -/
theorem napiParseObjectGattProperties_written {bits : Int32}
    (found : properties.lookup name = some (convertGattPropertiesToJs bits)) :
    napiParseObjectGattProperties (.object properties) name = .ok (.of bits) := by
  have whole : napiParseObjectGattProperties (.object properties) name = _ :=
    napiParseObject_object _ properties name
  rw [whole, found]
  rfl

/-- An object whose properties are all in the list passes the check of the names. -/
theorem napiCheckObjectPropertiesName_written {names : List String}
    (known : (properties.all fun property => names.contains property.1) = true) :
    napiCheckObjectPropertiesName (.object properties) names = .ok () := by
  rw [napiCheckObjectPropertiesName_object, if_pos known]
  rfl

/-- A UUID that was written is parsed to its own text, which is a valid one. -/
theorem napiParseObjectUuid_written (uuid : UUID)
    (found : properties.lookup name = some (.string uuid.toString)) :
    napiParseObjectUuid (.object properties) name = .ok uuid.toString := by
  rw [napiParseObjectUuid, napiParseObject_object, found]
  exact (napiParseUuid_toString uuid).1

/-- A boolean that was written is parsed to itself. -/
theorem napiParseObjectBoolean_written {boolean : Bool}
    (found : properties.lookup name = some (.boolean boolean)) :
    napiParseObjectBoolean (.object properties) name = .ok boolean := by
  rw [napiParseObjectBoolean, napiParseObject_object, found]
  rfl

/-- An array that was written under the name is parsed to the values to which its elements are
parsed. -/
theorem napiParseObjectArray_written {α : Type} {parse : JsValue → Parsed α} {property : JsValue}
    {values : List α} (found : properties.lookup name = some property)
    (parsed : napiParseArray parse property = .ok values) :
    napiParseObjectArray parse (.object properties) name = .ok values := by
  rw [napiParseObjectArray, napiParseObject_object, found]
  exact parsed

/-- The services included in a written service are parsed to what their array is parsed to. -/
theorem parseIncludeServices_written {parse : JsValue → Parsed NapiGattService} {property : JsValue}
    {services : List NapiGattService} (found : properties.lookup "includeServices" = some property)
    (parsed : napiParseArray parse property = .ok services) :
    parseIncludeServices parse (.object properties) = .ok services := by
  rw [parseIncludeServices, napiIsObjectPropertyExist_object, found, Option.isSome_some, if_pos rfl]
  exact napiParseObjectArray_written found parsed

/-- A buffer that was written is parsed to its bytes. -/
theorem napiParseObjectArrayBuffer_written {data : ByteString}
    (found : properties.lookup name = some (.arrayBuffer data)) :
    napiParseObjectArrayBuffer (.object properties) name = .ok data := by
  rw [napiParseObjectArrayBuffer, napiParseObject_object, found]
  rfl

/-- The optional permissions are parsed like the mandatory ones where they were written. -/
theorem parsePermissions_written {permissions : Int32}
    (found : properties.lookup "permissions" = some (convertGattPermissionsToJs permissions)) :
    parsePermissions (.object properties) = .ok (.of permissions) := by
  rw [parsePermissions, napiIsObjectPropertyExist_object, found, Option.isSome_some, if_pos rfl]
  exact napiParseObjectGattPermissions_written found

/-- The optional properties are parsed like the mandatory ones where they were written. -/
theorem parseProperties_written {bits : Int32}
    (found : properties.lookup "properties" = some (convertGattPropertiesToJs bits)) :
    parseProperties (.object properties) = .ok (.of bits) := by
  rw [parseProperties, napiIsObjectPropertyExist_object, found, Option.isSome_some, if_pos rfl]
  exact napiParseObjectGattProperties_written found

/-- A handle is small enough, and is not cut off: it has sixteen bits, and the bound of the
parser is the greatest of them. -/
theorem parseHandle_written {handle : UInt16}
    (found : properties.lookup name = some (.number handle.toNat)) :
    parseHandle (.object properties) name = .ok handle.toUInt32 := by
  have bound := handle.toNat_lt
  have number : UInt32.ofInt handle.toNat = handle.toUInt32 := by
    rw [← UInt32.toNat_inj]
    simp [UInt32.ofInt]
    omega
  have small : ¬(0xFFFF : UInt32) < handle.toUInt32 := by
    rw [UInt32.lt_iff_toNat_lt, UInt16.toNat_toUInt32]
    simp
    omega
  have parsed : napiParseObjectUint32 (.object properties) name = .ok handle.toUInt32 := by
    rw [napiParseObjectUint32, napiParseObject_object, found, ← number]
    rfl
  rw [parseHandle, napiIsObjectPropertyExist_object, found, Option.isSome_some, if_pos rfl, parsed]
  change (returnIf (0xFFFF < handle.toUInt32) .invalidArg >>= fun _ => pure handle.toUInt32) = _
  rw [returnIf, if_neg (by simpa using small)]
  rfl

end Properties

/-- A descriptor is read back. -/
theorem napiParseGattDescriptor_written (serviceUuid characteristicUuid : UUID)
    (descriptor : GattDescriptor) :
    napiParseGattDescriptor (convertBLEDescriptorToJS serviceUuid characteristicUuid descriptor) =
      .ok (.readFrom serviceUuid characteristicUuid descriptor) := by
  rw [convertBLEDescriptorToJS, napiParseGattDescriptor, napiCheckObjectPropertiesName_written rfl,
    napiParseObjectUuid_written serviceUuid rfl, napiParseObjectUuid_written _ rfl,
    napiParseObjectUuid_written _ rfl, napiParseObjectArrayBuffer_written rfl, parseHandle_written rfl,
    parsePermissions_written rfl]
  simp only [napiIsObject_object, bind, Except.bind, pure, Except.pure, (napiParseUuid_toString _).2,
    convertGattPermissions_of, NapiBleDescriptor.readFrom, UInt16.toUInt16_toUInt32]

/-- An array is read back element by element. -/
theorem napiParseArray_written {α β : Type} {parse : JsValue → Parsed β} {write : α → JsValue}
    {read : α → β}
    (values : List α) (each : ∀ value ∈ values, parse (write value) = .ok (read value)) :
    napiParseArray parse (.array (values.map write)) = .ok (values.map read) := by
  rw [napiParseArray]
  induction values with
  | nil => rfl
  | cons value rest inductionHypothesis =>
    rw [List.map_cons, List.mapM_cons, each value (by simp),
      inductionHypothesis fun other member => each other (by simp [member])]
    rfl

/-- A characteristic is read back, with its descriptors. Each property is looked up under its own
name, and no name is used twice. -/
theorem napiParseGattCharacteristic_written (serviceUuid : UUID)
    (characteristic : GattCharacteristic) :
    napiParseGattCharacteristic (convertBLECharacteristicToJS serviceUuid characteristic) =
      .ok (.readFrom serviceUuid characteristic) := by
  have descriptors : napiParseObjectArray napiParseGattDescriptor
      (convertBLECharacteristicToJS serviceUuid characteristic) "descriptors" =
      .ok (characteristic.descriptors.map (.readFrom serviceUuid characteristic.uuid)) := by
    refine napiParseObjectArray_written rfl (napiParseArray_written _ fun descriptor _ => ?_)
    exact napiParseGattDescriptor_written _ _ descriptor
  rw [napiParseGattCharacteristic, descriptors, convertBLECharacteristicToJS,
    napiCheckObjectPropertiesName_written rfl, napiParseObjectUuid_written serviceUuid rfl,
    napiParseObjectUuid_written _ rfl, napiParseObjectArrayBuffer_written rfl, parseProperties_written rfl,
    parseHandle_written rfl, parsePermissions_written rfl]
  simp only [napiIsObject_object, bind, Except.bind, pure, Except.pure, (napiParseUuid_toString _).2,
    convertGattPermissions_of, convertGattProperties_of, NapiBleCharacteristic.readFrom,
    UInt16.toUInt16_toUInt32]

/-! ## Services -/

/-- The objects are read back one by one, whatever the services are that they were written from.
The fuel must be enough for the deepest of them, and then it is enough for all. -/
theorem exists_read_of_each {Relates : GattService → NapiGattService → Prop}
    {srvs : List GattService} {objects : List JsValue}
    (each : List.Forall₂ (fun service object => ∃ parsed, Relates service parsed ∧
      ∀ nesting, object.depth < nesting →
        parseGattService nesting object = .ok parsed) srvs objects) :
    ∃ parsed, List.Forall₂ Relates srvs parsed ∧
      ∀ nesting, (∀ object ∈ objects, object.depth < nesting) →
        objects.mapM (parseGattService nesting) = .ok parsed := by
  induction each with
  | nil => exact ⟨[], .nil, fun _ _ => rfl⟩
  | cons first rest inductionHypothesis =>
    obtain ⟨here, related, read⟩ := first
    obtain ⟨others, allRelated, readAll⟩ := inductionHypothesis
    refine ⟨here :: others, .cons related allRelated, fun nesting deep => ?_⟩
    rw [List.mapM_cons, read nesting (deep _ (by simp)),
      readAll nesting fun object member => deep object (by simp [member])]
    rfl

/-- What is written is read back. The induction is on the nested calls of the writer, each of
which writes one service and calls for those it includes. -/
theorem parseGattService_written {services : Nat → Option GattService} {calls : Nat}
    {service : GattService}
    {object : JsValue} (written : convertGattServiceToJS services calls service = some object) :
    ∃ parsed, ReadBack services service parsed ∧
      ∀ nesting, object.depth < nesting → parseGattService nesting object = .ok parsed := by
  induction calls generalizing service object with
  | zero => cases written
  | succ calls inductionHypothesis =>
    rw [convertGattServiceToJS] at written
    obtain ⟨srvs, follows, written⟩ := Option.bind_eq_some_iff.mp written
    obtain ⟨elements, writtenEach, written⟩ := Option.bind_eq_some_iff.mp written
    cases written
    obtain ⟨includes, related, readEach⟩ := exists_read_of_each <|
      (forall₂_of_mapM writtenEach).imp fun _ _ one => inductionHypothesis one
    refine ⟨_, .intro service srvs includes follows related, fun nesting deep => ?_⟩
    obtain ⟨nesting, rfl⟩ : ∃ fewer, nesting = fewer + 1 := ⟨nesting - 1, by omega⟩
    have characteristics : napiParseArray napiParseGattCharacteristic
        (.array (service.characteristics.map (convertBLECharacteristicToJS service.uuid))) =
        .ok (service.characteristics.map (.readFrom service.uuid)) :=
      napiParseArray_written _ fun characteristic _ => napiParseGattCharacteristic_written _ characteristic
    have inObject : (JsValue.array elements).depth < nesting + 1 :=
      (JsValue.depth_lookup "includeServices" rfl).trans deep
    have includeServices : napiParseArray (parseGattService nesting) (.array elements) = .ok includes := by
      refine readEach nesting fun element member => ?_
      have inArray := JsValue.depth_element member
      omega
    rw [parseGattService, napiCheckObjectPropertiesName_written rfl, napiParseObjectUuid_written _ rfl,
      napiParseObjectBoolean_written rfl, napiParseObjectArray_written rfl characteristics,
      parseIncludeServices_written rfl includeServices]
    simp only [napiIsObject_object, bind, Except.bind, pure, Except.pure, (napiParseUuid_toString _).2]

/-- Whatever the writer writes is read back by the parser, with all services that are included at
any depth. The fuel of the parser is the depth of the written object, and so it is enough. -/
theorem written_service_read {services : Nat → Option GattService} {calls : Nat}
    {service : GattService}
    {object : JsValue} (written : convertGattServiceToJS services calls service = some object) :
    ∃ parsed, napiParseGattService object = .ok parsed ∧ ReadBack services service parsed := by
  obtain ⟨parsed, related, read⟩ := parseGattService_written written
  exact ⟨parsed, read _ (by omega), related⟩

/-- A service that includes another, with a characteristic that may be written encrypted. -/
theorem written_service_read_including :
    ∃ object parsed, convertGattServiceToJS (fun _ => some {}) 2
        { includeServices := [0], characteristics := [{ permissions := 0x10 }] } = some object ∧
      napiParseGattService object = .ok parsed ∧
      ReadBack (fun _ => some {})
        { includeServices := [0], characteristics := [{ permissions := 0x10 }] } parsed := by
  have written : convertGattServiceToJS (fun _ => some {}) 2
      { includeServices := [0], characteristics := [{ permissions := 0x10 }] } = some _ := rfl
  obtain ⟨parsed, read⟩ := written_service_read written
  exact ⟨_, parsed, written, read⟩

end BluetoothFramework.Napi
