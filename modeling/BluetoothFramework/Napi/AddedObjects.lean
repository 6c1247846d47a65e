import BluetoothFramework.Gatt.AddedServices
import BluetoothFramework.Napi.GattRoundTrip

/-!
# Services that a script adds

`addService` of the server parses an object and builds a service of the API from it, which goes
to the remote service and comes back with handles. `getServices` writes it as an object again.
The services that the object includes are parsed and dropped.

`added_object_shown` follows an object all the way: the script gets back what it has added, with
handles, without the included services, and with the permissions for writing one step up: the
permission to write becomes the one to write encrypted, that one becomes the one to write
encrypted with protection, and so on.
-/

namespace BluetoothFramework.Napi

/-- The descriptor that `CheckGattsAddService` builds. -/
def NapiBleDescriptor.toGattDescriptor (napiDescriptor : NapiBleDescriptor) : GattDescriptor :=
  GattDescriptor.setValue { uuid := napiDescriptor.descriptorUuid, permissions := napiDescriptor.permissions }
    napiDescriptor.descriptorValue

/-- The characteristic that `CheckGattsAddService` builds. -/
def NapiBleCharacteristic.toGattCharacteristic (napiCharacter : NapiBleCharacteristic) :
    GattCharacteristic :=
  { GattCharacteristic.setValue
      { uuid := napiCharacter.characteristicUuid
        permissions := napiCharacter.permissions
        properties := napiCharacter.properties
        writeType := writeTypeOf napiCharacter.properties }
      napiCharacter.characteristicValue with
    descriptors := napiCharacter.descriptors.map NapiBleDescriptor.toGattDescriptor }

/-- The service that `CheckGattsAddService` builds. It includes no services. -/
def NapiGattService.toGattService (napiGattService : NapiGattService) : GattService where
  uuid := napiGattService.serviceUuid
  isPrimary := napiGattService.isPrimary
  characteristics := napiGattService.characteristics.map NapiBleCharacteristic.toGattCharacteristic

/-- `CheckGattsAddService`, of the argument. -/
def checkGattsAddService (object : JsValue) : Parsed GattService := do
  let napiGattService ← napiParseGattService object
  pure napiGattService.toGattService

/-! ## What the script gets back -/

/-- The permissions for writing are one step up, and the highest is gone. -/
def NapiGattPermission.moved (napiPermissions : NapiGattPermission) : NapiGattPermission :=
  { napiPermissions with
    writeable := false
    writeEncrypted := napiPermissions.writeable
    writeEncryptedMitm := napiPermissions.writeEncrypted
    writeSigned := napiPermissions.writeEncryptedMitm
    writeSignedMitm := napiPermissions.writeSigned }

/-- The permissions are those of some flags, and come back as the flags that have moved. -/
def Moved (given shown : Int32) : Prop :=
  ∃ flags : NapiGattPermission, given = permissionsOf (convertGattPermissions flags) ∧
    shown = permissionsOf (convertGattPermissions flags.moved)

/-- A descriptor as it was given and as it is shown, of a service and a characteristic. -/
structure ShownDescriptor (service character : UUID) (given shown : NapiBleDescriptor) : Prop where
  serviceUuid : shown.serviceUuid = service
  characteristicUuid : shown.characteristicUuid = character
  descriptorUuid : shown.descriptorUuid = given.descriptorUuid
  descriptorValue : shown.descriptorValue = given.descriptorValue
  permissions : Moved given.permissions shown.permissions

/-- A characteristic as it was given and as it is shown, of a service. -/
structure ShownCharacteristic (service : UUID) (given shown : NapiBleCharacteristic) : Prop where
  serviceUuid : shown.serviceUuid = service
  characteristicUuid : shown.characteristicUuid = given.characteristicUuid
  characteristicValue : shown.characteristicValue = given.characteristicValue
  properties : shown.properties = given.properties
  permissions : Moved given.permissions shown.permissions
  descriptors : List.Forall₂ (ShownDescriptor service given.characteristicUuid) given.descriptors
    shown.descriptors

/-- A service as it was given and as it is shown. -/
structure ShownService (given shown : NapiGattService) : Prop where
  serviceUuid : shown.serviceUuid = given.serviceUuid
  isPrimary : shown.isPrimary = given.isPrimary
  characteristics : List.Forall₂ (ShownCharacteristic given.serviceUuid) given.characteristics
    shown.characteristics
  includeServices : shown.includeServices = []

/-! ## What the parser gives -/

/-- Two parsers in turn succeed exactly if the first does and the second does with its value. -/
theorem bind_eq_ok_iff {α β : Type} {parsed : Parsed α} {next : α → Parsed β} {value : β} :
    (parsed >>= next) = .ok value ↔ ∃ first, parsed = .ok first ∧ next first = .ok value := by
  cases parsed with
  | error exit => exact iff_of_false nofun (by rintro ⟨_, ⟨⟩, _⟩)
  | ok first => exact ⟨fun follows => ⟨first, rfl, follows⟩, by rintro ⟨_, ⟨⟩, follows⟩; exact follows⟩

/-- The permissions that are parsed come from flags. -/
theorem moved_of_flags (flags : NapiGattPermission) :
    Moved (permissionsOf (convertGattPermissions flags))
      (readBackPermissions (permissionsOf (convertGattPermissions flags))) := by
  refine ⟨flags, rfl, ?_⟩
  obtain ⟨a, b, c, d, e, f, g, h⟩ := flags
  revert a b c d e f g h
  decide +kernel

/-- The properties that are parsed come back as they are. -/
theorem readBackProperties_of_flags (flags : NapiGattProperties) :
    readBackProperties (permissionsOf (convertGattProperties flags)) =
      permissionsOf (convertGattProperties flags) := by
  obtain ⟨a, b, c, d, e, f, g, h⟩ := flags
  revert a b c d e f g h
  decide +kernel

/-- The permissions of a descriptor that was parsed move by one round trip as the rule says, for
the parser sets none but the named bits. -/
theorem moved_of_napiParseGattDescriptor {object : JsValue} {napiDescriptor : NapiBleDescriptor}
    (parsed : napiParseGattDescriptor object = .ok napiDescriptor) :
    Moved napiDescriptor.permissions (readBackPermissions napiDescriptor.permissions) := by
  simp only [napiParseGattDescriptor, bind_eq_ok_iff] at parsed
  obtain ⟨_, -, _, -, _, -, _, -, _, -, _, -, _, -, flags, -, _, -, _, -, _, -, built⟩ := parsed
  cases built
  exact moved_of_flags flags

/-- What is parsed of an array is parsed of an element. A property that the parser ensures for
every element thus holds in every list that it gives. -/
theorem exists_of_mem_napiParseArray {α : Type} {parse : JsValue → Parsed α} {array : JsValue}
    {values : List α}
    (parsed : napiParseArray parse array = .ok values) {value : α} (member : value ∈ values) :
    ∃ element, parse element = .ok value := by
  cases array with
  | array elements =>
    rw [napiParseArray] at parsed
    induction elements generalizing values with
    | nil => cases parsed; cases member
    | cons element rest inductionHypothesis =>
      simp only [List.mapM_cons, bind_eq_ok_iff] at parsed
      obtain ⟨first, here, others, there, built⟩ := parsed
      cases built
      rcases List.mem_cons.mp member with rfl | behind
      · exact ⟨element, here⟩
      · exact inductionHypothesis behind there
  | _ => cases parsed

/-- Every value of an array that was parsed comes from an element of it. -/
theorem exists_of_mem_napiParseObjectArray {α : Type} {parse : JsValue → Parsed α}
    {object : JsValue} {name : String} {values : List α}
    (parsed : napiParseObjectArray parse object name = .ok values) {value : α}
    (member : value ∈ values) : ∃ element, parse element = .ok value := by
  simp only [napiParseObjectArray, napiParseObject, bind_eq_ok_iff] at parsed
  obtain ⟨_, -, property, -, elements⟩ := parsed
  exact exists_of_mem_napiParseArray elements member

/-- What the parser gives for the bits of a characteristic and its descriptors. -/
structure Parseable (napiCharacter : NapiBleCharacteristic) : Prop where
  properties : readBackProperties napiCharacter.properties = napiCharacter.properties
  permissions : Moved napiCharacter.permissions (readBackPermissions napiCharacter.permissions)
  descriptors : ∀ napiDescriptor ∈ napiCharacter.descriptors,
    Moved napiDescriptor.permissions (readBackPermissions napiDescriptor.permissions)

/-- A characteristic that was parsed has permissions that the parser can set, in itself and in
its descriptors. -/
theorem parseable_of_napiParseGattCharacteristic {object : JsValue}
    {napiCharacter : NapiBleCharacteristic}
    (parsed : napiParseGattCharacteristic object = .ok napiCharacter) :
      Parseable napiCharacter := by
  simp only [napiParseGattCharacteristic, bind_eq_ok_iff] at parsed
  obtain ⟨_, -, _, -, _, -, _, -, _, -, descriptors, listed, properties, -, _, -, permissions, -, _, -, _, -,
    built⟩ := parsed
  cases built
  refine ⟨readBackProperties_of_flags properties, moved_of_flags permissions, fun napiDescriptor member => ?_⟩
  obtain ⟨element, parsed⟩ := exists_of_mem_napiParseObjectArray listed member
  exact moved_of_napiParseGattDescriptor parsed

/-- All characteristics of a service that was parsed are such. -/
theorem parseable_of_napiParseGattService {object : JsValue} {napiGattService : NapiGattService}
    (parsed : napiParseGattService object = .ok napiGattService) :
    ∀ napiCharacter ∈ napiGattService.characteristics, Parseable napiCharacter := by
  intro napiCharacter member
  simp only [napiParseGattService, parseGattService, bind_eq_ok_iff] at parsed
  obtain ⟨_, -, _, -, _, -, _, -, characteristics, listed, _, -, _, -, built⟩ := parsed
  cases built
  obtain ⟨element, parsed⟩ := exists_of_mem_napiParseObjectArray listed member
  exact parseable_of_napiParseGattCharacteristic parsed

/-! ## There and back -/

/-- A fresh object has the value it is given. -/
theorem toGattDescriptor_fields (napiDescriptor : NapiBleDescriptor) :
    napiDescriptor.toGattDescriptor.uuid = napiDescriptor.descriptorUuid ∧
      napiDescriptor.toGattDescriptor.permissions = napiDescriptor.permissions ∧
      napiDescriptor.toGattDescriptor.value = napiDescriptor.descriptorValue := by
  rw [NapiBleDescriptor.toGattDescriptor, GattDescriptor.setValue]
  split
  · rename_i empty
    exact ⟨rfl, rfl, (List.eq_nil_of_length_eq_zero empty).symm⟩
  · exact ⟨rfl, rfl, rfl⟩

/-- The inner characteristic of a parsed one has its UUID, its bits and its value. The
conversion assigns them in this order, and the descriptors after them. -/
theorem toGattCharacteristic_fields (napiCharacter : NapiBleCharacteristic) :
    napiCharacter.toGattCharacteristic.uuid = napiCharacter.characteristicUuid ∧
      napiCharacter.toGattCharacteristic.permissions = napiCharacter.permissions ∧
      napiCharacter.toGattCharacteristic.properties = napiCharacter.properties ∧
      napiCharacter.toGattCharacteristic.value = napiCharacter.characteristicValue := by
  rw [NapiBleCharacteristic.toGattCharacteristic, GattCharacteristic.setValue]
  split
  · rename_i empty
    exact ⟨rfl, rfl, rfl, (List.eq_nil_of_length_eq_zero empty).symm⟩
  · exact ⟨rfl, rfl, rfl, rfl⟩

/-- A descriptor that the server returned is shown as the script gave it, except for the
permissions, which have moved. -/
theorem shown_of_returned_descriptor {service character : UUID} {given : NapiBleDescriptor}
    {returned : GattDescriptor}
    (moved : Moved given.permissions (readBackPermissions given.permissions))
    (returns : given.toGattDescriptor.Returned returned) :
    ShownDescriptor service character given (.readFrom service character returned) := by
  obtain ⟨uuid, permissions, value⟩ := toGattDescriptor_fields given
  refine ⟨rfl, rfl, returns.uuid.trans uuid, returns.value.trans value, ?_⟩
  rw [NapiBleDescriptor.readFrom, returns.permissions, permissions]
  exact moved

/-- A characteristic that the server returned is shown as the script gave it, and so is each of
its descriptors. The two lists are compared place by place. -/
theorem shown_of_returned_characteristic {service : UUID} {given : NapiBleCharacteristic}
    {returned : GattCharacteristic} (parseable : Parseable given)
    (returns : given.toGattCharacteristic.Returned returned) :
    ShownCharacteristic service given (.readFrom service returned) := by
  obtain ⟨uuid, permissions, properties, value⟩ := toGattCharacteristic_fields given
  refine ⟨rfl, returns.uuid.trans uuid, returns.value.trans value, ?_, ?_, ?_⟩
  · rw [NapiBleCharacteristic.readFrom, returns.properties, properties]
    exact parseable.properties
  · rw [NapiBleCharacteristic.readFrom, returns.permissions, permissions]
    exact parseable.permissions
  · have descriptors : List.Forall₂ GattDescriptor.Returned
        (given.descriptors.map NapiBleDescriptor.toGattDescriptor) returned.descriptors :=
          returns.descriptors
    rw [List.forall₂_map_left_iff] at descriptors
    have both := (List.forall₂_and_left given.descriptors returned.descriptors).mpr
      ⟨parseable.descriptors, descriptors⟩
    rw [NapiBleCharacteristic.readFrom, List.forall₂_map_right_iff, returns.uuid, uuid]
    exact both.imp fun _ _ pair => shown_of_returned_descriptor pair.1 pair.2

/-- A service that includes none is written without nested calls. -/
theorem written_of_alone (services : Nat → Option GattService) (calls : Nat) (service : GattService)
    (alone : service.includeServices = []) :
    ∃ object, convertGattServiceToJS services (calls + 1) service = some object := by
  rw [convertGattServiceToJS, alone]
  exact ⟨_, rfl⟩

/-- What a script adds is what it is shown. Whatever handles the remote service assigns, the
new service of the list is written as an object that is parsed again, as the service that was
given but for the services it includes, the handles, the names of the owners and the
permissions for writing. -/
theorem added_object_shown {object : JsValue} {napiGattService : NapiGattService}
    (parsed : napiParseGattService object = .ok napiGattService) (server : GattServer)
    (outside : Nat → UInt16) {received : Service}
    (assigned : (napiGattService.toGattService.sent server.gattServices outside).Assigned received) :
    ∃ address added shown napiShown,
      (server.onAddService gattSuccess received).gattServices.entries =
        server.gattServices.entries ++ [(address, added)] ∧
      convertGattServiceToJS (server.onAddService gattSuccess received).gattServices.follow 1 added
        = some shown ∧
      napiParseGattService shown = .ok napiShown ∧ ShownService napiGattService napiShown := by
  have parseable := parseable_of_napiParseGattService parsed
  have alone : received.includeServices = [] := List.map_eq_nil_iff.mp assigned.includeServices
  have uuid : (buildService received).uuid = napiGattService.serviceUuid := by
    rw [buildService, assigned.uuid]
    exact UUID.convertFrom128Bits_sent napiGattService.serviceUuid
  have characteristics : List.Forall₂ (fun given returned => given.toGattCharacteristic.Returned returned)
      napiGattService.characteristics (buildService received).characteristics := by
    have assigned : List.Forall₂ Characteristic.Assigned
        ((napiGattService.characteristics.map NapiBleCharacteristic.toGattCharacteristic).map
          GattCharacteristic.sent) received.characteristics := assigned.characteristics
    rw [List.map_map, List.forall₂_map_left_iff] at assigned
    rw [buildService, List.forall₂_map_right_iff]
    exact assigned.imp fun _ _ => GattCharacteristic.returned
  have shows : List.Forall₂ (ShownCharacteristic napiGattService.serviceUuid) napiGattService.characteristics
      ((buildService received).characteristics.map (.readFrom napiGattService.serviceUuid)) := by
    have both := (List.forall₂_and_left _ _).mpr ⟨parseable, characteristics⟩
    rw [List.forall₂_map_right_iff]
    exact both.imp fun _ _ pair => shown_of_returned_characteristic pair.1 pair.2
  have free : (buildIncludeService server.gattServices (buildService received)
      received.includeServices).includeServices = [] := by
    rw [alone]
    rfl
  obtain ⟨shown, written⟩ :=
    written_of_alone (server.onAddService gattSuccess received).gattServices.follow 0 _ free
  obtain ⟨napiShown, related, read⟩ := parseGattService_written written
  refine ⟨_, _, shown, napiShown, rfl, written, read _ (Nat.lt_succ_self _), ?_⟩
  cases related with
  | intro _ srvs includeServices follows each =>
    rw [free] at follows
    cases follows
    cases each
    refine ⟨uuid, assigned.isPrimary, ?_, rfl⟩
    change List.Forall₂ _ _
      ((buildService received).characteristics.map
        (NapiBleCharacteristic.readFrom (buildService received).uuid))
    rw [uuid]
    exact shows

/-- The remote service may assign the handles that were sent. -/
theorem assigned_self (service : Service) : service.Assigned service where
  isPrimary := rfl
  uuid := rfl
  includeServices := rfl
  characteristics := List.forall₂_same.mpr fun _ _ =>
    ⟨rfl, rfl, rfl, rfl, List.forall₂_same.mpr fun _ _ => ⟨rfl, rfl, rfl⟩⟩

/-- A service with a characteristic and a descriptor is parsed, added, reported and shown again.
-/
theorem added_object_shown_descriptor :
    ∃ object napiGattService, napiParseGattService object = .ok napiGattService ∧
      ∃ address added shown napiShown,
        (GattServer.onAddService {} gattSuccess
          (napiGattService.toGattService.sent (GattServer.gattServices {}) fun _ => 0)).gattServices.entries =
            (GattServer.gattServices {}).entries ++ [(address, added)] ∧
        convertGattServiceToJS (GattServer.onAddService {} gattSuccess
          (napiGattService.toGattService.sent (GattServer.gattServices {}) fun _ => 0)).gattServices.follow 1
            added = some shown ∧
        napiParseGattService shown = .ok napiShown ∧ ShownService napiGattService napiShown := by
  obtain ⟨napiGattService, -, read⟩ := parseGattService_written
    (rfl : convertGattServiceToJS (fun _ => none) 1
      { characteristics := [{ descriptors := [{ value := [1], permissions := 8 }] }] } = some _)
  have parsed := read _ (Nat.lt_succ_self _)
  exact ⟨_, napiGattService, parsed, added_object_shown parsed {} (fun _ => 0) (assigned_self _)⟩

end BluetoothFramework.Napi
