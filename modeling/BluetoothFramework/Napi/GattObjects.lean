import BluetoothFramework.Gatt.Attributes
import BluetoothFramework.Napi.JsValues
import Mathlib.Data.List.Forall2

/-!
# Services as objects of the scripts

The functions that write a service of the API as an object, and the parser that takes such an
object apart. The writer follows the references of a service to the services it includes.
-/

namespace BluetoothFramework.Napi

/-- `NapiBleDescriptor` -/
structure NapiBleDescriptor where
  serviceUuid : UUID := {}
  characteristicUuid : UUID := {}
  descriptorUuid : UUID := {}
  descriptorValue : ByteString := []
  descriptorHandle : UInt16 := 0
  permissions : Int32 := 0
deriving DecidableEq

/-- `NapiBleCharacteristic` -/
structure NapiBleCharacteristic where
  serviceUuid : UUID := {}
  characteristicUuid : UUID := {}
  characteristicValue : ByteString := []
  descriptors : List NapiBleDescriptor := []
  properties : Int32 := 0
  characteristicValueHandle : UInt16 := 0
  permissions : Int32 := 0
deriving DecidableEq

/-- `NapiGattService` -/
structure NapiGattService where
  serviceUuid : UUID := {}
  isPrimary : Bool := true
  characteristics : List NapiBleCharacteristic := []
  includeServices : List NapiGattService := []

/-- `NapiGattPermission` -/
structure NapiGattPermission where
  readable : Bool := false
  readEncrypted : Bool := false
  readEncryptedMitm : Bool := false
  writeable : Bool := false
  writeEncrypted : Bool := false
  writeEncryptedMitm : Bool := false
  writeSigned : Bool := false
  writeSignedMitm : Bool := false
deriving DecidableEq, Repr

/-- `NapiGattProperties` -/
structure NapiGattProperties where
  write : Bool := false
  writeNoResponse : Bool := false
  read : Bool := false
  notify : Bool := false
  indicate : Bool := false
  broadcast : Bool := false
  authenticatedSignedWrite : Bool := false
  extendedProperties : Bool := false
deriving DecidableEq, Repr

/-! ## Permissions and properties -/

/-- The bits of `GattPermission`, which the parser sets. -/
def gattPermission : NapiGattPermission → List (Bool × UInt16)
  | napiPermissions =>
    [(napiPermissions.readable, 0x01), (napiPermissions.readEncrypted, 0x02),
      (napiPermissions.readEncryptedMitm, 0x04), (napiPermissions.writeable, 0x10),
      (napiPermissions.writeEncrypted, 0x20), (napiPermissions.writeEncryptedMitm, 0x40),
      (napiPermissions.writeSigned, 0x80), (napiPermissions.writeSignedMitm, 0x100)]

/-- The bits of `GattCharacteristic::Propertie`, in the order of the parser. -/
def gattProperties : NapiGattProperties → List (Bool × UInt16)
  | napiProperties =>
    [(napiProperties.read, 0x02), (napiProperties.write, 0x08), (napiProperties.writeNoResponse, 0x04),
      (napiProperties.notify, 0x10), (napiProperties.indicate, 0x20),
      (napiProperties.broadcast, 0x01),
      (napiProperties.authenticatedSignedWrite, 0x40), (napiProperties.extendedProperties, 0x80)]

/-- The bits that are set, one after the other. -/
def setBits (bits : List (Bool × UInt16)) : UInt16 :=
  bits.foldl (fun set bit => if bit.1 then set ||| bit.2 else set) 0

/-- `ConvertGattPermissions` -/
def convertGattPermissions (napiPermissions : NapiGattPermission) : UInt16 :=
  setBits (gattPermission napiPermissions)

/-- `ConvertGattProperties` -/
def convertGattProperties (napiProperties : NapiGattProperties) : UInt16 :=
  setBits (gattProperties napiProperties)

/-- `HasProperty` and `HasPermission` -/
def hasBit (bits mask : Int32) : Bool :=
  if bits < 0 || mask < 0 then false else bits.toUInt32 &&& mask.toUInt32 ≠ 0

/-- `ConvertGattPropertiesToJs`, the fields of the object. -/
def NapiGattProperties.of (properties : Int32) : NapiGattProperties where
  write := hasBit properties 0x08
  writeNoResponse := hasBit properties 0x04
  read := hasBit properties 0x02
  notify := hasBit properties 0x10
  indicate := hasBit properties 0x20
  broadcast := hasBit properties 0x01
  authenticatedSignedWrite := hasBit properties 0x40
  extendedProperties := hasBit properties 0x80

/-- `ConvertGattPermissionsToJs`, the fields of the object. The bits are those of
`GattCharacteristic::Permission`, of which the ones for writing lie lower than in
`GattPermission`. -/
def NapiGattPermission.of (permissions : Int32) : NapiGattPermission where
  readable := hasBit permissions 0x01
  readEncrypted := hasBit permissions 0x02
  readEncryptedMitm := hasBit permissions 0x04
  writeable := hasBit permissions 0x08
  writeEncrypted := hasBit permissions 0x10
  writeEncryptedMitm := hasBit permissions 0x20
  writeSigned := hasBit permissions 0x40
  writeSignedMitm := hasBit permissions 0x80

/-- `ConvertGattPropertiesToJs` -/
def convertGattPropertiesToJs (properties : Int32) : JsValue :=
  let bits := NapiGattProperties.of properties
  .object [("write", .boolean bits.write), ("writeNoResponse", .boolean bits.writeNoResponse),
    ("read", .boolean bits.read), ("notify", .boolean bits.notify), ("indicate", .boolean bits.indicate),
    ("broadcast", .boolean bits.broadcast),
    ("authenticatedSignedWrite", .boolean bits.authenticatedSignedWrite),
    ("extendedProperties", .boolean bits.extendedProperties)]

/-- `ConvertGattPermissionsToJs` -/
def convertGattPermissionsToJs (permissions : Int32) : JsValue :=
  let bits := NapiGattPermission.of permissions
  .object [("read", .boolean bits.readable), ("readEncrypted", .boolean bits.readEncrypted),
    ("readEncryptedMitm", .boolean bits.readEncryptedMitm), ("write", .boolean bits.writeable),
    ("writeEncrypted", .boolean bits.writeEncrypted),
    ("writeEncryptedMitm", .boolean bits.writeEncryptedMitm), ("writeSigned", .boolean bits.writeSigned),
    ("writeSignedMitm", .boolean bits.writeSignedMitm)]

/-- `DEFAULT_GATT_PERMISSIONS` -/
def defaultGattPermissions : NapiGattPermission where
  readable := true
  writeable := true

/-- `DEFAULT_GATT_PROPERTIES` -/
def defaultGattProperties : NapiGattProperties where
  write := true
  writeNoResponse := true
  read := true

/-- `NapiParseObjectGattPermissions` -/
def napiParseObjectGattPermissions (object : JsValue) (name : String) :
    Parsed NapiGattPermission := do
  napiIsObject object
  let permissionObject ← napiGetObjectProperty object name
  napiCheckObjectPropertiesName permissionObject ["read", "readEncrypted", "readEncryptedMitm", "write",
    "writeEncrypted", "writeEncryptedMitm", "writeSigned", "writeSignedMitm"]
  let readable ← napiParseObjectBooleanOptional permissionObject "read" false
  let readEncrypted ← napiParseObjectBooleanOptional permissionObject "readEncrypted" false
  let readEncryptedMitm ← napiParseObjectBooleanOptional permissionObject "readEncryptedMitm" false
  let writeable ← napiParseObjectBooleanOptional permissionObject "write" false
  let writeEncrypted ← napiParseObjectBooleanOptional permissionObject "writeEncrypted" false
  let writeEncryptedMitm ← napiParseObjectBooleanOptional permissionObject "writeEncryptedMitm" false
  let writeSigned ← napiParseObjectBooleanOptional permissionObject "writeSigned" false
  let writeSignedMitm ← napiParseObjectBooleanOptional permissionObject "writeSignedMitm" false
  pure { readable, readEncrypted, readEncryptedMitm, writeable, writeEncrypted, writeEncryptedMitm,
         writeSigned, writeSignedMitm }

/-- `NapiParseObjectGattProperties` -/
def napiParseObjectGattProperties (object : JsValue) (name : String) :
    Parsed NapiGattProperties := do
  napiIsObject object
  let propertiesObject ← napiGetObjectProperty object name
  napiCheckObjectPropertiesName propertiesObject ["write", "writeNoResponse", "read", "notify", "indicate",
    "broadcast", "authenticatedSignedWrite", "extendedProperties"]
  let write ← napiParseObjectBooleanOptional propertiesObject "write" false
  let writeNoResponse ← napiParseObjectBooleanOptional propertiesObject "writeNoResponse" false
  let read ← napiParseObjectBooleanOptional propertiesObject "read" false
  let notify ← napiParseObjectBooleanOptional propertiesObject "notify" false
  let indicate ← napiParseObjectBooleanOptional propertiesObject "indicate" false
  let broadcast ← napiParseObjectBooleanOptional propertiesObject "broadcast" false
  let authenticatedSignedWrite ←
    napiParseObjectBooleanOptional propertiesObject "authenticatedSignedWrite" false
  let extendedProperties ← napiParseObjectBooleanOptional propertiesObject "extendedProperties" false
  pure { write, writeNoResponse, read, notify, indicate, broadcast, authenticatedSignedWrite,
         extendedProperties }

/-! ## The parser -/

/-- `static_cast<int>` of the bits the parser has set. -/
def permissionsOf (bits : UInt16) : Int32 :=
  bits.toUInt32.toInt32

/-- The optional `characteristicValueHandle` or `descriptorHandle`. -/
def parseHandle (object : JsValue) (name : String) : Parsed UInt32 :=
  if napiIsObjectPropertyExist object name then do
    let handle ← napiParseObjectUint32 object name
    returnIf (0xFFFF < handle) .invalidArg
    pure handle
  else pure 0

/-- The optional `permissions`. -/
def parsePermissions (object : JsValue) : Parsed NapiGattPermission :=
  if napiIsObjectPropertyExist object "permissions" then
    napiParseObjectGattPermissions object "permissions"
  else pure defaultGattPermissions

/-- The optional `properties`. -/
def parseProperties (object : JsValue) : Parsed NapiGattProperties :=
  if napiIsObjectPropertyExist object "properties" then napiParseObjectGattProperties object "properties"
  else pure defaultGattProperties

/-- `NapiParseGattDescriptor` -/
def napiParseGattDescriptor (object : JsValue) : Parsed NapiBleDescriptor := do
  napiCheckObjectPropertiesName object ["serviceUuid", "characteristicUuid", "descriptorUuid",
    "descriptorValue", "descriptorHandle", "permissions"]
  napiIsObject object
  let serviceUuid ← napiParseObjectUuid object "serviceUuid"
  let characterUuid ← napiParseObjectUuid object "characteristicUuid"
  let descriptorUuid ← napiParseObjectUuid object "descriptorUuid"
  let descriptorValue ← napiParseObjectArrayBuffer object "descriptorValue"
  let descriptorHandle ← parseHandle object "descriptorHandle"
  let permissions ← parsePermissions object
  pure {
    serviceUuid := ← uuidFromString serviceUuid
    characteristicUuid := ← uuidFromString characterUuid
    descriptorUuid := ← uuidFromString descriptorUuid
    descriptorValue := descriptorValue
    descriptorHandle := descriptorHandle.toUInt16
    permissions := permissionsOf (convertGattPermissions permissions) }

/-- `NapiParseGattCharacteristic` -/
def napiParseGattCharacteristic (object : JsValue) : Parsed NapiBleCharacteristic := do
  napiCheckObjectPropertiesName object ["serviceUuid", "characteristicUuid", "characteristicValue",
    "descriptors", "properties", "characteristicValueHandle", "permissions"]
  napiIsObject object
  let serviceUuid ← napiParseObjectUuid object "serviceUuid"
  let characterUuid ← napiParseObjectUuid object "characteristicUuid"
  let characterValue ← napiParseObjectArrayBuffer object "characteristicValue"
  let descriptors ← napiParseObjectArray napiParseGattDescriptor object "descriptors"
  let properties ← parseProperties object
  let characteristicValueHandle ← parseHandle object "characteristicValueHandle"
  let permissions ← parsePermissions object
  pure {
    serviceUuid := ← uuidFromString serviceUuid
    characteristicUuid := ← uuidFromString characterUuid
    characteristicValue := characterValue
    descriptors := descriptors
    properties := permissionsOf (convertGattProperties properties)
    characteristicValueHandle := characteristicValueHandle.toUInt16
    permissions := permissionsOf (convertGattPermissions permissions) }

/-- The optional `includeServices`, with the parser of services. -/
def parseIncludeServices (parse : JsValue → Parsed NapiGattService) (object : JsValue) :
    Parsed (List NapiGattService) :=
  if napiIsObjectPropertyExist object "includeServices" then
    napiParseObjectArray parse object "includeServices"
  else pure []

/-- `NapiParseGattService`, for services that are nested less deep than the first argument. -/
def parseGattService : Nat → JsValue → Parsed NapiGattService
  | 0, _ => throw .nested
  | nesting + 1, object => do
      napiCheckObjectPropertiesName object ["serviceUuid", "isPrimary", "characteristics", "includeServices"]
      napiIsObject object
      let uuid ← napiParseObjectUuid object "serviceUuid"
      let isPrimary ← napiParseObjectBoolean object "isPrimary"
      let characteristics ← napiParseObjectArray napiParseGattCharacteristic object "characteristics"
      let includeServices ← parseIncludeServices (parseGattService nesting) object
      pure {
        serviceUuid := ← uuidFromString uuid
        isPrimary := isPrimary
        characteristics := characteristics
        includeServices := includeServices }

/-- `NapiParseGattService` -/
def napiParseGattService (object : JsValue) : Parsed NapiGattService :=
  parseGattService (object.depth + 1) object

/-! ## The writer -/

/-- `ConvertBLEDescriptorToJS`, of a descriptor of the characteristic and the service. -/
def convertBLEDescriptorToJS (serviceUuid characteristicUuid : UUID)
    (descriptor : GattDescriptor) : JsValue :=
  .object [("descriptorUuid", .string descriptor.uuid.toString),
    ("characteristicUuid", .string characteristicUuid.toString),
    ("serviceUuid", .string serviceUuid.toString), ("descriptorValue", .arrayBuffer descriptor.value),
    ("descriptorHandle", .number descriptor.handle.toNat),
    ("permissions", convertGattPermissionsToJs descriptor.permissions)]

/-- `ConvertBLECharacteristicToJS`, of a characteristic of the service. -/
def convertBLECharacteristicToJS (serviceUuid : UUID)
    (characteristic : GattCharacteristic) : JsValue :=
  .object [("characteristicUuid", .string characteristic.uuid.toString),
    ("serviceUuid", .string serviceUuid.toString),
    ("characteristicValue", .arrayBuffer characteristic.value),
    ("properties", convertGattPropertiesToJs characteristic.properties),
    ("permissions", convertGattPermissionsToJs characteristic.permissions),
    ("descriptors",
      .array (characteristic.descriptors.map (convertBLEDescriptorToJS serviceUuid characteristic.uuid))),
    ("characteristicValueHandle", .number characteristic.handle.toNat)]

/-- `ConvertGattServiceToJS`, with what the references to services lead to. The first argument
bounds the nested calls. Nothing comes out if the calls are nested deeper or a reference leads
nowhere. -/
def convertGattServiceToJS (services : Nat → Option GattService) :
    Nat → GattService → Option JsValue
  | 0, _ => none
  | calls + 1, service => do
      let srvs ← service.includeServices.mapM services
      let includeServices ← srvs.mapM (convertGattServiceToJS services calls)
      pure (.object [("serviceUuid", .string service.uuid.toString), ("isPrimary", .boolean service.isPrimary),
        ("characteristics", .array (service.characteristics.map (convertBLECharacteristicToJS service.uuid))),
        ("includeServices", .array includeServices)])

/-- `ConvertGattServiceVectorToJS` -/
def convertGattServiceVectorToJS (services : Nat → Option GattService) (calls : Nat)
    (vector : List GattService) : Option JsValue :=
  (vector.mapM (convertGattServiceToJS services calls)).map .array

/-- A monadic map that comes out relates the values one by one. -/
theorem forall₂_of_mapM {α β : Type} {f : α → Option β} {values : List α} {results : List β}
    (mapped : values.mapM f = some results) :
    List.Forall₂ (fun value result => f value = some result) values results := by
  induction values generalizing results with
  | nil => cases mapped; exact .nil
  | cons value rest inductionHypothesis =>
    rw [List.mapM_cons] at mapped
    obtain ⟨first, here, mapped⟩ := Option.bind_eq_some_iff.mp mapped
    obtain ⟨others, there, mapped⟩ := Option.bind_eq_some_iff.mp mapped
    cases mapped
    exact .cons here (inductionHypothesis there)

end BluetoothFramework.Napi
