import BluetoothFramework.Napi.GattObjects

/-!
# What the parser of services accepts

Which objects are services is said without the parser: which properties they may have, which
they must have and what is in them. `napiParseGattService_decides` says that the parser gives
a service for exactly these objects, and returns a status for all other values of the scripts.
In particular it never throws, since a text is checked before it is read as a UUID.
-/

namespace BluetoothFramework.Napi

/-- The parser gives a value if the condition holds, and returns a status if not. -/
def Decides {α : Type} (parsed : Parsed α) (condition : Prop) : Prop :=
  match parsed with
  | .ok _ => condition
  | .error (.status _) => ¬condition
  | .error _ => False

section Rules

variable {α β : Type} {parsed : Parsed α} {next : α → Parsed β} {condition further : Prop}

/-- A condition may be replaced by an equivalent one. -/
theorem decides_congr (same : condition ↔ further) (decides : Decides parsed condition) :
    Decides parsed further := by
  rwa [propext same] at decides

/-- A parser that only returns decides the condition that always holds. -/
theorem decides_pure (value : α) : Decides (pure value) True :=
  trivial

/-- The check decides that it does not fail. -/
theorem decides_returnIf (fails : Bool) (status : NapiStatus) :
    Decides (returnIf fails status) (fails = false) := by
  cases fails
  · exact rfl
  · exact nofun

/-- Two parsers in turn decide both conditions. The second one need only be known for a value
that the first can give. -/
theorem decides_bind (first : Decides parsed condition)
    (second : ∀ value, parsed = .ok value → Decides (next value) further) :
    Decides (parsed >>= next) (condition ∧ further) := by
  match parsed with
  | .ok value =>
    have holds : condition := first
    exact decides_congr (by simp [holds]) (second value rfl)
  | .error (.status status) =>
    have fails : ¬condition := first
    exact fun both => fails both.1

/-- A parser that decides a condition succeeds exactly where the condition holds. -/
theorem exists_ok_of_decides (decides : Decides parsed condition) :
    (∃ value, parsed = .ok value) ↔ condition := by
  match parsed with
  | .ok value => exact iff_of_true ⟨value, rfl⟩ decides
  | .error (.status _) => exact iff_of_false (by rintro ⟨value, ⟨⟩⟩) decides

/-- An array is in order if every element is. -/
theorem decides_mapM {parse : α → Parsed β} {fits : α → Prop} (values : List α)
    (each : ∀ value ∈ values, Decides (parse value) (fits value)) :
    Decides (values.mapM parse) (∀ value ∈ values, fits value) := by
  induction values with
  | nil => exact decides_congr (by simp) (decides_pure [])
  | cons value rest inductionHypothesis =>
    rw [List.mapM_cons]
    have here := each value (by simp)
    have there := inductionHypothesis fun other member => each other (by simp [member])
    refine decides_congr ?_ (decides_bind here fun _ _ => decides_bind there fun _ _ => decides_pure _)
    simp

end Rules

/-! ## Which values are what -/

/-- An object without other properties than these. -/
def OnlyProperties (value : JsValue) (names : List String) : Prop :=
  value.isObject = true ∧ ∀ name ∈ value.propertyNames, name ∈ names

/-- The property is there, and something holds of it. -/
def Has (value : JsValue) (name : String) (fits : JsValue → Prop) : Prop :=
  ∃ property, value.namedProperty name = some property ∧ fits property

/-- If the property is there, something holds of it. -/
def MayHave (value : JsValue) (name : String) (fits : JsValue → Prop) : Prop :=
  ∀ property, value.namedProperty name = some property → fits property

/-- A boolean. -/
def IsBoolean (value : JsValue) : Prop :=
  ∃ boolean, value = .boolean boolean

/-- The text of a UUID. -/
def IsUuid (value : JsValue) : Prop :=
  ∃ text, value = .string text ∧ isValidUuid text = true

/-- An array buffer. -/
def IsArrayBuffer (value : JsValue) : Prop :=
  ∃ data, value = .arrayBuffer data

/-- A number whose lowest 32 bits are the handle of an attribute. -/
def IsHandle (value : JsValue) : Prop :=
  ∃ number, value = .number number ∧ number % 2 ^ 32 ≤ 0xFFFF

/-- An array, all of whose elements are something. -/
def IsArrayOf (fits : JsValue → Prop) (value : JsValue) : Prop :=
  ∃ elements, value = .array elements ∧ ∀ element ∈ elements, fits element

/-- An object of flags. -/
def IsFlags (names : List String) (value : JsValue) : Prop :=
  OnlyProperties value names ∧ ∀ name ∈ names, MayHave value name IsBoolean

/-- The permissions of an attribute. -/
def IsGattPermissions : JsValue → Prop :=
  IsFlags ["read", "readEncrypted", "readEncryptedMitm", "write", "writeEncrypted", "writeEncryptedMitm",
    "writeSigned", "writeSignedMitm"]

/-- The properties of a characteristic. -/
def IsGattProperties : JsValue → Prop :=
  IsFlags ["write", "writeNoResponse", "read", "notify", "indicate", "broadcast",
    "authenticatedSignedWrite", "extendedProperties"]

/-- A descriptor. -/
structure IsGattDescriptor (value : JsValue) : Prop where
  names : OnlyProperties value ["serviceUuid", "characteristicUuid", "descriptorUuid", "descriptorValue",
    "descriptorHandle", "permissions"]
  serviceUuid : Has value "serviceUuid" IsUuid
  characteristicUuid : Has value "characteristicUuid" IsUuid
  descriptorUuid : Has value "descriptorUuid" IsUuid
  descriptorValue : Has value "descriptorValue" IsArrayBuffer
  descriptorHandle : MayHave value "descriptorHandle" IsHandle
  permissions : MayHave value "permissions" IsGattPermissions

/-- A characteristic. -/
structure IsGattCharacteristic (value : JsValue) : Prop where
  names : OnlyProperties value ["serviceUuid", "characteristicUuid", "characteristicValue", "descriptors",
    "properties", "characteristicValueHandle", "permissions"]
  serviceUuid : Has value "serviceUuid" IsUuid
  characteristicUuid : Has value "characteristicUuid" IsUuid
  characteristicValue : Has value "characteristicValue" IsArrayBuffer
  descriptors : Has value "descriptors" (IsArrayOf IsGattDescriptor)
  properties : MayHave value "properties" IsGattProperties
  characteristicValueHandle : MayHave value "characteristicValueHandle" IsHandle
  permissions : MayHave value "permissions" IsGattPermissions

/-- A service, apart from the services it includes. -/
structure IsGattServiceHead (value : JsValue) : Prop where
  names : OnlyProperties value ["serviceUuid", "isPrimary", "characteristics", "includeServices"]
  serviceUuid : Has value "serviceUuid" IsUuid
  isPrimary : Has value "isPrimary" IsBoolean
  characteristics : Has value "characteristics" (IsArrayOf IsGattCharacteristic)

/-- A service. The services it includes are again services. -/
inductive IsGattService : JsValue → Prop where
  | alone (value : JsValue) (head : IsGattServiceHead value)
      (absent : value.namedProperty "includeServices" = none) : IsGattService value
  | including (value : JsValue) (head : IsGattServiceHead value) (elements : List JsValue)
      (present : value.namedProperty "includeServices" = some (.array elements))
      (each : ∀ element ∈ elements, IsGattService element) : IsGattService value

/-! ## Values -/

/-- The check for an object succeeds exactly on objects. -/
theorem napiIsObject_decides (value : JsValue) :
    Decides (napiIsObject value) (value.isObject = true) :=
  decides_congr (by simp) (decides_returnIf _ _)

/-- The parser of a boolean succeeds exactly on booleans. -/
theorem napiParseBoolean_decides (value : JsValue) :
    Decides (napiParseBoolean value) (IsBoolean value) := by
  cases value with
  | boolean boolean => exact ⟨boolean, rfl⟩
  | _ => exact fun ⟨_, boolean⟩ => nomatch boolean

/-- The parser of a buffer succeeds exactly on array buffers. -/
theorem napiParseArrayBuffer_decides (value : JsValue) :
    Decides (napiParseArrayBuffer value) (IsArrayBuffer value) := by
  cases value with
  | arrayBuffer data => exact ⟨data, rfl⟩
  | _ => exact fun ⟨_, data⟩ => nomatch data

/-- The parser of a UUID succeeds exactly on valid texts of UUIDs. A number or an object is
refused before the text is looked at. -/
theorem napiParseUuid_decides (value : JsValue) : Decides (napiParseUuid value) (IsUuid value) := by
  cases value with
  | string text =>
    rw [napiParseUuid_string]
    split
    · rename_i valid
      exact ⟨text, rfl, valid⟩
    · rename_i invalid
      rintro ⟨_, ⟨⟩, valid⟩
      exact invalid valid
  | _ => exact fun ⟨_, text, _⟩ => nomatch text

/-- A number is decided by its lowest 32 bits. The conversion of the engine drops the others
before the bound is checked, so that a number far above it may pass. -/
theorem parseNumber_decides (value : JsValue) :
    Decides (do let handle ← napiParseUint32 value
                returnIf (0xFFFF < handle) .invalidArg
                pure handle) (IsHandle value) := by
  cases value with
  | number number =>
    have bits : (UInt32.ofInt number).toNat = (number % 2 ^ 32).toNat := by
      simp [UInt32.ofInt]
      omega
    have holds : IsHandle (.number number) ↔ decide (0xFFFF < UInt32.ofInt number) = false := by
      rw [decide_eq_false_iff_not, UInt32.lt_iff_toNat_lt, bits]
      constructor
      · rintro ⟨_, ⟨⟩, small⟩
        simp
        omega
      · intro small
        refine ⟨number, rfl, ?_⟩
        simp at small
        omega
    change Decides (returnIf (0xFFFF < UInt32.ofInt number) .invalidArg >>= fun _ =>
      pure (UInt32.ofInt number)) _
    refine decides_congr ?_ (decides_bind (decides_returnIf _ _) fun _ _ => decides_pure _)
    rw [holds, and_true]
  | _ => exact fun ⟨_, number, _⟩ => nomatch number

/-- An array is parsed exactly if each element fits. The parser of an element is only asked to
decide for the elements of the array, so that it may be a call of the function that is being
defined. -/
theorem napiParseArray_decides {α : Type} {parse : JsValue → Parsed α} {fits : JsValue → Prop}
    (value : JsValue) (each : ∀ elements, value = .array elements →
      ∀ element ∈ elements, Decides (parse element) (fits element)) :
    Decides (napiParseArray parse value) (IsArrayOf fits value) := by
  cases value with
  | array elements =>
    refine decides_congr ?_ (decides_mapM elements (each elements rfl))
    exact ⟨fun all => ⟨elements, rfl, all⟩, fun ⟨_, same, all⟩ => by cases same; exact all⟩
  | _ => exact fun ⟨_, elements, _⟩ => nomatch elements

/-! ## Properties -/

/-- A mandatory property is parsed exactly if the object has it and its value fits. The parser of
the value is only asked to decide for the value that is there. -/
theorem napiParseObject_decides {α : Type} {parse : JsValue → Parsed α} {fits : JsValue → Prop}
    (object : JsValue) (name : String)
    (parses : ∀ property, object.namedProperty name = some property →
      Decides (parse property) (fits property)) :
    Decides (napiParseObject parse object name) (Has object name fits) := by
  cases object with
  | object properties =>
    rw [napiParseObject_object]
    cases found : properties.lookup name with
    | none => exact fun ⟨_, present, _⟩ => nomatch found.symm.trans present
    | some property =>
      refine decides_congr ?_ (parses property found)
      constructor
      · exact fun holds => ⟨property, found, holds⟩
      · rintro ⟨_, present, holds⟩
        cases found.symm.trans present
        exact holds
  | _ => exact fun ⟨_, present, _⟩ => nomatch present

/-- An optional boolean is refused only if the object has the property with another type of
value. -/
theorem napiParseObjectBooleanOptional_decides (object : JsValue)
    (isObject : object.isObject = true) (name : String) (outBoolean : Bool) :
    Decides (napiParseObjectBooleanOptional object name outBoolean) (MayHave object name IsBoolean) := by
  have absent (none : object.namedProperty name = none) : MayHave object name IsBoolean := by
    intro property present
    cases none.symm.trans present
  cases object with
  | object properties =>
    rw [napiParseObjectBooleanOptional_object]
    cases found : properties.lookup name with
    | none => exact absent found
    | some property =>
      refine decides_congr ?_ (napiParseBoolean_decides property)
      constructor
      · rintro holds _ present
        cases found.symm.trans present
        exact holds
      · exact fun holds => holds property found
  | array elements => exact absent rfl
  | arrayBuffer data => exact absent rfl
  | uint8Array data => exact absent rfl
  | _ => cases isObject

/-- The check of the names succeeds exactly if the object has no property beside those of the
list. -/
theorem napiCheckObjectPropertiesName_decides (object : JsValue) (names : List String) :
    Decides (napiCheckObjectPropertiesName object names) (OnlyProperties object names) := by
  have loop (properties : List String) :
      Decides (properties.forM fun name => returnIf (!names.contains name) .invalidArg)
        (∀ name ∈ properties, name ∈ names) := by
    induction properties with
    | nil => exact decides_congr (by simp) (decides_pure ())
    | cons name rest inductionHypothesis =>
      refine decides_congr ?_ (decides_bind (decides_returnIf _ _) fun _ _ => inductionHypothesis)
      simp
  exact decides_bind (napiIsObject_decides object) fun _ _ => loop object.propertyNames

/-- A parser of an optional property succeeds where the property is absent, and otherwise decides
what the parser of the mandatory one does. -/
theorem optional_decides {α : Type} {object : JsValue} {name : String} {fits : JsValue → Prop}
    {parse : Parsed α} (default : α) (isObject : object.isObject = true)
    (parses : Decides parse (Has object name fits)) :
    Decides (if napiIsObjectPropertyExist object name then parse else pure default)
      (MayHave object name fits) := by
  have exists_iff : napiIsObjectPropertyExist object name = (object.namedProperty name).isSome := by
    rw [napiIsObjectPropertyExist, isObject, Bool.true_and]
  rw [exists_iff]
  cases found : object.namedProperty name with
  | none => exact fun property present => nomatch found.symm.trans present
  | some property =>
    refine decides_congr ?_ parses
    constructor
    · rintro ⟨_, present, holds⟩ other same
      cases present.symm.trans same
      exact holds
    · exact fun holds => ⟨property, found, holds property found⟩

/-- Behind a check for an object there is one. -/
theorem isObject_of_check {object : JsValue} {names : List String} {value : Unit}
    (checked : napiCheckObjectPropertiesName object names = .ok value) : object.isObject = true :=
  ((exists_ok_of_decides (napiCheckObjectPropertiesName_decides object names)).mp ⟨value, checked⟩).1

/-- A handle may be left out, but must be a number where it is given. -/
theorem parseHandle_decides (object : JsValue) (isObject : object.isObject = true) (name : String) :
    Decides (parseHandle object name) (MayHave object name IsHandle) := by
  refine optional_decides 0 isObject ?_
  have whole := napiParseObject_decides object name fun property _ =>
    parseNumber_decides property
  have same : (do
      let handle ← napiParseObjectUint32 object name
      returnIf (0xFFFF < handle) .invalidArg
      pure handle) =
      napiParseObject (fun property => do
        let handle ← napiParseUint32 property
        returnIf (0xFFFF < handle) .invalidArg
        pure handle) object name := by
    simp only [napiParseObjectUint32, napiParseObject, bind_assoc]
  rwa [same]

/-! ## Attributes and services -/

/-- The permissions of an object are parsed exactly if it has the property and its flags are
booleans. -/
theorem napiParseObjectGattPermissions_decides (object : JsValue) (name : String) :
    Decides (napiParseObjectGattPermissions object name) (Has object name IsGattPermissions) := by
  refine napiParseObject_decides object name fun flags _ => ?_
  apply decides_congr
  case decides =>
    exact decides_bind (napiCheckObjectPropertiesName_decides flags _) fun _ checked =>
      have flag := napiParseObjectBooleanOptional_decides flags (isObject_of_check checked)
      decides_bind (flag _ _) fun _ _ => decides_bind (flag _ _) fun _ _ =>
      decides_bind (flag _ _) fun _ _ => decides_bind (flag _ _) fun _ _ =>
      decides_bind (flag _ _) fun _ _ => decides_bind (flag _ _) fun _ _ =>
      decides_bind (flag _ _) fun _ _ => decides_bind (flag _ _) fun _ _ => decides_pure _
  case same => simp [IsGattPermissions, IsFlags]

/-- The properties of a characteristic are parsed under the same kind of condition as the
permissions, with the names of the flags in its place. -/
theorem napiParseObjectGattProperties_decides (object : JsValue) (name : String) :
    Decides (napiParseObjectGattProperties object name) (Has object name IsGattProperties) := by
  refine napiParseObject_decides object name fun flags _ => ?_
  apply decides_congr
  case decides =>
    exact decides_bind (napiCheckObjectPropertiesName_decides flags _) fun _ checked =>
      have flag := napiParseObjectBooleanOptional_decides flags (isObject_of_check checked)
      decides_bind (flag _ _) fun _ _ => decides_bind (flag _ _) fun _ _ =>
      decides_bind (flag _ _) fun _ _ => decides_bind (flag _ _) fun _ _ =>
      decides_bind (flag _ _) fun _ _ => decides_bind (flag _ _) fun _ _ =>
      decides_bind (flag _ _) fun _ _ => decides_bind (flag _ _) fun _ _ => decides_pure _
  case same => simp [IsGattProperties, IsFlags]

/-- Permissions may be left out, and must be well formed where they are given. -/
theorem parsePermissions_decides (object : JsValue) (isObject : object.isObject = true) :
    Decides (parsePermissions object) (MayHave object "permissions" IsGattPermissions) :=
  optional_decides _ isObject (napiParseObjectGattPermissions_decides object _)

/-- Properties may be left out, and must be well formed where they are given. -/
theorem parseProperties_decides (object : JsValue) (isObject : object.isObject = true) :
    Decides (parseProperties object) (MayHave object "properties" IsGattProperties) :=
  optional_decides _ isObject (napiParseObjectGattProperties_decides object _)

/-- A mandatory UUID is parsed exactly if the object has the property and it is the text of a
UUID. -/
theorem napiParseObjectUuid_decides (object : JsValue) (name : String) :
    Decides (napiParseObjectUuid object name) (Has object name IsUuid) :=
  napiParseObject_decides object name fun property _ => napiParseUuid_decides property

/-- The text that was checked gives a UUID. -/
theorem uuidFromString_decides {object : JsValue} {name : String} {uuid : ByteString}
    (parsed : napiParseObjectUuid object name = .ok uuid) : Decides (uuidFromString uuid) True := by
  have valid : isValidUuid uuid = true := by
    cases object with
    | object properties =>
      rw [napiParseObjectUuid, napiParseObject_object] at parsed
      cases found : properties.lookup name with
      | none => rw [found] at parsed; cases parsed
      | some property =>
        rw [found] at parsed
        exact isValidUuid_of_napiParseUuid parsed
    | _ => cases parsed
  obtain ⟨read, converted⟩ := uuidFromString_ok valid
  rw [converted]
  exact decides_pure read

/-- A mandatory value is parsed exactly if the object has the property and it is an array
buffer. -/
theorem napiParseObjectArrayBuffer_decides (object : JsValue) (name : String) :
    Decides (napiParseObjectArrayBuffer object name) (Has object name IsArrayBuffer) :=
  napiParseObject_decides object name fun property _ => napiParseArrayBuffer_decides property

/-- `NapiParseGattDescriptor` accepts the descriptors. Only the handle and the permissions may be
left out. -/
theorem napiParseGattDescriptor_decides (object : JsValue) :
    Decides (napiParseGattDescriptor object) (IsGattDescriptor object) := by
  apply decides_congr
  case decides =>
    exact decides_bind (napiCheckObjectPropertiesName_decides object _) fun _ checked =>
      have isObject := isObject_of_check checked
      decides_bind (napiIsObject_decides object) fun _ _ =>
      decides_bind (napiParseObjectUuid_decides object _) fun _ serviceUuid =>
      decides_bind (napiParseObjectUuid_decides object _) fun _ characterUuid =>
      decides_bind (napiParseObjectUuid_decides object _) fun _ descriptorUuid =>
      decides_bind (napiParseObjectArrayBuffer_decides object _) fun _ _ =>
      decides_bind (parseHandle_decides object isObject _) fun _ _ =>
      decides_bind (parsePermissions_decides object isObject) fun _ _ =>
      decides_bind (uuidFromString_decides serviceUuid) fun _ _ =>
      decides_bind (uuidFromString_decides characterUuid) fun _ _ =>
      decides_bind (uuidFromString_decides descriptorUuid) fun _ _ => decides_pure _
  case same =>
    constructor
    · rintro ⟨names, -, service, character, descriptor, value, handle, permissions, -⟩
      exact ⟨names, service, character, descriptor, value, handle, permissions⟩
    · rintro ⟨names, service, character, descriptor, value, handle, permissions⟩
      exact ⟨names, names.1, service, character, descriptor, value, handle, permissions,
        trivial, trivial, trivial, trivial⟩

/-- `NapiParseGattCharacteristic` accepts the characteristics. Its parsers run in turn, so the
conditions of the properties are put together in the order in which the source asks for them. -/
theorem napiParseGattCharacteristic_decides (object : JsValue) :
    Decides (napiParseGattCharacteristic object) (IsGattCharacteristic object) := by
  have descriptors := napiParseObject_decides object "descriptors" fun property _ =>
    napiParseArray_decides property fun _ _ element _ => napiParseGattDescriptor_decides element
  apply decides_congr
  case decides =>
    exact decides_bind (napiCheckObjectPropertiesName_decides object _) fun _ checked =>
      have isObject := isObject_of_check checked
      decides_bind (napiIsObject_decides object) fun _ _ =>
      decides_bind (napiParseObjectUuid_decides object _) fun _ serviceUuid =>
      decides_bind (napiParseObjectUuid_decides object _) fun _ characterUuid =>
      decides_bind (napiParseObjectArrayBuffer_decides object _) fun _ _ =>
      decides_bind descriptors fun _ _ =>
      decides_bind (parseProperties_decides object isObject) fun _ _ =>
      decides_bind (parseHandle_decides object isObject _) fun _ _ =>
      decides_bind (parsePermissions_decides object isObject) fun _ _ =>
      decides_bind (uuidFromString_decides serviceUuid) fun _ _ =>
      decides_bind (uuidFromString_decides characterUuid) fun _ _ => decides_pure _
  case same =>
    constructor
    · rintro ⟨names, -, service, character, value, listed, properties, handle, permissions, -⟩
      exact ⟨names, service, character, value, listed, properties, handle, permissions⟩
    · rintro ⟨names, service, character, value, listed, properties, handle, permissions⟩
      exact ⟨names, names.1, service, character, value, listed, properties, handle, permissions,
        trivial, trivial, trivial⟩

/-- A service is its head and the services it includes, if there are any. -/
theorem isGattService_iff (value : JsValue) :
    IsGattService value ↔
      IsGattServiceHead value ∧ MayHave value "includeServices" (IsArrayOf IsGattService) := by
  constructor
  · rintro (⟨_, head, absent⟩ | ⟨_, head, elements, present, each⟩)
    · exact ⟨head, fun _ found => nomatch absent.symm.trans found⟩
    · refine ⟨head, fun property found => ?_⟩
      cases present.symm.trans found
      exact ⟨elements, rfl, each⟩
  · rintro ⟨head, includes⟩
    cases found : value.namedProperty "includeServices" with
    | none => exact .alone value head found
    | some property =>
      obtain ⟨elements, rfl, each⟩ := includes property found
      exact .including value head elements found each

/-- With enough nesting the parser accepts the services. The induction is on the nesting: an
included service lies less deep than the service. -/
theorem parseGattService_decides (nesting : Nat) (object : JsValue)
    (deep : object.depth < nesting) :
    Decides (parseGattService nesting object) (IsGattService object) := by
  induction nesting generalizing object with
  | zero => omega
  | succ nesting inductionHypothesis =>
    have included : Decides (napiParseObjectArray (parseGattService nesting) object "includeServices")
        (Has object "includeServices" (IsArrayOf IsGattService)) := by
      refine napiParseObject_decides object _ fun property found => ?_
      refine napiParseArray_decides property fun elements array element member => ?_
      have below : element.depth < object.depth := by
        cases array
        cases object with
        | object properties => exact (JsValue.depth_element member).trans (JsValue.depth_lookup _ found)
        | _ => cases found
      exact inductionHypothesis element (by omega)
    have characteristics := napiParseObject_decides object "characteristics" fun property _ =>
      napiParseArray_decides property fun _ _ element _ => napiParseGattCharacteristic_decides element
    rw [parseGattService]
    apply decides_congr
    case decides =>
      exact decides_bind (napiCheckObjectPropertiesName_decides object _) fun _ checked =>
        decides_bind (napiIsObject_decides object) fun _ _ =>
        decides_bind (napiParseObjectUuid_decides object _) fun _ uuid =>
        decides_bind (napiParseObject_decides object _ fun property _ => napiParseBoolean_decides property)
          fun _ _ =>
        decides_bind characteristics fun _ _ =>
        decides_bind (optional_decides [] (isObject_of_check checked) included) fun _ _ =>
        decides_bind (uuidFromString_decides uuid) fun _ _ => decides_pure _
    case same =>
      rw [isGattService_iff]
      constructor
      · rintro ⟨names, -, uuid, isPrimary, listed, includes, -⟩
        exact ⟨⟨names, uuid, isPrimary, listed⟩, includes⟩
      · rintro ⟨⟨names, uuid, isPrimary, listed⟩, includes⟩
        exact ⟨names, names.1, uuid, isPrimary, listed, includes, trivial, trivial⟩

/-- Nesting beyond the depth of the value makes no difference to what is accepted: the parser
gives a service exactly for the services, and for any other value it returns a status. In
particular it never throws on the text of a UUID, for every text is checked before it is
converted. -/
theorem napiParseGattService_decides (object : JsValue) :
    ((∃ service, napiParseGattService object = .ok service) ↔ IsGattService object) ∧
      ((∃ status, napiParseGattService object = .error (.status status)) ↔
        ¬IsGattService object) := by
  have decides := parseGattService_decides (object.depth + 1) object (by omega)
  rw [← napiParseGattService] at decides
  refine ⟨exists_ok_of_decides decides, ?_⟩
  generalize napiParseGattService object = parsed at decides
  match parsed with
  | .ok _ =>
    have holds : IsGattService object := decides
    simp [holds]
  | .error (.status status) =>
    have fails : ¬IsGattService object := decides
    simp [fails]

end BluetoothFramework.Napi
