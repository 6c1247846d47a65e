import BluetoothFramework.Common.Types
import BluetoothFramework.Uuid.Text

/-!
# Values of the scripts

What the N-API shows of a value, and the functions of the parser that take single values,
properties and arrays out of it. A value is a finite tree of data: a property is neither
computed when it is read nor shared with another object, no object is contained in itself,
a function has no properties, and a number is whole. Of the typed arrays there are those of
bytes.
-/

namespace BluetoothFramework.Napi

/-- `napi_value` -/
inductive JsValue where
  | undefined
  | null
  | boolean (value : Bool)
  | number (value : Int)
  | string (text : ByteString)
  | arrayBuffer (data : ByteString)
  | uint8Array (data : ByteString)
  | array (elements : List JsValue)
  | object (properties : List (String × JsValue))
  | function

/-- `napi_status` other than `napi_ok`, as far as the parser gives it. -/
inductive NapiStatus where
  | invalidArg
  | objectExpected
  | stringExpected
  | functionExpected
  | numberExpected
  | booleanExpected
  | arrayExpected
  | arrayBufferExpected
deriving DecidableEq, Repr

/-- How a function of the parser ends without a value. -/
inductive ParseExit where
  /-- It returns the status. -/
  | status (status : NapiStatus)
  /-- The text of a UUID makes it throw or store out of bounds. -/
  | fault (fault : TextFault)
  /-- The services that were to be read are nested deeper than was expected. -/
  | nested
deriving DecidableEq, Repr

/-- What a function of the parser gives: `napi_ok` with the value, or an exit. -/
abbrev Parsed (α : Type) : Type :=
  Except ParseExit α

/-- `NAPI_BT_RETURN_IF` -/
def returnIf (condition : Bool) (status : NapiStatus) : Parsed Unit :=
  if condition then throw (.status status) else pure ()

namespace JsValue

/-- `napi_get_property_names`. The names of an array are its indices. -/
def propertyNames : JsValue → List String
  | .object properties => properties.map Prod.fst
  | .array elements => (List.range elements.length).map toString
  | .uint8Array data => (List.range data.length).map toString
  | _ => []

/-- `napi_has_named_property` with `napi_get_named_property`. No name that is asked for is an
index. -/
def namedProperty (value : JsValue) (name : String) : Option JsValue :=
  match value with
  | .object properties => properties.lookup name
  | _ => none

/-- `napi_typeof` gives `napi_object`. -/
def isObject : JsValue → Bool
  | .object _ => true
  | .array _ => true
  | .arrayBuffer _ => true
  | .uint8Array _ => true
  | _ => false

/-- `napi_has_named_property` and `napi_get_named_property` take the value. -/
def hasProperties : JsValue → Bool
  | .function => true
  | value => value.isObject

mutual

/-- How deep objects and arrays are nested. -/
def depth : JsValue → Nat
  | .array elements => elementsDepth elements + 1
  | .object properties => propertiesDepth properties + 1
  | _ => 0

/-- The depth of the deepest element. -/
def elementsDepth : List JsValue → Nat
  | [] => 0
  | element :: rest => max element.depth (elementsDepth rest)

/-- The depth of the deepest property. -/
def propertiesDepth : List (String × JsValue) → Nat
  | [] => 0
  | (_, property) :: rest => max property.depth (propertiesDepth rest)

end

end JsValue

/-! ## Types and values -/

/-- `NapiIsBoolean` with `napi_get_value_bool` -/
def napiParseBoolean : JsValue → Parsed Bool
  | .boolean value => pure value
  | _ => throw (.status .booleanExpected)

/-- `NapiIsNumber` -/
def napiIsNumber : JsValue → Parsed Int
  | .number value => pure value
  | _ => throw (.status .numberExpected)

/-- `NapiParseInt32`. The number is taken modulo 2^32. -/
def napiParseInt32 (value : JsValue) : Parsed Int32 :=
  Int32.ofInt <$> napiIsNumber value

/-- `NapiParseUint32`. The number is taken modulo 2^32. -/
def napiParseUint32 (value : JsValue) : Parsed UInt32 :=
  UInt32.ofInt <$> napiIsNumber value

/-- `NapiParseString` -/
def napiParseString : JsValue → Parsed ByteString
  | .string text => pure text
  | _ => throw (.status .stringExpected)

/-- `NapiParseArrayBuffer` -/
def napiParseArrayBuffer : JsValue → Parsed ByteString
  | .arrayBuffer data => pure data
  | _ => throw (.status .arrayBufferExpected)

/-- `NapiIsObject` -/
def napiIsObject (value : JsValue) : Parsed Unit :=
  returnIf (!value.isObject) .objectExpected

/-- `NapiParseUuid` -/
def napiParseUuid (value : JsValue) : Parsed ByteString := do
  let uuid ← napiParseString value
  returnIf (!isValidUuid uuid) .invalidArg
  pure uuid

/-- `UUID::FromString`, on a text of the parser. -/
def uuidFromString (name : ByteString) : Parsed UUID :=
  (UUID.fromString name).mapError .fault

/-- `NapiIsArray` and the loop of `NapiParseArray`, with the parser of the element type. -/
def napiParseArray {α : Type} (parse : JsValue → Parsed α) : JsValue → Parsed (List α)
  | .array elements => elements.mapM parse
  | _ => throw (.status .arrayExpected)

/-! ## Properties -/

/-- `NapiIsObjectPropertyExist` -/
def napiIsObjectPropertyExist (object : JsValue) (name : String) : Bool :=
  object.isObject && (object.namedProperty name).isSome

/-- `NapiGetObjectPropertyOptional` -/
def napiGetObjectPropertyOptional (object : JsValue) (name : String) : Parsed (Option JsValue) := do
  napiIsObject object
  pure (object.namedProperty name)

/-- `NapiGetObjectProperty` -/
def napiGetObjectProperty (object : JsValue) (name : String) : Parsed JsValue := do
  match ← napiGetObjectPropertyOptional object name with
  | none => throw (.status .invalidArg)
  | some property => pure property

/-- What the functions `NapiParseObject…` have in common: the property has to be there and is
given to the parser of its type. -/
def napiParseObject {α : Type} (parse : JsValue → Parsed α) (object : JsValue) (name : String) :
    Parsed α := do
  napiIsObject object
  let property ← napiGetObjectProperty object name
  parse property

/-- `NapiParseObjectBoolean` -/
def napiParseObjectBoolean : JsValue → String → Parsed Bool :=
  napiParseObject napiParseBoolean

/-- `NapiParseObjectUint32` -/
def napiParseObjectUint32 : JsValue → String → Parsed UInt32 :=
  napiParseObject napiParseUint32

/-- `NapiParseObjectUuid` -/
def napiParseObjectUuid : JsValue → String → Parsed ByteString :=
  napiParseObject napiParseUuid

/-- `NapiParseObjectArrayBuffer` -/
def napiParseObjectArrayBuffer : JsValue → String → Parsed ByteString :=
  napiParseObject napiParseArrayBuffer

/-- `NapiParseObjectArray` -/
def napiParseObjectArray {α : Type} (parse : JsValue → Parsed α) :
    JsValue → String → Parsed (List α) :=
  napiParseObject (napiParseArray parse)

/-- `NapiParseObjectBooleanOptional`, which leaves the given value if there is no property. -/
def napiParseObjectBooleanOptional (object : JsValue) (name : String) (outBoolean : Bool) :
    Parsed Bool := do
  napiIsObject object
  match ← napiGetObjectPropertyOptional object name with
  | none => pure outBoolean
  | some property => napiParseBoolean property

/-- `NapiCheckObjectPropertiesName` -/
def napiCheckObjectPropertiesName (object : JsValue) (names : List String) : Parsed Unit := do
  napiIsObject object
  object.propertyNames.forM fun name => returnIf (!names.contains name) .invalidArg

/-! ## On objects -/

section Objects

variable {α : Type} (parse : JsValue → Parsed α) (properties : List (String × JsValue))
    (name : String)

/-- An object passes the check for one. -/
@[simp] theorem napiIsObject_object : napiIsObject (.object properties) = pure () := rfl

/-- Whether an object has a property is whether its list has one of the name. -/
@[simp] theorem napiIsObjectPropertyExist_object :
    napiIsObjectPropertyExist (.object properties) name = (properties.lookup name).isSome := rfl

/-- A mandatory property of an object is the first of its name, and a status is thrown where
there is none. -/
@[simp] theorem napiParseObject_object :
    napiParseObject parse (.object properties) name =
      match properties.lookup name with
      | none => throw (.status .invalidArg)
      | some property => parse property := by
  have optional : napiGetObjectPropertyOptional (.object properties) name =
      pure (properties.lookup name) := rfl
  rw [napiParseObject, napiIsObject_object, pure_bind, napiGetObjectProperty, optional, pure_bind]
  cases properties.lookup name <;> rfl

/-- An optional boolean of an object keeps the value it had where there is no property of the
name. -/
@[simp] theorem napiParseObjectBooleanOptional_object (outBoolean : Bool) :
    napiParseObjectBooleanOptional (.object properties) name outBoolean =
      match properties.lookup name with
      | none => pure outBoolean
      | some property => napiParseBoolean property := rfl

/-- The names are in order if each of them is in the list. -/
theorem napiCheckObjectPropertiesName_object (names : List String) :
    napiCheckObjectPropertiesName (.object properties) names =
      if properties.all fun property => names.contains property.1 then pure ()
      else throw (.status .invalidArg) := by
  rw [napiCheckObjectPropertiesName, napiIsObject_object, pure_bind, JsValue.propertyNames]
  induction properties with
  | nil => rfl
  | cons property rest inductionHypothesis =>
    have step : ((property :: rest).map Prod.fst).forM
      (fun name => returnIf (!names.contains name) .invalidArg) =
        (do returnIf (!names.contains property.1) .invalidArg
            (rest.map Prod.fst).forM fun name => returnIf (!names.contains name) .invalidArg) := rfl
    rw [step, inductionHypothesis, List.all_cons]
    cases names.contains property.1 <;> rfl

end Objects

/-- A property lies less deep than its object. -/
theorem JsValue.depth_lookup {properties : List (String × JsValue)} (name : String)
    {property : JsValue} (found : properties.lookup name = some property) :
    property.depth < (JsValue.object properties).depth := by
  rw [JsValue.depth]
  induction properties with
  | nil => cases found
  | cons entry rest inductionHypothesis =>
    obtain ⟨entryName, entryProperty⟩ := entry
    rw [JsValue.propertiesDepth]
    rw [List.lookup_cons] at found
    split at found
    · cases found
      omega
    · have deeper := inductionHypothesis found
      omega

/-- An element lies less deep than its array. -/
theorem JsValue.depth_element {elements : List JsValue} {element : JsValue}
    (member : element ∈ elements) :
    element.depth < (JsValue.array elements).depth := by
  rw [JsValue.depth]
  induction member with
  | head => rw [JsValue.elementsDepth]; omega
  | tail _ _ inductionHypothesis => rw [JsValue.elementsDepth]; omega

/-- A text that passes the check of the parser gives a UUID. -/
theorem uuidFromString_ok {name : ByteString} (valid : isValidUuid name = true) :
    ∃ uuid : UUID, uuidFromString name = .ok uuid := by
  obtain ⟨uuid, converted, -⟩ := UUID.toString_fromString name valid
  exact ⟨uuid, by rw [uuidFromString, converted]; rfl⟩

/-- The text of a UUID is taken as it is if it is valid, and refused if not. The conversion to a
UUID comes later. -/
theorem napiParseUuid_string (text : ByteString) :
    napiParseUuid (.string text) =
      if isValidUuid text then pure text else throw (.status .invalidArg) := by
  rw [napiParseUuid, napiParseString, pure_bind, returnIf]
  cases isValidUuid text <;> rfl

/-- What `NapiParseUuid` lets through gives a UUID. -/
theorem isValidUuid_of_napiParseUuid {value : JsValue} {uuid : ByteString}
    (parsed : napiParseUuid value = .ok uuid) : isValidUuid uuid = true := by
  cases value with
  | string text =>
    rw [napiParseUuid_string] at parsed
    split at parsed
    · cases parsed
      assumption
    · cases parsed
  | _ => cases parsed

/-- The text of a UUID is read back. -/
theorem napiParseUuid_toString (uuid : UUID) :
    napiParseUuid (.string uuid.toString) = .ok uuid.toString ∧
      uuidFromString uuid.toString = .ok uuid := by
  obtain ⟨a, b, c, d, e, groups, text, -⟩ := uuid.toString_grouped
  have valid : isValidUuid uuid.toString = true :=
    (isValidUuid_iff_groups _).mpr ⟨a, b, c, d, e, groups, text⟩
  constructor
  · rw [napiParseUuid_string, if_pos valid]
    rfl
  · rw [uuidFromString, UUID.fromString_toString]
    rfl

end BluetoothFramework.Napi
