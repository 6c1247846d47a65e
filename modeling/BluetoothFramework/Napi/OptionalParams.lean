import BluetoothFramework.Library.Meanings
import BluetoothFramework.Napi.GattParsing

/-!
# Optional parameters of the scripts

The functions of `napi_bluetooth_utils` that take a parameter out of an object which may lack it.
Which value a parameter means is said by a relation for each type, and the functions understand
these relations: they give what is meant, and return a status where nothing is.
-/

namespace BluetoothFramework.Napi

open Meanings

/-- `napi_has_named_property` with `napi_get_named_property`, which take an object or a function. -/
def napiGetNamedProperty (object : JsValue) (name : String) : Parsed (Option JsValue) := do
  returnIf (!object.hasProperties) .objectExpected
  pure (object.namedProperty name)

/-- What the functions `Parse…Params` have in common: a property that is there is given to the
parser of its type. -/
def parseParams {α : Type} (parse : JsValue → Parsed α) (object : JsValue) (name : String) :
    Parsed (Option α) := do
  match ← napiGetNamedProperty object name with
  | none => pure none
  | some property => some <$> parse property

/-- `ParseInt32Params` -/
def parseInt32Params : JsValue → String → Parsed (Option Int32) :=
  parseParams napiParseInt32

/-- `ParseNumberParams` with `napi_get_value_uint32` -/
def parseUint32Params : JsValue → String → Parsed (Option UInt32) :=
  parseParams napiParseUint32

/-- `ParseBooleanParams` -/
def parseBooleanParams : JsValue → String → Parsed (Option Bool) :=
  parseParams napiParseBoolean

/-- `ParseStringParams` -/
def parseStringParams : JsValue → String → Parsed (Option ByteString) :=
  parseParams napiParseString

/-- `ParseArrayBufferParams` -/
def parseArrayBufferParams : JsValue → String → Parsed (Option ByteString) :=
  parseParams napiParseArrayBuffer

/-- `ParseUint8ArrayParam` -/
def parseUint8ArrayParam : JsValue → Parsed ByteString
  | .uint8Array data => pure data
  | _ => throw (.status .invalidArg)

/-- `NapiParseObjectUint8Array` -/
def napiParseObjectUint8Array : JsValue → String → Parsed (Option ByteString) :=
  parseParams parseUint8ArrayParam

/-- `ParseUuidParams` -/
def parseUuidParams (object : JsValue) (name : String) : Parsed (Option UUID) := do
  match ← parseStringParams object name with
  | none => pure none
  | some uuid => do
    returnIf (!isValidUuid uuid) .invalidArg
    some <$> uuidFromString uuid

/-! ## What the parameters mean -/

/-- A number, whose lowest 32 bits count. -/
def Int32Of (value : JsValue) (int32 : Int32) : Prop :=
  ∃ number, value = .number number ∧ Int32.ofInt number = int32

/-- A number, whose lowest 32 bits count. -/
def Uint32Of (value : JsValue) (uint32 : UInt32) : Prop :=
  ∃ number, value = .number number ∧ UInt32.ofInt number = uint32

def BooleanOf (value : JsValue) (boolean : Bool) : Prop :=
  value = .boolean boolean

def TextOf (value : JsValue) (text : ByteString) : Prop :=
  value = .string text

def ArrayBufferOf (value : JsValue) (data : ByteString) : Prop :=
  value = .arrayBuffer data

def Uint8ArrayOf (value : JsValue) (data : ByteString) : Prop :=
  value = .uint8Array data

/-- The text of a UUID. -/
def UuidOf (value : JsValue) (uuid : UUID) : Prop :=
  ∃ text, value = .string text ∧ isValidUuid text = true ∧ uuidFromString text = .ok uuid

/-- The value is what the property means, and there is none without the property. -/
def Optionally {α : Type} (object : JsValue) (name : String) (means : JsValue → α → Prop) :
    Option α → Prop
  | none => object.namedProperty name = none
  | some value => ∃ property, object.namedProperty name = some property ∧ means property value

/-- A status is returned. -/
def IsStatus : ParseExit → Prop
  | .status _ => True
  | _ => False

/-- The function of the parser gives what is meant, and returns a status if nothing is. -/
abbrev Means {α : Type} (parsed : Parsed α) (means : α → Prop) : Prop :=
  Understands IsStatus parsed means

/-! ## Values -/

/-- The check gives a value exactly if it does not fail. -/
theorem means_returnIf (fails : Bool) (status : NapiStatus) :
    Means (returnIf fails status) fun _ => fails = false := by
  cases fails with
  | false => exact fun _ => by simp
  | true => exact ⟨trivial, fun _ => nofun⟩

/-- The check for an object gives a value exactly on objects. -/
theorem means_napiIsObject (value : JsValue) :
    Means (napiIsObject value) fun _ => value.isObject = true :=
  (means_returnIf _ _).congr fun _ => by simp

/-- A number is parsed to its 32-bit integer. -/
theorem means_napiParseInt32 (value : JsValue) : Means (napiParseInt32 value) (Int32Of value) := by
  cases value with
  | number number => exact fun int32 => by simp [Int32Of, eq_comm]
  | _ => exact ⟨trivial, fun _ => by simp [Int32Of]⟩

/-- A number is parsed to its unsigned 32-bit integer. -/
theorem means_napiParseUint32 (value : JsValue) :
    Means (napiParseUint32 value) (Uint32Of value) := by
  cases value with
  | number number => exact fun uint32 => by simp [Uint32Of, eq_comm]
  | _ => exact ⟨trivial, fun _ => by simp [Uint32Of]⟩

/-- A boolean is parsed to itself. -/
theorem means_napiParseBoolean (value : JsValue) :
    Means (napiParseBoolean value) (BooleanOf value) := by
  cases value with
  | boolean boolean => exact fun other => by simp [BooleanOf, eq_comm]
  | _ => exact ⟨trivial, fun _ => by simp [BooleanOf]⟩

/-- A string is parsed to its bytes. -/
theorem means_napiParseString (value : JsValue) : Means (napiParseString value) (TextOf value) := by
  cases value with
  | string text => exact fun other => by simp [TextOf, eq_comm]
  | _ => exact ⟨trivial, fun _ => by simp [TextOf]⟩

/-- An array buffer is parsed to its bytes. -/
theorem means_napiParseArrayBuffer (value : JsValue) :
    Means (napiParseArrayBuffer value) (ArrayBufferOf value) := by
  cases value with
  | arrayBuffer data => exact fun other => by simp [ArrayBufferOf, eq_comm]
  | _ => exact ⟨trivial, fun _ => by simp [ArrayBufferOf]⟩

/-- An array of bytes is parsed to them. -/
theorem means_parseUint8ArrayParam (value : JsValue) :
    Means (parseUint8ArrayParam value) (Uint8ArrayOf value) := by
  cases value with
  | uint8Array data => exact fun other => by simp [Uint8ArrayOf, eq_comm]
  | _ => exact ⟨trivial, fun _ => by simp [Uint8ArrayOf]⟩

/-- A text that is valid is read without a fault. -/
theorem means_uuidFromString {text : ByteString} (valid : isValidUuid text = true) :
    Means (uuidFromString text) fun uuid => uuidFromString text = .ok uuid := by
  obtain ⟨read, converted⟩ := uuidFromString_ok valid
  rw [converted]
  exact fun other => by simp [eq_comm]

/-- What is made of the text of a UUID, if there is one. -/
def ParsedUuid : Option ByteString → Option UUID → Prop
  | none, uuid => uuid = none
  | some _, none => False
  | some text, some uuid => isValidUuid text = true ∧ uuidFromString text = .ok uuid

/-- An optional UUID is checked and converted only where there is a text. An invalid text gives
a status, so no UUID is made of it. -/
theorem means_parsedUuid (text : Option ByteString) :
    Means (match text with
      | none => pure none
      | some uuid => do
        returnIf (!isValidUuid uuid) .invalidArg
        some <$> uuidFromString uuid) (ParsedUuid text) := by
  cases text with
  | none => exact .pure none
  | some text =>
    have valid_of (fails : (!isValidUuid text) = false) : isValidUuid text = true := by simpa using fails
    refine ((means_returnIf _ _).bind fun _ fails => (means_uuidFromString (valid_of fails)).map some).congr
      fun value => ?_
    cases value <;> simp [ParsedUuid]

/-! ## Properties -/

/-- The names of an object are accepted exactly if none is unknown. -/
theorem means_checkNames (object : JsValue) (names : List String) :
    Means (napiCheckObjectPropertiesName object names) fun _ => OnlyProperties object names := by
  have decides := napiCheckObjectPropertiesName_decides object names
  cases checked : napiCheckObjectPropertiesName object names with
  | ok value =>
    rw [checked] at decides
    exact fun other => iff_of_true decides rfl
  | error exit =>
    rw [checked] at decides
    cases exit with
    | status status => exact ⟨trivial, fun _ => decides⟩
    | _ => exact decides.elim

section Params

variable {α : Type} {parse : JsValue → Parsed α} {means : JsValue → α → Prop} (object : JsValue)
    (name : String)

/-- An optional parameter means what its parser means where it is present, and nothing where it
is absent. All the typed parameters below are cases of it. -/
theorem means_parseParams (parses : ∀ property, Means (parse property) (means property)) :
    Means (parseParams parse object name) fun value =>
      object.hasProperties = true ∧ Optionally object name means value := by
  have taken : Means (match object.namedProperty name with
      | none => pure none
      | some property => some <$> parse property) (Optionally object name means) := by
    cases found : object.namedProperty name with
    | none =>
      refine (Understands.pure none).congr fun value => ?_
      cases value <;> simp [Optionally, found]
    | some property =>
      refine ((parses property).map some).congr fun value => ?_
      cases value <;> simp [Optionally, found]
  have named : parseParams parse object name = (do
      returnIf (!object.hasProperties) .objectExpected
      match object.namedProperty name with
      | none => pure none
      | some property => some <$> parse property) := by
    rw [parseParams, napiGetNamedProperty]
    cases object.hasProperties <;> rfl
  rw [named]
  refine ((means_returnIf _ _).bind fun _ _ => taken).congr fun value => ?_
  simp

/-- An optional signed number is parsed as the rule for optional parameters says. -/
theorem means_parseInt32Params : Means (parseInt32Params object name) fun value =>
    object.hasProperties = true ∧ Optionally object name Int32Of value :=
  means_parseParams object name means_napiParseInt32

/-- An optional unsigned number is parsed as the rule says. -/
theorem means_parseUint32Params : Means (parseUint32Params object name) fun value =>
    object.hasProperties = true ∧ Optionally object name Uint32Of value :=
  means_parseParams object name means_napiParseUint32

/-- An optional boolean is parsed as the rule says. -/
theorem means_parseBooleanParams : Means (parseBooleanParams object name) fun value =>
    object.hasProperties = true ∧ Optionally object name BooleanOf value :=
  means_parseParams object name means_napiParseBoolean

/-- An optional text is parsed as the rule says. -/
theorem means_parseStringParams : Means (parseStringParams object name) fun value =>
    object.hasProperties = true ∧ Optionally object name TextOf value :=
  means_parseParams object name means_napiParseString

/-- An optional buffer is parsed as the rule says. -/
theorem means_parseArrayBufferParams : Means (parseArrayBufferParams object name) fun value =>
    object.hasProperties = true ∧ Optionally object name ArrayBufferOf value :=
  means_parseParams object name means_napiParseArrayBuffer

/-- An optional array of bytes is parsed as the rule says. -/
theorem means_napiParseObjectUint8Array : Means (napiParseObjectUint8Array object name) fun value =>
    object.hasProperties = true ∧ Optionally object name Uint8ArrayOf value :=
  means_parseParams object name means_parseUint8ArrayParam

/-- An optional UUID is parsed as the rule says. The function differs from the others in that it
converts after it has read, so the two steps are put together here. -/
theorem means_parseUuidParams : Means (parseUuidParams object name) fun value =>
    object.hasProperties = true ∧ Optionally object name UuidOf value := by
  refine ((means_parseStringParams object name).bind fun text _ => means_parsedUuid text).congr fun value => ?_
  constructor
  · rintro ⟨text, ⟨queried, given⟩, parsed⟩
    match text, value with
    | none, none => exact ⟨queried, given⟩
    | some text, some uuid =>
      obtain ⟨property, found, rfl⟩ := given
      exact ⟨queried, _, found, text, rfl, parsed⟩
  · rintro ⟨queried, given⟩
    match value with
    | none => exact ⟨none, ⟨queried, given⟩, rfl⟩
    | some uuid =>
      obtain ⟨property, found, text, rfl, parsed⟩ := given
      exact ⟨some text, ⟨queried, _, found, rfl⟩, parsed⟩

/-- An object can have properties. The converse fails, since the engine also looks for
properties of other values. -/
theorem hasProperties_of_isObject {object : JsValue} (isObject : object.isObject = true) :
    object.hasProperties = true := by
  cases object with
  | function => rfl
  | _ => exact isObject

/-- On an object the functions look for the property at once. -/
theorem means_ofObject {α : Type} {parsed : Parsed α} {object : JsValue} {given : α → Prop}
    (isObject : object.isObject = true)
    (parses : Means parsed fun value => object.hasProperties = true ∧ given value) :
      Means parsed given :=
  parses.congr fun _ => and_iff_right (hasProperties_of_isObject isObject)

/-- The property of an object is what its list has under the name. -/
theorem napiGetNamedProperty_ofObject {object : JsValue} (name : String)
    (isObject : object.isObject = true) :
    napiGetNamedProperty object name = pure (object.namedProperty name) := by
  rw [napiGetNamedProperty, hasProperties_of_isObject isObject]
  rfl

end Params

/-- What has a property has properties. -/
theorem hasProperties_of_optionally {α : Type} {object : JsValue} {name : String}
    {means : JsValue → α → Prop} {value : α} (given : Optionally object name means (some value)) :
    object.hasProperties = true := by
  obtain ⟨property, found, -⟩ := given
  cases object with
  | object properties => rfl
  | _ => cases found

/-! ## Objects with optional properties -/

/-- An object with those of the properties that are there. -/
def objectOf (fields : List (String × Option JsValue)) : JsValue :=
  .object (fields.filterMap fun field => field.2.map (field.1, ·))

/-- A property of the object is the field with its name. The names are distinct, so that no
earlier field can stand in its way. -/
theorem namedProperty_objectOf {fields : List (String × Option JsValue)} {name : String}
    {field : Option JsValue}
    (distinct : (fields.map Prod.fst).Nodup) (present : fields.lookup name = some field) :
    (objectOf fields).namedProperty name = field := by
  rw [objectOf, JsValue.namedProperty]
  have absent (fields : List (String × Option JsValue)) (other : name ∉ fields.map Prod.fst) :
      (fields.filterMap fun field => field.2.map (field.1, ·)).lookup name = none := by
    rw [List.lookup_eq_none_iff]
    intro property member
    obtain ⟨field, inside, found⟩ := List.mem_filterMap.mp member
    obtain ⟨value, -, rfl⟩ := Option.map_eq_some_iff.mp found
    simp only [bne_iff_ne]
    rintro rfl
    exact other (List.mem_map.mpr ⟨field, inside, rfl⟩)
  induction fields with
  | nil => cases present
  | cons first rest inductionHypothesis =>
    obtain ⟨firstName, firstField⟩ := first
    rw [List.map_cons, List.nodup_cons] at distinct
    rw [List.lookup_cons] at present
    by_cases same : name = firstName
    · subst same
      simp only [BEq.rfl, Option.some.injEq] at present
      subst present
      cases firstField with
      | none => exact absent rest distinct.1
      | some value => simp
    · have different : (name == firstName) = false := by simpa using same
      rw [different] at present
      cases firstField with
      | none => exact inductionHypothesis distinct.2 present
      | some value =>
        have later := inductionHypothesis distinct.2 present
        simpa only [List.filterMap_cons, Option.map_some, List.lookup_cons, different] using later

/-- A field written as its type means what was written. -/
theorem optionally_objectOf {α : Type} {fields : List (String × Option JsValue)} {name : String}
    {means : JsValue → α → Prop} {param : Option α} {write : α → JsValue}
    (distinct : (fields.map Prod.fst).Nodup) (present : fields.lookup name = some (param.map write))
    (meant : ∀ value, means (write value) value) :
      Optionally (objectOf fields) name means param := by
  have found := namedProperty_objectOf distinct present
  cases param with
  | none => exact found
  | some value => exact ⟨write value, found, meant value⟩

/-- An object made of fields has no other properties than those fields, whichever of them are
present. -/
theorem onlyProperties_objectOf (fields : List (String × Option JsValue)) :
    OnlyProperties (objectOf fields) (fields.map Prod.fst) := by
  refine ⟨rfl, fun name member => ?_⟩
  obtain ⟨property, inside, rfl⟩ := List.mem_map.mp member
  obtain ⟨field, here, found⟩ := List.mem_filterMap.mp inside
  obtain ⟨value, -, rfl⟩ := Option.map_eq_some_iff.mp found
  exact List.mem_map.mpr ⟨field, here, rfl⟩

/-- A signed number comes back from the number that stands for it. -/
theorem int32Of_number (int32 : Int32) : Int32Of (.number int32.toInt) int32 :=
  ⟨_, rfl, Int32.ofInt_toInt int32⟩

/-- An unsigned number comes back from the number that stands for it. -/
theorem uint32Of_number (uint32 : UInt32) : Uint32Of (.number uint32.toNat) uint32 := by
  refine ⟨_, rfl, ?_⟩
  apply UInt32.toNat_inj.mp
  have bound := uint32.toNat_lt
  simp only [UInt32.ofInt, UInt32.toNat_ofNat']
  omega

/-- A UUID comes back from its text. -/
theorem uuidOf_string (uuid : UUID) : UuidOf (.string uuid.toString) uuid := by
  obtain ⟨parsed, read⟩ := napiParseUuid_toString uuid
  exact ⟨_, rfl, isValidUuid_of_napiParseUuid parsed, read⟩

end BluetoothFramework.Napi
