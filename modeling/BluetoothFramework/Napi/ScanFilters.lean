import BluetoothFramework.Napi.Addresses
import BluetoothFramework.Napi.OptionalParams
import BluetoothFramework.Parcel.BleScanFilter

/-!
# Scan filters of scripts

`ParseScanFilter` takes the properties of a filter out of its object one after another and hands
them to the setters of a new `BleScanFilter`. An address can be given twice; the one in `address`
replaces `deviceId`. Numbers are cut to the width of their field by the setters, after the checks.

`FilterParams` are the properties a filter may have, `Acceptable` are those which pass the checks,
and `filter` is the filter they make.
-/

namespace BluetoothFramework.Napi

open Meanings ScanFilter

/-- `LEN_OF_IRK` -/
def lenOfIrk : Nat := 16

/-- `BLE_SCAN_MAX_RSSI_THRESHOLD` -/
def bleScanMaxRssiThreshold : Int32 := 127

/-- A number is cut to the `uint8_t` of a setter. -/
def cutToUint8 (number : Int32) : UInt8 :=
  number.toUInt32.toUInt8

/-- A setter is called if there is a value. -/
def setParam {α : Type} (setting : α → Setting UUID) (bleScanFilter : BleScanFilter) :
    Option α → BleScanFilter
  | none => bleScanFilter
  | some value => bleScanFilter.set (setting value)

/-- `ParseScanFilterDeviceIdParameters` -/
def parseScanFilterDeviceIdParameters (scanFilter : JsValue) (bleScanFilter : BleScanFilter) :
    Parsed BleScanFilter := do
  match ← parseStringParams scanFilter "deviceId" with
  | none => pure bleScanFilter
  | some deviceId => do
    returnIf (!isValidAddress deviceId) .invalidArg
    pure (bleScanFilter.set (.deviceId deviceId))

/-- The part of `ParseScanFilterAddrInfoParameters` for the object in `address`. -/
def parseBluetoothAddress (bluetoothAddress : JsValue) (bleScanFilter : BleScanFilter) :
    Parsed BleScanFilter := do
  let deviceId := (← parseStringParams bluetoothAddress "address").getD []
  returnIf (!isValidAddress deviceId) .invalidArg
  let addressType := (← parseInt32Params bluetoothAddress "addressType").getD 0xFF
  returnIf (addressType = 1) .invalidArg
  let rawAddressType := (← parseInt32Params bluetoothAddress "rawAddressType").getD 0xFF
  returnIf (rawAddressType < 0 || 0xFF < rawAddressType) .invalidArg
  let bleScanFilter := bleScanFilter.set (.deviceId deviceId)
  let bleScanFilter := bleScanFilter.set (.addressType (cutToUint8 addressType))
  pure (bleScanFilter.set (.rawAddressType (cutToUint8 rawAddressType)))

/-- `ParseScanFilterAddrInfoParameters` -/
def parseScanFilterAddrInfoParameters (scanFilter : JsValue) (bleScanFilter : BleScanFilter) :
    Parsed BleScanFilter := do
  match ← napiGetNamedProperty scanFilter "address" with
  | none => pure bleScanFilter
  | some bluetoothAddress => parseBluetoothAddress bluetoothAddress bleScanFilter

/-- The address of a filter that has an IRK is a real one, and public or static. -/
def takesIrk (bleScanFilter : BleScanFilter) : Bool :=
  bleScanFilter.addressType = realAddress &&
    (bleScanFilter.rawAddressType = publicAddress ||
      (bleScanFilter.rawAddressType = randomAddress && isRandomStaticAddress bleScanFilter.deviceId))

/-- `ParseScanFilterIrkParameters` -/
def parseScanFilterIrkParameters (scanFilter : JsValue) (bleScanFilter : BleScanFilter) :
    Parsed BleScanFilter := do
  match ← napiParseObjectUint8Array scanFilter "irk" with
  | none => pure bleScanFilter
  | some irk => do
    returnIf (irk.length ≠ lenOfIrk) .invalidArg
    returnIf (!takesIrk bleScanFilter) .invalidArg
    pure (bleScanFilter.set (.irk irk))

/-- `ParseScanFilterLocalNameParameters` -/
def parseScanFilterLocalNameParameters (scanFilter : JsValue) (bleScanFilter : BleScanFilter) :
    Parsed BleScanFilter := do
  match ← parseStringParams scanFilter "name" with
  | none => pure bleScanFilter
  | some name => do
    returnIf name.isEmpty .invalidArg
    pure (bleScanFilter.set (.name name))

/-- `ParseScanFilterServiceUuidParameters` -/
def parseScanFilterServiceUuidParameters (scanFilter : JsValue) (bleScanFilter : BleScanFilter) :
    Parsed BleScanFilter := do
  let bleScanFilter := setParam .serviceUuid bleScanFilter (← parseUuidParams scanFilter "serviceUuid")
  pure (setParam .serviceUuidMask bleScanFilter (← parseUuidParams scanFilter "serviceUuidMask"))

/-- `ParseScanFilterSolicitationUuidParameters` -/
def parseScanFilterSolicitationUuidParameters (scanFilter : JsValue)
    (bleScanFilter : BleScanFilter) :
    Parsed BleScanFilter := do
  let bleScanFilter := setParam .serviceSolicitationUuid bleScanFilter
    (← parseUuidParams scanFilter "serviceSolicitationUuid")
  pure (setParam .serviceSolicitationUuidMask bleScanFilter
    (← parseUuidParams scanFilter "serviceSolicitationUuidMask"))

/-- `ParseScanFilterServiceDataParameters` -/
def parseScanFilterServiceDataParameters (scanFilter : JsValue) (bleScanFilter : BleScanFilter) :
    Parsed BleScanFilter := do
  let bleScanFilter := setParam .serviceData bleScanFilter (← parseArrayBufferParams scanFilter "serviceData")
  pure (setParam .serviceDataMask bleScanFilter (← parseArrayBufferParams scanFilter "serviceDataMask"))

/-- `ParseScanFilterManufactureDataParameters`. The number is a `uint32_t` and its setter takes
a `uint16_t`. -/
def parseScanFilterManufactureDataParameters (scanFilter : JsValue)
    (bleScanFilter : BleScanFilter) :
    Parsed BleScanFilter := do
  let bleScanFilter := setParam (fun id => .manufacturerId id.toUInt16) bleScanFilter
    (← parseUint32Params scanFilter "manufactureId")
  let bleScanFilter := setParam .manufactureData bleScanFilter
    (← parseArrayBufferParams scanFilter "manufactureData")
  pure (setParam .manufactureDataMask bleScanFilter (← parseArrayBufferParams scanFilter "manufactureDataMask"))

/-- `ParseScanFilterRssiThresholdParameters` -/
def parseScanFilterRssiThresholdParameters (scanFilter : JsValue) (bleScanFilter : BleScanFilter) :
    Parsed BleScanFilter := do
  let rssiThreshold ← parseInt32Params scanFilter "rssiThreshold"
  let given := rssiThreshold.getD bleScanMinRssiThreshold
  returnIf (bleScanMaxRssiThreshold < given || given < bleScanMinRssiThreshold) .invalidArg
  pure (setParam .rssiThreshold bleScanFilter rssiThreshold)

/-- The names a filter may have. -/
def scanFilterNames : List String :=
  ["deviceId", "address", "irk", "name", "serviceUuid", "serviceUuidMask", "serviceSolicitationUuid",
    "serviceSolicitationUuidMask", "serviceData", "serviceDataMask", "manufactureId", "manufactureData",
    "manufactureDataMask", "rssiThreshold"]

/-- `ParseScanFilter`, with a new filter. -/
def parseScanFilter (scanFilter : JsValue) : Parsed BleScanFilter := do
  napiCheckObjectPropertiesName scanFilter scanFilterNames
  let bleScanFilter := BleScanFilter.new
  let bleScanFilter ← parseScanFilterDeviceIdParameters scanFilter bleScanFilter
  let bleScanFilter ← parseScanFilterAddrInfoParameters scanFilter bleScanFilter
  let bleScanFilter ← parseScanFilterIrkParameters scanFilter bleScanFilter
  let bleScanFilter ← parseScanFilterLocalNameParameters scanFilter bleScanFilter
  let bleScanFilter ← parseScanFilterServiceUuidParameters scanFilter bleScanFilter
  let bleScanFilter ← parseScanFilterSolicitationUuidParameters scanFilter bleScanFilter
  let bleScanFilter ← parseScanFilterServiceDataParameters scanFilter bleScanFilter
  let bleScanFilter ← parseScanFilterManufactureDataParameters scanFilter bleScanFilter
  parseScanFilterRssiThresholdParameters scanFilter bleScanFilter

/-- `ParseScanFilterParameters` -/
def parseScanFilterParameters : JsValue → Parsed (List BleScanFilter)
  | .array elements => do
      returnIf elements.isEmpty .invalidArg
      elements.mapM fun scanFilter => do
        napiIsObject scanFilter
        parseScanFilter scanFilter
  | _ => throw (.status .arrayExpected)

/-! ## What a filter says -/

/-- The properties of an address. -/
structure AddressParams where
  address : ByteString
  addressType : Option Int32 := none
  rawAddressType : Option Int32 := none
deriving DecidableEq

/-- The properties of a filter. -/
structure FilterParams where
  deviceId : Option ByteString := none
  address : Option AddressParams := none
  irk : Option ByteString := none
  name : Option ByteString := none
  serviceUuid : Option UUID := none
  serviceUuidMask : Option UUID := none
  serviceSolicitationUuid : Option UUID := none
  serviceSolicitationUuidMask : Option UUID := none
  serviceData : Option ByteString := none
  serviceDataMask : Option ByteString := none
  manufactureId : Option UInt32 := none
  manufactureData : Option ByteString := none
  manufactureDataMask : Option ByteString := none
  rssiThreshold : Option Int32 := none
deriving DecidableEq

/-- An object with these properties of an address. Further properties are not looked at. -/
structure AddressParamsOf (value : JsValue) (params : AddressParams) : Prop where
  address : Optionally value "address" TextOf (some params.address)
  addressType : Optionally value "addressType" Int32Of params.addressType
  rawAddressType : Optionally value "rawAddressType" Int32Of params.rawAddressType

/-- An object with these properties of a filter and no others. -/
structure FilterParamsOf (value : JsValue) (params : FilterParams) : Prop where
  names : OnlyProperties value scanFilterNames
  deviceId : Optionally value "deviceId" TextOf params.deviceId
  address : Optionally value "address" AddressParamsOf params.address
  irk : Optionally value "irk" Uint8ArrayOf params.irk
  name : Optionally value "name" TextOf params.name
  serviceUuid : Optionally value "serviceUuid" UuidOf params.serviceUuid
  serviceUuidMask : Optionally value "serviceUuidMask" UuidOf params.serviceUuidMask
  serviceSolicitationUuid : Optionally value "serviceSolicitationUuid" UuidOf params.serviceSolicitationUuid
  serviceSolicitationUuidMask :
    Optionally value "serviceSolicitationUuidMask" UuidOf params.serviceSolicitationUuidMask
  serviceData : Optionally value "serviceData" ArrayBufferOf params.serviceData
  serviceDataMask : Optionally value "serviceDataMask" ArrayBufferOf params.serviceDataMask
  manufactureId : Optionally value "manufactureId" Uint32Of params.manufactureId
  manufactureData : Optionally value "manufactureData" ArrayBufferOf params.manufactureData
  manufactureDataMask : Optionally value "manufactureDataMask" ArrayBufferOf params.manufactureDataMask
  rssiThreshold : Optionally value "rssiThreshold" Int32Of params.rssiThreshold

/-- The address is valid and not said to be a virtual one. -/
structure AddressParams.Acceptable (params : AddressParams) : Prop where
  address : isValidAddress params.address = true
  addressType : params.addressType ≠ some 1
  rawAddressType : ∀ rawAddressType ∈ params.rawAddressType, 0 ≤ rawAddressType ∧ rawAddressType ≤ 0xFF

/-- The filter with the properties. -/
def FilterParams.filter (params : FilterParams) : BleScanFilter where
  deviceId := (params.address.map AddressParams.address).getD (params.deviceId.getD [])
  addressType := (params.address.map
    fun address => cutToUint8 (address.addressType.getD 0xFF)).getD unsetAddress
  rawAddressType :=
    (params.address.map fun address => cutToUint8 (address.rawAddressType.getD 0xFF)).getD unsetAddress
  irk := params.irk.getD []
  name := params.name.getD []
  serviceUuid := params.serviceUuid.getD {}
  serviceUuidMask := params.serviceUuidMask.getD {}
  serviceSolicitationUuid := params.serviceSolicitationUuid.getD {}
  serviceSolicitationUuidMask := params.serviceSolicitationUuidMask.getD {}
  hasServiceUuid := params.serviceUuid.isSome
  hasServiceUuidMask := params.serviceUuidMask.isSome
  hasSolicitationUuid := params.serviceSolicitationUuid.isSome
  hasSolicitationUuidMask := params.serviceSolicitationUuidMask.isSome
  hasRssiThreshold := params.rssiThreshold.isSome
  serviceData := params.serviceData.getD []
  serviceDataMask := params.serviceDataMask.getD []
  manufacturerId := (params.manufactureId.map UInt32.toUInt16).getD 0
  manufactureData := params.manufactureData.getD []
  manufactureDataMask := params.manufactureDataMask.getD []
  rssiThreshold := params.rssiThreshold.getD bleScanMinRssiThreshold

/-- The properties pass the checks. -/
structure FilterParams.Acceptable (params : FilterParams) : Prop where
  deviceId : ∀ deviceId ∈ params.deviceId, isValidAddress deviceId = true
  address : ∀ address ∈ params.address, address.Acceptable
  irk : ∀ irk ∈ params.irk, irk.length = lenOfIrk ∧ takesIrk params.filter = true
  name : ∀ name ∈ params.name, name ≠ []
  rssiThreshold : ∀ rssiThreshold ∈ params.rssiThreshold,
    bleScanMinRssiThreshold ≤ rssiThreshold ∧ rssiThreshold ≤ bleScanMaxRssiThreshold

/-- What a filter of a script stands for. -/
def ScanFilterOf (value : JsValue) (bleScanFilter : BleScanFilter) : Prop :=
  ∃ params : FilterParams, FilterParamsOf value params ∧ params.Acceptable ∧ bleScanFilter = params.filter

/-! ## The setters -/

section Setters

variable (bleScanFilter : BleScanFilter)

/-- A device id that is given is set, and one that is not leaves the filter as it is. So do all
the parameters below. -/
theorem setParam_deviceId (deviceId : Option ByteString) :
    setParam .deviceId bleScanFilter deviceId =
    { bleScanFilter with deviceId := deviceId.getD bleScanFilter.deviceId } := by
  cases deviceId <;> rfl

/-- An identity resolving key that is given is set. -/
theorem setParam_irk (irk : Option ByteString) : setParam .irk bleScanFilter irk =
    { bleScanFilter with irk := irk.getD bleScanFilter.irk } := by
  cases irk <;> rfl

/-- A name that is given is set. -/
theorem setParam_name (name : Option ByteString) : setParam .name bleScanFilter name =
    { bleScanFilter with name := name.getD bleScanFilter.name } := by
  cases name <;> rfl

/-- A service UUID that is given is set, together with the flag that says so. -/
theorem setParam_serviceUuid (uuid : Option UUID) : setParam .serviceUuid bleScanFilter uuid =
    { bleScanFilter with
      serviceUuid := uuid.getD bleScanFilter.serviceUuid
      hasServiceUuid := uuid.isSome || bleScanFilter.hasServiceUuid } := by
  cases uuid <;> rfl

/-- A mask of the service UUID that is given is set, together with its flag. -/
theorem setParam_serviceUuidMask (uuid : Option UUID) :
    setParam .serviceUuidMask bleScanFilter uuid =
    { bleScanFilter with
      serviceUuidMask := uuid.getD bleScanFilter.serviceUuidMask
      hasServiceUuidMask := uuid.isSome || bleScanFilter.hasServiceUuidMask } := by
  cases uuid <;> rfl

/-- A solicitation UUID that is given is set, together with its flag. -/
theorem setParam_serviceSolicitationUuid (uuid : Option UUID) :
    setParam .serviceSolicitationUuid bleScanFilter uuid =
      { bleScanFilter with
        serviceSolicitationUuid := uuid.getD bleScanFilter.serviceSolicitationUuid
        hasSolicitationUuid := uuid.isSome || bleScanFilter.hasSolicitationUuid } := by
  cases uuid <;> rfl

/-- A mask of the solicitation UUID that is given is set, together with its flag. -/
theorem setParam_serviceSolicitationUuidMask (uuid : Option UUID) :
    setParam .serviceSolicitationUuidMask bleScanFilter uuid =
      { bleScanFilter with
        serviceSolicitationUuidMask := uuid.getD bleScanFilter.serviceSolicitationUuidMask
        hasSolicitationUuidMask := uuid.isSome || bleScanFilter.hasSolicitationUuidMask } := by
  cases uuid <;> rfl

/-- Service data that is given is set. -/
theorem setParam_serviceData (data : Option ByteString) : setParam .serviceData bleScanFilter data =
    { bleScanFilter with serviceData := data.getD bleScanFilter.serviceData } := by
  cases data <;> rfl

/-- A mask of the service data that is given is set. -/
theorem setParam_serviceDataMask (data : Option ByteString) :
    setParam .serviceDataMask bleScanFilter data =
    { bleScanFilter with serviceDataMask := data.getD bleScanFilter.serviceDataMask } := by
  cases data <;> rfl

/-- A manufacturer id that is given is set, cut to sixteen bits. -/
theorem setParam_manufacturerId (id : Option UInt32) :
    setParam (fun id : UInt32 => .manufacturerId id.toUInt16) bleScanFilter id =
      { bleScanFilter with manufacturerId := (id.map UInt32.toUInt16).getD bleScanFilter.manufacturerId } := by
  cases id <;> rfl

/-- Manufacturer data that is given is set. -/
theorem setParam_manufactureData (data : Option ByteString) :
    setParam .manufactureData bleScanFilter data =
    { bleScanFilter with manufactureData := data.getD bleScanFilter.manufactureData } := by
  cases data <;> rfl

/-- A mask of the manufacturer data that is given is set. -/
theorem setParam_manufactureDataMask (data : Option ByteString) :
    setParam .manufactureDataMask bleScanFilter data =
      { bleScanFilter with manufactureDataMask := data.getD bleScanFilter.manufactureDataMask } := by
  cases data <;> rfl

/-- A threshold that is given is set, together with the flag that says so. -/
theorem setParam_rssiThreshold (rssiThreshold : Option Int32) :
    setParam .rssiThreshold bleScanFilter rssiThreshold =
      { bleScanFilter with
        rssiThreshold := rssiThreshold.getD bleScanFilter.rssiThreshold
        hasRssiThreshold := rssiThreshold.isSome || bleScanFilter.hasRssiThreshold } := by
  cases rssiThreshold <;> rfl

end Setters

/-! ## The steps of the parser -/

section Steps

variable (value : JsValue) (bleScanFilter : BleScanFilter)

/-- Two properties that are set. -/
theorem means_setTwo {α β : Type} {first : Parsed (Option α)} {second : Parsed (Option β)}
    {given : Option α → Prop} {further : Option β → Prop} (parses : Means first given)
    (follows : Means second further) (setting : α → Setting UUID) (setting' : β → Setting UUID) :
    Means (do
      let param ← first
      let other ← second
      pure (setParam setting' (setParam setting bleScanFilter param) other))
      fun result => ∃ param, given param ∧ ∃ other, further other ∧
        result = setParam setting' (setParam setting bleScanFilter param) other :=
  parses.bind fun _ _ => follows.bind fun _ _ => .pure _

variable {value} (isObject : value.isObject = true)
include isObject

/-- The device id is optional and must be an address. It is set only after the check. -/
theorem means_deviceId : Means (parseScanFilterDeviceIdParameters value bleScanFilter) fun result =>
    ∃ param, Optionally value "deviceId" TextOf param ∧
      (∀ deviceId ∈ param, (!isValidAddress deviceId) = false) ∧
      result = setParam .deviceId bleScanFilter param := by
  refine ((means_ofObject isObject (means_parseStringParams value "deviceId")).bind fun param _ => ?_).congr
    fun result => Iff.rfl
  cases param with
  | none => exact (Understands.pure bleScanFilter).congr fun result => by simp [setParam]
  | some deviceId =>
    exact ((means_returnIf _ _).bind fun _ _ => .pure _).congr fun result => by simp [setParam]

/-- The key is optional, must have its length, and is only taken where the filter has an address
of the right types. -/
theorem means_irk : Means (parseScanFilterIrkParameters value bleScanFilter) fun result =>
    ∃ param, Optionally value "irk" Uint8ArrayOf param ∧
      (∀ irk ∈ param, irk.length = lenOfIrk ∧ takesIrk bleScanFilter = true) ∧
      result = setParam .irk bleScanFilter param := by
  refine ((means_ofObject isObject (means_napiParseObjectUint8Array value "irk")).bind fun param _ => ?_).congr
    fun result => Iff.rfl
  cases param with
  | none => exact (Understands.pure bleScanFilter).congr fun result => by simp [setParam]
  | some irk =>
    refine ((means_returnIf _ _).bind fun _ _ => (means_returnIf _ _).bind fun _ _ => .pure _).congr
      fun result => ?_
    simp [setParam, and_assoc]

/-- The name is optional and must not be empty. -/
theorem means_name : Means (parseScanFilterLocalNameParameters value bleScanFilter) fun result =>
    ∃ param, Optionally value "name" TextOf param ∧ (∀ name ∈ param, name.isEmpty = false) ∧
      result = setParam .name bleScanFilter param := by
  refine ((means_ofObject isObject (means_parseStringParams value "name")).bind fun param _ => ?_).congr
    fun result => Iff.rfl
  cases param with
  | none => exact (Understands.pure bleScanFilter).congr fun result => by simp [setParam]
  | some name => exact ((means_returnIf _ _).bind fun _ _ => .pure _).congr fun result => by simp [setParam]

/-- The service UUID and its mask are optional, each by itself: a mask without a UUID is
accepted. -/
theorem means_serviceUuid :
    Means (parseScanFilterServiceUuidParameters value bleScanFilter) fun result =>
    ∃ param, Optionally value "serviceUuid" UuidOf param ∧
      ∃ mask, Optionally value "serviceUuidMask" UuidOf mask ∧
        result = setParam .serviceUuidMask (setParam .serviceUuid bleScanFilter param) mask :=
  means_setTwo bleScanFilter (means_ofObject isObject (means_parseUuidParams value "serviceUuid"))
    (means_ofObject isObject (means_parseUuidParams value "serviceUuidMask")) .serviceUuid .serviceUuidMask

/-- The solicitation UUID and its mask are optional in the same way. -/
theorem means_solicitationUuid :
    Means (parseScanFilterSolicitationUuidParameters value bleScanFilter) fun result =>
      ∃ param, Optionally value "serviceSolicitationUuid" UuidOf param ∧
        ∃ mask, Optionally value "serviceSolicitationUuidMask" UuidOf mask ∧
          result = setParam .serviceSolicitationUuidMask
            (setParam .serviceSolicitationUuid bleScanFilter param) mask :=
  means_setTwo bleScanFilter (means_ofObject isObject (means_parseUuidParams value "serviceSolicitationUuid"))
    (means_ofObject isObject (means_parseUuidParams value "serviceSolicitationUuidMask"))
    .serviceSolicitationUuid .serviceSolicitationUuidMask

/-- The service data and its mask are optional, each by itself, and their lengths are not
compared. -/
theorem means_serviceData :
    Means (parseScanFilterServiceDataParameters value bleScanFilter) fun result =>
    ∃ param, Optionally value "serviceData" ArrayBufferOf param ∧
      ∃ mask, Optionally value "serviceDataMask" ArrayBufferOf mask ∧
        result = setParam .serviceDataMask (setParam .serviceData bleScanFilter param) mask :=
  means_setTwo bleScanFilter (means_ofObject isObject (means_parseArrayBufferParams value "serviceData"))
    (means_ofObject isObject (means_parseArrayBufferParams value "serviceDataMask")) .serviceData
      .serviceDataMask

/-- The manufacturer id, the data and the mask are optional, each by itself. The id is cut to
sixteen bits when it is set. -/
theorem means_manufactureData :
    Means (parseScanFilterManufactureDataParameters value bleScanFilter) fun result =>
      ∃ id, Optionally value "manufactureId" Uint32Of id ∧
        ∃ param, Optionally value "manufactureData" ArrayBufferOf param ∧
          ∃ mask, Optionally value "manufactureDataMask" ArrayBufferOf mask ∧
            result = setParam .manufactureDataMask (setParam .manufactureData
              (setParam (fun id : UInt32 => .manufacturerId id.toUInt16) bleScanFilter id) param) mask :=
  (means_ofObject isObject (means_parseUint32Params value "manufactureId")).bind fun _ _ =>
    means_setTwo _ (means_ofObject isObject (means_parseArrayBufferParams value "manufactureData"))
      (means_ofObject isObject (means_parseArrayBufferParams value "manufactureDataMask"))
      .manufactureData .manufactureDataMask

/-- The threshold is optional and must be within its bounds. A threshold that is not given stays
at the lowest one. -/
theorem means_rssiThreshold :
    Means (parseScanFilterRssiThresholdParameters value bleScanFilter) fun result =>
    ∃ param, Optionally value "rssiThreshold" Int32Of param ∧
      (∀ rssiThreshold ∈ param,
        bleScanMinRssiThreshold ≤ rssiThreshold ∧ rssiThreshold ≤ bleScanMaxRssiThreshold) ∧
      result = setParam .rssiThreshold bleScanFilter param := by
  refine (means_ofObject isObject (means_parseInt32Params value "rssiThreshold")).bind fun param _ => ?_
  refine ((means_returnIf _ _).bind fun _ _ => .pure _).congr fun result => ?_
  cases param with
  | none => simp [bleScanMinRssiThreshold, bleScanMaxRssiThreshold]
  | some rssiThreshold =>
    simp only [Option.getD_some, Bool.or_eq_false_iff, decide_eq_false_iff_not, Int32.not_lt,
      Option.mem_some_iff,
      forall_eq', exists_const_iff]
    tauto

omit isObject

/-- The address of the new form must be an object with an address. The two types are set in any
case, to the byte that stands for none where they are missing. -/
theorem means_bluetoothAddress : Means (parseBluetoothAddress value bleScanFilter) fun result =>
    ∃ params, AddressParamsOf value params ∧ params.Acceptable ∧
      result = setParam .rawAddressType (setParam .addressType (setParam .deviceId bleScanFilter
        (some params.address)) (some (cutToUint8 (params.addressType.getD 0xFF))))
        (some (cutToUint8 (params.rawAddressType.getD 0xFF))) := by
  refine ((means_parseStringParams value "address").bind fun address _ =>
    (means_returnIf _ _).bind fun _ _ =>
    (means_parseInt32Params value "addressType").bind fun addressType _ =>
    (means_returnIf _ _).bind fun _ _ =>
    (means_parseInt32Params value "rawAddressType").bind fun rawAddressType _ =>
    (means_returnIf _ _).bind fun _ _ => .pure _).congr fun result => ?_
  constructor
  · rintro ⟨address, ⟨-, given⟩, -, valid, addressType, ⟨-, type⟩, -, notVirtual,
      rawAddressType, ⟨-, raw⟩, -, inRange, rfl⟩
    have valid : isValidAddress (address.getD []) = true := by simpa using valid
    cases address with
    | none => exact absurd valid (by decide)
    | some address =>
      refine ⟨⟨address, addressType, rawAddressType⟩, ⟨given, type, raw⟩, ⟨valid, ?_, ?_⟩, rfl⟩
      · rintro rfl
        exact absurd notVirtual (by decide)
      · rintro number ⟨⟩
        simpa using inRange
  · rintro ⟨⟨address, addressType, rawAddressType⟩, ⟨given, type, raw⟩,
      ⟨valid, notVirtual, inRange⟩, rfl⟩
    have has := hasProperties_of_optionally given
    refine ⟨some address, ⟨has, given⟩, (), by simpa using valid, addressType, ⟨has, type⟩, (), ?_,
      rawAddressType, ⟨has, raw⟩, (), ?_, rfl⟩
    · cases addressType with
      | none => decide
      | some number => simpa using notVirtual
    · cases rawAddressType with
      | none => decide
      | some number => simpa using inRange number rfl

/-- The setters of an address. -/
def setAddress : Option AddressParams → BleScanFilter
  | none => bleScanFilter
  | some params => setParam .rawAddressType (setParam .addressType (setParam .deviceId bleScanFilter
      (some params.address)) (some (cutToUint8 (params.addressType.getD 0xFF))))
      (some (cutToUint8 (params.rawAddressType.getD 0xFF)))

/-- To set an address sets the three fields of the filter, and no address leaves them. -/
theorem setAddress_eq (address : Option AddressParams) : setAddress bleScanFilter address =
    { bleScanFilter with
      deviceId := (address.map AddressParams.address).getD bleScanFilter.deviceId
      addressType := (address.map fun address => cutToUint8 (address.addressType.getD 0xFF)).getD
        bleScanFilter.addressType
      rawAddressType := (address.map fun address => cutToUint8 (address.rawAddressType.getD 0xFF)).getD
        bleScanFilter.rawAddressType } := by
  cases address <;> rfl

/-- The address of the new form is optional as a whole, and replaces the device id that was set
before it. -/
theorem means_addrInfo (isObject : value.isObject = true) :
    Means (parseScanFilterAddrInfoParameters value bleScanFilter) fun result =>
      ∃ address, Optionally value "address" AddressParamsOf address ∧
        (∀ params ∈ address, params.Acceptable) ∧ result = setAddress bleScanFilter address := by
  rw [parseScanFilterAddrInfoParameters, napiGetNamedProperty_ofObject "address" isObject, pure_bind]
  cases found : value.namedProperty "address" with
  | none =>
    refine (Understands.pure bleScanFilter).congr fun result => ?_
    constructor
    · rintro rfl
      exact ⟨none, found, nofun, rfl⟩
    · rintro ⟨address, given, -, rfl⟩
      cases address with
      | none => rfl
      | some params =>
        obtain ⟨property, present, -⟩ := given
        cases found.symm.trans present
  | some property =>
    refine (means_bluetoothAddress bleScanFilter).congr fun result => ?_
    constructor
    · rintro ⟨params, given, acceptable, rfl⟩
      exact ⟨some params, ⟨property, found, given⟩, fun _ same => Option.some.inj same ▸ acceptable, rfl⟩
    · rintro ⟨address, given, acceptable, rfl⟩
      cases address with
      | none => cases found.symm.trans given
      | some params =>
        obtain ⟨other, present, of⟩ := given
        cases found.symm.trans present
        exact ⟨params, of, acceptable params rfl, rfl⟩

end Steps

/-- **What a script says is the filter that is made.** `ParseScanFilter` gives the filter that the
object stands for, and returns a status if it stands for none. -/
theorem means_parseScanFilter (value : JsValue) :
    Means (parseScanFilter value) (ScanFilterOf value) := by
  refine ((means_checkNames value scanFilterNames).bind fun _ names =>
    (means_deviceId _ names.1).bind fun _ _ => (means_addrInfo _ names.1).bind fun _ _ =>
    (means_irk _ names.1).bind fun _ _ => (means_name _ names.1).bind fun _ _ =>
    (means_serviceUuid _ names.1).bind fun _ _ => (means_solicitationUuid _ names.1).bind fun _ _ =>
    (means_serviceData _ names.1).bind fun _ _ => (means_manufactureData _ names.1).bind fun _ _ =>
    means_rssiThreshold _ names.1).congr fun result => ?_
  simp only [setParam_deviceId, setAddress_eq, setParam_irk, setParam_name, setParam_serviceUuid,
    setParam_serviceUuidMask, setParam_serviceSolicitationUuid, setParam_serviceSolicitationUuidMask,
    setParam_serviceData, setParam_serviceDataMask, setParam_manufacturerId, setParam_manufactureData,
    setParam_manufactureDataMask, setParam_rssiThreshold]
  constructor
  · rintro ⟨-, names, _, ⟨deviceId, deviceIdOf, validId, rfl⟩, _, ⟨address, addressOf, acceptable, rfl⟩,
      _, ⟨irk, irkOf, irkFits, rfl⟩, _, ⟨name, nameOf, named, rfl⟩,
      _, ⟨serviceUuid, serviceUuidOf, serviceUuidMask, serviceUuidMaskOf, rfl⟩,
      _, ⟨solicitation, solicitationOf, solicitationMask, solicitationMaskOf, rfl⟩,
      _, ⟨serviceData, serviceDataOf, serviceDataMask, serviceDataMaskOf, rfl⟩,
      _, ⟨id, idOf, data, dataOf, dataMask, dataMaskOf, rfl⟩, rssiThreshold, rssiThresholdOf, inRange, rfl⟩
    refine ⟨{ deviceId, address, irk, name, serviceUuid, serviceUuidMask
              serviceSolicitationUuid := solicitation
              serviceSolicitationUuidMask := solicitationMask
              serviceData, serviceDataMask
              manufactureId := id
              manufactureData := data
              manufactureDataMask := dataMask
              rssiThreshold },
      ⟨names, deviceIdOf, addressOf, irkOf, nameOf, serviceUuidOf, serviceUuidMaskOf, solicitationOf,
        solicitationMaskOf, serviceDataOf, serviceDataMaskOf, idOf, dataOf, dataMaskOf, rssiThresholdOf⟩,
      ⟨?_, acceptable, irkFits, ?_, inRange⟩, ?_⟩
    · simpa using validId
    · simpa using named
    · simp [FilterParams.filter, BleScanFilter.new]
  · rintro ⟨params, of, acceptable, rfl⟩
    refine ⟨(), of.names, _, ⟨_, of.deviceId, ?_, rfl⟩, _, ⟨_, of.address, acceptable.address, rfl⟩,
      _, ⟨_, of.irk, acceptable.irk, rfl⟩, _, ⟨_, of.name, ?_, rfl⟩,
      _, ⟨_, of.serviceUuid, _, of.serviceUuidMask, rfl⟩,
      _, ⟨_, of.serviceSolicitationUuid, _, of.serviceSolicitationUuidMask, rfl⟩,
      _, ⟨_, of.serviceData, _, of.serviceDataMask, rfl⟩,
      _, ⟨_, of.manufactureId, _, of.manufactureData, _, of.manufactureDataMask, rfl⟩,
      _, of.rssiThreshold, acceptable.rssiThreshold, ?_⟩
    · simpa using acceptable.deviceId
    · simpa using acceptable.name
    · simp [FilterParams.filter, BleScanFilter.new]

/-! ## The filters that scripts can make -/

/-- The filter could be made by a script. -/
structure MadeByScript (filter : BleScanFilter) : Prop where
  deviceId : filter.deviceId = [] ∨ isValidAddress filter.deviceId = true
  addressTypes : filter.deviceId = [] →
    filter.addressType = unsetAddress ∧ filter.rawAddressType = unsetAddress
  irk : filter.irk = [] ∨ (filter.irk.length = lenOfIrk ∧ takesIrk filter = true)
  serviceUuid : filter.hasServiceUuid = false → filter.serviceUuid = {}
  serviceUuidMask : filter.hasServiceUuidMask = false → filter.serviceUuidMask = {}
  serviceSolicitationUuid : filter.hasSolicitationUuid = false → filter.serviceSolicitationUuid = {}
  serviceSolicitationUuidMask :
    filter.hasSolicitationUuidMask = false → filter.serviceSolicitationUuidMask = {}
  rssiThreshold : bleScanMinRssiThreshold ≤ filter.rssiThreshold ∧
    filter.rssiThreshold ≤ bleScanMaxRssiThreshold
  unsetThreshold : filter.hasRssiThreshold = false → filter.rssiThreshold = bleScanMinRssiThreshold
  advIndReport : filter.advIndReport = false
  filterIndex : filter.filterIndex = 0

/-- A valid address is not empty. -/
theorem ne_nil_of_isValidAddress {address : ByteString} (valid : isValidAddress address = true) :
    address ≠ [] := by
  rintro rfl
  exact absurd valid (by decide)

/-- A filter made of acceptable parameters is one that a script can make. The parser sets
nothing else. -/
theorem madeByScript_filter {params : FilterParams} (acceptable : params.Acceptable) :
    MadeByScript params.filter := by
  have address : isValidAddress params.filter.deviceId = true ∨
      params.filter.deviceId = [] ∧ params.address = none := by
    simp only [FilterParams.filter]
    cases given : params.address with
    | some address => exact Or.inl (acceptable.address address given).address
    | none =>
      cases id : params.deviceId with
      | some deviceId => exact Or.inl (acceptable.deviceId deviceId id)
      | none => exact Or.inr ⟨rfl, rfl⟩
  have unset {α : Type} {default : α} {param : Option α} (absent : param.isSome = false) :
      param.getD default = default := by
    rw [Option.isSome_eq_false_iff, Option.isNone_iff_eq_none] at absent
    rw [absent, Option.getD_none]
  refine ⟨address.symm.imp And.left id, fun empty => ?_, ?_, unset, unset, unset, unset, ?_, unset, rfl, rfl⟩
  · rcases address with valid | ⟨-, absent⟩
    · exact absurd empty (ne_nil_of_isValidAddress valid)
    · simp [FilterParams.filter, absent]
  · cases given : params.irk with
    | none => exact Or.inl (by simp [FilterParams.filter, given])
    | some irk =>
      obtain ⟨length, takes⟩ := acceptable.irk irk given
      exact Or.inr ⟨by simpa [FilterParams.filter, given] using length, takes⟩
  · simp only [FilterParams.filter]
    cases given : params.rssiThreshold with
    | none => decide
    | some rssiThreshold => exact acceptable.rssiThreshold rssiThreshold given

/-- A number that is cut to the type and does not say that the address is virtual. -/
def addressTypeNumber (addressType : UInt8) : Int32 :=
  if addressType = virtualAddress then 0x101 else Int32.ofNat addressType.toNat

/-- A byte is cut to itself. -/
theorem cutToUint8_ofNat (byte : UInt8) : cutToUint8 (Int32.ofNat byte.toNat) = byte := by
  have all : ∀ number : Fin 256, cutToUint8 (Int32.ofNat number.val) = UInt8.ofNat number.val := by
    decide +kernel
  rw [← UInt8.ofNat_toNat (x := byte)]
  simpa using all byte.toFin

/-- The number of an address type is cut back to the type. -/
theorem cutToUint8_addressTypeNumber (addressType : UInt8) :
    cutToUint8 (addressTypeNumber addressType) = addressType := by
  rw [addressTypeNumber]
  split
  · rename_i isVirtual
    rw [isVirtual]
    rfl
  · exact cutToUint8_ofNat addressType

/-- The number of no address type is the one that the check refuses. -/
theorem addressTypeNumber_ne (addressType : UInt8) : addressTypeNumber addressType ≠ 1 := by
  rw [addressTypeNumber]
  split
  · decide
  · rename_i notVirtual
    intro same
    have cut := cutToUint8_ofNat addressType
    rw [same] at cut
    exact notVirtual (cut.symm.trans rfl)

/-- A byte lies within the bounds of a raw address type. -/
theorem ofNat_inRange (byte : UInt8) :
    0 ≤ Int32.ofNat byte.toNat ∧ Int32.ofNat byte.toNat ≤ 0xFF := by
  have all : ∀ number : Fin 256, 0 ≤ Int32.ofNat number.val ∧ Int32.ofNat number.val ≤ 0xFF := by
    decide +kernel
  exact all byte.toFin

/-- The parameter that is not the default, or none. -/
def unlessDefault {α : Type} [DecidableEq α] (default value : α) : Option α :=
  if value = default then none else some value

/-- The parameter that has its flag. -/
def ifFlag {α : Type} (flag : Bool) (value : α) : Option α :=
  if flag then some value else none

/-- The properties with which a script makes the filter. -/
def paramsOf (filter : BleScanFilter) : FilterParams where
  deviceId := none
  address :=
    if filter.deviceId = [] then none
    else some
      { address := filter.deviceId
        addressType := some (addressTypeNumber filter.addressType)
        rawAddressType := some (Int32.ofNat filter.rawAddressType.toNat) }
  irk := unlessDefault [] filter.irk
  name := unlessDefault [] filter.name
  serviceUuid := ifFlag filter.hasServiceUuid filter.serviceUuid
  serviceUuidMask := ifFlag filter.hasServiceUuidMask filter.serviceUuidMask
  serviceSolicitationUuid := ifFlag filter.hasSolicitationUuid filter.serviceSolicitationUuid
  serviceSolicitationUuidMask := ifFlag filter.hasSolicitationUuidMask filter.serviceSolicitationUuidMask
  serviceData := some filter.serviceData
  serviceDataMask := some filter.serviceDataMask
  manufactureId := some filter.manufacturerId.toUInt32
  manufactureData := some filter.manufactureData
  manufactureDataMask := some filter.manufactureDataMask
  rssiThreshold := ifFlag filter.hasRssiThreshold filter.rssiThreshold

/-- A value that is left out because it is the default comes back as the default. -/
theorem getD_unlessDefault {α : Type} [DecidableEq α] (default value : α) :
    (unlessDefault default value).getD default = value := by
  rw [unlessDefault]
  split <;> simp [*]

/-- A field is given exactly if its flag is set. -/
theorem isSome_ifFlag {α : Type} (flag : Bool) (value : α) : (ifFlag flag value).isSome = flag := by
  cases flag <;> rfl

/-- A field that is given under its flag comes back. Where the flag is not set, the field has
the default by assumption. -/
theorem getD_ifFlag {α : Type} {flag : Bool} {default value : α}
    (unset : flag = false → value = default) :
    (ifFlag flag value).getD default = value := by
  cases flag with
  | false => exact (unset rfl).symm
  | true => rfl

/-- The filter is made of its properties. Every field is either given as a property or has the
default that the parser leaves. -/
theorem filter_paramsOf {filter : BleScanFilter} (made : MadeByScript filter) :
    (paramsOf filter).filter = filter := by
  have address : (paramsOf filter).filter.deviceId = filter.deviceId ∧
      (paramsOf filter).filter.addressType = filter.addressType ∧
      (paramsOf filter).filter.rawAddressType = filter.rawAddressType := by
    simp only [FilterParams.filter, paramsOf]
    by_cases empty : filter.deviceId = []
    · simp [empty, made.addressTypes empty]
    · simp [empty, cutToUint8_ofNat, cutToUint8_addressTypeNumber]
  have same : (paramsOf filter).filter =
      { filter with
        deviceId := (paramsOf filter).filter.deviceId
        addressType := (paramsOf filter).filter.addressType
        rawAddressType := (paramsOf filter).filter.rawAddressType
        advIndReport := false
        filterIndex := 0 } := by
    simp only [FilterParams.filter, paramsOf, getD_unlessDefault, isSome_ifFlag, getD_ifFlag made.serviceUuid,
      getD_ifFlag made.serviceUuidMask, getD_ifFlag made.serviceSolicitationUuid,
      getD_ifFlag made.serviceSolicitationUuidMask, getD_ifFlag made.unsetThreshold, Option.getD_some,
      Option.map_some, UInt16.toUInt16_toUInt32]
  rw [same, address.1, address.2.1, address.2.2, ← made.advIndReport, ← made.filterIndex]

/-- The parameters of a filter that a script can make are acceptable, so that every such filter
is the result of a call. -/
theorem acceptable_paramsOf {filter : BleScanFilter} (made : MadeByScript filter) :
    (paramsOf filter).Acceptable := by
  refine ⟨nofun, ?_, ?_, ?_, ?_⟩
  · intro address given
    simp only [paramsOf, Option.mem_def, Option.ite_none_left_eq_some, Option.some.injEq] at given
    obtain ⟨filled, rfl⟩ := given
    refine ⟨made.deviceId.resolve_left filled, ?_, ?_⟩
    · exact fun same => addressTypeNumber_ne filter.addressType (Option.some.inj same)
    · rintro _ ⟨⟩
      exact ofNat_inRange filter.rawAddressType
  · intro irk given
    rw [filter_paramsOf made]
    simp only [paramsOf, unlessDefault, Option.mem_def, Option.ite_none_left_eq_some,
      Option.some.injEq] at given
    obtain ⟨filled, rfl⟩ := given
    exact made.irk.resolve_left filled
  · intro name given
    simp only [paramsOf, unlessDefault, Option.mem_def, Option.ite_none_left_eq_some,
      Option.some.injEq] at given
    obtain ⟨filled, rfl⟩ := given
    exact filled
  · intro rssiThreshold given
    cases flag : filter.hasRssiThreshold with
    | false => simp [paramsOf, ifFlag, flag] at given
    | true =>
      have same : filter.rssiThreshold = rssiThreshold := by simpa [paramsOf, ifFlag, flag] using given
      exact same ▸ made.rssiThreshold

/-- The object of an address. -/
def AddressParams.object (params : AddressParams) : JsValue :=
  objectOf
    [("address", some (.string params.address)),
     ("addressType", params.addressType.map fun number => .number number.toInt),
     ("rawAddressType", params.rawAddressType.map fun number => .number number.toInt)]

/-- The object of a filter. -/
def FilterParams.object (params : FilterParams) : JsValue :=
  objectOf
    [("deviceId", params.deviceId.map .string),
     ("address", params.address.map AddressParams.object),
     ("irk", params.irk.map .uint8Array),
     ("name", params.name.map .string),
     ("serviceUuid", params.serviceUuid.map fun uuid => .string uuid.toString),
     ("serviceUuidMask", params.serviceUuidMask.map fun uuid => .string uuid.toString),
     ("serviceSolicitationUuid", params.serviceSolicitationUuid.map fun uuid => .string uuid.toString),
     ("serviceSolicitationUuidMask", params.serviceSolicitationUuidMask.map fun uuid => .string uuid.toString),
     ("serviceData", params.serviceData.map .arrayBuffer),
     ("serviceDataMask", params.serviceDataMask.map .arrayBuffer),
     ("manufactureId", params.manufactureId.map fun number => .number number.toNat),
     ("manufactureData", params.manufactureData.map .arrayBuffer),
     ("manufactureDataMask", params.manufactureDataMask.map .arrayBuffer),
     ("rssiThreshold", params.rssiThreshold.map fun number => .number number.toInt)]

/-- The object made of the parameters of an address is parsed to them. -/
theorem addressParamsOf_object (params : AddressParams) : AddressParamsOf params.object params := by
  have distinct : ["address", "addressType", "rawAddressType"].Nodup := by decide
  exact ⟨⟨.string params.address, namedProperty_objectOf distinct rfl, rfl⟩,
    optionally_objectOf distinct rfl int32Of_number, optionally_objectOf distinct rfl int32Of_number⟩

/-- The object made of the parameters of a filter is parsed to them. -/
theorem filterParamsOf_object (params : FilterParams) : FilterParamsOf params.object params := by
  have distinct : scanFilterNames.Nodup := by decide
  exact ⟨onlyProperties_objectOf _, optionally_objectOf distinct rfl fun _ => rfl,
    optionally_objectOf distinct rfl addressParamsOf_object, optionally_objectOf distinct rfl fun _ => rfl,
    optionally_objectOf distinct rfl fun _ => rfl, optionally_objectOf distinct rfl uuidOf_string,
    optionally_objectOf distinct rfl uuidOf_string, optionally_objectOf distinct rfl uuidOf_string,
    optionally_objectOf distinct rfl uuidOf_string, optionally_objectOf distinct rfl fun _ => rfl,
    optionally_objectOf distinct rfl fun _ => rfl, optionally_objectOf distinct rfl uint32Of_number,
    optionally_objectOf distinct rfl fun _ => rfl, optionally_objectOf distinct rfl fun _ => rfl,
    optionally_objectOf distinct rfl int32Of_number⟩

/-- Which filters are made by a script. -/
theorem exists_scanFilterOf_iff (filter : BleScanFilter) :
    (∃ value, ScanFilterOf value filter) ↔ MadeByScript filter := by
  constructor
  · rintro ⟨value, params, of, acceptable, rfl⟩
    exact madeByScript_filter acceptable
  · exact fun made => ⟨(paramsOf filter).object, paramsOf filter, filterParamsOf_object _,
      acceptable_paramsOf made, (filter_paramsOf made).symm⟩

end BluetoothFramework.Napi
