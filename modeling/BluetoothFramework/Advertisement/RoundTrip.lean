import BluetoothFramework.Advertisement.AdvertiserData
import BluetoothFramework.Advertisement.Announced
import BluetoothFramework.Advertisement.ParseBounds

/-!
# The parser undoes the builder

A call of the builder appends whole AD structures, `framesOf` of the call, so a payload is
the encoding of the structures of all calls. The parser decodes them again, and what they
announce is what the calls were given. A UUID has one of three widths; each width has its
own AD types and conversions, and converting a UUID of that width back gives it in full.
-/

namespace BluetoothFramework.BleAdvertiserDataImpl

open BlePeripheralDevice Loads

/-! ## Widths of UUIDs -/

/-- The widths in which UUIDs are written. -/
inductive Width where
  | bits16
  | bits32
  | bits128
deriving DecidableEq, Repr

namespace Width

/-- The width a UUID is written in. -/
def of (uuid : Uuid) : Width :=
  if uuid.getUuidType = Uuid.uuid16BytesType then bits16
  else if uuid.getUuidType = Uuid.uuid32BytesType then bits32
  else bits128

/-- Bytes of a UUID. -/
def length : Width → Nat
  | bits16 => bleUuidLen16
  | bits32 => bleUuidLen32
  | bits128 => bleUuidLen128

/-- A UUID as written by the builder. -/
def bytes : Width → Uuid → ByteString
  | bits16 => bytesOf16
  | bits32 => bytesOf32
  | bits128 => bytesOf128

/-- A UUID as read by the parser. -/
def convert : Width → List UInt8 → Uuid
  | bits16 => uuidOf16
  | bits32 => uuidOf32
  | bits128 => uuidOf128

/-- The AD type of a complete list of service UUIDs. -/
def servicesType : Width → UInt8
  | bits16 => bleAdType16SrvCmpl
  | bits32 => bleAdType32SrvCmpl
  | bits128 => bleAdType128SrvCmpl

/-- The AD type of service data. -/
def dataType : Width → UInt8
  | bits16 => bleAdTypeServiceData
  | bits32 => bleAdType32ServiceData
  | bits128 => bleAdType128ServiceData

/-- The order in which `AddServiceUuids` writes the widths. -/
def all : List Width :=
  [bits16, bits32, bits128]

/-- A UUID takes as many bytes as its width says. -/
theorem length_bytes (width : Width) (uuid : Uuid) : (width.bytes uuid).length = width.length := by
  cases width with
  | bits16 => exact LittleEndian.length_encode _ _
  | bits32 => exact LittleEndian.length_encode _ _
  | bits128 => exact Vector.length_toList

/-- Every width takes a byte at least, so a field of UUIDs is never empty. -/
theorem length_pos (width : Width) : 0 < width.length := by
  cases width <;> decide

/-- A UUID without a short form is written in full. -/
theorem eq_128_of_ne {uuid : Uuid} (not16 : uuid.getUuidType ≠ Uuid.uuid16BytesType)
    (not32 : uuid.getUuidType ≠ Uuid.uuid32BytesType) :
      uuid.getUuidType = Uuid.uuid128BytesType := by
  rw [Uuid.getUuidType] at not16 not32 ⊢
  split at not16
  · rename_i differs
    exact if_pos differs
  · rename_i same
    rw [if_neg same] at not32
    split at not16
    · exact absurd rfl not16
    · rename_i upper
      rw [if_neg upper] at not32
      exact absurd rfl not32

/-- A switch over `GetUuidType` takes the branch of the width, and never its default. -/
theorem switch {α : Type} (uuid : Uuid) (branch : Width → α) (default : α) :
    (if uuid.getUuidType = Uuid.uuid16BytesType then branch bits16
      else if uuid.getUuidType = Uuid.uuid32BytesType then branch bits32
      else if uuid.getUuidType = Uuid.uuid128BytesType then branch bits128
      else default) = branch (of uuid) := by
  rw [of]
  by_cases short16 : uuid.getUuidType = Uuid.uuid16BytesType
  · rw [if_pos short16, if_pos short16]
  · rw [if_neg short16, if_neg short16]
    by_cases short32 : uuid.getUuidType = Uuid.uuid32BytesType
    · rw [if_pos short32, if_pos short32]
    · rw [if_neg short32, if_neg short32, if_pos (eq_128_of_ne short16 short32)]

/-- A UUID is read in full from its own width. A short one is a few bytes of the base UUID, which
the parser puts back around them. -/
theorem convert_bytes (uuid : Uuid) : (of uuid).convert ((of uuid).bytes uuid) = uuid := by
  rw [of]
  by_cases short16 : uuid.getUuidType = Uuid.uuid16BytesType
  · rw [if_pos short16]
    have fits : uuid.convertTo16Bits.toNat < 256 ^ bleUuidLen16 := uuid.convertTo16Bits.toNat_lt
    change Uuid.convertFrom16Bits (UInt16.ofNat (LittleEndian.decode (LittleEndian.encode _ _))) = uuid
    rw [LittleEndian.decode_encode _ _ fits, UInt16.ofNat_toNat]
    exact Uuid.convertFrom16Bits_convertTo16Bits uuid short16
  · rw [if_neg short16]
    by_cases short32 : uuid.getUuidType = Uuid.uuid32BytesType
    · rw [if_pos short32]
      have fits : uuid.convertTo32Bits.toNat < 256 ^ bleUuidLen32 := uuid.convertTo32Bits.toNat_lt
      have short : uuid.IsShort := by
        by_contra long
        rw [← Uuid.getUuidType_eq_128_iff, short32] at long
        exact absurd long (by decide)
      change Uuid.convertFrom32Bits (UInt32.ofNat (LittleEndian.decode (LittleEndian.encode _ _))) = uuid
      rw [LittleEndian.decode_encode _ _ fits, UInt32.ofNat_toNat]
      exact (Uuid.convertFrom32Bits_convertTo32Bits_iff uuid).mpr short
    · rw [if_neg short32]
      have same : (Vector.ofFn fun i => uuid.convertToBytesLE.toList.getD i 0) = uuid.convertToBytesLE := by
        apply Vector.ext
        intro i bound
        simp
      change Uuid.convertFromBytesLE (Vector.ofFn fun i => uuid.convertToBytesLE.toList.getD i 0) = uuid
      rw [same]
      exact Uuid.convertFromBytesLE_convertToBytesLE uuid

end Width

/-! ## The structures of a call -/

/-- The UUIDs of one width, together. -/
def groupOf (uuidVec : List Uuid) (width : Width) : List Uuid :=
  uuidVec.filter fun uuid => Width.of uuid = width

/-- The structure with the service UUIDs of one width, unless there are none. -/
def groupFrames (uuidVec : List Uuid) (width : Width) : List Frames.Frame :=
  if groupOf uuidVec width = [] then []
  else [(width.servicesType, (groupOf uuidVec width).flatMap width.bytes)]

/-- The structures a call appends. -/
def framesOf : Call → List Frames.Frame
  | .setFlags flag => [(bleAdTypeFlag, [flag])]
  | .setAppearance appearance => [(bleAdTypeAppearance, LittleEndian.encode 2 appearance.toNat)]
  | .setTxPowerLevel txPowerLevel => [(bleAdTypeTxPwr, [txPowerLevel])]
  | .setDeviceName name =>
      [(if name.length > deviceNameMaxLen then bleAdTypeNameShort else bleAdTypeNameCmpl,
        name.take deviceNameMaxLen)]
  | .addManufacturerData manufacturerId data =>
      [(bleAdManufacturerSpecificType,
        (manufacturerId &&& 0xFF).toUInt8 :: ((manufacturerId >>> 8) &&& 0xFF).toUInt8 :: data)]
  | .addServiceData uuid data =>
      [((Width.of uuid).dataType, (Width.of uuid).bytes uuid ++ data)]
  | .addServiceUuid uuid => [((Width.of uuid).servicesType, (Width.of uuid).bytes uuid)]
  | .addServiceUuids uuidVec => Width.all.flatMap (groupFrames uuidVec)

/-- The string of one width in the loop of `AddServiceUuids`. -/
def ServiceUuids.string (strings : ServiceUuids) : Width → ByteString
  | .bits16 => strings.serviceUuid16
  | .bits32 => strings.serviceUuid32
  | .bits128 => strings.serviceUuid128

/-- The loop of `AddServiceUuids` appends the UUIDs of each width to its string. The three
strings do not touch each other, so one statement about a width says all. -/
theorem string_foldl_append (uuidVec : List Uuid) (strings : ServiceUuids) (width : Width) :
    (uuidVec.foldl ServiceUuids.append strings).string width =
      strings.string width ++ (groupOf uuidVec width).flatMap width.bytes := by
  induction uuidVec generalizing strings with
  | nil => simp [groupOf]
  | cons uuid rest inductionHypothesis =>
    have step : (strings.append uuid).string width =
        strings.string width ++ if Width.of uuid = width then width.bytes uuid else [] := by
      rw [ServiceUuids.append, Width.of]
      split
      · cases width <;> simp [ServiceUuids.string, Width.bytes]
      · split <;> cases width <;> simp [ServiceUuids.string, Width.bytes]
    rw [List.foldl_cons, inductionHypothesis, step, List.append_assoc]
    by_cases same : Width.of uuid = width
    · simp [groupOf, same]
    · simp [groupOf, same]

/-- A string is empty when its group is. -/
theorem string_eq_nil_iff (width : Width) (group : List Uuid) :
    group.flatMap width.bytes = [] ↔ group = [] := by
  cases group with
  | nil => simp
  | cons uuid rest =>
    have positive := width.length_pos
    rw [← width.length_bytes uuid] at positive
    simp [List.ne_nil_of_length_pos positive]

/-- A block of `AddServiceUuids` appends the structure of its width. -/
theorem payload_addUuidString (self : BleAdvertiserDataImpl) (uuidVec : List Uuid) (width : Width) :
    (self.addUuidString width.servicesType
        ((uuidVec.foldl ServiceUuids.append {}).string width)).payload =
      self.payload ++ Frames.encodeAll (groupFrames uuidVec width) := by
  have initial : (ServiceUuids.string {} width) = [] := by cases width <;> rfl
  rw [string_foldl_append, initial, List.nil_append, addUuidString, groupFrames]
  by_cases empty : groupOf uuidVec width = []
  · rw [if_neg (not_not_intro ((string_eq_nil_iff width _).mpr empty)), if_pos empty]
    exact (List.append_nil _).symm
  · rw [if_pos (mt (string_eq_nil_iff width _).mp empty), if_neg empty]
    simp [addData, Frames.encodeAll, Frames.encode]

/-- The three branches of `AddServiceData` are one, with the width of the UUID as parameter. The
round trip then needs no case for each width. -/
theorem addServiceData_eq (self : BleAdvertiserDataImpl) (uuid : Uuid) (data : ByteString) :
    self.addServiceData uuid data =
      self.addData ([UInt8.ofNat (data.length + (Width.of uuid).length + 1), (Width.of uuid).dataType] ++
        (Width.of uuid).bytes uuid ++ data) :=
  Width.switch uuid (fun width => self.addData
    ([UInt8.ofNat (data.length + width.length + 1), width.dataType] ++ width.bytes uuid ++ data)) self

/-- The three branches of `SetCompleteServices` are one, with the width of the UUID as
parameter. -/
theorem setCompleteServices_eq (self : BleAdvertiserDataImpl) (uuid : Uuid) :
    self.setCompleteServices uuid =
      self.addData ([UInt8.ofNat ((Width.of uuid).length + 1), (Width.of uuid).servicesType] ++
        (Width.of uuid).bytes uuid) :=
  Width.switch uuid (fun width => self.addData
    ([UInt8.ofNat (width.length + 1), width.servicesType] ++ width.bytes uuid)) self

/-- A call appends its structures. Nothing that was appended before is changed, so the payload of
many calls is that of each of them in turn. -/
theorem payload_perform (self : BleAdvertiserDataImpl) (call : Call) :
    (self.perform call).payload = self.payload ++ Frames.encodeAll (framesOf call) := by
  cases call with
  | setFlags flag => rfl
  | setAppearance appearance => rfl
  | setTxPowerLevel txPowerLevel => rfl
  | setDeviceName name =>
    by_cases long : name.length > deviceNameMaxLen
    · have cut : (name.take deviceNameMaxLen).length = deviceNameMaxLen :=
        List.length_take_of_le (Nat.le_of_lt long)
      simp [perform, setDeviceName, setLongName, addData, framesOf, Frames.encodeAll, Frames.encode, long, cut]
    · have whole : name.take deviceNameMaxLen = name := List.take_of_length_le (Nat.le_of_not_gt long)
      simp [perform, setDeviceName, setShortName, addData, framesOf, Frames.encodeAll,
        Frames.encode, long, whole]
  | addManufacturerData manufacturerId data =>
    simp [perform, addManufacturerData, setManufacturerData, addData, framesOf, Frames.encodeAll,
      Frames.encode]
  | addServiceData uuid data =>
    have size := (Width.of uuid).length_bytes uuid
    have count : data.length + (Width.of uuid).length + 1 = (Width.of uuid).length + data.length + 1 := by
      omega
    rw [perform, addServiceData_eq, count]
    simp [addData, framesOf, Frames.encodeAll, Frames.encode, size]
  | addServiceUuid uuid =>
    have size := (Width.of uuid).length_bytes uuid
    rw [perform, addServiceUuid, setCompleteServices_eq]
    simp [addData, framesOf, Frames.encodeAll, Frames.encode, size]
  | addServiceUuids uuidVec =>
    by_cases none : uuidVec = []
    · rw [perform, addServiceUuids, if_pos none, none]
      exact (List.append_nil _).symm
    · let strings := uuidVec.foldl ServiceUuids.append {}
      let after16 := self.addUuidString Width.bits16.servicesType (strings.string .bits16)
      let after32 := after16.addUuidString Width.bits32.servicesType (strings.string .bits32)
      have first := payload_addUuidString self uuidVec .bits16
      have second := payload_addUuidString after16 uuidVec .bits32
      have third := payload_addUuidString after32 uuidVec .bits128
      rw [second, first] at third
      rw [perform, addServiceUuids, if_neg none]
      refine third.trans ?_
      simp [framesOf, Width.all, Frames.encodeAll]

/-- The payload of calls is the encoding of their structures. -/
theorem payload_performAll (self : BleAdvertiserDataImpl) (calls : List Call) :
    (self.performAll calls).payload = self.payload ++
      Frames.encodeAll (calls.flatMap framesOf) := by
  induction calls generalizing self with
  | nil => exact (List.append_nil _).symm
  | cons call rest inductionHypothesis =>
    have later := inductionHypothesis (self.perform call)
    rw [payload_perform, List.append_assoc] at later
    rw [performAll, List.foldl_cons]
    refine later.trans ?_
    rw [List.flatMap_cons, Frames.encodeAll, Frames.encodeAll, Frames.encodeAll, List.flatMap_append]

/-! ## What calls are given -/

/-- What a call is given: the TX power as the signed value it is read back as, the name
cut to its maximal length, the service UUIDs in the order of the payload. -/
def Call.given : Call → Contents
  | setFlags flag => { flags := [flag] }
  | setAppearance appearance => { appearances := [appearance] }
  | setTxPowerLevel txPowerLevel => { txPowers := [txPowerLevel.toInt8] }
  | setDeviceName name => { names := [name.take deviceNameMaxLen] }
  | addManufacturerData manufacturerId data => { manufacturers := [(manufacturerId, data)] }
  | addServiceData uuid data => { serviceData := [(uuid, data)] }
  | addServiceUuid uuid => { uuids := [uuid] }
  | addServiceUuids uuidVec => { uuids := Width.all.flatMap (groupOf uuidVec) }

/-- What calls are given together. -/
def given (calls : List Call) : Contents :=
  Contents.concat (calls.map Call.given)

/-- Manufacturer data is not empty. -/
def Call.HasData : Call → Prop
  | addManufacturerData _ data => data ≠ []
  | _ => True

/-- The UUIDs of a width are read back from their structure. -/
theorem contentsOf_servicesType (width : Width) (group : List Uuid)
    (same : ∀ uuid ∈ group, Width.of uuid = width) :
    contentsOf (width.servicesType, group.flatMap width.bytes) = { uuids := group } := by
  have cut : Frames.chunks width.length (group.flatMap width.bytes) = group.map width.bytes :=
    Frames.chunks_flatMap width.length width.length_pos width.bytes group
      fun uuid _ => width.length_bytes uuid
  have read : (Frames.chunks width.length (group.flatMap width.bytes)).map width.convert = group := by
    rw [cut, List.map_map]
    refine (List.map_congr_left fun uuid member => ?_).trans (List.map_id group)
    have back := Width.convert_bytes uuid
    rwa [same uuid member] at back
  refine Eq.trans ?_ (congrArg (fun uuids => { uuids := uuids : Contents }) read)
  cases width <;> rfl

/-- Service data is read back from its structure. -/
theorem contentsOf_dataType (uuid : Uuid) (data : ByteString) :
    contentsOf ((Width.of uuid).dataType, (Width.of uuid).bytes uuid ++ data) =
      { serviceData := [(uuid, data)] } := by
  have size := (Width.of uuid).length_bytes uuid
  have long : ¬ ((Width.of uuid).bytes uuid ++ data).length < (Width.of uuid).length := by
    rw [List.length_append]
    omega
  have read : keyed (Width.of uuid).length (Width.of uuid).convert ((Width.of uuid).bytes uuid ++ data) =
      [(uuid, data)] := by
    rw [keyed, if_neg long, ← size, List.take_left, List.drop_left, Width.convert_bytes]
  refine Eq.trans ?_ (congrArg (fun serviceData => { serviceData := serviceData : Contents }) read)
  cases Width.of uuid <;> rfl

/-- The identifier is read back from its two bytes. -/
theorem identifier_bytes (id : UInt16) :
    ((id &&& 0xFF).toUInt8.toUInt16 ||| (((id >>> 8) &&& 0xFF).toUInt8.toUInt16 <<< 8)) = id := by
  have bound := id.toNat_lt
  have halves : (id.toNat / 256 % 256) <<< 8 ||| id.toNat % 256 = id.toNat := by
    rw [← Nat.shiftLeft_add_eq_or_of_lt (by omega), Nat.shiftLeft_eq]
    omega
  have small : (id.toNat / 256 % 256) <<< 8 % 65536 = (id.toNat / 256 % 256) <<< 8 := by
    rw [Nat.shiftLeft_eq]
    omega
  apply UInt16.toNat_inj.mp
  simpa [Uuid.low_byte, Nat.shiftRight_eq_div_pow, small, Nat.or_comm] using halves

/-- The structures of a call contribute what it was given. Manufacturer data must not be empty,
since a structure that is too short clears what was collected. -/
theorem contents_framesOf (call : Call) (data : call.HasData) :
    contents (framesOf call) = call.given := by
  cases call with
  | setFlags flag => rfl
  | setAppearance appearance =>
    have read := LittleEndian.decode_encode 2 appearance.toNat appearance.toNat_lt
    have whole : (LittleEndian.encode 2 appearance.toNat).take 2 = LittleEndian.encode 2 appearance.toNat :=
      rfl
    have value : UInt16.ofNat (LittleEndian.decode ((LittleEndian.encode 2 appearance.toNat).take 2)) =
        appearance := by
      rw [whole, read, UInt16.ofNat_toNat]
    exact congrArg (fun value => { appearances := [value] : Contents }) value
  | setTxPowerLevel txPowerLevel => rfl
  | setDeviceName name =>
    rw [framesOf]
    split <;> rfl
  | addManufacturerData manufacturerId bytes =>
    cases bytes with
    | nil => exact absurd rfl data
    | cons first rest =>
      exact congrArg (fun id => { manufacturers := [(id, first :: rest)] : Contents })
        (identifier_bytes manufacturerId)
  | addServiceData uuid bytes =>
    have one := contentsOf_dataType uuid bytes
    rw [framesOf, contents, List.map_singleton, one]
    rfl
  | addServiceUuid uuid =>
    have one := contentsOf_servicesType (Width.of uuid) [uuid] (by simp)
    rw [List.flatMap_singleton] at one
    rw [framesOf, contents, List.map_singleton, one]
    rfl
  | addServiceUuids uuidVec =>
    have group (width : Width) :
        contents (groupFrames uuidVec width) = { uuids := groupOf uuidVec width } := by
      rw [groupFrames]
      by_cases empty : groupOf uuidVec width = []
      · rw [if_pos empty, empty]
        rfl
      · have same : ∀ uuid ∈ groupOf uuidVec width, Width.of uuid = width := by
          intro uuid member
          simpa using (List.mem_filter.mp member).2
        rw [if_neg empty, contents, List.map_singleton, contentsOf_servicesType width _ same]
        simp [Contents.concat]
    simp only [framesOf, contents_flatMap, group]
    simp [Contents.concat, Call.given, List.flatMap_map]

/-- What the parser asks of a structure: to be as long as its type requires, and not to
clear the manufacturer data of others. -/
def Expected (frame : Frames.Frame) : Prop :=
  needed (adKind frame.1) ≤ frame.2.length ∧ KeepsManufacturers frame

/-- A field of services is one the parser expects, in each width. -/
theorem expected_servicesType (width : Width) (data : ByteString) :
    Expected (width.servicesType, data) := by
  cases width <;> exact ⟨Nat.zero_le _, fun kind => by cases kind⟩

/-- A field of service data is one the parser expects, in each width. -/
theorem expected_dataType (width : Width) (data : ByteString) :
    Expected (width.dataType, data) := by
  cases width <;> exact ⟨Nat.zero_le _, fun kind => by cases kind⟩

/-- The structures of a call are as the parser expects them: long enough for their type, and no
longer than a length byte can say. -/
theorem expected_framesOf (call : Call) (data : call.HasData) :
    ∀ frame ∈ framesOf call, Expected frame := by
  intro frame member
  cases call with
  | setFlags flag =>
    rw [List.mem_singleton.mp member]
    exact ⟨Nat.le_refl _, fun kind => by cases kind⟩
  | setAppearance appearance =>
    rw [List.mem_singleton.mp member]
    exact ⟨Nat.le_refl _, fun kind => by cases kind⟩
  | setTxPowerLevel txPowerLevel =>
    rw [List.mem_singleton.mp member]
    exact ⟨Nat.le_refl _, fun kind => by cases kind⟩
  | setDeviceName name =>
    rw [List.mem_singleton.mp member]
    split <;> exact ⟨Nat.zero_le _, fun kind => by cases kind⟩
  | addManufacturerData manufacturerId bytes =>
    have present : 0 < bytes.length := List.length_pos_iff.mpr data
    rw [List.mem_singleton.mp member]
    exact ⟨Nat.zero_le _, fun _ => Nat.add_lt_add_right (Nat.succ_lt_succ present) 1⟩
  | addServiceData uuid bytes =>
    rw [List.mem_singleton.mp member]
    exact expected_dataType _ _
  | addServiceUuid uuid =>
    rw [List.mem_singleton.mp member]
    exact expected_servicesType _ _
  | addServiceUuids uuidVec =>
    obtain ⟨width, _, inGroup⟩ := List.mem_flatMap.mp member
    rw [groupFrames] at inGroup
    split at inGroup
    · cases inGroup
    · rw [List.mem_singleton.mp inGroup]
      exact expected_servicesType _ _

/-! ## Reading a built payload -/

/-- A device holds what was given: the last flags, appearance, TX power and name, or the
values of a new device; each service UUID once; and the first data of each service UUID
and of each manufacturer. -/
structure Recovers (given : Contents) (device : BlePeripheralDevice) : Prop where
  adFlag : device.adFlag = given.flags.getLastD 0
  appearance : device.appearance = given.appearances.getLastD 0
  txPower : device.txPower = given.txPowers.getLastD 1
  name : device.name = given.names.getLastD []
  serviceUUIDs : device.serviceUUIDs = given.uuids.eraseDups
  serviceData : Folds.FirstValues given.serviceData device.serviceDataUUIDs device.serviceData
  manufacturerData : ∀ id, device.manufacturerData.find id =
    given.manufacturers.find? fun entry => entry.1 = id

/-- Structures as the parser expects them are recovered from a new device. -/
theorem recovers_receiveAll (frames : List Frames.Frame) (packet : ByteString)
    (expected : ∀ frame ∈ frames, Expected frame) :
    Recovers (contents frames) (frames.foldl receive (withPacket packet {})) where
  adFlag := adFlag_receiveAll _ frames
  appearance := appearance_receiveAll _ frames
  txPower := txPower_receiveAll _ frames
  name := name_receiveAll _ frames
  serviceUUIDs := serviceUUIDs_receiveAll _ frames rfl
  serviceData := serviceData_receiveAll _ frames rfl rfl
  manufacturerData := manufacturerData_receiveAll _ frames rfl fun frame member => (expected frame member).2

/-- Parsing the payload of any calls, with data for every manufacturer and at most 255 bytes
behind each length byte, into a new device recovers what the calls were given. The builder
appends structures, the parser takes them off one by one, and each contributes what its call was
given. -/
theorem parse_build (calls : List Call) (behind : Nat → UInt8)
    (data : ∀ call ∈ calls, call.HasData)
    (fit : ∀ call ∈ calls, ∀ frame ∈ framesOf call, Frames.Fits frame) :
    ∃ device,
      value (parse (performAll {} calls).getPayload {}) (placed (performAll {} calls).getPayload behind) =
        some device ∧
      Recovers (given calls) device := by
  have payload : (performAll {} calls).getPayload = Frames.encodeAll (calls.flatMap framesOf) :=
    payload_performAll {} calls
  have fits : ∀ frame ∈ calls.flatMap framesOf, Frames.Fits frame := by
    intro frame member
    obtain ⟨call, inCalls, inFrames⟩ := List.mem_flatMap.mp member
    exact fit call inCalls frame inFrames
  have expected : ∀ frame ∈ calls.flatMap framesOf, Expected frame := by
    intro frame member
    obtain ⟨call, inCalls, inFrames⟩ := List.mem_flatMap.mp member
    exact expected_framesOf call (data call inCalls) frame inFrames
  have decoded : Frames.decode (Frames.encodeAll (calls.flatMap framesOf)) = calls.flatMap framesOf := by
    have framing := Frames.decode_encodeAll (calls.flatMap framesOf) [] fits
    rwa [List.append_nil, Frames.decode_nil, List.append_nil] at framing
  have announced : contents (calls.flatMap framesOf) = given calls := by
    rw [contents_flatMap, given]
    exact congrArg Contents.concat
      (List.map_congr_left fun call member => contents_framesOf call (data call member))
  have parsed := value_parse (Frames.encodeAll (calls.flatMap framesOf)) behind {} (by
    rw [decoded]
    exact fun frame member => (expected frame member).1)
  rw [decoded] at parsed
  rw [payload, ← announced]
  exact ⟨_, parsed, recovers_receiveAll _ _ expected⟩

/-- Flags set twice and data added twice for one manufacturer. -/
def repeatedCalls : List Call :=
  [.setFlags 4, .addManufacturerData 0x0131 [0xAA], .setFlags 6, .addManufacturerData 0x0131 [0xBB]]

/-- The later flags and the earlier data are read. -/
theorem parse_build_repeatedCalls :
    ∃ device,
      value (parse (performAll {} repeatedCalls).getPayload {})
        (placed (performAll {} repeatedCalls).getPayload fun _ => 0) = some device ∧
      device.adFlag = 6 ∧ device.manufacturerData.find 0x0131 = some (0x0131, [0xAA]) := by
  obtain ⟨device, parsed, recovers⟩ := parse_build repeatedCalls (fun _ => 0)
    (by simp [repeatedCalls, Call.HasData]) (by simp [repeatedCalls, framesOf, Frames.Fits])
  refine ⟨device, parsed, recovers.adFlag, ?_⟩
  rw [recovers.manufacturerData]
  rfl

end BluetoothFramework.BleAdvertiserDataImpl
