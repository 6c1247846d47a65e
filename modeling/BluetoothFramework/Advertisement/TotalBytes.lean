import BluetoothFramework.Advertisement.RoundTrip
import BluetoothFramework.Parcel.BleAdvertiserData

/-!
# The size of an advertisement

Before an advertisement is sent, `GetAdvertiserTotalBytes` adds up what its fields will
take. The sum is compared here with the payload that the builder makes of the same
content. Both are taken apart field by field into one list of sizes: the payload has
exactly these, and the function adds the same ones up in `uint32_t`, with two bytes too
many for the TX power.
-/

namespace BluetoothFramework

open BleAdvertiserDataImpl

/-- `BLE_ADV_PER_FIELD_OVERHEAD_LENGTH` -/
def bleAdvPerFieldOverheadLength : UInt32 := 2

/-- `BLE_ADV_MANUFACTURER_ID_LENGTH` -/
def bleAdvManufacturerIdLength : UInt32 := 2

/-- `BLE_ADV_FLAGS_FIELD_LENGTH` -/
def bleAdvFlagsFieldLength : UInt32 := 3

/-- `BLE_ADV_MAX_LEGACY_ADVERTISING_DATA_BYTES` -/
def bleAdvMaxLegacyAdvertisingDataBytes : UInt32 := 31

/-- What `BluetoothHost::GetDefaultHost()` answers. -/
structure BluetoothHost where
  localName : ByteString
  bleMaxAdvertisingDataLength : Int32

/-- The part of `BluetoothBleAdvertiserSettings` that the check reads. -/
structure BluetoothBleAdvertiserSettings where
  connectable : Bool
  legacyMode : Bool

namespace BleAdvertiser

/-- `HasAdvertiseName` -/
def hasAdvertiseName (data : BluetoothBleAdvertiserData) : Bool :=
  !data.advertiseName.isEmpty

/-- The length of a name as `GetAdvertiseNameLen` counts it: converted to `uint32_t`, then
cut, then with its overhead. -/
def countedNameLen (name : ByteString) : UInt32 :=
  let advNameLen := UInt32.ofNat name.length
  let advNameLen :=
    if advNameLen > UInt32.ofNat deviceNameMaxLen then UInt32.ofNat deviceNameMaxLen else advNameLen
  advNameLen + bleAdvPerFieldOverheadLength

/-- `GetAdvertiseNameLen` -/
def getAdvertiseNameLen (host : BluetoothHost) (data : BluetoothBleAdvertiserData) : UInt32 :=
  if hasAdvertiseName data then countedNameLen data.advertiseName
  else if data.includeDeviceName then countedNameLen host.localName
  else 0

/-- The counters `num16BitUuids`, `num32BitUuids` and `num128BitUuids`. -/
structure UuidCounts where
  num16BitUuids : Nat := 0
  num32BitUuids : Nat := 0
  num128BitUuids : Nat := 0

/-- Count one UUID. -/
def UuidCounts.count (counts : UuidCounts) (uuid : Uuid) : UuidCounts :=
  if uuid.getUuidType = Uuid.uuid16BytesType then
    { counts with num16BitUuids := counts.num16BitUuids + 1 }
  else if uuid.getUuidType = Uuid.uuid32BytesType then
    { counts with num32BitUuids := counts.num32BitUuids + 1 }
  else
    { counts with num128BitUuids := counts.num128BitUuids + 1 }

/-- Add the field with a number of UUIDs of one type, if there are any. The product is an
`int` cast to `uint32_t`, here taken modulo 2^32. -/
def addUuidField (size : UInt32) (numUuids uuidBytesType : Nat) : UInt32 :=
  if numUuids ≠ 0 then size + (bleAdvPerFieldOverheadLength + UInt32.ofNat (numUuids * uuidBytesType))
  else size

/-- `GetAdvertiserTotalBytes` -/
def getAdvertiserTotalBytes (host : BluetoothHost) (data : BluetoothBleAdvertiserData)
    (isFlagsIncluded : Bool) : UInt32 :=
  let size := if isFlagsIncluded then bleAdvFlagsFieldLength else 0
  let size := data.manufacturerSpecificData.toList.foldl (fun size entry =>
    size + (bleAdvPerFieldOverheadLength + bleAdvManufacturerIdLength + UInt32.ofNat entry.2.length)) size
  let size := data.serviceData.toList.foldl (fun size entry =>
    size + (bleAdvPerFieldOverheadLength + UInt32.ofNat entry.1.getUuidType +
      UInt32.ofNat entry.2.length)) size
  let counts := data.serviceUuids.foldl UuidCounts.count {}
  let size := addUuidField size counts.num16BitUuids Uuid.uuid16BytesType
  let size := addUuidField size counts.num32BitUuids Uuid.uuid32BytesType
  let size := addUuidField size counts.num128BitUuids Uuid.uuid128BytesType
  let size := size + getAdvertiseNameLen host data
  if data.includeTxPower then
    let txPowerLen : UInt32 := 3
    size + (bleAdvPerFieldOverheadLength + txPowerLen)
  else size

/-- The limit `CheckAdvertiserData` applies. -/
def maxSize (host : BluetoothHost) (setting : BluetoothBleAdvertiserSettings) : UInt32 :=
  if setting.legacyMode then bleAdvMaxLegacyAdvertisingDataBytes
  else host.bleMaxAdvertisingDataLength.toUInt32

/-- `CheckAdvertiserData` -/
def checkAdvertiserData (host : BluetoothHost) (setting : BluetoothBleAdvertiserSettings)
    (advData scanResponse : BluetoothBleAdvertiserData) : BtErrCode :=
  if getAdvertiserTotalBytes host advData setting.connectable > maxSize host setting then
    .bleAdvDataExceedLimit
  else if getAdvertiserTotalBytes host scanResponse false > maxSize host setting then
    .bleAdvDataExceedLimit
  else .noError

/-! ## The payload of the same content -/

/-- The name that is sent, if any. -/
def chosenName (host : BluetoothHost) (data : BluetoothBleAdvertiserData) : Option ByteString :=
  if hasAdvertiseName data then some data.advertiseName
  else if data.includeDeviceName then some host.localName
  else none

/-- The calls that build the payload of the content, with the given flags and TX power. -/
def payloadCalls (host : BluetoothHost) (data : BluetoothBleAdvertiserData) (isFlagsIncluded : Bool)
    (flag txPowerLevel : UInt8) : List BleAdvertiserDataImpl.Call :=
  (if isFlagsIncluded then [.setFlags flag] else []) ++
    data.manufacturerSpecificData.toList.map (fun entry => .addManufacturerData entry.1 entry.2) ++
    data.serviceData.toList.map (fun entry => .addServiceData entry.1 entry.2) ++
    [.addServiceUuids data.serviceUuids] ++
    (chosenName host data).toList.map .setDeviceName ++
    (if data.includeTxPower then [.setTxPowerLevel txPowerLevel] else [])

/-- The payload `BleAdvertiserDataImpl` builds. -/
def builtPayload (host : BluetoothHost) (data : BluetoothBleAdvertiserData) (isFlagsIncluded : Bool)
    (flag txPowerLevel : UInt8) : ByteString :=
  (({} : BleAdvertiserDataImpl).performAll
    (payloadCalls host data isFlagsIncluded flag txPowerLevel)).getPayload

/-! ## Both as sums over the fields -/

/-- Bytes of the field with a number of UUIDs of one width, which is left out for none. -/
def uuidFieldBytes (count width : Nat) : Nat :=
  if count = 0 then 0 else 2 + count * width

/-- Bytes of the fields that carry the content: two for length and type, then the data. -/
def contentBytes (host : BluetoothHost) (data : BluetoothBleAdvertiserData)
    (isFlagsIncluded : Bool) :
    Nat :=
  (if isFlagsIncluded then 3 else 0) +
    (data.manufacturerSpecificData.toList.map fun entry => 4 + entry.2.length).sum +
    (data.serviceData.toList.map fun entry => 2 + (Width.of entry.1).length + entry.2.length).sum +
    (Width.all.map fun width =>
      uuidFieldBytes (groupOf data.serviceUuids width).length width.length).sum +
    ((chosenName host data).toList.map fun name => 2 + min name.length deviceNameMaxLen).sum +
    (if data.includeTxPower then 3 else 0)

/-- The bytes of all calls are those of the single calls, added up. -/
theorem length_encodeAll_flatMap (calls : List BleAdvertiserDataImpl.Call) :
    (Frames.encodeAll (calls.flatMap framesOf)).length =
      (calls.map fun call => (Frames.encodeAll (framesOf call)).length).sum := by
  induction calls with
  | nil => rfl
  | cons call rest inductionHypothesis =>
    rw [List.flatMap_cons, List.map_cons, List.sum_cons, ← inductionHypothesis, Frames.encodeAll,
      List.flatMap_append, List.length_append, Frames.encodeAll, Frames.encodeAll]

/-- The size of the structures that list the UUIDs of one width. -/
theorem length_groupFrames (uuidVec : List Uuid) (width : Width) :
    (Frames.encodeAll (groupFrames uuidVec width)).length =
      uuidFieldBytes (groupOf uuidVec width).length width.length := by
  rw [groupFrames, uuidFieldBytes]
  by_cases empty : groupOf uuidVec width = []
  · rw [if_pos empty, if_pos (List.length_eq_zero_iff.mpr empty)]
    rfl
  · rw [if_neg empty, if_neg (mt List.length_eq_zero_iff.mp empty)]
    have bytes : ((groupOf uuidVec width).flatMap width.bytes).length =
        (groupOf uuidVec width).length * width.length := by
      simp [List.length_flatMap, width.length_bytes]
    simp [Frames.encodeAll, Frames.encode, bytes]
    omega

/-- The payload has the bytes of its fields. Every call of the builder appends its structures, so
the lengths are added up call by call. -/
theorem length_builtPayload (host : BluetoothHost) (data : BluetoothBleAdvertiserData)
    (isFlagsIncluded : Bool) (flag txPowerLevel : UInt8) :
    (builtPayload host data isFlagsIncluded flag txPowerLevel).length =
      contentBytes host data isFlagsIncluded := by
  have flags : ((if isFlagsIncluded then [BleAdvertiserDataImpl.Call.setFlags flag] else []).map
      fun call => (Frames.encodeAll (framesOf call)).length).sum = if isFlagsIncluded then 3 else 0 := by
    cases isFlagsIncluded <;> rfl
  have manufacturer (entry : UInt16 × ByteString) :
      (Frames.encodeAll (framesOf (.addManufacturerData entry.1 entry.2))).length = 4 + entry.2.length := by
    simp [framesOf, Frames.encodeAll, Frames.encode]
    omega
  have service (entry : Uuid × ByteString) :
      (Frames.encodeAll (framesOf (.addServiceData entry.1 entry.2))).length =
        2 + (Width.of entry.1).length + entry.2.length := by
    simp [framesOf, Frames.encodeAll, Frames.encode, (Width.of entry.1).length_bytes]
    omega
  have uuids : (Frames.encodeAll (framesOf (.addServiceUuids data.serviceUuids))).length =
      (Width.all.map fun width =>
        uuidFieldBytes (groupOf data.serviceUuids width).length width.length).sum := by
    simp only [← length_groupFrames]
    simp [framesOf, Width.all, Frames.encodeAll]
  have name (name : ByteString) :
      (Frames.encodeAll (framesOf (.setDeviceName name))).length =
        2 + min name.length deviceNameMaxLen := by
    simp [framesOf, Frames.encodeAll, Frames.encode]
    omega
  have txPower : ((if data.includeTxPower then [BleAdvertiserDataImpl.Call.setTxPowerLevel txPowerLevel]
      else []).map fun call => (Frames.encodeAll (framesOf call)).length).sum =
        if data.includeTxPower then 3 else 0 := by
    cases data.includeTxPower <;> rfl
  rw [builtPayload, getPayload, payload_performAll, List.nil_append, length_encodeAll_flatMap,
    payloadCalls, contentBytes]
  simp only [List.map_append, List.sum_append, List.map_map, Function.comp_def, flags, manufacturer,
    service, List.map_cons, List.map_nil, List.sum_cons, List.sum_nil, uuids, name, txPower, Nat.add_zero]

/-- Adding up in `uint32_t`. -/
theorem foldl_add {α : Type} (size : α → Nat) (counted : α → UInt32)
    (each : ∀ element, counted element = UInt32.ofNat (size element)) (elements : List α)
    (start : Nat) :
    elements.foldl (fun sum element => sum + counted element) (UInt32.ofNat start) =
      UInt32.ofNat (start + (elements.map size).sum) := by
  induction elements generalizing start with
  | nil => rfl
  | cons element rest inductionHypothesis =>
    rw [List.foldl_cons, each, ← UInt32.ofNat_add, inductionHypothesis, List.map_cons, List.sum_cons,
      Nat.add_assoc]

/-- The counter of a width. -/
def UuidCounts.of (counts : UuidCounts) : Width → Nat
  | .bits16 => counts.num16BitUuids
  | .bits32 => counts.num32BitUuids
  | .bits128 => counts.num128BitUuids

/-- Each counter counts the UUIDs of its width. The loop goes through all UUIDs once, as the
builder does when it writes them. -/
theorem foldl_count (uuids : List Uuid) (counts : UuidCounts) (width : Width) :
    (uuids.foldl UuidCounts.count counts).of width = counts.of width +
      (groupOf uuids width).length := by
  induction uuids generalizing counts with
  | nil => rfl
  | cons uuid rest inductionHypothesis =>
    have step : (counts.count uuid).of width =
        counts.of width + if Width.of uuid = width then 1 else 0 := by
      rw [UuidCounts.count, Width.of]
      split
      · cases width <;> simp [UuidCounts.of]
      · split <;> cases width <;> simp [UuidCounts.of]
    rw [List.foldl_cons, inductionHypothesis, step]
    by_cases same : Width.of uuid = width
    · simp [groupOf, same]
      omega
    · simp [groupOf, same]

/-- The counted bytes of a list of UUIDs are the real ones, modulo the width of the counter.
Nothing is written for an empty list, and nothing is counted. -/
theorem addUuidField_ofNat (size count uuidBytesType : Nat) :
    addUuidField (UInt32.ofNat size) count uuidBytesType =
      UInt32.ofNat (size + uuidFieldBytes count uuidBytesType) := by
  rw [addUuidField, uuidFieldBytes]
  by_cases none : count = 0
  · rw [if_neg (not_not_intro none), if_pos none, Nat.add_zero]
  · rw [if_pos none, if_neg none, UInt32.ofNat_add, UInt32.ofNat_add]
    rfl

/-- The type of a UUID, which is a number in the source, is the number of bytes it is written
with. -/
theorem getUuidType_eq_length (uuid : Uuid) : uuid.getUuidType = (Width.of uuid).length := by
  rw [Width.of]
  split
  · assumption
  · split
    · assumption
    · exact Width.eq_128_of_ne ‹_› ‹_›

/-- Bytes that a name loses when its length is converted to `uint32_t`: none if it is
shorter than 2^32 bytes. -/
def nameLoss (name : ByteString) : Nat :=
  if name.length < 2 ^ 32 then 0 else deviceNameMaxLen - name.length % 2 ^ 32

/-- The counted length of a name falls short of the written one by the bytes that are lost in
counting. -/
theorem countedNameLen_eq (name : ByteString) :
    countedNameLen name + UInt32.ofNat (nameLoss name) =
      UInt32.ofNat (2 + min name.length deviceNameMaxLen) := by
  have cut : countedNameLen name = UInt32.ofNat (2 + min (name.length % 2 ^ 32) deviceNameMaxLen) := by
    have converted : (UInt32.ofNat name.length).toNat = name.length % 2 ^ 32 := UInt32.toNat_ofNat'
    have limit : (UInt32.ofNat deviceNameMaxLen).toNat = deviceNameMaxLen := rfl
    rw [countedNameLen, Nat.add_comm, UInt32.ofNat_add]
    simp only [gt_iff_lt, UInt32.lt_iff_toNat_lt, converted, limit]
    congr 1
    split
    · rename_i long
      rw [Nat.min_eq_right (Nat.le_of_lt long)]
    · rename_i short
      rw [Nat.min_eq_left (Nat.le_of_not_gt short), ← converted, UInt32.ofNat_toNat]
  have restored : min (name.length % 2 ^ 32) deviceNameMaxLen + nameLoss name =
      min name.length deviceNameMaxLen := by
    rw [nameLoss, deviceNameMaxLen]
    split <;> omega
  rw [cut, ← UInt32.ofNat_add, Nat.add_assoc, restored]

/-- Bytes that the chosen name loses. -/
def chosenNameLoss (host : BluetoothHost) (data : BluetoothBleAdvertiserData) : Nat :=
  ((chosenName host data).map nameLoss).getD 0

/-- Bytes counted for the TX power beyond its field. -/
def txPowerExcess (data : BluetoothBleAdvertiserData) : Nat :=
  if data.includeTxPower then 2 else 0

/-- The counted length of the chosen name falls short of the written one in the same way,
whether it is the device's or the advertiser's own. -/
theorem getAdvertiseNameLen_eq (host : BluetoothHost) (data : BluetoothBleAdvertiserData) :
    getAdvertiseNameLen host data + UInt32.ofNat (chosenNameLoss host data) =
      UInt32.ofNat ((chosenName host data).toList.map fun name =>
        2 + min name.length deviceNameMaxLen).sum := by
  rw [getAdvertiseNameLen, chosenNameLoss, chosenName]
  split
  · simpa using countedNameLen_eq data.advertiseName
  · split
    · simpa using countedNameLen_eq host.localName
    · rfl

/-- The sum is that of the content, less what the name loses, with two bytes too many
for the TX power. -/
theorem getAdvertiserTotalBytes_eq (host : BluetoothHost) (data : BluetoothBleAdvertiserData)
    (isFlagsIncluded : Bool) :
    getAdvertiserTotalBytes host data isFlagsIncluded + UInt32.ofNat (chosenNameLoss host data) =
      UInt32.ofNat (contentBytes host data isFlagsIncluded + txPowerExcess data) := by
  have flags : (if isFlagsIncluded then bleAdvFlagsFieldLength else 0) =
      UInt32.ofNat (if isFlagsIncluded then 3 else 0) := by
    cases isFlagsIncluded <;> rfl
  have manufacturers := foldl_add (fun entry : UInt16 × ByteString => 4 + entry.2.length)
    (fun entry => bleAdvPerFieldOverheadLength + bleAdvManufacturerIdLength + UInt32.ofNat entry.2.length)
    (fun entry => (UInt32.ofNat_add 4 entry.2.length).symm) data.manufacturerSpecificData.toList
  have services := foldl_add
    (fun entry : Uuid × ByteString => 2 + (Width.of entry.1).length + entry.2.length)
    (fun entry => bleAdvPerFieldOverheadLength + UInt32.ofNat entry.1.getUuidType +
      UInt32.ofNat entry.2.length)
    (fun entry => by rw [getUuidType_eq_length, UInt32.ofNat_add, UInt32.ofNat_add]; rfl)
    data.serviceData.toList
  have counted16 : (data.serviceUuids.foldl UuidCounts.count {}).num16BitUuids =
      (groupOf data.serviceUuids .bits16).length :=
    (foldl_count data.serviceUuids {} .bits16).trans (Nat.zero_add _)
  have counted32 : (data.serviceUuids.foldl UuidCounts.count {}).num32BitUuids =
      (groupOf data.serviceUuids .bits32).length :=
    (foldl_count data.serviceUuids {} .bits32).trans (Nat.zero_add _)
  have counted128 : (data.serviceUuids.foldl UuidCounts.count {}).num128BitUuids =
      (groupOf data.serviceUuids .bits128).length :=
    (foldl_count data.serviceUuids {} .bits128).trans (Nat.zero_add _)
  have uuids : (Width.all.map fun width =>
      uuidFieldBytes (groupOf data.serviceUuids width).length width.length).sum =
        uuidFieldBytes (groupOf data.serviceUuids .bits16).length Uuid.uuid16BytesType +
        uuidFieldBytes (groupOf data.serviceUuids .bits32).length Uuid.uuid32BytesType +
        uuidFieldBytes (groupOf data.serviceUuids .bits128).length Uuid.uuid128BytesType := by
    simp only [Width.all, List.map_cons, List.map_nil, List.sum_cons, List.sum_nil, Nat.add_zero,
      Nat.add_assoc]
    rfl
  have name := getAdvertiseNameLen_eq host data
  rw [getAdvertiserTotalBytes]
  dsimp only
  rw [flags, manufacturers, services, counted16, counted32, counted128, addUuidField_ofNat,
    addUuidField_ofNat, addUuidField_ofNat, contentBytes, uuids, txPowerExcess]
  by_cases txPower : data.includeTxPower
  · simp only [if_pos txPower, UInt32.ofNat_add] at name ⊢
    rw [← name]
    have excess : bleAdvPerFieldOverheadLength + 3 = UInt32.ofNat 3 + UInt32.ofNat 2 := rfl
    rw [excess]
    ac_rfl
  · simp only [if_neg txPower, UInt32.ofNat_add] at name ⊢
    rw [← name]
    have none : UInt32.ofNat 0 = 0 := rfl
    rw [none, UInt32.add_zero, UInt32.add_zero]
    ac_rfl

/-- The content can be counted: its size fits, and the name loses as much as the TX power
is counted too high, which without a name of 2^32 bytes or more is nothing. -/
structure Countable (host : BluetoothHost) (data : BluetoothBleAdvertiserData)
    (isFlagsIncluded : Bool) :
    Prop where
  fits : contentBytes host data isFlagsIncluded < 2 ^ 32
  balanced : chosenNameLoss host data = txPowerExcess data

instance (host : BluetoothHost) (data : BluetoothBleAdvertiserData) (isFlagsIncluded : Bool) :
    Decidable (Countable host data isFlagsIncluded) :=
  decidable_of_iff (contentBytes host data isFlagsIncluded < 2 ^ 32 ∧
    chosenNameLoss host data = txPowerExcess data) ⟨fun ⟨fits, balanced⟩ => ⟨fits, balanced⟩,
      fun countable => ⟨countable.fits, countable.balanced⟩⟩

/-- A count misses at most what a name of full length has. -/
theorem chosenNameLoss_le (host : BluetoothHost) (data : BluetoothBleAdvertiserData) :
    chosenNameLoss host data ≤ 26 := by
  rw [chosenNameLoss]
  cases chosenName host data with
  | none => exact Nat.zero_le 26
  | some name =>
    change nameLoss name ≤ 26
    rw [nameLoss, deviceNameMaxLen]
    split <;> omega

/-- The sum is the size of the content exactly if that can be counted. The sum is known modulo
2^32 in any case; the bounds on what is lost and on what is counted too much leave no other way.
-/
theorem getAdvertiserTotalBytes_iff (host : BluetoothHost) (data : BluetoothBleAdvertiserData)
    (isFlagsIncluded : Bool) :
    (getAdvertiserTotalBytes host data isFlagsIncluded).toNat =
      contentBytes host data isFlagsIncluded ↔
      Countable host data isFlagsIncluded := by
  have sum := congrArg UInt32.toNat (getAdvertiserTotalBytes_eq host data isFlagsIncluded)
  rw [UInt32.toNat_add, UInt32.toNat_ofNat', UInt32.toNat_ofNat'] at sum
  have bound := (getAdvertiserTotalBytes host data isFlagsIncluded).toNat_lt
  have loss := chosenNameLoss_le host data
  have excess : txPowerExcess data ≤ 2 := by
    rw [txPowerExcess]
    split <;> decide
  constructor
  · intro same
    rw [same] at bound sum
    exact ⟨bound, by omega⟩
  · rintro ⟨fits, balanced⟩
    rw [balanced] at sum
    omega

/-- The sum is the length of the payload, with flags and without. -/
def SizeAgrees (host : BluetoothHost) (data : BluetoothBleAdvertiserData) : Prop :=
  ∀ isFlagsIncluded flag txPowerLevel, (getAdvertiserTotalBytes host data isFlagsIncluded).toNat =
    (builtPayload host data isFlagsIncluded flag txPowerLevel).length

/-- The check accepts exactly what fits. -/
def CheckAgrees (host : BluetoothHost) (setting : BluetoothBleAdvertiserSettings)
    (advData scanResponse : BluetoothBleAdvertiserData) : Prop :=
  ∀ flag txPowerLevel, checkAdvertiserData host setting advData scanResponse = .noError ↔
    (builtPayload host advData setting.connectable flag txPowerLevel).length ≤
      (maxSize host setting).toNat ∧
    (builtPayload host scanResponse false flag txPowerLevel).length ≤ (maxSize host setting).toNat

/-- The two counts agree exactly if neither of the two losses makes up for the other, for
packets with flags and without. -/
theorem sizeAgrees_iff (host : BluetoothHost) (data : BluetoothBleAdvertiserData) :
    SizeAgrees host data ↔ ∀ isFlagsIncluded, Countable host data isFlagsIncluded := by
  simp only [SizeAgrees, length_builtPayload, getAdvertiserTotalBytes_iff]
  exact ⟨fun counted isFlagsIncluded => counted isFlagsIncluded 0 0,
    fun counted isFlagsIncluded _ _ => counted isFlagsIncluded⟩

/-- The check compares the sums with the limit. -/
theorem checkAdvertiserData_eq_noError_iff (host : BluetoothHost)
    (setting : BluetoothBleAdvertiserSettings) (advData scanResponse : BluetoothBleAdvertiserData) :
    checkAdvertiserData host setting advData scanResponse = .noError ↔
      getAdvertiserTotalBytes host advData setting.connectable ≤ maxSize host setting ∧
        getAdvertiserTotalBytes host scanResponse false ≤ maxSize host setting := by
  rw [checkAdvertiserData, ← UInt32.not_lt, ← UInt32.not_lt]
  split
  · rename_i exceeds
    simp [exceeds]
  · rename_i within
    split
    · rename_i exceeds
      simp [exceeds]
    · rename_i responseWithin
      exact iff_of_true rfl ⟨within, responseWithin⟩

/-- The sums are the lengths of the payloads, and so the check accepts exactly what fits, if and
only if the contents can be counted. They cannot where the size does not fit its type, nor where
the power level is counted too high and no name makes up for it. -/
theorem size_check_agrees_iff (host : BluetoothHost) (setting : BluetoothBleAdvertiserSettings)
    (advData scanResponse : BluetoothBleAdvertiserData) :
    SizeAgrees host advData ∧ SizeAgrees host scanResponse ∧
        CheckAgrees host setting advData scanResponse ↔
      (∀ isFlagsIncluded, Countable host advData isFlagsIncluded) ∧
        ∀ isFlagsIncluded, Countable host scanResponse isFlagsIncluded := by
  rw [sizeAgrees_iff, sizeAgrees_iff]
  constructor
  · rintro ⟨counted, responseCounted, _⟩
    exact ⟨counted, responseCounted⟩
  · rintro ⟨counted, responseCounted⟩
    refine ⟨counted, responseCounted, ?_⟩
    intro flag txPowerLevel
    rw [checkAdvertiserData_eq_noError_iff, UInt32.le_iff_toNat_le, UInt32.le_iff_toNat_le,
      (getAdvertiserTotalBytes_iff host advData _).mpr (counted _),
      (getAdvertiserTotalBytes_iff host scanResponse _).mpr (responseCounted _),
      length_builtPayload, length_builtPayload]

/-- Manufacturer data of 24 bytes and the TX power, 31 bytes in all. -/
def fullAdvertisement : BluetoothBleAdvertiserData where
  manufacturerSpecificData := (∅ : ManufacturerData).emplace 0x027D (List.replicate 24 0xA5)
  includeTxPower := true

/-- A full legacy advertisement with the TX power is refused. -/
theorem full_advertisement_refused :
    ¬ ∀ (host : BluetoothHost) (setting : BluetoothBleAdvertiserSettings)
      (advData scanResponse : BluetoothBleAdvertiserData),
      SizeAgrees host advData ∧ SizeAgrees host scanResponse ∧
        CheckAgrees host setting advData scanResponse := by
  intro agree
  obtain ⟨_, _, check⟩ := agree ⟨[], 0⟩ ⟨false, true⟩ fullAdvertisement {}
  have fits : (builtPayload ⟨[], 0⟩ fullAdvertisement false 0 7).length ≤ 31 ∧
      (builtPayload ⟨[], 0⟩ {} false 0 7).length ≤ 31 := by
    decide
  exact absurd ((check 0 7).mpr fits) (by decide)

end BleAdvertiser
end BluetoothFramework
