import BluetoothFramework.Ipc.PlainRecords

/-!
# Records with limits

The parcelable records that hold lists or check what they read. The number of the elements of a
list is compared with a limit before they are read, and a few values have to be valid. Only
`BluetoothTrustPairDevice` compares before it writes.

`record_arrives` speaks about all records of the module and of `PlainRecords`: what was written is
read, whatever follows it, if it is within the limits, and otherwise nothing is read at all; a
parcel that ends early is never read.
-/

namespace BluetoothFramework.Ipc

open Fifo Parcel BluetoothBleScanFilter

/-! ## Lists -/

instance takesFront_pushBack {α : Type} {read : ParcelReader α} [TakesFront read]
    (elements : List α) :
    TakesFront (pushBack read elements) := by
  unfold pushBack
  infer_instance

instance takesFront_readCounted {α : Type} {read : ParcelReader α} [TakesFront read]
    (limit : UInt32)
    (elements : List α) : TakesFront (readCounted limit (pushBack read) elements) := by
  unfold readCounted
  infer_instance

instance takesFront_readSized {α : Type} {read : ParcelReader α} [TakesFront read] (limit : Int32)
    (elements : List α) : TakesFront (readSized limit (pushBack read) elements) := by
  unfold readSized
  infer_instance

instance takesFront_readParcelable {α : Type} {unmarshalling : ParcelReader α}
    [TakesFront unmarshalling] :
    TakesFront (readParcelable unmarshalling) := by
  unfold readParcelable
  infer_instance

/-- A list is read if it is within the limit. -/
theorem admits_counted {α : Type} (limit : UInt32) {read : ParcelReader α}
    (write : α → List ParcelItem) (elements : List α) (fits : elements.length < 2 ^ 32)
    (each : ∀ element, Reads read (write element) element) :
    Admits (readCounted limit (pushBack read) []) (writeCounted write elements) (elements.length ≤ limit.toNat)
      elements where
  reads within := by
    have reads := reads_list limit write id elements within fun element _ => each element
    rwa [List.map_id] at reads
  refuses above := by
    have size : (UInt32.ofNat elements.length).toNat = elements.length := UInt32.toNat_ofNat_of_lt' fits
    have larger : UInt32.ofNat elements.length > limit := by
      rw [gt_iff_lt, UInt32.lt_iff_toNat_lt, size]
      omega
    exact Refuses.after (reads_uint32 _) (Refuses.check larger _)

/-- `ReadStringVector`, which refuses a negative size. -/
def readStringVector : ParcelReader (List ByteString) := do
  let size ← readInt32
  if size < 0 then failure else iterate (pushBack readString) size.toInt.toNat []

instance : TakesFront readStringVector := by
  unfold readStringVector
  infer_instance

/-- `WriteStringVector` -/
def writeStringVector (values : List ByteString) : List ParcelItem :=
  writeSized (fun value => [.string value]) values

/-- A vector of strings is read as it was written, if its number fits the signed count. -/
theorem reads_stringVector (values : List ByteString) (fits : values.length < 2 ^ 31) :
    Reads readStringVector (writeStringVector values) values := by
  have size : (Int32.ofNat values.length).toInt = values.length := Int32.toInt_ofNat_of_lt fits
  apply Reads.next (reads_int32 _)
  apply Reads.unless
  · rw [Int32.lt_iff_toInt_lt, size]
    simp
  · rw [size, Int.toNat_natCast]
    have one (read : List ByteString) (value : ByteString) :
        Reads (pushBack readString read) [.string value] (read ++ [id value]) :=
      Reads.next (reads_string value) (Reads.pure _)
    have reads := Reads.iterate _ _ values [] fun read value _ => one read value
    rwa [foldl_pushBack, List.map_id] at reads

/-! ## A2DP -/

/-- `A2DP_A2DPCODECSTATUS_PARCEL_SIZE_MAX` -/
def a2dpCodecStatusParcelSizeMax : UInt32 := 0x400

/-- `CodecStatus` -/
structure BluetoothA2dpCodecStatus where
  codecInfo : BluetoothA2dpCodecInfo
  codecInfoLocalCap : List BluetoothA2dpCodecInfo
  codecInfoConfirmCap : List BluetoothA2dpCodecInfo
deriving DecidableEq

/-- One codec of a list. -/
def writeCodecInfo (info : BluetoothA2dpCodecInfo) : List ParcelItem :=
  writeParcelable info.marshalling

/-- One codec. -/
def readCodecInfo : ParcelReader BluetoothA2dpCodecInfo :=
  readParcelable BluetoothA2dpCodecInfo.unmarshalling

instance : TakesFront readCodecInfo :=
  takesFront_readParcelable

/-- The information of a codec is read as it was written, since its fields have no limit. -/
theorem reads_codecInfo (info : BluetoothA2dpCodecInfo) :
    Reads readCodecInfo (writeCodecInfo info) info :=
  reads_parcelable info.reads

namespace BluetoothA2dpCodecStatus

def marshalling (self : BluetoothA2dpCodecStatus) : List ParcelItem :=
  writeCodecInfo self.codecInfo ++
    (writeCounted writeCodecInfo self.codecInfoLocalCap ++
      (writeCounted writeCodecInfo self.codecInfoConfirmCap ++ []))

def unmarshalling : ParcelReader BluetoothA2dpCodecStatus := do
  let codecInfo ← readCodecInfo
  let codecInfoLocalCap ← readCounted a2dpCodecStatusParcelSizeMax (pushBack readCodecInfo) []
  let codecInfoConfirmCap ← readCounted a2dpCodecStatusParcelSizeMax (pushBack readCodecInfo) []
  pure { codecInfo, codecInfoLocalCap, codecInfoConfirmCap }

instance : TakesFront unmarshalling := by
  unfold unmarshalling
  infer_instance

/-- What a reader accepts. -/
def Accepted (self : BluetoothA2dpCodecStatus) : Prop :=
  self.codecInfoLocalCap.length ≤ 0x400 ∧ self.codecInfoConfirmCap.length ≤ 0x400

/-- Lists that a vector can hold and a parcel can count. -/
def Fits (self : BluetoothA2dpCodecStatus) : Prop :=
  self.codecInfoLocalCap.length < 2 ^ 32 ∧ self.codecInfoConfirmCap.length < 2 ^ 32

/-- The codec status arrives exactly within the reader's limit on its two lists. The counts must
fit what they are written with. -/
theorem admits (self : BluetoothA2dpCodecStatus) (fits : self.Fits) :
    Admits unmarshalling self.marshalling self.Accepted self := by
  apply Admits.congr
  case admits =>
    apply (reads_codecInfo self.codecInfo).admits.bind
    apply (admits_counted _ writeCodecInfo self.codecInfoLocalCap fits.1 reads_codecInfo).bind
    apply (admits_counted _ writeCodecInfo self.codecInfoConfirmCap fits.2 reads_codecInfo).bind
    exact (Reads.pure self).admits
  case same => simp [Accepted, a2dpCodecStatusParcelSizeMax]

end BluetoothA2dpCodecStatus

/-- `OffloadCodecStatus` -/
structure BluetoothA2dpOffloadCodecStatus where
  offloadInfo : BluetoothA2dpOffloadCodecInfo
deriving DecidableEq

namespace BluetoothA2dpOffloadCodecStatus

def marshalling (self : BluetoothA2dpOffloadCodecStatus) : List ParcelItem :=
  writeParcelable self.offloadInfo.marshalling

def unmarshalling : ParcelReader BluetoothA2dpOffloadCodecStatus := do
  let offloadInfo ← readParcelable BluetoothA2dpOffloadCodecInfo.unmarshalling
  pure { offloadInfo }

instance : TakesFront unmarshalling := by
  unfold unmarshalling
  infer_instance

/-- The offload codec status arrives as it is: it is one record inside another. -/
theorem reads (self : BluetoothA2dpOffloadCodecStatus) :
    Reads unmarshalling self.marshalling self := by
  rw [marshalling, ← List.append_nil (writeParcelable _)]
  apply Reads.bind (reads_parcelable self.offloadInfo.reads)
  exact Reads.pure self

end BluetoothA2dpOffloadCodecStatus

/-! ## AVRCP -/

/-- `AVRCP_READ_FROM_PARCEL_COUNT_MAX` -/
def avrcpReadFromParcelCountMax : UInt32 := 0xFFFF

/-- `AvrcMeItem` -/
structure BluetoothAvrcpMeItem where
  itemType : UInt8 := 0
  uid : UInt64 := 0
  type : UInt8 := 0
  playable : UInt8 := 0
  name : ByteString := []
  attributes : List UInt32 := []
  values : List ByteString := []
deriving DecidableEq

namespace BluetoothAvrcpMeItem

def marshalling (self : BluetoothAvrcpMeItem) : List ParcelItem :=
  .uint8 self.itemType :: .uint64 self.uid :: .uint8 self.type :: .uint8 self.playable :: .string self.name ::
    (writeCounted (fun value => [.uint32 value]) self.attributes ++
      (writeCounted (fun value => [.string value]) self.values ++ []))

def unmarshalling : ParcelReader BluetoothAvrcpMeItem := do
  let itemType ← readUint8
  let uid ← readUint64Checked
  let type ← readUint8
  let playable ← readUint8
  let name ← readString
  let attributes ← readCounted avrcpReadFromParcelCountMax (pushBack readUint32) []
  let values ← readCounted avrcpReadFromParcelCountMax (pushBack readString) []
  pure { itemType, uid, type, playable, name, attributes, values }

instance : TakesFront unmarshalling := by
  unfold unmarshalling
  infer_instance

/-- What a reader accepts. -/
def Accepted (self : BluetoothAvrcpMeItem) : Prop :=
  self.attributes.length ≤ 0xFFFF ∧ self.values.length ≤ 0xFFFF

def Fits (self : BluetoothAvrcpMeItem) : Prop :=
  self.attributes.length < 2 ^ 32 ∧ self.values.length < 2 ^ 32

/-- The media element arrives exactly within the reader's limit on its attributes. -/
theorem admits (self : BluetoothAvrcpMeItem) (fits : self.Fits) :
    Admits unmarshalling self.marshalling self.Accepted self := by
  apply Admits.congr
  case admits =>
    apply Admits.next (reads_uint8 self.itemType)
    apply Admits.next (reads_uint64Checked self.uid)
    apply Admits.next (reads_uint8 self.type)
    apply Admits.next (reads_uint8 self.playable)
    apply Admits.next (reads_string self.name)
    apply (admits_counted _ (fun value => [.uint32 value]) self.attributes fits.1 reads_uint32).bind
    apply (admits_counted _ (fun value => [.string value]) self.values fits.2 reads_string).bind
    exact (Reads.pure self).admits
  case same => simp [Accepted, avrcpReadFromParcelCountMax]

end BluetoothAvrcpMeItem

/-- `AvrcMpItem` -/
structure BluetoothAvrcpMpItem where
  itemType : UInt8 := 0
  playerId : UInt16 := 0
  majorType : UInt8 := 0
  subType : UInt32 := 0
  playStatus : UInt8 := 0
  features : List UInt8 := []
  name : ByteString := []
deriving DecidableEq

namespace BluetoothAvrcpMpItem

def marshalling (self : BluetoothAvrcpMpItem) : List ParcelItem :=
  .uint8 self.itemType :: .uint16 self.playerId :: .uint8 self.majorType :: .uint32 self.subType ::
    .uint8 self.playStatus :: (writeCounted (fun feature => [.uint8 feature]) self.features ++
      [.string self.name])

def unmarshalling : ParcelReader BluetoothAvrcpMpItem := do
  let itemType ← readUint8
  let playerId ← readUint16
  let majorType ← readUint8
  let subType ← readUint32
  let playStatus ← readUint8
  let features ← readCounted avrcpReadFromParcelCountMax (pushBack readUint8) []
  let name ← readString
  pure { itemType, playerId, majorType, subType, playStatus, features, name }

instance : TakesFront unmarshalling := by
  unfold unmarshalling
  infer_instance

/-- What a reader accepts. -/
def Accepted (self : BluetoothAvrcpMpItem) : Prop :=
  self.features.length ≤ 0xFFFF

/-- The media player arrives exactly within the reader's limit on its features. -/
theorem admits (self : BluetoothAvrcpMpItem) (fits : self.features.length < 2 ^ 32) :
    Admits unmarshalling self.marshalling self.Accepted self := by
  apply Admits.congr
  case admits =>
    apply Admits.next (reads_uint8 self.itemType)
    apply Admits.next (reads_uint16 self.playerId)
    apply Admits.next (reads_uint8 self.majorType)
    apply Admits.next (reads_uint32 self.subType)
    apply Admits.next (reads_uint8 self.playStatus)
    apply (admits_counted _ (fun feature => [.uint8 feature]) self.features fits reads_uint8).bind
    apply Admits.next (reads_string self.name)
    exact (Reads.pure self).admits
  case same => simp [Accepted, avrcpReadFromParcelCountMax]

end BluetoothAvrcpMpItem

/-! ## HID device -/

/-- `IsValidServiceType` -/
def isValidServiceType (type : Int32) : Bool :=
  type ∈ [(0 : Int32), 1, 2]

/-- `QosSetting` -/
structure BluetoothHidDeviceQos where
  serviceType : Int32
  tokenRate : Int32
  tokenBucketSize : Int32
  peakBandwidth : Int32
  latency : Int32
  delayVariation : Int32
deriving DecidableEq

namespace BluetoothHidDeviceQos

def marshalling (self : BluetoothHidDeviceQos) : List ParcelItem :=
  [.int32 self.serviceType, .int32 self.tokenRate, .int32 self.tokenBucketSize, .int32 self.peakBandwidth,
   .int32 self.latency, .int32 self.delayVariation]

def unmarshalling : ParcelReader BluetoothHidDeviceQos := do
  let serviceType ← readInt32
  if !isValidServiceType serviceType then failure
  else do
    let tokenRate ← readInt32
    let tokenBucketSize ← readInt32
    let peakBandwidth ← readInt32
    let latency ← readInt32
    let delayVariation ← readInt32
    pure { serviceType, tokenRate, tokenBucketSize, peakBandwidth, latency, delayVariation }

instance : TakesFront unmarshalling := by
  unfold unmarshalling
  infer_instance

/-- What a reader accepts. -/
def Accepted (self : BluetoothHidDeviceQos) : Prop :=
  isValidServiceType self.serviceType = true

/-- The quality of service arrives exactly if its type is one the reader knows. -/
theorem admits (self : BluetoothHidDeviceQos) :
    Admits unmarshalling self.marshalling self.Accepted self := by
  apply Admits.congr
  case admits =>
    apply Admits.next (reads_int32 self.serviceType)
    apply Admits.unless
    apply Reads.admits
    exact fun _ => rfl
  case same => simp [Accepted]

end BluetoothHidDeviceQos

/-- `IsValidSubclass` -/
def isValidSubclass (type : Int32) : Bool :=
  type ∈ [(0 : Int32), 1, 2, 3, 4, 5, 6, 64, 128, 192]

/-- `IsValidSDPSettingParam` -/
def isValidSDPSettingParam (param : ByteString) (maxSdpParamSize : Nat) : Bool :=
  0 < param.length && param.length ≤ maxSdpParamSize

/-- `MAX_NAME_SIZE`, `MAX_DESCRIPTION_SIZE` and `MAX_PROVIDER_SIZE` -/
def maxNameSize : Nat := 50
def maxDescriptionSize : Nat := 50
def maxProviderSize : Nat := 50

/-- `HID_DEVICE_SDPSETTING_SIZE` -/
def hidDeviceSdpSettingSize : UInt32 := 2048

/-- `SdpSetting` -/
structure BluetoothHidDeviceSdp where
  name : ByteString
  description : ByteString
  provider : ByteString
  subclass : Int32
  sdpSettings : List UInt8
deriving DecidableEq

namespace BluetoothHidDeviceSdp

def marshalling (self : BluetoothHidDeviceSdp) : List ParcelItem :=
  .string self.name :: .string self.description :: .string self.provider :: .int32 self.subclass ::
    (writeCounted (fun sdpSetting => [.uint8 sdpSetting]) self.sdpSettings ++ [])

def unmarshalling : ParcelReader BluetoothHidDeviceSdp := do
  let name ← readString
  if !isValidSDPSettingParam name maxNameSize then failure
  else do
    let description ← readString
    if !isValidSDPSettingParam description maxDescriptionSize then failure
    else do
      let provider ← readString
      if !isValidSDPSettingParam provider maxProviderSize then failure
      else do
        let subclass ← readInt32
        if !isValidSubclass subclass then failure
        else do
          let sdpSettings ← readCounted hidDeviceSdpSettingSize (pushBack readUint8) []
          pure { name, description, provider, subclass, sdpSettings }

instance : TakesFront unmarshalling := by
  unfold unmarshalling
  infer_instance

/-- What a reader accepts. -/
structure Accepted (sdp : BluetoothHidDeviceSdp) : Prop where
  name : isValidSDPSettingParam sdp.name maxNameSize = true
  description : isValidSDPSettingParam sdp.description maxDescriptionSize = true
  provider : isValidSDPSettingParam sdp.provider maxProviderSize = true
  subclass : isValidSubclass sdp.subclass = true
  sdpSettings : sdp.sdpSettings.length ≤ 2048

/-- The service record arrives exactly within the reader's limit on its descriptor. -/
theorem admits (self : BluetoothHidDeviceSdp) (fits : self.sdpSettings.length < 2 ^ 32) :
    Admits unmarshalling self.marshalling self.Accepted self := by
  apply Admits.congr
  case admits =>
    apply Admits.next (reads_string self.name)
    apply Admits.unless
    apply Admits.next (reads_string self.description)
    apply Admits.unless
    apply Admits.next (reads_string self.provider)
    apply Admits.unless
    apply Admits.next (reads_int32 self.subclass)
    apply Admits.unless
    apply (admits_counted _ (fun sdpSetting => [.uint8 sdpSetting]) self.sdpSettings fits reads_uint8).bind
    exact (Reads.pure self).admits
  case same =>
    constructor
    · rintro ⟨name, description, provider, subclass, sdpSettings, -⟩
      exact ⟨by simpa using name, by simpa using description, by simpa using provider, by simpa using subclass,
        sdpSettings⟩
    · intro accepted
      simp [accepted.name, accepted.description, accepted.provider, accepted.subclass]
      exact accepted.sdpSettings

end BluetoothHidDeviceSdp

/-! ## Advertisers and devices -/

namespace BluetoothBleAdvertiserSettings

/-- `ReadFromParcel`, which wants six bytes of an address. -/
def unmarshalling : ParcelReader BluetoothBleAdvertiserSettings := do
  let connectable ← readBool
  let legacyMode ← readBool
  let interval ← readUint16
  let txPower ← readInt8
  let primaryPhy ← readInt32
  let secondaryPhy ← readInt32
  let address ← readString
  if address.length ≠ 6 then failure
  else do
    let ownAddrType ← readInt8
    pure { connectable, legacyMode, interval, txPower, primaryPhy, secondaryPhy
           ownAddr := Vector.ofFn fun place => address.getD place 0, ownAddrType }

instance : TakesFront unmarshalling := by
  unfold unmarshalling
  infer_instance

/-- Six bytes that are copied one by one are the six bytes. -/
theorem copied (address : Vector UInt8 6) :
    (Vector.ofFn fun place : Fin 6 => address.toList.getD place 0) = address := by
  ext place inside
  simp [List.getD_eq_getElem?_getD]

/-- The settings of an advertiser arrive as they are, with the address byte by byte. -/
theorem reads (self : BluetoothBleAdvertiserSettings) :
    Reads unmarshalling self.marshalling self := by
  have six : ¬ self.ownAddr.toList.length ≠ 6 := by simp
  apply Reads.next (reads_bool self.connectable)
  apply Reads.next (reads_bool self.legacyMode)
  apply Reads.next (reads_uint16 self.interval)
  apply Reads.next (reads_int8 self.txPower)
  apply Reads.next (reads_int32 self.primaryPhy)
  apply Reads.next (reads_int32 self.secondaryPhy)
  apply Reads.next (reads_string self.ownAddr.toList)
  apply Reads.unless six
  apply Reads.next (reads_int8 self.ownAddrType)
  rw [copied]
  exact Reads.pure self

end BluetoothBleAdvertiserSettings

/-- `SensingInfo` -/
structure BluetoothSensingInfo where
  addr : ByteString
  uuid : ByteString
  resourceId : UInt32
  pkgName : ByteString
  isServer : Bool
  interval : UInt16
  connectable : Bool
  payloadLen : Int32
  bussinessType : ByteString
  scanMode : Int32
  sensingArray : List ByteString
deriving DecidableEq

namespace BluetoothSensingInfo

def marshalling (self : BluetoothSensingInfo) : List ParcelItem :=
  .string self.addr :: .string self.uuid :: .uint32 self.resourceId :: .string self.pkgName ::
    .bool self.isServer :: .uint16 self.interval :: .bool self.connectable :: .int32 self.payloadLen ::
    .string self.bussinessType :: .int32 self.scanMode :: (writeStringVector self.sensingArray ++ [])

def unmarshalling : ParcelReader BluetoothSensingInfo := do
  let addr ← readString
  let uuid ← readString
  let resourceId ← readUint32
  let pkgName ← readString
  let isServer ← readBool
  let interval ← readUint16
  let connectable ← readBool
  let payloadLen ← readInt32
  let bussinessType ← readString
  let scanMode ← readInt32
  let sensingArray ← readStringVector
  pure { addr, uuid, resourceId, pkgName, isServer, interval, connectable, payloadLen, bussinessType, scanMode,
         sensingArray }

instance : TakesFront unmarshalling := by
  unfold unmarshalling
  infer_instance

/-- The sensing information arrives as it is. Its list has no limit but the count it is written
with. -/
theorem reads (self : BluetoothSensingInfo) (fits : self.sensingArray.length < 2 ^ 31) :
    Reads unmarshalling self.marshalling self := by
  apply Reads.next (reads_string self.addr)
  apply Reads.next (reads_string self.uuid)
  apply Reads.next (reads_uint32 self.resourceId)
  apply Reads.next (reads_string self.pkgName)
  apply Reads.next (reads_bool self.isServer)
  apply Reads.next (reads_uint16 self.interval)
  apply Reads.next (reads_bool self.connectable)
  apply Reads.next (reads_int32 self.payloadLen)
  apply Reads.next (reads_string self.bussinessType)
  apply Reads.next (reads_int32 self.scanMode)
  apply Reads.bind (reads_stringVector self.sensingArray fits)
  exact Reads.pure self

end BluetoothSensingInfo

/-- `TRUST_PAIR_DEVICE_SIZE_MAX` -/
def trustPairDeviceSizeMax : Int32 := 1000

/-- `TrustPairDevice` -/
structure BluetoothTrustPairDevice where
  sn : ByteString := []
  deviceType : ByteString := []
  modelId : ByteString := []
  manufactory : ByteString := []
  productId : ByteString := []
  hiLinkVersion : ByteString := []
  macAddress : ByteString := []
  serviceType : ByteString := []
  serviceId : ByteString := []
  deviceName : ByteString := []
  uuids : List ByteString := []
  bluetoothClass : Int32 := 0
  token : List UInt8 := []
  deviceNameTime : Int64 := 0
  secureAdvertisingInfo : List UInt8 := []
  pairState : Int32 := 0
deriving DecidableEq

namespace BluetoothTrustPairDevice

/-- `MarshallingVecSafe` and `MarshallingVecStrSafe` -/
def marshallingVecSafe {α : Type} (write : α → List ParcelItem) (vec : List α) :
    Option (List ParcelItem) :=
  if (vec.length : Int) > trustPairDeviceSizeMax.toInt then none else some (writeSized write vec)

/-- `ReadParcelVecSafe` and `ReadParcelVecStrSafe` -/
def readParcelVecSafe {α : Type} (read : ParcelReader α) : ParcelReader (List α) :=
  readSized trustPairDeviceSizeMax (pushBack read) []

instance takesFront_readParcelVecSafe {α : Type} {read : ParcelReader α} [TakesFront read] :
    TakesFront (readParcelVecSafe read) :=
  takesFront_readSized _ _

/-- Seven of the fields are written, unless a list is too long. -/
def marshalling (self : BluetoothTrustPairDevice) : Option (List ParcelItem) := do
  let uuids ← marshallingVecSafe (fun data => [.string data]) self.uuids
  let token ← marshallingVecSafe (fun data => [.uint8 data]) self.token
  let secureAdvertisingInfo ← marshallingVecSafe (fun data => [.uint8 data]) self.secureAdvertisingInfo
  pure (.string self.macAddress :: .string self.deviceName ::
    (uuids ++ .int32 self.bluetoothClass :: (token ++ (secureAdvertisingInfo ++ [.string self.productId]))))

def unmarshalling : ParcelReader BluetoothTrustPairDevice := do
  let macAddress ← readString
  let deviceName ← readString
  let uuids ← readParcelVecSafe readString
  let bluetoothClass ← readInt32
  let token ← readParcelVecSafe readUint8
  let secureAdvertisingInfo ← readParcelVecSafe readUint8
  let productId ← readString
  pure { macAddress, deviceName, uuids, bluetoothClass, token, secureAdvertisingInfo, productId }

instance : TakesFront unmarshalling := by
  unfold unmarshalling
  infer_instance

/-- What arrives of a device. -/
def arriving (self : BluetoothTrustPairDevice) : BluetoothTrustPairDevice where
  macAddress := self.macAddress
  deviceName := self.deviceName
  uuids := self.uuids
  bluetoothClass := self.bluetoothClass
  token := self.token
  secureAdvertisingInfo := self.secureAdvertisingInfo
  productId := self.productId

/-- A list that was written can be read. The writer refuses a list that is too long, so the count
that is read is the one that was written. -/
theorem reads_vecSafe {α : Type} {read : ParcelReader α} (write : α → List ParcelItem)
    (vec : List α) (each : ∀ element, Reads read (write element) element) {items : List ParcelItem}
    (written : marshallingVecSafe write vec = some items) :
      Reads (readParcelVecSafe read) items vec := by
  unfold marshallingVecSafe at written
  split at written
  · cases written
  · next within =>
    cases written
    have one (elements : List α) (element : α) : Reads (pushBack read elements) (write element)
        (elements ++ [id element]) := by
      rw [← List.append_nil (write element)]
      exact Reads.bind (each element) (Reads.pure _)
    have reads := reads_sized trustPairDeviceSizeMax write _ vec [] (by omega) fun elements element _ =>
      one elements element
    rwa [foldl_pushBack, List.map_id] at reads

/-- A trusted device that could be written arrives as the class leaves it. -/
theorem reads (self : BluetoothTrustPairDevice) {items : List ParcelItem}
    (written : self.marshalling = some items) :
    Reads unmarshalling items self.arriving := by
  simp only [marshalling, Option.bind_eq_bind, Option.bind_eq_some_iff, Option.pure_def,
    Option.some.injEq] at written
  obtain ⟨uuids, uuidsWritten, token, tokenWritten, info, infoWritten, rfl⟩ := written
  apply Reads.next (reads_string self.macAddress)
  apply Reads.next (reads_string self.deviceName)
  apply Reads.bind (reads_vecSafe _ self.uuids reads_string uuidsWritten)
  apply Reads.next (reads_int32 self.bluetoothClass)
  apply Reads.bind (reads_vecSafe _ self.token reads_uint8 tokenWritten)
  apply Reads.bind (reads_vecSafe _ self.secureAdvertisingInfo reads_uint8 infoWritten)
  apply Reads.next (reads_string self.productId)
  exact Reads.pure self.arriving

end BluetoothTrustPairDevice

/-! ## All records -/

/-- The parcelable records. -/
inductive RecordKind where
  | rawAddress
  | scanSettings
  | advertiserSettings
  | gattDevice
  | gattRspContext
  | a2dpCodecInfo
  | a2dpCodecStatus
  | a2dpOffloadCodecInfo
  | a2dpOffloadCodecStatus
  | avrcpMeItem
  | avrcpMpItem
  | hidDeviceQos
  | hidDeviceSdp
  | batteryInfo
  | remoteDeviceInfo
  | oobData
  | socketCocInfo
  | phoneState
  | oppTransferInformation
  | oppTransferFileHolder
  | sensingInfo
  | trustPairDevice
deriving DecidableEq

namespace RecordKind

/-- The objects of a kind. -/
def Value : RecordKind → Type
  | .rawAddress => RawAddress
  | .scanSettings => Host.ScanSettings
  | .advertiserSettings => BluetoothBleAdvertiserSettings
  | .gattDevice => BluetoothGattDevice
  | .gattRspContext => BluetoothGattRspContext
  | .a2dpCodecInfo => BluetoothA2dpCodecInfo
  | .a2dpCodecStatus => BluetoothA2dpCodecStatus
  | .a2dpOffloadCodecInfo => BluetoothA2dpOffloadCodecInfo
  | .a2dpOffloadCodecStatus => BluetoothA2dpOffloadCodecStatus
  | .avrcpMeItem => BluetoothAvrcpMeItem
  | .avrcpMpItem => BluetoothAvrcpMpItem
  | .hidDeviceQos => BluetoothHidDeviceQos
  | .hidDeviceSdp => BluetoothHidDeviceSdp
  | .batteryInfo => BluetoothBatteryInfo
  | .remoteDeviceInfo => BluetoothRemoteDeviceInfo
  | .oobData => BluetoothOobData
  | .socketCocInfo => BluetoothSocketCocInfo
  | .phoneState => BluetoothPhoneState
  | .oppTransferInformation => BluetoothIOppTransferInformation
  | .oppTransferFileHolder => BluetoothIOppTransferFileHolder
  | .sensingInfo => BluetoothSensingInfo
  | .trustPairDevice => BluetoothTrustPairDevice

/-- `Marshalling`, with what was written if it succeeds. -/
def marshalling : (kind : RecordKind) → kind.Value → Option (List ParcelItem)
  | .rawAddress, value => some (rawAddressMarshalling value)
  | .scanSettings, value => some (scanSettingsMarshalling value)
  | .advertiserSettings, value => some (BluetoothBleAdvertiserSettings.marshalling value)
  | .gattDevice, value => some (BluetoothGattDevice.marshalling value)
  | .gattRspContext, value => some (BluetoothGattRspContext.marshalling value)
  | .a2dpCodecInfo, value => some (BluetoothA2dpCodecInfo.marshalling value)
  | .a2dpCodecStatus, value => some (BluetoothA2dpCodecStatus.marshalling value)
  | .a2dpOffloadCodecInfo, value => some (BluetoothA2dpOffloadCodecInfo.marshalling value)
  | .a2dpOffloadCodecStatus, value => some (BluetoothA2dpOffloadCodecStatus.marshalling value)
  | .avrcpMeItem, value => some (BluetoothAvrcpMeItem.marshalling value)
  | .avrcpMpItem, value => some (BluetoothAvrcpMpItem.marshalling value)
  | .hidDeviceQos, value => some (BluetoothHidDeviceQos.marshalling value)
  | .hidDeviceSdp, value => some (BluetoothHidDeviceSdp.marshalling value)
  | .batteryInfo, value => some (BluetoothBatteryInfo.marshalling value)
  | .remoteDeviceInfo, value => some (BluetoothRemoteDeviceInfo.marshalling value)
  | .oobData, value => some (BluetoothOobData.marshalling value)
  | .socketCocInfo, value => some (BluetoothSocketCocInfo.marshalling value)
  | .phoneState, value => some (BluetoothPhoneState.marshalling value)
  | .oppTransferInformation, value => some (BluetoothIOppTransferInformation.marshalling value)
  | .oppTransferFileHolder, value => some (BluetoothIOppTransferFileHolder.marshalling value)
  | .sensingInfo, value => some (BluetoothSensingInfo.marshalling value)
  | .trustPairDevice, value => BluetoothTrustPairDevice.marshalling value

/-- `Unmarshalling` -/
def unmarshalling : (kind : RecordKind) → ParcelReader kind.Value
  | .rawAddress => rawAddressUnmarshalling
  | .scanSettings => scanSettingsUnmarshalling
  | .advertiserSettings => BluetoothBleAdvertiserSettings.unmarshalling
  | .gattDevice => BluetoothGattDevice.unmarshalling
  | .gattRspContext => BluetoothGattRspContext.unmarshalling
  | .a2dpCodecInfo => BluetoothA2dpCodecInfo.unmarshalling
  | .a2dpCodecStatus => BluetoothA2dpCodecStatus.unmarshalling
  | .a2dpOffloadCodecInfo => BluetoothA2dpOffloadCodecInfo.unmarshalling
  | .a2dpOffloadCodecStatus => BluetoothA2dpOffloadCodecStatus.unmarshalling
  | .avrcpMeItem => BluetoothAvrcpMeItem.unmarshalling
  | .avrcpMpItem => BluetoothAvrcpMpItem.unmarshalling
  | .hidDeviceQos => BluetoothHidDeviceQos.unmarshalling
  | .hidDeviceSdp => BluetoothHidDeviceSdp.unmarshalling
  | .batteryInfo => BluetoothBatteryInfo.unmarshalling
  | .remoteDeviceInfo => BluetoothRemoteDeviceInfo.unmarshalling
  | .oobData => BluetoothOobData.unmarshalling
  | .socketCocInfo => BluetoothSocketCocInfo.unmarshalling
  | .phoneState => BluetoothPhoneState.unmarshalling
  | .oppTransferInformation => BluetoothIOppTransferInformation.unmarshalling
  | .oppTransferFileHolder => BluetoothIOppTransferFileHolder.unmarshalling
  | .sensingInfo => BluetoothSensingInfo.unmarshalling
  | .trustPairDevice => BluetoothTrustPairDevice.unmarshalling

/-- What a reader accepts. -/
def Accepted : (kind : RecordKind) → kind.Value → Prop
  | .a2dpCodecStatus, value => BluetoothA2dpCodecStatus.Accepted value
  | .avrcpMeItem, value => BluetoothAvrcpMeItem.Accepted value
  | .avrcpMpItem, value => BluetoothAvrcpMpItem.Accepted value
  | .hidDeviceQos, value => BluetoothHidDeviceQos.Accepted value
  | .hidDeviceSdp, value => BluetoothHidDeviceSdp.Accepted value
  | _, _ => True

/-- The lists can be counted by the type that their size is written as. -/
def Fits : (kind : RecordKind) → kind.Value → Prop
  | .a2dpCodecStatus, value => BluetoothA2dpCodecStatus.Fits value
  | .avrcpMeItem, value => BluetoothAvrcpMeItem.Fits value
  | .avrcpMpItem, value => (BluetoothAvrcpMpItem.features value).length < 2 ^ 32
  | .hidDeviceSdp, value => (BluetoothHidDeviceSdp.sdpSettings value).length < 2 ^ 32
  | .sensingInfo, value => (BluetoothSensingInfo.sensingArray value).length < 2 ^ 31
  | _, _ => True

/-- What arrives: fields that are not written keep their defaults. -/
def arriving : (kind : RecordKind) → kind.Value → kind.Value
  | .gattDevice, value => BluetoothGattDevice.arriving value
  | .oppTransferInformation, value => BluetoothIOppTransferInformation.arriving value
  | .trustPairDevice, value => BluetoothTrustPairDevice.arriving value
  | _, value => value

instance (kind : RecordKind) : TakesFront kind.unmarshalling := by
  cases kind <;> dsimp only [unmarshalling, Value] <;> infer_instance

/-- A record is read if it is accepted and refused otherwise. -/
theorem admits (kind : RecordKind) (value : kind.Value) (fits : kind.Fits value)
    {items : List ParcelItem} (written : kind.marshalling value = some items) :
    Admits kind.unmarshalling items (kind.Accepted value) (kind.arriving value) := by
  cases kind
  case trustPairDevice => exact (BluetoothTrustPairDevice.reads value written).admits
  all_goals cases written
  case a2dpCodecStatus => exact BluetoothA2dpCodecStatus.admits value fits
  case avrcpMeItem => exact BluetoothAvrcpMeItem.admits value fits
  case avrcpMpItem => exact BluetoothAvrcpMpItem.admits value fits
  case hidDeviceQos => exact BluetoothHidDeviceQos.admits value
  case hidDeviceSdp => exact BluetoothHidDeviceSdp.admits value fits
  all_goals apply Reads.admits
  case advertiserSettings => exact BluetoothBleAdvertiserSettings.reads value
  case a2dpOffloadCodecStatus => exact BluetoothA2dpOffloadCodecStatus.reads value
  case sensingInfo => exact BluetoothSensingInfo.reads value fits
  case rawAddress => exact reads_rawAddress value
  case scanSettings => exact reads_scanSettings value
  case gattDevice => exact BluetoothGattDevice.reads value
  case gattRspContext => exact BluetoothGattRspContext.reads value
  case a2dpCodecInfo => exact BluetoothA2dpCodecInfo.reads value
  case a2dpOffloadCodecInfo => exact BluetoothA2dpOffloadCodecInfo.reads value
  case batteryInfo => exact BluetoothBatteryInfo.reads value
  case remoteDeviceInfo => exact BluetoothRemoteDeviceInfo.reads value
  case oobData => exact BluetoothOobData.reads value
  case socketCocInfo => exact BluetoothSocketCocInfo.reads value
  case phoneState => exact BluetoothPhoneState.reads value
  case oppTransferInformation => exact BluetoothIOppTransferInformation.reads value
  case oppTransferFileHolder => exact BluetoothIOppTransferFileHolder.reads value

/-- **What a record is read as.** Whatever follows it in the parcel, a record that is within the
limits of its reader arrives, with the defaults in the fields that are not written, and one that is
not is not read at all. Nothing is read of a parcel that ends before the record does. -/
theorem record_arrives (kind : RecordKind) (value : kind.Value) (fits : kind.Fits value)
    (items : List ParcelItem) (written : kind.marshalling value = some items) :
    (∀ rest, (kind.Accepted value → kind.unmarshalling.run (items ++ rest) = some (kind.arriving value, rest)) ∧
      (¬ kind.Accepted value → kind.unmarshalling.run (items ++ rest) = none)) ∧
      ∀ shorter, shorter <+: items → shorter ≠ items → kind.unmarshalling.run shorter = none := by
  have admits := kind.admits value fits written
  constructor
  · intro rest
    exact ⟨fun accepted => admits.reads accepted rest, fun rejected => admits.refuses rejected rest⟩
  · intro shorter isPrefix different
    exact admits.short isPrefix different

/-- The service record of a keyboard without settings of its own. -/
def keyboard : BluetoothHidDeviceSdp where
  name := [75]
  description := [75]
  provider := [79]
  subclass := 64
  sdpSettings := [1, 2]

/-- A keyboard's record is an instance: it arrives if the reader accepts it, and no part of it
alone is read. -/
theorem record_arrives_keyboard :
    (∀ rest, (hidDeviceSdp.Accepted keyboard → hidDeviceSdp.unmarshalling.run (keyboard.marshalling ++ rest) =
        some (hidDeviceSdp.arriving keyboard, rest)) ∧
      (¬ hidDeviceSdp.Accepted keyboard →
        hidDeviceSdp.unmarshalling.run (keyboard.marshalling ++ rest) = none)) ∧
      ∀ shorter, shorter <+: keyboard.marshalling → shorter ≠ keyboard.marshalling →
        hidDeviceSdp.unmarshalling.run shorter = none :=
  record_arrives hidDeviceSdp keyboard (by simp [Fits, keyboard]) keyboard.marshalling rfl

end RecordKind

end BluetoothFramework.Ipc
