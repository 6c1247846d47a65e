import BluetoothFramework.Library.OrderedSet
import BluetoothFramework.Gatt.Attributes
import BluetoothFramework.CAdapter.AddressText

/-!
# The GATT server of the C adapter

Ten servers have ten services each, all in static arrays, and applications name them by
their indices. An attribute has two handles: the one that the application was given when it
added the attribute, and the actual one, which `OnServiceAdded` fills in when the stack has
registered the service. Connected devices are in a map of their own.

Every function here is one critical section after another, and is taken as one step. What it
calls, in the application and in the stack, is recorded in order.
-/

namespace BluetoothFramework.CAdapter

open SearchTree

/-- `MAXIMUM_NUMBER_APPLICATION` -/
abbrev maximumNumberApplication : Nat := 10

/-- `MAXIMUM_NUMBER_GATTSERVICE` -/
abbrev maximumNumberGattservice : Nat := 10

/-- An index of `g_gattServers`. -/
abbrev ServerId : Type :=
  Fin maximumNumberApplication

/-- An index of `gattServices`. -/
abbrev ServiceIndex : Type :=
  Fin maximumNumberGattservice

/-- The results of the functions, less those that no function here returns. -/
inductive BtStatus where
  | success
  | fail
  | parmInvalid
  | unhandled
deriving DecidableEq

/-- Which callbacks the application has set. -/
structure BtGattServerCallbacks where
  registerServerCb : Bool := false
  connectServerCb : Bool := false
  disconnectServerCb : Bool := false
  serviceAddCb : Bool := false
  characteristicAddCb : Bool := false
  descriptorAddCb : Bool := false
  serviceStartCb : Bool := false
  serviceStopCb : Bool := false
  serviceDeleteCb : Bool := false
  requestReadCb : Bool := false
  requestWriteCb : Bool := false
  responseConfirmationCb : Bool := false
  indicationSentCb : Bool := false
  mtuChangeCb : Bool := false
deriving DecidableEq

/-- `ConnectedDevice`. Only callback wrappers make one, with the index they were made for. -/
structure ConnectedDevice where
  serverId : ServerId
  remoteAddr : Address
deriving DecidableEq

/-- The device that answers and indications are sent to. -/
def ConnectedDevice.remoteDevice (device : ConnectedDevice) : BluetoothRemoteDevice where
  address := getAddrFromByte device.remoteAddr
  transport := btTransportBle

/-- Two devices that are sent to alike have one address. -/
theorem ConnectedDevice.remoteAddr_eq {first second : ConnectedDevice}
    (same : first.remoteDevice = second.remoteDevice) : first.remoteAddr = second.remoteAddr :=
  getAddrFromByte_injective (congrArg BluetoothRemoteDevice.address same)

/-- An entry of `g_MapConnectedDevice`. -/
structure DeviceRecord where
  connId : Int32
  device : ConnectedDevice
deriving DecidableEq

/-- The map compares the connection ids. -/
def lessConnId (first second : DeviceRecord) : Bool :=
  decide (first.connId < second.connId)

instance : StrictPartialOrder lessConnId where
  irreflexive := by
    intro record
    exact decide_eq_false Int32.lt_irrefl
  transitive := by
    intro first second third less greater
    exact decide_eq_true (Int32.lt_trans (of_decide_eq_true less) (of_decide_eq_true greater))

/-- `GattAttribute::AttributeType`, less `GATT_SERVICE`, which no attribute has. -/
inductive AttributeType where
  | characteristic
  | descriptor
deriving DecidableEq

/-- `GattAttribute` -/
structure GattAttribute where
  handle : UInt16
  actualHandle : UInt16 := 0
  uuid : UUID
  attrType : AttributeType
deriving DecidableEq

/-- `GattServiceWrapper`. No attribute in the vector is null. -/
structure GattServiceWrapper where
  gattService : Option GattService := none
  isAdding : Bool := false
  attributes : List GattAttribute := []

/-- `GattServerWrapper`. Of the server only matters whether there is one. -/
structure GattServerWrapper where
  gattServer : Bool := false
  gattServices : ServiceIndex → GattServiceWrapper := fun _ => {}

/-- `GattsSendRspParam`. The handle serves as the number of the request. -/
structure GattsSendRspParam where
  connectId : Int32
  status : Int32
  attrHandle : Int32
  value : ByteString
deriving DecidableEq

/-- `GattsSendIndParam` -/
structure GattsSendIndParam where
  connectId : Int32
  attrHandle : Int32
  confirm : Int32
  value : ByteString
deriving DecidableEq

/-- The calls of the application's callbacks, and those of a `GattServer`. -/
inductive Call where
  | registerServerCb (status : Nat) (serverId : ServerId)
  | connectServerCb (record : DeviceRecord)
  | disconnectServerCb (record : DeviceRecord)
  | serviceAddCb (serverId : ServerId) (uuid : ByteString) (srvcHandle : ServiceIndex)
  | characteristicAddCb (serverId : ServerId) (uuid : ByteString) (srvcHandle : ServiceIndex) (handle : UInt16)
  | descriptorAddCb (serverId : ServerId) (uuid : ByteString) (srvcHandle : ServiceIndex) (handle : UInt16)
  | serviceStartCb (status : BtStatus) (serverId : ServerId) (srvcHandle : Option ServiceIndex)
  | serviceStopCb (serverId : ServerId) (srvcHandle : ServiceIndex)
  | serviceDeleteCb (serverId : ServerId) (srvcHandle : ServiceIndex)
  | requestReadCb (record : DeviceRecord) (requestId : Int32) (attrHandle : UInt16)
  | requestWriteCb (record : DeviceRecord) (requestId : Int32) (attrHandle : UInt16) (value : ByteString)
      (needRsp : Bool)
  | responseConfirmationCb (ret attrHandle : Int32)
  | indicationSentCb (connId status : Int32)
  | mtuChangeCb (connId mtu : Int32)
  | addService (serverId : ServerId) (service : GattService)
  | removeGattService (serverId : ServerId) (service : GattService)
  | sendResponse (serverId : ServerId) (device : BluetoothRemoteDevice) (requestId status : Int32)
      (value : ByteString)
  | notifyCharacteristicChanged (serverId : ServerId) (device : BluetoothRemoteDevice)
      (characteristic : GattCharacteristic) (confirm : Bool)
deriving DecidableEq

/-- `g_GattsCallback`, `g_connId`, `g_MapConnectedDevice`, `nextAttributeHandle` and
`g_gattServers`. -/
structure Gatts where
  gattsCallback : Option BtGattServerCallbacks := none
  connId : Int32 := 0
  mapConnectedDevice : OrderedSet lessConnId := {}
  nextAttributeHandle : UInt16 := 1
  gattServers : ServerId → GattServerWrapper := fun _ => {}

/-- The state after a function, the calls it has made and its result; functions that return
nothing succeed. -/
structure Outcome where
  gatts : Gatts
  calls : List Call := []
  status : BtStatus := .success

/-- The text of a `BtUuid`, where `IsValidUuid` accepts it. -/
def readUuid (uuid : ByteString) : Option UUID :=
  if isValidUuid uuid then (UUID.fromString uuid).toOption else none

/-- The check of a server id. -/
def serverAt (serverId : Int) : Option ServerId :=
  if 0 ≤ serverId ∧ serverId < maximumNumberApplication then some (Fin.ofNat _ serverId.toNat) else none

/-- The check of the handle of a service. -/
def serviceAt (srvcHandle : Int) : Option ServiceIndex :=
  if 0 ≤ srvcHandle ∧ srvcHandle < maximumNumberGattservice then some (Fin.ofNat _ srvcHandle.toNat)
  else none

namespace Gatts

/-- `GATTSERVER` is not null. -/
def gattServer (gatts : Gatts) (serverId : ServerId) : Bool :=
  (gatts.gattServers serverId).gattServer

/-- `GATTSERVICES` -/
def gattServices (gatts : Gatts) (serverId : ServerId) (i : ServiceIndex) : GattServiceWrapper :=
  (gatts.gattServers serverId).gattServices i

/-- A write to `GATTSERVER`. -/
def setServer (gatts : Gatts) (serverId : ServerId) (gattServer : Bool) : Gatts :=
  { gatts with
    gattServers := Function.update gatts.gattServers serverId
      { gatts.gattServers serverId with gattServer := gattServer } }

/-- A write to `GATTSERVICES`. -/
def setServices (gatts : Gatts) (serverId : ServerId) (i : ServiceIndex)
    (wrapper : GattServiceWrapper) :
    Gatts :=
  { gatts with
    gattServers := Function.update gatts.gattServers serverId
      { gatts.gattServers serverId with
        gattServices := Function.update (gatts.gattServers serverId).gattServices i wrapper } }

/-- A server's mark that is set is read back, and the marks of the others stay. -/
theorem gattServer_setServer (gatts : Gatts) (serverId : ServerId) (gattServer : Bool)
    (other : ServerId) :
    (gatts.setServer serverId gattServer).gattServer other =
      if other = serverId then gattServer else gatts.gattServer other := by
  by_cases same : other = serverId
  · subst same
    simp [setServer, Gatts.gattServer]
  · simp [setServer, Gatts.gattServer, same]

/-- Setting the mark of a server leaves all services. -/
@[simp] theorem gattServices_setServer (gatts : Gatts) (serverId : ServerId) (gattServer : Bool)
    (other : ServerId) (i : ServiceIndex) :
    (gatts.setServer serverId gattServer).gattServices other i = gatts.gattServices other i := by
  by_cases same : other = serverId
  · subst same
    simp [setServer, gattServices]
  · simp [setServer, gattServices, same]

/-- Setting the services of a server leaves all marks. -/
@[simp] theorem gattServer_setServices (gatts : Gatts) (serverId : ServerId) (i : ServiceIndex)
    (wrapper : GattServiceWrapper) (other : ServerId) :
    (gatts.setServices serverId i wrapper).gattServer other = gatts.gattServer other := by
  by_cases same : other = serverId
  · subst same
    simp [setServices, gattServer]
  · simp [setServices, gattServer, same]

/-- A service that is set is read back, and every other slot stays. -/
theorem gattServices_setServices (gatts : Gatts) (serverId : ServerId) (i : ServiceIndex)
    (wrapper : GattServiceWrapper) (other : ServerId) (j : ServiceIndex) :
    (gatts.setServices serverId i wrapper).gattServices other j =
      if other = serverId ∧ j = i then wrapper else gatts.gattServices other j := by
  by_cases same : other = serverId
  · subst same
    by_cases here : j = i
    · subst here
      simp [setServices, gattServices]
    · simp [setServices, gattServices, here]
  · simp [setServices, gattServices, same]

/-- A callback is called if it is set. -/
def notify (gatts : Gatts) (isSet : BtGattServerCallbacks → Bool) (call : Call) : List Call :=
  if gatts.gattsCallback.any isSet then [call] else []

/-! ## Connected devices -/

/-- `GetDeviceInfoByConnId` -/
def getDeviceInfoByConnId (gatts : Gatts) (connId : Int32) : Option DeviceRecord :=
  gatts.mapConnectedDevice.elements.find? fun record => record.connId = connId

/-- `GetConnIdByDeviceInfo` -/
def getConnIdByDeviceInfo (gatts : Gatts) (device : ConnectedDevice) : Option DeviceRecord :=
  gatts.mapConnectedDevice.elements.find? fun record => record.device = device

/-- `AddDeviceRecord` -/
def addDeviceRecord (gatts : Gatts) (device : ConnectedDevice) : Int32 × Gatts :=
  match gatts.getConnIdByDeviceInfo device with
  | some record => (record.connId, gatts)
  | none =>
      (gatts.connId,
        { gatts with
          mapConnectedDevice := gatts.mapConnectedDevice.emplace ⟨gatts.connId, device⟩
          connId := gatts.connId + 1 })

/-- `RemoveDeviceRecord` -/
def removeDeviceRecord (gatts : Gatts) (connId : Int32) : Gatts :=
  match gatts.getDeviceInfoByConnId connId with
  | some record => { gatts with mapConnectedDevice := gatts.mapConnectedDevice.erase record }
  | none => gatts

/-- Recording a device touches the table of connections only. -/
@[simp] theorem gattServers_addDeviceRecord (gatts : Gatts) (device : ConnectedDevice) :
    (gatts.addDeviceRecord device).2.gattServers = gatts.gattServers := by
  rw [addDeviceRecord]
  split <;> rfl

/-- Removing a record touches the table of connections only. -/
@[simp] theorem gattServers_removeDeviceRecord (gatts : Gatts) (connId : Int32) :
    (gatts.removeDeviceRecord connId).gattServers = gatts.gattServers := by
  rw [removeDeviceRecord]
  split <;> rfl

/-- Two records of one id are the same. -/
theorem eq_of_connId {map : OrderedSet lessConnId} {first second : DeviceRecord}
    (member : first ∈ map.elements)
    (other : second ∈ map.elements) (same : first.connId = second.connId) : first = second := by
  by_contra different
  obtain less | greater := OrderedSet.less_or_greater map member other different
  · exact Int32.lt_irrefl (same ▸ of_decide_eq_true less)
  · exact Int32.lt_irrefl (same ▸ of_decide_eq_true greater)

/-- The search by an id finds a record exactly if it is one of the table with that id. Ids are
distinct in the table, so which one is found needs no order. -/
theorem getDeviceInfoByConnId_eq_some_iff (gatts : Gatts) (connId : Int32) (record : DeviceRecord) :
    gatts.getDeviceInfoByConnId connId = some record ↔
      record ∈ gatts.mapConnectedDevice.elements ∧ record.connId = connId := by
  constructor
  · intro found
    have same := List.find?_some found
    exact ⟨List.mem_of_find?_eq_some found, of_decide_eq_true same⟩
  · rintro ⟨member, same⟩
    cases found : gatts.getDeviceInfoByConnId connId with
    | none =>
      have missing := List.find?_eq_none.mp found record member
      exact absurd same (by simpa using missing)
    | some other =>
      have sameId := List.find?_some found
      have equal : other.connId = record.connId := (of_decide_eq_true sameId).trans same.symm
      exact congrArg some (eq_of_connId (List.mem_of_find?_eq_some found) member equal)

/-- The search by a device fails exactly if no record is about it. -/
theorem getConnIdByDeviceInfo_eq_none_iff (gatts : Gatts) (device : ConnectedDevice) :
    gatts.getConnIdByDeviceInfo device = none ↔
      ∀ record ∈ gatts.mapConnectedDevice.elements, record.device ≠ device := by
  simp [getConnIdByDeviceInfo, List.find?_eq_none]

/-- A record that is found by a device is in the table and about that device. -/
theorem mem_of_getConnIdByDeviceInfo {gatts : Gatts} {device : ConnectedDevice}
    {record : DeviceRecord} (found : gatts.getConnIdByDeviceInfo device = some record) :
    record ∈ gatts.mapConnectedDevice.elements ∧ record.device = device := by
  have same := List.find?_some found
  exact ⟨List.mem_of_find?_eq_some found, of_decide_eq_true same⟩

/-- A device without a record gets one, unless the next id is taken. -/
theorem mem_addDeviceRecord {gatts : Gatts} {device : ConnectedDevice}
    (missing : gatts.getConnIdByDeviceInfo device = none)
    (unused : ∀ record ∈ gatts.mapConnectedDevice.elements, record.connId ≠ gatts.connId)
    (other : DeviceRecord) :
    other ∈ (gatts.addDeviceRecord device).2.mapConnectedDevice.elements ↔
      other = ⟨gatts.connId, device⟩ ∨ other ∈ gatts.mapConnectedDevice.elements := by
  simp only [addDeviceRecord, missing]
  apply OrderedSet.mem_emplace_new
  intro record member
  by_contra met
  simp only [meetsKey, lessConnId, Bool.not_eq_false, Bool.and_eq_true, Bool.not_eq_true',
    decide_eq_false_iff_not, Int32.not_lt] at met
  exact unused record member (Int32.le_antisymm met.2 met.1)

/-- What is removed is the record. -/
theorem mem_removeDeviceRecord {gatts : Gatts} {record : DeviceRecord}
    (member : record ∈ gatts.mapConnectedDevice.elements) (other : DeviceRecord) :
    other ∈ (gatts.removeDeviceRecord record.connId).mapConnectedDevice.elements ↔
      other ≠ record ∧ other ∈ gatts.mapConnectedDevice.elements := by
  have found : gatts.getDeviceInfoByConnId record.connId = some record :=
    (gatts.getDeviceInfoByConnId_eq_some_iff _ _).mpr ⟨member, rfl⟩
  simp only [removeDeviceRecord, found]
  exact OrderedSet.mem_erase _ _ _

/-- `OnConnectionStateUpdate` of the wrapper of a server, with the address read from that of
the device. -/
def onConnectionStateUpdate (gatts : Gatts) (device : ConnectedDevice) (state : Int32) : Outcome :=
  if state = btConnectStateConnected then
    if gatts.gattsCallback.any BtGattServerCallbacks.connectServerCb then
      let added := gatts.addDeviceRecord device
      { gatts := added.2, calls := [.connectServerCb ⟨added.1, device⟩] }
    else { gatts := gatts }
  else if state = btConnectStateDisconnected then
    if gatts.gattsCallback.any BtGattServerCallbacks.disconnectServerCb then
      match gatts.getConnIdByDeviceInfo device with
      | some record =>
          { gatts := gatts.removeDeviceRecord record.connId
            calls := [.disconnectServerCb ⟨record.connId, device⟩] }
      | none => { gatts := gatts }
    else { gatts := gatts }
  else { gatts := gatts }

/-! ## Attributes -/

/-- `GetNextAttributeHandle` -/
def getNextAttributeHandle (gatts : Gatts) : UInt16 × Gatts :=
  let next := if gatts.nextAttributeHandle = 0xFFFF then 1 else gatts.nextAttributeHandle
  (next, { gatts with nextAttributeHandle := next + 1 })

/-- `AddAttribute` -/
def addAttribute (gatts : Gatts) (serverId : ServerId) (serviceIndex : ServiceIndex)
    (attrType : AttributeType) (uuid : UUID) (handle : UInt16) : Gatts :=
  let wrapper := gatts.gattServices serverId serviceIndex
  gatts.setServices serverId serviceIndex
    { wrapper with attributes := wrapper.attributes ++ [{ handle, uuid, attrType }] }

end Gatts

/-- `GetAttribute`: the place of the first attribute with the predicate. -/
def getAttribute (attributes : List GattAttribute) (predicate : GattAttribute → Bool) :
    Option Nat :=
  attributes.findIdx? predicate

/-- `GetAttributeWithUuid` -/
def getAttributeWithUuid (attributes : List GattAttribute) (attributeType : AttributeType)
    (uuid : UUID) :
    Option Nat :=
  getAttribute attributes fun attr => attr.attrType = attributeType ∧ attr.uuid = uuid

/-- `GetDescriptorAttribute` -/
def getDescriptorAttribute (attributes : List GattAttribute) (characterUuid descriptorUuid : UUID) :
    Option Nat :=
  match (getAttributeWithUuid attributes .characteristic characterUuid).bind (attributes[·]?) with
  | none => none
  | some characterAttribute =>
      getAttribute attributes fun attr => attr.handle > characterAttribute.handle ∧
        attr.uuid = descriptorUuid

/-- A write to `actualHandle` through the pointer that a search has returned. -/
def setActualHandle (attributes : List GattAttribute) (found : Option Nat) (actualHandle : UInt16) :
    List GattAttribute :=
  match found with
  | none => attributes
  | some place => attributes.modify place fun attr => { attr with actualHandle := actualHandle }

/-- The body of the loop over the descriptors. -/
def descriptorAdded (characterUuid : UUID) (attributes : List GattAttribute)
    (des : GattDescriptor) :
    List GattAttribute :=
  setActualHandle attributes (getDescriptorAttribute attributes characterUuid des.uuid) des.handle

/-- The body of the loop over the characteristics. -/
def characteristicAdded (attributes : List GattAttribute) (item : GattCharacteristic) :
    List GattAttribute :=
  match getAttributeWithUuid attributes .characteristic item.uuid with
  | none => attributes
  | some place =>
      item.descriptors.foldl (descriptorAdded item.uuid) (setActualHandle attributes (some place) item.handle)

namespace Gatts

/-- `GetAttributeWithHandle` and `GetAttributeWithActualHandle`: the services are searched in
turn. -/
def getAttributeOfServer (gatts : Gatts) (serverId : ServerId) (predicate : GattAttribute → Bool) :
    Option GattAttribute :=
  (List.finRange maximumNumberGattservice).findSome? fun i =>
    let attributes := (gatts.gattServices serverId i).attributes
    (getAttribute attributes predicate).bind (attributes[·]?)

/-- `GetAttributeWithHandle` -/
def getAttributeWithHandle (gatts : Gatts) (serverId : ServerId) (handle : Int32) :
    Option GattAttribute :=
  gatts.getAttributeOfServer serverId fun attr => (attr.handle.toNat : Int) = handle.toInt

/-- `GetAttributeWithActualHandle` -/
def getAttributeWithActualHandle (gatts : Gatts) (serverId : ServerId) (actualHandle : UInt16) :
    Option GattAttribute :=
  gatts.getAttributeOfServer serverId fun attr => attr.actualHandle = actualHandle

/-- The search through a server's services is one search through all its slots, in order. -/
theorem getAttributeOfServer_eq (gatts : Gatts) (serverId : ServerId)
    (predicate : GattAttribute → Bool) :
    gatts.getAttributeOfServer serverId predicate =
      (List.finRange maximumNumberGattservice).findSome? fun i =>
        (gatts.gattServices serverId i).attributes.find? predicate := by
  simp only [getAttributeOfServer, getAttribute, List.find?_eq_bind_findIdx?_getElem?]

/-- The search through a server's services fails exactly if no attribute of any slot fits. -/
theorem getAttributeOfServer_eq_none_iff (gatts : Gatts) (serverId : ServerId)
    (predicate : GattAttribute → Bool) :
    gatts.getAttributeOfServer serverId predicate = none ↔
      ∀ i, ∀ attr ∈ (gatts.gattServices serverId i).attributes, predicate attr = false := by
  simp [getAttributeOfServer_eq, List.findSome?_eq_none_iff]

/-- A service of the server is being added and has the UUID. -/
def isAddingUuid (gatts : Gatts) (serverId : ServerId) (uuid : UUID) (i : ServiceIndex) : Bool :=
  match (gatts.gattServices serverId i).gattService with
  | none => false
  | some service => (gatts.gattServices serverId i).isAdding && service.uuid = uuid

/-- `OnServiceAdded` of the wrapper of a server. -/
def onServiceAdded (gatts : Gatts) (serverId : ServerId) (service : GattService)
    (ret : Int32) : Outcome :=
  if gatts.gattsCallback.any BtGattServerCallbacks.serviceStartCb then
    if ret = gattSuccess then
      match (List.finRange maximumNumberGattservice).find? (gatts.isAddingUuid serverId service.uuid) with
      | none => { gatts := gatts, calls := [.serviceStartCb .fail serverId none] }
      | some i =>
          let wrapper := gatts.gattServices serverId i
          { gatts := gatts.setServices serverId i
              { wrapper with
                isAdding := false
                attributes := service.characteristics.foldl characteristicAdded wrapper.attributes }
            calls := [.serviceStartCb .success serverId (some i)] }
    else { gatts := gatts, calls := [.serviceStartCb .fail serverId none] }
  else { gatts := gatts }

/-! ## Requests -/

/-- What the handlers of requests have in common: the record of the device and the attribute
with the actual handle. -/
def requested (gatts : Gatts) (device : ConnectedDevice) (actualHandle : UInt16)
    (isSet : BtGattServerCallbacks → Bool) (call : DeviceRecord → UInt16 → Call) : Outcome :=
  match gatts.getConnIdByDeviceInfo device,
    gatts.getAttributeWithActualHandle device.serverId actualHandle with
  | some record, some found =>
      { gatts := gatts, calls := gatts.notify isSet (call ⟨record.connId, device⟩ found.handle) }
  | _, _ => { gatts := gatts }

/-- `OnCharacteristicReadRequest` -/
def onCharacteristicReadRequest (gatts : Gatts) (device : ConnectedDevice)
    (characteristic : GattCharacteristic) (requestId : Int32) : Outcome :=
  gatts.requested device characteristic.handle BtGattServerCallbacks.requestReadCb fun record attrHandle =>
    .requestReadCb record requestId attrHandle

/-- `OnCharacteristicWriteRequest` -/
def onCharacteristicWriteRequest (gatts : Gatts) (device : ConnectedDevice)
    (characteristic : GattCharacteristic) (requestId : Int32) : Outcome :=
  gatts.requested device characteristic.handle BtGattServerCallbacks.requestWriteCb fun record attrHandle =>
    .requestWriteCb record requestId attrHandle characteristic.value (characteristic.writeType = .default)

/-- `OnDescriptorReadRequest` -/
def onDescriptorReadRequest (gatts : Gatts) (device : ConnectedDevice) (descriptor : GattDescriptor)
    (requestId : Int32) : Outcome :=
  gatts.requested device descriptor.handle BtGattServerCallbacks.requestReadCb fun record attrHandle =>
    .requestReadCb record requestId attrHandle

/-- `OnDescriptorWriteRequest` -/
def onDescriptorWriteRequest (gatts : Gatts) (device : ConnectedDevice)
    (descriptor : GattDescriptor) (requestId : Int32) : Outcome :=
  gatts.requested device descriptor.handle BtGattServerCallbacks.requestWriteCb fun record attrHandle =>
    .requestWriteCb record requestId attrHandle descriptor.value true

/-- `OnMtuUpdate` -/
def onMtuUpdate (gatts : Gatts) (device : ConnectedDevice) (mtu : Int32) : Outcome :=
  match gatts.getConnIdByDeviceInfo device with
  | some record =>
      { gatts := gatts
        calls := gatts.notify BtGattServerCallbacks.mtuChangeCb (.mtuChangeCb record.connId mtu) }
  | none => { gatts := gatts }

/-- `OnNotificationCharacteristicChanged` -/
def onNotificationCharacteristicChanged (gatts : Gatts) (device : ConnectedDevice)
    (result : Int32) : Outcome :=
  match gatts.getConnIdByDeviceInfo device with
  | some record =>
      { gatts := gatts
        calls := gatts.notify BtGattServerCallbacks.indicationSentCb (.indicationSentCb record.connId result) }
  | none => { gatts := gatts }

/-! ## The functions of the API -/

/-- `BleGattsRegisterCallbacks` -/
def bleGattsRegisterCallbacks (gatts : Gatts) (func : Option BtGattServerCallbacks) : Outcome :=
  match func with
  | none => { gatts := gatts, status := .parmInvalid }
  | some func => { gatts := { gatts with gattsCallback := some func } }

/-- `BleGattsRegister`, with whether `CreateInstance` makes a server. -/
def bleGattsRegister (gatts : Gatts) (created : Bool) : Outcome :=
  match gatts.gattsCallback with
  | none => { gatts := gatts, status := .fail }
  | some _ =>
      match (List.finRange maximumNumberApplication).find? fun i => gatts.gattServer i = false with
      | some i =>
          { gatts := gatts.setServer i created
            calls := gatts.notify BtGattServerCallbacks.registerServerCb (.registerServerCb 0 i) }
      | none =>
          { gatts := gatts
            calls := gatts.notify BtGattServerCallbacks.registerServerCb (.registerServerCb 1 0)
            status := .fail }

/-- `BleGattsUnRegister` -/
def bleGattsUnRegister (gatts : Gatts) (serverId : Int) : Outcome :=
  match serverAt serverId with
  | none => { gatts := gatts, status := .fail }
  | some serverId =>
      if gatts.gattServer serverId then { gatts := gatts.setServer serverId false }
      else { gatts := gatts, status := .fail }

/-- `BleGattsAddService` -/
def bleGattsAddService (gatts : Gatts) (serverId : Int) (srvcUuid : ByteString) (isPrimary : Bool)
    (number : Int) : Outcome :=
  match readUuid srvcUuid, serverAt serverId with
  | some uuid, some serverId =>
      let isNull := fun i => (gatts.gattServices serverId i).gattService = none
      match (List.finRange maximumNumberGattservice).find? isNull with
      | none => { gatts := gatts, status := .fail }
      | some i =>
          let service : GattService :=
            { handle := UInt16.ofNat i, endHandle := UInt16.ofInt number, isPrimary, uuid }
          { gatts := gatts.setServices serverId i
              { gatts.gattServices serverId i with gattService := some service, isAdding := false }
            calls := gatts.notify BtGattServerCallbacks.serviceAddCb (.serviceAddCb serverId srvcUuid i) }
  | _, _ => { gatts := gatts, status := .parmInvalid }

/-- What `BleGattsAddCharacteristic` and `BleGattsAddDescriptor` have in common: a handle is
taken, the service grows, and the attribute is listed. -/
def addToService (gatts : Gatts) (serverId : ServerId) (i : ServiceIndex) (attrType : AttributeType)
    (uuid : UUID) (service : UInt16 → GattService) (isSet : BtGattServerCallbacks → Bool)
    (call : UInt16 → Call) : Outcome :=
  let taken := gatts.getNextAttributeHandle
  let grown := taken.2.setServices serverId i
    { taken.2.gattServices serverId i with gattService := some (service taken.1) }
  { gatts := grown.addAttribute serverId i attrType uuid taken.1
    calls := gatts.notify isSet (call taken.1) }

/-- `BleGattsAddCharacteristic` -/
def bleGattsAddCharacteristic (gatts : Gatts) (serverId srvcHandle : Int) (characUuid : ByteString)
    (properties permissions : Int32) : Outcome :=
  match serverAt serverId, serviceAt srvcHandle, readUuid characUuid with
  | some serverId, some i, some uuid =>
      match (gatts.gattServices serverId i).gattService with
      | none => { gatts := gatts, status := .unhandled }
      | some service =>
          let characteristic : GattCharacteristic :=
            { writeType := writeTypeOf properties, permissions, properties, uuid }
          gatts.addToService serverId i .characteristic uuid
            (fun _ =>
              { service with characteristics := service.characteristics ++ [characteristic.setValue [0x31]] })
            BtGattServerCallbacks.characteristicAddCb (.characteristicAddCb serverId characUuid i)
  | _, _, _ => { gatts := gatts, status := .parmInvalid }

/-- `BleGattsAddDescriptor` -/
def bleGattsAddDescriptor (gatts : Gatts) (serverId srvcHandle : Int) (descUuid : ByteString)
    (permissions : Int32) : Outcome :=
  match serverAt serverId, serviceAt srvcHandle, readUuid descUuid with
  | some serverId, some i, some uuid =>
      match (gatts.gattServices serverId i).gattService with
      | none => { gatts := gatts, status := .unhandled }
      | some service =>
          match service.characteristics.getLast? with
          | none => { gatts := gatts, status := .unhandled }
          | some back =>
              let descriptor := fun handle : UInt16 =>
                ({ handle, permissions, uuid } : GattDescriptor).setValue [0x01, 0x00]
              gatts.addToService serverId i .descriptor uuid
                (fun handle =>
                  { service with
                    characteristics := service.characteristics.dropLast ++
                      [{ back with descriptors := back.descriptors ++ [descriptor handle] }] })
                BtGattServerCallbacks.descriptorAddCb (.descriptorAddCb serverId descUuid i)
  | _, _, _ => { gatts := gatts, status := .parmInvalid }

/-- What `BleGattsStartService`, `BleGattsStopService` and `BleGattsDeleteService` have in
common: the server and the service must be there. -/
def withService (gatts : Gatts) (serverId srvcHandle : Int)
    (outcome : ServerId → ServiceIndex → GattService → Outcome) : Outcome :=
  match serverAt serverId, serviceAt srvcHandle with
  | some serverId, some i =>
      match gatts.gattServer serverId, (gatts.gattServices serverId i).gattService with
      | true, some service => outcome serverId i service
      | _, _ => { gatts := gatts, status := .unhandled }
  | _, _ => { gatts := gatts, status := .parmInvalid }

/-- `BleGattsStartService` -/
def bleGattsStartService (gatts : Gatts) (serverId srvcHandle : Int) : Outcome :=
  gatts.withService serverId srvcHandle fun serverId i service =>
    { gatts := gatts.setServices serverId i { gatts.gattServices serverId i with isAdding := true }
      calls := [.addService serverId service] }

/-- `BleGattsStopService` -/
def bleGattsStopService (gatts : Gatts) (serverId srvcHandle : Int) : Outcome :=
  gatts.withService serverId srvcHandle fun serverId i service =>
    { gatts := gatts.setServices serverId i { gatts.gattServices serverId i with isAdding := false }
      calls := .removeGattService serverId service ::
        gatts.notify BtGattServerCallbacks.serviceStopCb (.serviceStopCb serverId i) }

/-- `BleGattsDeleteService` -/
def bleGattsDeleteService (gatts : Gatts) (serverId srvcHandle : Int) : Outcome :=
  gatts.withService serverId srvcHandle fun serverId i service =>
    { gatts := gatts.setServices serverId i
        { gatts.gattServices serverId i with gattService := none, attributes := [] }
      calls := .removeGattService serverId service ::
        gatts.notify BtGattServerCallbacks.serviceDeleteCb (.serviceDeleteCb serverId i) }

/-- `BleGattsSendResponse`, with what `SendResponse` returns. -/
def bleGattsSendResponse (gatts : Gatts) (serverId : Int) (param : Option GattsSendRspParam)
    (ret : Int32) :
    Outcome :=
  match param, serverAt serverId with
  | none, _ => { gatts := gatts, status := .fail }
  | some _, none => { gatts := gatts, status := .parmInvalid }
  | some param, some serverId =>
      if gatts.gattServer serverId then
        match gatts.getDeviceInfoByConnId param.connectId with
        | none => { gatts := gatts, status := .fail }
        | some record =>
            { gatts := gatts
              calls := .sendResponse serverId record.device.remoteDevice param.attrHandle
                param.status param.value ::
                gatts.notify BtGattServerCallbacks.responseConfirmationCb
                  (.responseConfirmationCb ret param.attrHandle) }
      else { gatts := gatts, status := .unhandled }

/-- `BleGattsSendIndication` -/
def bleGattsSendIndication (gatts : Gatts) (serverId : Int)
    (param : Option GattsSendIndParam) : Outcome :=
  match param, serverAt serverId with
  | none, _ => { gatts := gatts, status := .fail }
  | some _, none => { gatts := gatts, status := .unhandled }
  | some param, some serverId =>
      match gatts.getDeviceInfoByConnId param.connectId,
          gatts.getAttributeWithHandle serverId param.attrHandle with
      | some record, some found =>
          let characteristic : GattCharacteristic :=
            { writeType := writeTypeOf 0, handle := found.actualHandle, uuid := found.uuid }
          if gatts.gattServer serverId then
            { gatts := gatts
              calls := [.notifyCharacteristicChanged serverId record.device.remoteDevice
                (characteristic.setValue param.value) (param.confirm = 1)] }
          else { gatts := gatts, status := .unhandled }
      | _, _ => { gatts := gatts, status := .fail }

/-! ## Steps -/

end Gatts

/-- What the application and the stack call. -/
inductive GattsLabel where
  | bleGattsRegisterCallbacks (func : Option BtGattServerCallbacks)
  | bleGattsRegister (created : Bool)
  | bleGattsUnRegister (serverId : Int)
  | bleGattsAddService (serverId : Int) (srvcUuid : ByteString) (isPrimary : Bool) (number : Int)
  | bleGattsAddCharacteristic (serverId srvcHandle : Int) (characUuid : ByteString)
    (properties permissions : Int32)
  | bleGattsAddDescriptor (serverId srvcHandle : Int) (descUuid : ByteString) (permissions : Int32)
  | bleGattsStartService (serverId srvcHandle : Int)
  | bleGattsStopService (serverId srvcHandle : Int)
  | bleGattsDeleteService (serverId srvcHandle : Int)
  | bleGattsSendResponse (serverId : Int) (param : Option GattsSendRspParam) (ret : Int32)
  | bleGattsSendIndication (serverId : Int) (param : Option GattsSendIndParam)
  | onConnectionStateUpdate (device : ConnectedDevice) (state : Int32)
  | onServiceAdded (serverId : ServerId) (service : GattService) (ret : Int32)
  | onCharacteristicReadRequest (device : ConnectedDevice) (characteristic : GattCharacteristic)
    (requestId : Int32)
  | onCharacteristicWriteRequest (device : ConnectedDevice) (characteristic : GattCharacteristic)
    (requestId : Int32)
  | onDescriptorReadRequest (device : ConnectedDevice) (descriptor : GattDescriptor) (requestId : Int32)
  | onDescriptorWriteRequest (device : ConnectedDevice) (descriptor : GattDescriptor) (requestId : Int32)
  | onMtuUpdate (device : ConnectedDevice) (mtu : Int32)
  | onNotificationCharacteristicChanged (device : ConnectedDevice) (result : Int32)
deriving DecidableEq

namespace Gatts

/-- One call. -/
def perform (gatts : Gatts) : GattsLabel → Outcome
  | .bleGattsRegisterCallbacks func => gatts.bleGattsRegisterCallbacks func
  | .bleGattsRegister created => gatts.bleGattsRegister created
  | .bleGattsUnRegister serverId => gatts.bleGattsUnRegister serverId
  | .bleGattsAddService serverId srvcUuid isPrimary number =>
      gatts.bleGattsAddService serverId srvcUuid isPrimary number
  | .bleGattsAddCharacteristic serverId srvcHandle characUuid properties permissions =>
      gatts.bleGattsAddCharacteristic serverId srvcHandle characUuid properties permissions
  | .bleGattsAddDescriptor serverId srvcHandle descUuid permissions =>
      gatts.bleGattsAddDescriptor serverId srvcHandle descUuid permissions
  | .bleGattsStartService serverId srvcHandle => gatts.bleGattsStartService serverId srvcHandle
  | .bleGattsStopService serverId srvcHandle => gatts.bleGattsStopService serverId srvcHandle
  | .bleGattsDeleteService serverId srvcHandle => gatts.bleGattsDeleteService serverId srvcHandle
  | .bleGattsSendResponse serverId param ret => gatts.bleGattsSendResponse serverId param ret
  | .bleGattsSendIndication serverId param => gatts.bleGattsSendIndication serverId param
  | .onConnectionStateUpdate device state => gatts.onConnectionStateUpdate device state
  | .onServiceAdded serverId service ret => gatts.onServiceAdded serverId service ret
  | .onCharacteristicReadRequest device characteristic requestId =>
      gatts.onCharacteristicReadRequest device characteristic requestId
  | .onCharacteristicWriteRequest device characteristic requestId =>
      gatts.onCharacteristicWriteRequest device characteristic requestId
  | .onDescriptorReadRequest device descriptor requestId =>
      gatts.onDescriptorReadRequest device descriptor requestId
  | .onDescriptorWriteRequest device descriptor requestId =>
      gatts.onDescriptorWriteRequest device descriptor requestId
  | .onMtuUpdate device mtu => gatts.onMtuUpdate device mtu
  | .onNotificationCharacteristicChanged device result =>
      gatts.onNotificationCharacteristicChanged device result

/-- The state after a call. -/
def step (gatts : Gatts) (label : GattsLabel) : Option Gatts :=
  some (gatts.perform label).gatts

end Gatts

end BluetoothFramework.CAdapter
