import BluetoothFramework.CAdapter.GattServer

/-!
# What the calls of the GATT server change

`Change` lists what a call can do to the state, each way with the facts that the call has
checked before. `change_perform` is the inversion that the laws of the following modules
start from.
-/

namespace BluetoothFramework.CAdapter.Gatts

/-- The calls that build services. They never succeed without a change. -/
def builds : GattsLabel → Bool
  | .bleGattsAddService _ _ _ _ | .bleGattsAddCharacteristic _ _ _ _ _ | .bleGattsAddDescriptor _ _ _ _ => true
  | .bleGattsStartService _ _ | .bleGattsDeleteService _ _ => true
  | _ => false

/-- What a call can do to the state. The facts that come with a change are those that the
call has checked. -/
inductive Change (gatts : Gatts) : GattsLabel → BtStatus → Gatts → Prop
  | unchanged (label : GattsLabel) (status : BtStatus)
      (idle : builds label = true → status ≠ .success) :
      Change gatts label status gatts
  | callbacks (func : BtGattServerCallbacks) :
      Change gatts (.bleGattsRegisterCallbacks (some func)) .success { gatts with gattsCallback := some func }
  | registered (i : ServerId) (created : Bool) (free : gatts.gattServer i = false) :
      Change gatts (.bleGattsRegister created) .success (gatts.setServer i created)
  | unregistered {serverId : Int} {i : ServerId} (named : serverAt serverId = some i) :
      Change gatts (.bleGattsUnRegister serverId) .success (gatts.setServer i false)
  | serviceAdded {serverId : Int} {srvcUuid : ByteString} {isPrimary : Bool} {number : Int} {server : ServerId}
      {i : ServiceIndex} {service : GattService} (named : serverAt serverId = some server)
      (read : readUuid srvcUuid = some service.uuid) (empty : service.characteristics = [])
      (free : (gatts.gattServices server i).gattService = none) :
      Change gatts (.bleGattsAddService serverId srvcUuid isPrimary number) .success
        (gatts.setServices server i
          { gatts.gattServices server i with gattService := some service, isAdding := false })
  | characteristicAdded {serverId srvcHandle : Int} {characUuid : ByteString} {properties permissions : Int32}
      {server : ServerId} {i : ServiceIndex} {service : GattService} {characteristic : GattCharacteristic}
      (named : serverAt serverId = some server) (indexed : serviceAt srvcHandle = some i)
      (read : readUuid characUuid = some characteristic.uuid) (bare : characteristic.descriptors = [])
      (there : (gatts.gattServices server i).gattService = some service)
      (isSet : BtGattServerCallbacks → Bool) (call : UInt16 → Call) :
      Change gatts (.bleGattsAddCharacteristic serverId srvcHandle characUuid properties permissions) .success
        (gatts.addToService server i .characteristic characteristic.uuid
          (fun _ => { service with characteristics := service.characteristics ++ [characteristic] })
            isSet call).gatts
  | descriptorAdded {serverId srvcHandle : Int} {descUuid : ByteString} {permissions : Int32}
      {server : ServerId} {i : ServiceIndex} {service : GattService} {back : GattCharacteristic}
      {descriptor : UInt16 → GattDescriptor} {uuid : UUID}
      (named : serverAt serverId = some server) (indexed : serviceAt srvcHandle = some i)
      (read : readUuid descUuid = some uuid) (same : ∀ handle, (descriptor handle).uuid = uuid)
      (there : (gatts.gattServices server i).gattService = some service)
      (last : service.characteristics.getLast? = some back)
      (isSet : BtGattServerCallbacks → Bool) (call : UInt16 → Call) :
      Change gatts (.bleGattsAddDescriptor serverId srvcHandle descUuid permissions) .success
        (gatts.addToService server i .descriptor uuid
          (fun handle =>
            { service with
              characteristics := service.characteristics.dropLast ++
                [{ back with descriptors := back.descriptors ++ [descriptor handle] }] }) isSet call).gatts
  | started {serverId srvcHandle : Int} {server : ServerId} {i : ServiceIndex} {service : GattService}
      (named : serverAt serverId = some server) (indexed : serviceAt srvcHandle = some i)
      (registered : gatts.gattServer server = true)
      (there : (gatts.gattServices server i).gattService = some service) :
      Change gatts (.bleGattsStartService serverId srvcHandle) .success
        (gatts.setServices server i { gatts.gattServices server i with isAdding := true })
  | stopped {serverId srvcHandle : Int} {server : ServerId} {i : ServiceIndex}
      (named : serverAt serverId = some server) (indexed : serviceAt srvcHandle = some i)
      (registered : gatts.gattServer server = true) :
      Change gatts (.bleGattsStopService serverId srvcHandle) .success
        (gatts.setServices server i { gatts.gattServices server i with isAdding := false })
  | deleted {serverId srvcHandle : Int} {server : ServerId} {i : ServiceIndex}
      (named : serverAt serverId = some server) (indexed : serviceAt srvcHandle = some i)
      (registered : gatts.gattServer server = true) :
      Change gatts (.bleGattsDeleteService serverId srvcHandle) .success
        (gatts.setServices server i { gatts.gattServices server i with gattService := none, attributes := [] })
  | connected (device : ConnectedDevice)
      (isSet : gatts.gattsCallback.any BtGattServerCallbacks.connectServerCb = true) :
      Change gatts (.onConnectionStateUpdate device btConnectStateConnected) .success
        (gatts.addDeviceRecord device).2
  | disconnected (device : ConnectedDevice) (record : DeviceRecord)
      (found : gatts.getConnIdByDeviceInfo device = some record) :
      Change gatts (.onConnectionStateUpdate device btConnectStateDisconnected) .success
        (gatts.removeDeviceRecord record.connId)
  | resolved {server : ServerId} {service : GattService} {i : ServiceIndex}
      (found : (List.finRange maximumNumberGattservice).find?
        (gatts.isAddingUuid server service.uuid) = some i) :
      Change gatts (.onServiceAdded server service gattSuccess) .success
        (gatts.setServices server i
          { gatts.gattServices server i with
            isAdding := false
            attributes := service.characteristics.foldl CAdapter.characteristicAdded
              (gatts.gattServices server i).attributes })

/-- The wrapper of a service that has grown, and all others as they were. The functions that add
a characteristic, a descriptor or an included service differ in what they pass to it. -/
theorem gattServices_addToService (gatts : Gatts) (server : ServerId) (i : ServiceIndex)
    (attrType : AttributeType)
    (uuid : UUID) (service : UInt16 → GattService) (isSet : BtGattServerCallbacks → Bool)
    (call : UInt16 → Call) (other : ServerId) (j : ServiceIndex) :
    (gatts.addToService server i attrType uuid service isSet call).gatts.gattServices other j =
      if other = server ∧ j = i then
        { gatts.gattServices server i with
          gattService := some (service gatts.getNextAttributeHandle.1)
          attributes := (gatts.gattServices server i).attributes ++
            [{ handle := gatts.getNextAttributeHandle.1, uuid, attrType }] }
      else gatts.gattServices other j := by
  have here : gatts.getNextAttributeHandle.2.gattServices = gatts.gattServices := rfl
  by_cases same : other = server ∧ j = i
  · obtain ⟨rfl, rfl⟩ := same
    simp [addToService, addAttribute, gattServices_setServices, here]
  · simp [addToService, addAttribute, gattServices_setServices, here, same]

/-- Adding to a service leaves all marks of servers. -/
@[simp] theorem gattServer_addToService (gatts : Gatts) (server : ServerId) (i : ServiceIndex)
    (attrType : AttributeType) (uuid : UUID) (service : UInt16 → GattService)
    (isSet : BtGattServerCallbacks → Bool) (call : UInt16 → Call) (other : ServerId) :
    (gatts.addToService server i attrType uuid service isSet call).gatts.gattServer other =
      gatts.gattServer other := by
  simp only [addToService, addAttribute, gattServer_setServices]
  rfl

/-- Only updates change what is connected. -/
theorem Change.connections {gatts next : Gatts} {label : GattsLabel} {status : BtStatus}
    (change : gatts.Change label status next)
    (other : ∀ device state, label ≠ .onConnectionStateUpdate device state) :
    next.mapConnectedDevice = gatts.mapConnectedDevice ∧ next.connId = gatts.connId := by
  cases change with
  | connected device _ => exact absurd rfl (other device _)
  | disconnected device _ _ => exact absurd rfl (other device _)
  | _ => exact ⟨rfl, rfl⟩

/-! ## The inversion of a call -/

/-- A call on a service is refused for its ids with no change, or goes on with a server, a slot
and a service that is there. Every call that adds something begins so. -/
theorem withService_cases {motive : Outcome → Prop} {gatts : Gatts} (serverId srvcHandle : Int)
    (outcome : ServerId → ServiceIndex → GattService → Outcome)
    (refused : ∀ status, status ≠ .success → motive { gatts := gatts, status := status })
    (done : ∀ server i service, serverAt serverId = some server → serviceAt srvcHandle = some i →
      gatts.gattServer server = true → (gatts.gattServices server i).gattService = some service →
      motive (outcome server i service)) :
    motive (gatts.withService serverId srvcHandle outcome) := by
  rw [withService]
  split
  · rename_i server i named indexed
    split
    · rename_i service registered there
      exact done server i service named indexed registered there
    · exact refused .unhandled (by decide)
  · exact refused .parmInvalid (by decide)

/-- `BleGattsRegister` takes a free server or changes nothing. -/
theorem change_register (gatts : Gatts) (created : Bool) :
    gatts.Change (.bleGattsRegister created) (gatts.bleGattsRegister created).status
      (gatts.bleGattsRegister created).gatts := by
  rw [bleGattsRegister]
  split
  · exact .unchanged _ _ (by simp [builds])
  · split
    · rename_i i found
      have free := List.find?_some found
      exact .registered i created (of_decide_eq_true free)
    · exact .unchanged _ _ (by simp [builds])

/-- `BleGattsUnRegister` frees the server that it names or changes nothing. -/
theorem change_unRegister (gatts : Gatts) (serverId : Int) :
    gatts.Change (.bleGattsUnRegister serverId) (gatts.bleGattsUnRegister serverId).status
      (gatts.bleGattsUnRegister serverId).gatts := by
  rw [bleGattsUnRegister]
  split
  · exact .unchanged _ _ (by simp [builds])
  · rename_i named
    split
    · exact .unregistered named
    · exact .unchanged _ _ (by simp [builds])

/-- `BleGattsAddService` fills a free slot of the server or changes nothing. -/
theorem change_addService (gatts : Gatts) (serverId : Int) (srvcUuid : ByteString)
    (isPrimary : Bool) (number : Int) :
    gatts.Change (.bleGattsAddService serverId srvcUuid isPrimary number)
      (gatts.bleGattsAddService serverId srvcUuid isPrimary number).status
      (gatts.bleGattsAddService serverId srvcUuid isPrimary number).gatts := by
  simp only [bleGattsAddService]
  split
  · rename_i uuid server read named
    split
    · exact .unchanged _ _ (by simp [builds])
    · rename_i i found
      have free := List.find?_some found
      exact .serviceAdded named read rfl (of_decide_eq_true free)
  · exact .unchanged _ _ (by simp [builds])

/-- `BleGattsAddCharacteristic` adds to the service that it names or changes nothing. -/
theorem change_addCharacteristic (gatts : Gatts) (serverId srvcHandle : Int)
    (characUuid : ByteString) (properties permissions : Int32) :
    gatts.Change (.bleGattsAddCharacteristic serverId srvcHandle characUuid properties permissions)
      (gatts.bleGattsAddCharacteristic serverId srvcHandle characUuid properties permissions).status
      (gatts.bleGattsAddCharacteristic serverId srvcHandle characUuid properties permissions).gatts := by
  simp only [bleGattsAddCharacteristic]
  split
  · rename_i server i uuid named indexed read
    split
    · exact .unchanged _ _ (by simp [builds])
    · rename_i service there
      exact .characteristicAdded named indexed read rfl there _ _
  · exact .unchanged _ _ (by simp [builds])

/-- `BleGattsAddDescriptor` adds to the service that it names or changes nothing. A service
without characteristics is refused. -/
theorem change_addDescriptor (gatts : Gatts) (serverId srvcHandle : Int) (descUuid : ByteString)
    (permissions : Int32) :
    gatts.Change (.bleGattsAddDescriptor serverId srvcHandle descUuid permissions)
      (gatts.bleGattsAddDescriptor serverId srvcHandle descUuid permissions).status
      (gatts.bleGattsAddDescriptor serverId srvcHandle descUuid permissions).gatts := by
  simp only [bleGattsAddDescriptor]
  split
  · rename_i server i uuid named indexed read
    split
    · exact .unchanged _ _ (by simp [builds])
    · rename_i service there
      split
      · exact .unchanged _ _ (by simp [builds])
      · rename_i back last
        exact .descriptorAdded named indexed read (fun _ => rfl) there last _ _
  · exact .unchanged _ _ (by simp [builds])

/-- An update of a connection changes the records only, by one at most. A device that connects is
recorded if it was not, and one that disconnects loses its record if it has one. -/
theorem change_connectionStateUpdate (gatts : Gatts) (device : ConnectedDevice) (state : Int32) :
    gatts.Change (.onConnectionStateUpdate device state) (gatts.onConnectionStateUpdate device state).status
      (gatts.onConnectionStateUpdate device state).gatts := by
  rw [onConnectionStateUpdate]
  split
  · rename_i connected
    subst connected
    split
    · rename_i isSet
      exact .connected device isSet
    · exact .unchanged _ _ (by simp [builds])
  · split
    · rename_i disconnected
      subst disconnected
      split
      · split
        · rename_i record found
          exact .disconnected device record found
        · exact .unchanged _ _ (by simp [builds])
      · exact .unchanged _ _ (by simp [builds])
    · exact .unchanged _ _ (by simp [builds])

/-- An answer to a service that was added changes handles in one slot at most. -/
theorem change_serviceAdded (gatts : Gatts) (server : ServerId) (service : GattService)
    (ret : Int32) :
    gatts.Change (.onServiceAdded server service ret) (gatts.onServiceAdded server service ret).status
      (gatts.onServiceAdded server service ret).gatts := by
  rw [onServiceAdded]
  split
  · split
    · rename_i succeeded
      subst succeeded
      split
      · exact .unchanged _ _ (by simp [builds])
      · rename_i i found
        exact .resolved found
    · exact .unchanged _ _ (by simp [builds])
  · exact .unchanged _ _ (by simp [builds])

/-- A request of a device changes nothing in the server. -/
@[simp] theorem requested_gatts (gatts : Gatts) (device : ConnectedDevice) (actualHandle : UInt16)
    (isSet : BtGattServerCallbacks → Bool) (call : DeviceRecord → UInt16 → Call) :
    (gatts.requested device actualHandle isSet call).gatts = gatts := by
  rw [requested]
  split <;> rfl

/-- An update of the MTU changes nothing in the server. -/
@[simp] theorem onMtuUpdate_gatts (gatts : Gatts) (device : ConnectedDevice) (mtu : Int32) :
    (gatts.onMtuUpdate device mtu).gatts = gatts := by
  rw [onMtuUpdate]
  split <;> rfl

/-- The end of a notification changes nothing in the server. -/
@[simp] theorem onNotificationCharacteristicChanged_gatts (gatts : Gatts) (device : ConnectedDevice)
    (result : Int32) : (gatts.onNotificationCharacteristicChanged device result).gatts = gatts := by
  rw [onNotificationCharacteristicChanged]
  split <;> rfl

/-- Sending a response changes nothing in the server. -/
@[simp] theorem bleGattsSendResponse_gatts (gatts : Gatts) (serverId : Int)
    (param : Option GattsSendRspParam)
    (ret : Int32) : (gatts.bleGattsSendResponse serverId param ret).gatts = gatts := by
  simp only [bleGattsSendResponse]
  repeat (split <;> try rfl)

/-- Sending an indication changes nothing in the server. -/
@[simp] theorem bleGattsSendIndication_gatts (gatts : Gatts) (serverId : Int)
    (param : Option GattsSendIndParam) :
      (gatts.bleGattsSendIndication serverId param).gatts = gatts := by
  simp only [bleGattsSendIndication]
  repeat (split <;> try rfl)

/-- Every call changes the state in one of these ways. It is the one place where the functions
are gone through branch by branch; all that is proved about the calls starts from here. -/
theorem change_perform (gatts : Gatts) (label : GattsLabel) :
    gatts.Change label (gatts.perform label).status (gatts.perform label).gatts := by
  cases label with
  | bleGattsRegisterCallbacks func =>
    cases func with
    | none => exact .unchanged _ _ (by simp [builds])
    | some func => exact .callbacks func
  | bleGattsRegister created => exact gatts.change_register created
  | bleGattsUnRegister serverId => exact gatts.change_unRegister serverId
  | bleGattsAddService serverId srvcUuid isPrimary number =>
    exact gatts.change_addService serverId srvcUuid isPrimary number
  | bleGattsAddCharacteristic serverId srvcHandle characUuid properties permissions =>
    exact gatts.change_addCharacteristic serverId srvcHandle characUuid properties permissions
  | bleGattsAddDescriptor serverId srvcHandle descUuid permissions =>
    exact gatts.change_addDescriptor serverId srvcHandle descUuid permissions
  | bleGattsStartService serverId srvcHandle =>
    apply withService_cases (motive := fun outcome => gatts.Change _ outcome.status outcome.gatts)
      serverId srvcHandle
    · intro status failed
      exact .unchanged _ _ fun _ => failed
    · intro server i service named indexed registered there
      exact .started named indexed registered there
  | bleGattsStopService serverId srvcHandle =>
    apply withService_cases (motive := fun outcome => gatts.Change _ outcome.status outcome.gatts)
      serverId srvcHandle
    · intro status failed
      exact .unchanged _ _ fun _ => failed
    · intro server i service named indexed registered there
      exact .stopped named indexed registered
  | bleGattsDeleteService serverId srvcHandle =>
    apply withService_cases (motive := fun outcome => gatts.Change _ outcome.status outcome.gatts)
      serverId srvcHandle
    · intro status failed
      exact .unchanged _ _ fun _ => failed
    · intro server i service named indexed registered there
      exact .deleted named indexed registered
  | bleGattsSendResponse serverId param ret => simpa [perform] using Change.unchanged _ _ (by simp [builds])
  | bleGattsSendIndication serverId param => simpa [perform] using Change.unchanged _ _ (by simp [builds])
  | onConnectionStateUpdate device state => exact gatts.change_connectionStateUpdate device state
  | onServiceAdded server service ret => exact gatts.change_serviceAdded server service ret
  | onCharacteristicReadRequest device characteristic requestId =>
    simpa [perform, onCharacteristicReadRequest] using Change.unchanged _ _ (by simp [builds])
  | onCharacteristicWriteRequest device characteristic requestId =>
    simpa [perform, onCharacteristicWriteRequest] using Change.unchanged _ _ (by simp [builds])
  | onDescriptorReadRequest device descriptor requestId =>
    simpa [perform, onDescriptorReadRequest] using Change.unchanged _ _ (by simp [builds])
  | onDescriptorWriteRequest device descriptor requestId =>
    simpa [perform, onDescriptorWriteRequest] using Change.unchanged _ _ (by simp [builds])
  | onMtuUpdate device mtu => simpa [perform] using Change.unchanged _ _ (by simp [builds])
  | onNotificationCharacteristicChanged device result =>
    simpa [perform] using Change.unchanged _ _ (by simp [builds])

end BluetoothFramework.CAdapter.Gatts
