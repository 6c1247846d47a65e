import BluetoothFramework.Gatt.Attributes

/-!
# The GATT client

The client registers with the service, connects, discovers the services of the remote
device and reads and writes their attributes. It keeps the state of its session in five
flags. One of them says that a request is under way, and a byte beside it says of which
type; the four callbacks that answer requests clear the flag and look at the byte.

A function holds its locks while it waits for the service, so each is one step. Callbacks
that pass a value on to the application and leave the session alone (notifications, MTU,
RSSI, PHY, connection parameters) are left out.
-/

namespace BluetoothFramework

/-- A callback of the application. -/
inductive ClientReport where
  | onServicesChanged
  | onConnectionStateChanged (newState state : Int32)
  | onServicesDiscovered (state : Int32)
  | onCharacteristicReadResult (charac : GattCharacteristic) (ret : Int32)
  | onCharacteristicWriteResult (charac : GattCharacteristic) (ret : Int32)
  | onCharacteristicWriteResultWithContext (charac : GattCharacteristic) (timeStamp : Int64) (ret : Int32)
  | onDescriptorReadResult (desc : GattDescriptor) (ret : Int32)
  | onDescriptorWriteResult (desc : GattDescriptor) (ret : Int32)
  | onSetNotifyCharacteristic (charac : GattCharacteristic) (ret : Int32)
deriving DecidableEq

/-- A request to the service. -/
inductive ServiceRequest where
  | readCharacteristic (handle : UInt16)
  | readCharacteristicByUuid (uuid : ByteString) (startHandle endHandle : Int32)
  | readDescriptor (handle : UInt16)
  | writeCharacteristic (handle : UInt16) (value : ByteString) (withoutRespond isWithContext : Bool)
  | signedWriteCharacteristic (handle : UInt16) (value : ByteString)
  | writeDescriptor (handle : UInt16) (value : ByteString)
deriving DecidableEq, Repr

/-- `GattClient::impl`, with the callbacks of the application it has made so far. The
fields of `requestInformation_` and `discoverInformation_` stand beside the others. -/
structure GattClient where
  isGetServiceYet : Bool := false
  isRegisterSucceeded : Bool := false
  applicationId : Int32 := 0
  connectionState : Int32 := btConnectStateDisconnected
  device : BluetoothRemoteDevice := {}
  gattServices : List GattService := []
  doing : Bool := false
  type : UInt8 := 0
  isDiscovering : Bool := false
  reports : List ClientReport := []
deriving DecidableEq

/-- What a call meets: whether Bluetooth is on, and what the service returns, if there is
a proxy. Only `SetNotifyCharacteristic` makes a first request of another kind. -/
structure Surroundings where
  bleEnabled : Bool := true
  notification : Int32 := btNoError
  answer : Option Int32 := some btNoError
deriving DecidableEq, Repr

/-- What a request leads to: the client after it, what it returns, and the request the
service has accepted. -/
structure Outcome where
  client : GattClient
  result : Int32
  accepted : Option ServiceRequest := none

namespace GattClient

/-- `REQUEST_TYPE_CHARACTERISTICS_READ` -/
def requestTypeCharacteristicsRead : UInt8 := 0x00

/-- `REQUEST_TYPE_CHARACTERISTICS_WRITE` -/
def requestTypeCharacteristicsWrite : UInt8 := 0x01

/-- `REQUEST_TYPE_DESCRIPTOR_READ` -/
def requestTypeDescriptorRead : UInt8 := 0x02

/-- `REQUEST_TYPE_DESCRIPTOR_WRITE` -/
def requestTypeDescriptorWrite : UInt8 := 0x03

/-- `REQUEST_TYPE_SET_NOTIFY_CHARACTERISTICS` -/
def requestTypeSetNotifyCharacteristics : UInt8 := 0x04

/-- Call back the application. -/
def report (client : GattClient) (new : List ClientReport) : GattClient :=
  { client with reports := client.reports ++ new }

/-! ## Requests -/

/-- What most requests do once nothing stands against them. -/
def ask (client : GattClient) (type : UInt8) (request : ServiceRequest)
    (answer : Option Int32) : Outcome :=
  match answer with
  | none => { client := client, result := btErrInternalError }
  | some result =>
      if result = btNoError then
        { client := { client with doing := true, type := type }, result := result, accepted := some request }
      else { client := client, result := result }

/-- What the reads share. -/
def read (client : GattClient) (type : UInt8) (request : ServiceRequest)
    (around : Surroundings) : Outcome :=
  if !around.bleEnabled then { client := client, result := btErrInvalidState }
  else if client.connectionState ≠ btConnectStateConnected ∨ !client.isRegisterSucceeded then
    { client := client, result := btErrGattConnectionNotEstabilished }
  else if client.doing then { client := client, result := btErrOperationBusy }
  else client.ask type request around.answer

/-- `ReadCharacteristic` -/
def readCharacteristic (client : GattClient) (handle : UInt16) (around : Surroundings) : Outcome :=
  client.read requestTypeCharacteristicsRead (.readCharacteristic handle) around

/-- `ReadCharacteristicByUuid` -/
def readCharacteristicByUuid (client : GattClient) (uuid : ByteString)
    (startHandle endHandle : Int32) (around : Surroundings) : Outcome :=
  client.read requestTypeCharacteristicsRead (.readCharacteristicByUuid uuid startHandle endHandle) around

/-- `ReadDescriptor` -/
def readDescriptor (client : GattClient) (handle : UInt16) (around : Surroundings) : Outcome :=
  client.read requestTypeDescriptorRead (.readDescriptor handle) around

/-- `WriteDescriptor` -/
def writeDescriptor (client : GattClient) (descriptor : GattDescriptor)
    (around : Surroundings) : Outcome :=
  if !around.bleEnabled then { client := client, result := btErrInvalidState }
  else if client.connectionState ≠ btConnectStateConnected ∨ !client.isRegisterSucceeded then
    { client := client, result := btErrGattConnectionNotEstabilished }
  else if descriptor.value.length = 0 then { client := client, result := btErrInternalError }
  else if client.doing then { client := client, result := btErrOperationBusy }
  else client.ask requestTypeDescriptorWrite (.writeDescriptor descriptor.handle descriptor.value) around.answer

/-- `WriteCharacteristic`. A signed write touches neither the flag nor the byte. -/
def writeCharacteristic (client : GattClient) (characteristic : GattCharacteristic)
    (value : ByteString) (isWithContext : Bool) (around : Surroundings) : Outcome :=
  if !around.bleEnabled then { client := client, result := btErrInvalidState }
  else if client.connectionState ≠ btConnectStateConnected then
    { client := client, result := btErrGattConnectionNotEstabilished }
  else if value.length = 0 then { client := client, result := btErrInvalidParamError }
  else if client.doing then { client := client, result := btErrOperationBusy }
  else
    match around.answer with
    | none => { client := client, result := btErrInternalError }
    | some result =>
        let withoutRespond : Bool := characteristic.writeType ≠ .default
        let request : ServiceRequest :=
          if characteristic.writeType = .signed then .signedWriteCharacteristic characteristic.handle value
          else .writeCharacteristic characteristic.handle value withoutRespond isWithContext
        let asked : GattClient :=
          if characteristic.writeType = .signed then client
          else { client with type := requestTypeCharacteristicsWrite, doing := !withoutRespond }
        if result ≠ gattSuccess then { client := { asked with doing := false }, result := result }
        else { client := asked, result := result, accepted := some request }

/-- `UUID::FromString("00002902-0000-1000-8000-00805F9B34FB")` -/
def clientConfiguration : UUID where
  uuid := #v[0x00, 0x00, 0x29, 0x02, 0x00, 0x00, 0x10, 0x00, 0x80, 0x00, 0x00, 0x80, 0x5F, 0x9B, 0x34, 0xFB]

/-- `SetNotifyCharacteristicInner`. Without the descriptor the application is called back
at once. -/
def setNotifyCharacteristicInner (client : GattClient) (characteristic : GattCharacteristic)
    (descriptorValue : ByteString) (around : Surroundings) : Outcome :=
  if !around.bleEnabled then { client := client, result := btErrInvalidState }
  else if client.connectionState ≠ btConnectStateConnected then
    { client := client, result := btErrGattConnectionNotEstabilished }
  else if around.answer = none then { client := client, result := btErrInternalError }
  else if around.notification ≠ btNoError then { client := client, result := around.notification }
  else if client.doing then { client := client, result := btErrOperationBusy }
  else
    match characteristic.descriptors.find? fun desc => desc.uuid.equals clientConfiguration with
    | none =>
        { client := client.report [.onSetNotifyCharacteristic characteristic 0], result := btNoError }
    | some descriptor =>
        client.ask requestTypeSetNotifyCharacteristics (.writeDescriptor descriptor.handle descriptorValue)
          around.answer

/-- `SetNotifyCharacteristic` -/
def setNotifyCharacteristic (client : GattClient) (characteristic : GattCharacteristic)
    (enable : Bool) (around : Surroundings) : Outcome :=
  client.setNotifyCharacteristicInner characteristic (if enable then [1, 0] else [0, 0]) around

/-- `SetIndicateCharacteristic` -/
def setIndicateCharacteristic (client : GattClient) (characteristic : GattCharacteristic)
    (enable : Bool) (around : Surroundings) : Outcome :=
  client.setNotifyCharacteristicInner characteristic (if enable then [2, 0] else [0, 0]) around

/-! ## Callbacks that answer requests -/

/-- `GetCharacteristicByHandle` -/
def getCharacteristicByHandle (client : GattClient) (handle : UInt16) : Option GattCharacteristic :=
  client.gattServices.findSome? fun svc => svc.characteristics.find? fun charac => charac.handle = handle

/-- `GetDescriptorByHandle`, with the characteristic the descriptor points back to. -/
def getDescriptorByHandle (client : GattClient) (handle : UInt16) :
    Option (GattCharacteristic × GattDescriptor) :=
  client.gattServices.findSome? fun svc => svc.characteristics.findSome? fun charac =>
    (charac.descriptors.find? fun desc => desc.handle = handle).map (Prod.mk charac)

/-- What the four callbacks do first. -/
def answered (client : GattClient) : GattClient :=
  { client with doing := false }

/-- The code reported for an attribute that was or was not found. -/
def retOf {α : Type} (found : Option α) (ret : Int32) : Int32 :=
  if found.isSome then ret else btErrInternalError

/-- `OnCharacteristicRead` -/
def onCharacteristicRead (client : GattClient) (ret : Int32) (handle : UInt16)
    (value : ByteString) :
    GattClient :=
  let found := client.getCharacteristicByHandle handle
  let charac := found.getD {}
  if client.type ≠ requestTypeCharacteristicsRead then client.answered
  else client.answered.report [.onCharacteristicReadResult
    (if retOf found ret = gattSuccess then charac.setValue value else charac) (retOf found ret)]

/-- `OnCharacteristicWrite` -/
def onCharacteristicWrite (client : GattClient) (ret : Int32) (handle : UInt16)
    (timeStamp : Int64) :
    GattClient :=
  let found := client.getCharacteristicByHandle handle
  let charac := found.getD {}
  if client.type ≠ requestTypeCharacteristicsWrite then client.answered
  else client.answered.report [.onCharacteristicWriteResult charac (retOf found ret),
    .onCharacteristicWriteResultWithContext charac timeStamp (retOf found ret)]

/-- `OnDescriptorRead` -/
def onDescriptorRead (client : GattClient) (ret : Int32) (handle : UInt16) (value : ByteString) :
    GattClient :=
  let found := client.getDescriptorByHandle handle
  let desc := (found.map Prod.snd).getD {}
  if client.type ≠ requestTypeDescriptorRead then client.answered
  else client.answered.report [.onDescriptorReadResult
    (if retOf found ret = gattSuccess then desc.setValue value else desc) (retOf found ret)]

/-- `OnDescriptorWrite` -/
def onDescriptorWrite (client : GattClient) (ret : Int32) (handle : UInt16) : GattClient :=
  let found := client.getDescriptorByHandle handle
  let desc := (found.map Prod.snd).getD {}
  let charac := (found.map Prod.fst).getD {}
  if client.type = requestTypeDescriptorWrite then
    client.answered.report [.onDescriptorWriteResult desc (retOf found ret)]
  else if client.type = requestTypeSetNotifyCharacteristics then
    client.answered.report [.onSetNotifyCharacteristic charac (retOf found ret)]
  else client.answered

/-! ## The session -/

/-- `DiscoverComplete` -/
def discoverComplete (client : GattClient) (state : Int32) : GattClient :=
  if client.isDiscovering then
    { client with isDiscovering := false }.report [.onServicesDiscovered state]
  else client

/-- `CleanConnectionInfo` -/
def cleanConnectionInfo (client : GattClient) : GattClient :=
  { client.discoverComplete gattFailure with doing := false }

/-- `OnServicesChanged` -/
def onServicesChanged (client : GattClient) : GattClient :=
  { client with isGetServiceYet := false }.report [.onServicesChanged]

/-- `OnConnectionStateChanged`. One report stands for the three that the application gets,
without a reason, with one, and with a message. -/
def onConnectionStateChanged (client : GattClient) (state newState : Int32) : GattClient :=
  let cleaned : GattClient :=
    if newState = btConnectStateDisconnected
      then { client with isGetServiceYet := false }.cleanConnectionInfo
    else client
  { cleaned with connectionState := newState }.report [.onConnectionStateChanged newState state]

/-- `OnServicesDiscovered` -/
def onServicesDiscovered (client : GattClient) (status : Int32) : GattClient :=
  client.discoverComplete status

/-- The function that the client registers for the end of Bluetooth. -/
def bluetoothTurnOff (client : GattClient) : GattClient :=
  { client with applicationId := 0, isRegisterSucceeded := false }

end GattClient

/-- A call of `Connect` with what it meets. -/
structure ConnectCall where
  isAutoConnect : Bool := false
  transport : Int32 := 1
  bleEnabled : Bool := true
  btEnabled : Bool := true
  hasProxy : Bool := true
  registered : Int32 := btNoError
  appId : Int32 := 1
  answer : Int32 := btNoError
deriving DecidableEq, Repr

namespace GattClient

/-- `Connect` -/
def connect (client : GattClient) (call : ConnectCall) : GattClient × Int32 :=
  if !call.bleEnabled then (client, btErrInvalidState)
  else if client.connectionState = btConnectStateConnected then (client, btErrDeviceHasConnected)
  else if !call.hasProxy then (client, btErrObjectNull)
  else if client.isRegisterSucceeded then (client, call.answer)
  else if (call.transport = gattTransportTypeLe.toUInt32.toInt32 && !call.bleEnabled) ||
      (call.transport = gattTransportTypeClassic.toUInt32.toInt32 && !call.btEnabled) then
    (client, btErrAddressOrTransportError)
  else if call.transport = gattTransportTypeClassic.toUInt32.toInt32 && call.isAutoConnect then
    (client, btErrAddressOrTransportError)
  else if !client.device.isValidBluetoothRemoteDevice then (client, btErrAddressOrTransportError)
  else if call.registered ≠ btNoError then (client, call.registered)
  else if 0 < call.appId then
    ({ client with applicationId := call.appId, isRegisterSucceeded := true }, call.answer)
  else (client, call.registered)

/-- `Disconnect` -/
def disconnect (client : GattClient) (around : Surroundings) : GattClient × Int32 :=
  if !around.bleEnabled then (client, btErrInvalidState)
  else if !client.isRegisterSucceeded then (client, btErrInternalError)
  else
    match around.answer with
    | none => (client, btErrInternalError)
    | some result => (client, result)

/-- `Close` -/
def close (client : GattClient) (around : Surroundings) : GattClient × Int32 :=
  if !around.bleEnabled then (client, btErrInvalidState)
  else
    match around.answer with
    | none => (client, btErrInternalError)
    | some result =>
        if client.isRegisterSucceeded then
          if result = btNoError then ({ client with isRegisterSucceeded := false }, result)
          else (client, result)
        else (client, btNoError)

/-- `DiscoverStart`. A discovery that is still going on after the wait is a timeout. The flag
is set before the registration and the proxy are looked at. -/
def discoverStart (client : GattClient) (around : Surroundings) : GattClient × Int32 :=
  if !around.bleEnabled then (client, btErrInvalidState)
  else if client.isDiscovering then (client, btErrInternalError)
  else
    let started : GattClient := { client with isDiscovering := true }
    if !started.isRegisterSucceeded then (started, btErrInternalError)
    else
      match around.answer with
      | none => (started, btErrInternalError)
      | some result =>
          if result ≠ btNoError then (started.discoverComplete btErrInternalError, result)
          else (started, result)

/-- `DiscoverServices` -/
def discoverServices (client : GattClient) (around : Surroundings) : GattClient × Int32 :=
  if !around.bleEnabled then (client, btErrInvalidState)
  else if client.connectionState ≠ btConnectStateConnected then (client, btErrGattConnectStateError)
  else client.discoverStart around

/-- A descriptor as `BuildServiceList` takes it over. -/
def listDescriptor (desc : Descriptor) : GattDescriptor where
  handle := desc.handle
  permissions := desc.permissions
  uuid := .convertFrom128Bits desc.uuid.convertTo128Bits

/-- A characteristic as `BuildServiceList` takes it over. -/
def listCharacteristic (character : Characteristic) : GattCharacteristic where
  writeType := writeTypeOf character.properties
  handle := character.handle
  permissions := character.permissions
  properties := character.properties
  descriptors := character.descriptors.map listDescriptor
  uuid := .convertFrom128Bits character.uuid.convertTo128Bits

/-- A service as `BuildServiceList` takes it over, less the services it includes. -/
def listService (svc : Service) : GattService where
  handle := svc.startHandle
  endHandle := svc.endHandle
  isPrimary := svc.isPrimary
  characteristics := svc.characteristics.map listCharacteristic
  uuid := .convertFrom128Bits svc.uuid.convertTo128Bits

/-- `GetServices`, with the services the service returns, if there is a proxy. A discovery
that is still going on after the wait is a timeout. -/
def getServices (client : GattClient) (bleEnabled : Bool) (result : Option (List Service)) :
    GattClient :=
  if !bleEnabled then client
  else if client.isDiscovering then client
  else if client.isGetServiceYet then client
  else if !client.isRegisterSucceeded then client
  else
    match result with
    | none => { client with gattServices := [] }
    | some services =>
        { client with
          gattServices := services.map listService
          isGetServiceYet := !(services.map listService).isEmpty }

/-- `GetService` of all services. -/
def getService (client : GattClient) (bleEnabled : Bool) (result : Option (List Service)) :
    GattClient × List GattService :=
  if !bleEnabled then (client, client.gattServices)
  else
    let after := client.getServices bleEnabled result
    (after, after.gattServices)

end GattClient
end BluetoothFramework
