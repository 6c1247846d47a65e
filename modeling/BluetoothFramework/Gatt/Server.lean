import BluetoothFramework.Library.OrderedSet
import BluetoothFramework.Gatt.Attributes
import Mathlib.Tactic.Ring

/-!
# The GATT server

A remote device reads and writes the attributes of the server. The server remembers a
request with the attribute it is about, asks the application, and answers the device when
the application calls `SendResponse` with the request id it was given. The id says the
type of the request and the transport; the rest of the request is looked up.

The pending requests are a `std::set`. Its comparison compares the addresses of two
requests of one type and one transport, and no two others.
-/

namespace BluetoothFramework

open SearchTree

/-- `GattDevice`, less the fields that neither comparison looks at. -/
structure GattDevice where
  transport : UInt8 := 0
  addr : ByteString := []
deriving DecidableEq, Repr

/-- `RawAddress::operator<` -/
def lessAddress (first second : ByteString) : Bool :=
  first < second

/-- `GattDevice::operator<` -/
def GattDevice.less (self rhs : GattDevice) : Bool :=
  lessAddress self.addr rhs.addr && self.transport = rhs.transport

/-- The device as the application sees it. -/
def GattDevice.remote (device : GattDevice) : BluetoothRemoteDevice where
  address := device.addr
  transport := if device.transport = gattTransportTypeLe then btTransportBle else btTransportBredr

/-- `REQUEST_TYPE_CHARACTERISTICS_READ` -/
def requestTypeCharacteristicsRead : UInt8 := 0x00

/-- `REQUEST_TYPE_CHARACTERISTICS_WRITE` -/
def requestTypeCharacteristicsWrite : UInt8 := 0x01

/-- `REQUEST_TYPE_DESCRIPTOR_READ` -/
def requestTypeDescriptorRead : UInt8 := 0x02

/-- `REQUEST_TYPE_DESCRIPTOR_WRITE` -/
def requestTypeDescriptorWrite : UInt8 := 0x03

/-- `RequestInformation`. The key of a lookup is one without an attribute. -/
structure RequestInformation where
  type : UInt8
  device : GattDevice
  context : Option Attribute := none
deriving DecidableEq, Repr

/-- `RequestInformation::operator<` -/
def RequestInformation.less (self rhs : RequestInformation) : Bool :=
  self.device.less rhs.device && self.type = rhs.type

/-- `EIGHT_BITS` -/
def eightBits : UInt32 := 8

/-- `BuildRequestId` -/
def buildRequestId (type transport : UInt8) : Int32 :=
  ((type.toUInt32 <<< eightBits) ||| transport.toUInt32).toInt32

/-- The type `SendResponse` reads off a request id. -/
def requestTypeOf (requestId : Int32) : UInt8 :=
  (requestId.toUInt32 >>> eightBits).toUInt8

/-- The transport `SendResponse` reads off a request id. -/
def transportOf (requestId : Int32) : UInt8 :=
  (requestId.toUInt32 &&& 0xFF).toUInt8

/-- A request callback of the application. -/
structure Callback where
  type : UInt8
  device : BluetoothRemoteDevice
  context : Attribute
  requestId : Int32
deriving DecidableEq, Repr

/-- A response handed to the service. There is no handle where the pointer it is read
through leads to no attribute of the type it is read as. -/
structure Response where
  type : UInt8
  device : GattDevice
  handle : Option UInt16
  value : ByteString
  ret : Int32
deriving DecidableEq, Repr

instance : StrictPartialOrder RequestInformation.less where
  irreflexive request := by
    simp [RequestInformation.less, GattDevice.less, lessAddress, List.lt_irrefl]
  transitive first second third less greater := by
    simp only [RequestInformation.less, GattDevice.less, lessAddress, Bool.and_eq_true,
      decide_eq_true_eq] at less greater ⊢
    obtain ⟨⟨addresses, transports⟩, types⟩ := less
    obtain ⟨⟨laterAddresses, laterTransports⟩, laterTypes⟩ := greater
    exact ⟨⟨List.lt_trans addresses laterAddresses, transports.trans laterTransports⟩,
      types.trans laterTypes⟩

/-- `GattServer::impl`, with the calls it has made so far. -/
structure GattServer where
  gattServices : ServiceList := {}
  requests : OrderedSet RequestInformation.less := {}
  devices : List GattDevice := []
  hasCallback : Bool := true
  callbacks : List Callback := []
  responses : List Response := []

/-- A call of `SendResponse` with what it meets: whether Bluetooth is on, and the answer
of the service, if there is a proxy. -/
structure SendResponse where
  device : BluetoothRemoteDevice
  requestId : Int32
  status : Int32 := gattSuccess
  value : ByteString := []
  bleEnabled : Bool := true
  answer : Option Int32 := some btNoError
deriving DecidableEq, Repr

namespace GattServer

/-! ## Requests of remote devices -/

/-- What the handlers of requests share: an attribute that is found is updated, the
request is recorded if the application has to answer it, and the application is asked. -/
def receive (server : GattServer) (type : UInt8) (device : GattDevice) (found : Option Attribute)
    (update : Attribute → ServiceList) (record : Bool) : GattServer :=
  match found with
  | none => server
  | some pointer =>
      { server with
        gattServices := update pointer
        requests := if record then server.requests.emplace ⟨type, device, some pointer⟩ else server.requests
        callbacks := if server.hasCallback then
            server.callbacks ++ [⟨type, device.remote, pointer, buildRequestId type device.transport⟩]
          else server.callbacks }

/-- `OnCharacteristicReadRequest` -/
def onCharacteristicReadRequest (server : GattServer) (device : GattDevice) (handle : UInt16) :
    GattServer :=
  server.receive requestTypeCharacteristicsRead device (findCharacteristic server.gattServices handle)
    (fun _ => server.gattServices) true

/-- `OnCharacteristicWriteRequest` -/
def onCharacteristicWriteRequest (server : GattServer) (device : GattDevice) (handle : UInt16)
    (value : ByteString) (needResponse : Bool) : GattServer :=
  server.receive requestTypeCharacteristicsWrite device (findCharacteristic server.gattServices handle)
    (changeCharacteristic server.gattServices fun character =>
      (character.setValue value).setWriteType (if needResponse then .default else .noResponse))
    needResponse

/-- `OnDescriptorReadRequest` -/
def onDescriptorReadRequest (server : GattServer) (device : GattDevice) (handle : UInt16) :
    GattServer :=
  server.receive requestTypeDescriptorRead device (findDescriptor server.gattServices handle)
    (fun _ => server.gattServices) true

/-- `OnDescriptorWriteRequest` -/
def onDescriptorWriteRequest (server : GattServer) (device : GattDevice) (handle : UInt16)
    (value : ByteString) : GattServer :=
  server.receive requestTypeDescriptorWrite device (findDescriptor server.gattServices handle)
    (changeDescriptor server.gattServices fun desc => desc.setValue value) true

/-! ## Responses of the application -/

/-- What the four responses share. -/
def respondWith (server : GattServer) (type : UInt8) (device : GattDevice) (handle : Option UInt16)
    (value : ByteString) (ret : Int32) (answer : Option Int32) : GattServer × Int32 :=
  match answer with
  | none => (server, requestNotSupport)
  | some result =>
      ({ server with responses := server.responses ++ [⟨type, device, handle, value, ret⟩] }, result)

/-- `RespondCharacteristicRead` -/
def respondCharacteristicRead (server : GattServer) (device : GattDevice) (handle : Option UInt16)
    (value : ByteString) (ret : Int32) (answer : Option Int32) : GattServer × Int32 :=
  server.respondWith requestTypeCharacteristicsRead device handle
    (if ret = gattSuccess then value else []) ret answer

/-- `RespondCharacteristicWrite` -/
def respondCharacteristicWrite (server : GattServer) (device : GattDevice) (handle : Option UInt16)
    (ret : Int32) (answer : Option Int32) : GattServer × Int32 :=
  server.respondWith requestTypeCharacteristicsWrite device handle [] ret answer

/-- `RespondDescriptorRead` -/
def respondDescriptorRead (server : GattServer) (device : GattDevice) (handle : Option UInt16)
    (value : ByteString) (ret : Int32) (answer : Option Int32) : GattServer × Int32 :=
  server.respondWith requestTypeDescriptorRead device handle
    (if ret = gattSuccess then value else []) ret answer

/-- `RespondDescriptorWrite` -/
def respondDescriptorWrite (server : GattServer) (device : GattDevice) (handle : Option UInt16)
    (ret : Int32) (answer : Option Int32) : GattServer × Int32 :=
  server.respondWith requestTypeDescriptorWrite device handle [] ret answer

/-- `context_.characteristic_->GetHandle()` -/
def characteristicHandle (server : GattServer) (request : RequestInformation) : Option UInt16 :=
  request.context.bind fun pointer =>
    (characteristicAt server.gattServices pointer).map GattCharacteristic.handle

/-- `context_.descriptor_->GetHandle()` -/
def descriptorHandle (server : GattServer) (request : RequestInformation) : Option UInt16 :=
  request.context.bind fun pointer =>
    (descriptorAt server.gattServices pointer).map GattDescriptor.handle

/-- `FindConnectedDevice`. The comparison of the transports binds tighter than the choice
between the two transport types, so what counts is whether they are equal. -/
def findConnectedDevice (server : GattServer) (device : BluetoothRemoteDevice) :
    Option GattDevice :=
  server.devices.find? fun gattDevice =>
    device.address = gattDevice.addr &&
      (if device.transport = (if gattDevice.transport = gattTransportTypeLe then 1 else 0)
        then btTransportBle else btTransportBredr) ≠ 0

/-- The choice of `SendResponse` by the type of the request. -/
def respond (server : GattServer) (call : SendResponse) (requestType : UInt8)
    (gattdevice : GattDevice) (request : RequestInformation) : GattServer × Int32 :=
  if requestType = requestTypeCharacteristicsRead then
    server.respondCharacteristicRead gattdevice (server.characteristicHandle request) call.value
      call.status call.answer
  else if requestType = requestTypeCharacteristicsWrite then
    server.respondCharacteristicWrite gattdevice (server.characteristicHandle request) call.status
      call.answer
  else if requestType = requestTypeDescriptorRead then
    server.respondDescriptorRead gattdevice (server.descriptorHandle request) call.value call.status
      call.answer
  else if requestType = requestTypeDescriptorWrite then
    server.respondDescriptorWrite gattdevice (server.descriptorHandle request) call.status call.answer
  else (server, btErrInternalError)

/-- `SendResponse` -/
def sendResponse (server : GattServer) (call : SendResponse) : GattServer × Int32 :=
  if !call.bleEnabled then (server, btErrInvalidState)
  else if !call.device.isValidBluetoothRemoteDevice then (server, btErrInternalError)
  else if (server.findConnectedDevice call.device).isNone then (server, btErrInternalError)
  else if transportOf call.requestId ≠ gattTransportTypeClassic ∧
      transportOf call.requestId ≠ gattTransportTypeLe then (server, btErrInternalError)
  else
    let gattdevice : GattDevice := ⟨transportOf call.requestId, call.device.address⟩
    match server.requests.find { type := requestTypeOf call.requestId, device := gattdevice } with
    | none => (server, btErrInternalError)
    | some request =>
        let (responded, result) := server.respond call (requestTypeOf call.requestId) gattdevice request
        if result = btNoError then ({ responded with requests := responded.requests.erase request }, result)
        else (responded, result)

/-! ## Devices and services -/

/-- `OnConnectionStateChanged` -/
def onConnectionStateChanged (server : GattServer) (device : GattDevice) (state : Int32) :
    GattServer :=
  if state = btConnectStateConnected then { server with devices := server.devices ++ [device] }
  else if state = btConnectStateDisconnected then { server with devices := server.devices.erase device }
  else server

/-- `OnAddService` -/
def onAddService (server : GattServer) (ret : Int32) (service : Service) : GattServer :=
  if ret = gattSuccess then
    { server with
      gattServices := server.gattServices.append
        (buildIncludeService server.gattServices (buildService service) service.includeServices) }
  else server

/-- `RemoveGattService`, with the answer of the service, if there is a proxy. -/
def removeGattService (server : GattServer) (bleEnabled : Bool) (answer : Option Int32)
    (uuid : UUID) :
    GattServer × Int32 :=
  if !bleEnabled then (server, btErrInvalidState)
  else
    match answer with
    | none => (server, btErrInternalError)
    | some result =>
        match server.gattServices.first fun svc => svc.uuid.equals uuid with
        | none => (server, btErrInvalidParam)
        | some _ =>
            ({ server with gattServices := server.gattServices.eraseFirst fun svc => svc.uuid.equals uuid },
              result)

/-- `ClearServices`, with the answer of the service, if there is a proxy. -/
def clearServices (server : GattServer) (bleEnabled : Bool) (answer : Option Int32) :
    GattServer × Int32 :=
  if !bleEnabled then (server, btErrInvalidState)
  else
    match answer with
    | none => (server, btErrInvalidState)
    | some result => ({ server with gattServices := server.gattServices.clear }, result)

end GattServer
/-! ## Requests in the set -/

/-- A request id reads back as the type it was built from. -/
theorem requestTypeOf_buildRequestId (type transport : UInt8) :
    requestTypeOf (buildRequestId type transport) = type := by
  have typeBound := type.toNat_lt
  have transportBound := transport.toNat_lt
  have joined : type.toNat <<< 8 ||| transport.toNat = type.toNat * 256 + transport.toNat := by
    rw [← Nat.shiftLeft_add_eq_or_of_lt (i := 8) (by omega), Nat.shiftLeft_eq]
  have small : type.toNat <<< 8 % 4294967296 = type.toNat <<< 8 := by
    rw [Nat.shiftLeft_eq]
    omega
  apply UInt8.toNat_inj.mp
  simp [requestTypeOf, buildRequestId, eightBits, small, joined, Nat.shiftRight_eq_div_pow]
  omega

/-- A request id reads back as the transport it was built from. -/
theorem transportOf_buildRequestId (type transport : UInt8) :
    transportOf (buildRequestId type transport) = transport := by
  have transportBound := transport.toNat_lt
  have shifted : type.toNat <<< 8 % 256 = 0 := by
    rw [Nat.shiftLeft_eq]
    omega
  apply UInt8.toNat_inj.mp
  simp [transportOf, buildRequestId, eightBits, shifted, Uuid.low_byte]

namespace RequestInformation

/-- Both requests have this type and this transport. -/
def SameKind (self rhs : RequestInformation) : Prop :=
  self.type = rhs.type ∧ self.device.transport = rhs.device.transport

/-- The comparison of requests is by the address, among requests of one kind. Of two kinds
neither is less, which is no order. -/
theorem less_iff (self rhs : RequestInformation) :
    self.less rhs = true ↔ self.SameKind rhs ∧ self.device.addr < rhs.device.addr := by
  simp only [less, GattDevice.less, lessAddress, SameKind, Bool.and_eq_true, decide_eq_true_eq]
  tauto

/-- The set takes two requests for the same unless they are of one kind and from
different addresses. -/
theorem meetsKey_iff (key request : RequestInformation) :
    meetsKey less key request = true ↔
      (key.SameKind request → key.device.addr = request.device.addr) := by
  have swapped : request.SameKind key ↔ key.SameKind request := by
    simp only [SameKind, eq_comm]
  simp only [meetsKey, Bool.and_eq_true, Bool.not_eq_true', Bool.eq_false_iff, ne_eq, less_iff, swapped,
    not_and]
  constructor
  · rintro ⟨notGreater, notLess⟩ same
    exact Std.Trichotomous.trichotomous _ _ (notLess same) (notGreater same)
  · intro equal
    constructor
    · intro same
      exact equal same ▸ List.lt_irrefl _
    · intro same
      exact equal same ▸ List.lt_irrefl _

/-- All requests of a set are of one kind, and no two are from one address. -/
theorem sameKind_of_mem (set : OrderedSet less) {first second : RequestInformation}
    (member : first ∈ set.elements) (other : second ∈ set.elements) :
    first.SameKind second ∧ (first.device.addr = second.device.addr → first = second) := by
  by_cases same : first = second
  · exact ⟨same ▸ ⟨rfl, rfl⟩, fun _ => same⟩
  · rcases set.less_or_greater member other same with less | greater
    · obtain ⟨kind, addresses⟩ := (less_iff first second).mp less
      exact ⟨kind, fun equal => absurd (equal ▸ addresses) (List.lt_irrefl _)⟩
    · obtain ⟨kind, addresses⟩ := (less_iff second first).mp greater
      exact ⟨⟨kind.1.symm, kind.2.symm⟩, fun equal => absurd (equal ▸ addresses) (List.lt_irrefl _)⟩

/-- Lookup by the type, transport and address of a request of the set finds it. -/
theorem find_of_mem (set : OrderedSet less) {key request : RequestInformation}
    (member : request ∈ set.elements) (kind : key.SameKind request)
    (address : key.device.addr = request.device.addr) : set.find key = some request := by
  cases found : set.find key with
  | none =>
    have unmet := (set.find_eq_none_iff key).mp found request member
    rw [(meetsKey_iff key request).mpr fun _ => address] at unmet
    cases unmet
  | some candidate =>
    obtain ⟨listed, met⟩ := OrderedSet.find_mem found
    obtain ⟨sameKind, unique⟩ := sameKind_of_mem set listed member
    have asked : key.SameKind candidate := ⟨kind.1.trans sameKind.1.symm, kind.2.trans sameKind.2.symm⟩
    have sameAddress := (meetsKey_iff key candidate).mp met asked
    exact congrArg some (unique (sameAddress.symm.trans address))

end RequestInformation

/-! ## What a response does -/

/-- `SendResponse` has a case for the type. -/
def IsRequestType (type : UInt8) : Prop :=
  type = requestTypeCharacteristicsRead ∨ type = requestTypeCharacteristicsWrite ∨
    type = requestTypeDescriptorRead ∨ type = requestTypeDescriptorWrite

instance (type : UInt8) : Decidable (IsRequestType type) :=
  inferInstanceAs (Decidable (_ ∨ _))

/-- The checks before the lookup let the call through. -/
structure SendResponse.Passes (call : SendResponse) (server : GattServer) : Prop where
  enabled : call.bleEnabled = true
  valid : call.device.isValidBluetoothRemoteDevice = true
  connected : (server.findConnectedDevice call.device).isSome = true
  transport : transportOf call.requestId = gattTransportTypeClassic ∨
    transportOf call.requestId = gattTransportTypeLe

/-- The key of the lookup. -/
def SendResponse.key (call : SendResponse) : RequestInformation where
  type := requestTypeOf call.requestId
  device := ⟨transportOf call.requestId, call.device.address⟩

namespace GattServer

/-- The handle a response of a type reads off a request. -/
def handleRead (server : GattServer) (type : UInt8) (request : RequestInformation) :
    Option UInt16 :=
  if type = requestTypeCharacteristicsRead ∨ type = requestTypeCharacteristicsWrite then
    server.characteristicHandle request
  else server.descriptorHandle request

/-- The four cases differ in the pointer they read the handle through, and in the value. -/
theorem respond_known (server : GattServer) (call : SendResponse) (device : GattDevice)
    (request : RequestInformation) {type : UInt8} (known : IsRequestType type) :
    ∃ value, server.respond call type device request =
      server.respondWith type device (server.handleRead type request) value call.status call.answer := by
  rcases known with rfl | rfl | rfl | rfl
  · exact ⟨_, rfl⟩
  · exact ⟨_, rfl⟩
  · exact ⟨_, rfl⟩
  · exact ⟨_, rfl⟩

/-- A response of a type the source does not know is an error and changes nothing. -/
theorem respond_unknown (server : GattServer) (call : SendResponse) (device : GattDevice)
    (request : RequestInformation) {type : UInt8} (unknown : ¬ IsRequestType type) :
    server.respond call type device request = (server, btErrInternalError) := by
  simp only [IsRequestType, not_or] at unknown
  obtain ⟨notRead, notWrite, notDescriptorRead, notDescriptorWrite⟩ := unknown
  rw [respond, if_neg notRead, if_neg notWrite, if_neg notDescriptorRead, if_neg notDescriptorWrite]

/-- A call that is let through goes by what the lookup finds. The entry is erased only if the
response was sent with success. -/
theorem sendResponse_passed {server : GattServer} {call : SendResponse}
    (passes : call.Passes server) :
    server.sendResponse call =
      match server.requests.find call.key with
      | none => (server, btErrInternalError)
      | some request =>
          let (responded, result) := server.respond call call.key.type call.key.device request
          if result = btNoError then
            ({ responded with requests := responded.requests.erase request }, result)
          else (responded, result) := by
  obtain ⟨enabled, valid, connected, transport⟩ := passes
  have present : (server.findConnectedDevice call.device).isNone = false := by
    simpa using connected
  have admitted : ¬ (transportOf call.requestId ≠ gattTransportTypeClassic ∧
      transportOf call.requestId ≠ gattTransportTypeLe) := by tauto
  rw [sendResponse, enabled, valid, present, if_neg (by decide), if_neg (by decide), if_neg (by decide),
    if_neg admitted]
  rfl

/-- A call that is not let through changes nothing. The checks come before the lookup, so no
pending request can be lost to them. -/
theorem sendResponse_refused {server : GattServer} {call : SendResponse}
    (refused : ¬ call.Passes server) :
    (server.sendResponse call).1 = server := by
  rw [sendResponse]
  split
  · rfl
  · rename_i enabled
    split
    · rfl
    · rename_i valid
      split
      · rfl
      · rename_i connected
        split
        · rfl
        · rename_i transport
          refine absurd ⟨by simpa using enabled, by simpa using valid, ?_, by tauto⟩ refused
          simpa [Option.isSome_iff_ne_none] using connected

/-- A response is sent, and the request it was read off is removed if the service
accepts it. -/
theorem sendResponse_sent {server : GattServer} {call : SendResponse} {request : RequestInformation}
    {result : Int32} (passes : call.Passes server)
    (found : server.requests.find call.key = some request)
    (known : IsRequestType call.key.type) (answer : call.answer = some result) :
    ∃ value, (server.sendResponse call).1 =
      { server with
        responses := server.responses ++
          [⟨call.key.type, call.key.device, server.handleRead call.key.type request, value, call.status⟩]
        requests := if result = btNoError then server.requests.erase request else server.requests } := by
  obtain ⟨value, responded⟩ := server.respond_known call call.key.device request known
  refine ⟨value, ?_⟩
  rw [sendResponse_passed passes, found]
  dsimp only
  simp only [responded, respondWith, answer]
  split <;> rfl

/-- Otherwise nothing changes: where no request is found, the kind is not one that is answered,
or the service gives no answer. -/
theorem sendResponse_silent {server : GattServer} {call : SendResponse}
    (silent : server.requests.find call.key = none ∨ ¬ IsRequestType call.key.type ∨
      call.answer = none) :
    (server.sendResponse call).1 = server := by
  by_cases passes : call.Passes server
  · rw [sendResponse_passed passes]
    cases found : server.requests.find call.key with
    | none => rfl
    | some request =>
      dsimp only
      rcases silent with absent | unknown | noProxy
      · rw [absent] at found
        cases found
      · rw [respond_unknown server call _ request unknown]
        rfl
      · by_cases known : IsRequestType call.key.type
        · obtain ⟨value, responded⟩ := server.respond_known call call.key.device request known
          simp only [responded, respondWith, noProxy]
          rfl
        · rw [respond_unknown server call _ request known]
          rfl
  · exact sendResponse_refused passes

end GattServer
end BluetoothFramework
