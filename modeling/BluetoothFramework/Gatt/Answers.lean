import BluetoothFramework.Library.Runs
import BluetoothFramework.Gatt.Server

/-!
# Which requests the GATT server answers

Requests of remote devices and responses of the application, in any order. A request is
handled correctly if it is recorded, and a response if it answers the pending request it
names and no other.

`requests_answered_iff` says when this goes well. The set of pending requests can hold
requests of one type and one transport only: a request of another kind is dropped, and a
response of another kind is sent for whichever request comes first.
-/

namespace BluetoothFramework

open Runs SearchTree

/-- A request of a remote device. -/
inductive Request where
  | onCharacteristicReadRequest (device : GattDevice) (handle : UInt16)
  | onCharacteristicWriteRequest (device : GattDevice) (handle : UInt16) (value : ByteString)
      (needResponse : Bool)
  | onDescriptorReadRequest (device : GattDevice) (handle : UInt16)
  | onDescriptorWriteRequest (device : GattDevice) (handle : UInt16) (value : ByteString)
deriving DecidableEq, Repr

namespace Request

/-- The handler of the request. -/
def handle (server : GattServer) : Request → GattServer
  | onCharacteristicReadRequest device handle => server.onCharacteristicReadRequest device handle
  | onCharacteristicWriteRequest device handle value needResponse =>
      server.onCharacteristicWriteRequest device handle value needResponse
  | onDescriptorReadRequest device handle => server.onDescriptorReadRequest device handle
  | onDescriptorWriteRequest device handle value => server.onDescriptorWriteRequest device handle value

def device : Request → GattDevice
  | onCharacteristicReadRequest device _ => device
  | onCharacteristicWriteRequest device _ _ _ => device
  | onDescriptorReadRequest device _ => device
  | onDescriptorWriteRequest device _ _ => device

def type : Request → UInt8
  | onCharacteristicReadRequest _ _ => requestTypeCharacteristicsRead
  | onCharacteristicWriteRequest _ _ _ _ => requestTypeCharacteristicsWrite
  | onDescriptorReadRequest _ _ => requestTypeDescriptorRead
  | onDescriptorWriteRequest _ _ _ => requestTypeDescriptorWrite

/-- Whether the application has to respond. -/
def needsResponse : Request → Bool
  | onCharacteristicWriteRequest _ _ _ needResponse => needResponse
  | _ => true

/-- The attribute the request is about. -/
def target (services : ServiceList) : Request → Option Attribute
  | onCharacteristicReadRequest _ handle => findCharacteristic services handle
  | onCharacteristicWriteRequest _ handle _ _ => findCharacteristic services handle
  | onDescriptorReadRequest _ handle => findDescriptor services handle
  | onDescriptorWriteRequest _ handle _ => findDescriptor services handle

/-- The entry for the request. -/
def information (request : Request) (pointer : Attribute) : RequestInformation where
  type := request.type
  device := request.device
  context := some pointer

end Request

/-- Something that happens to the server: a request of a device, or a response of the
application. -/
inductive Exchange where
  | request (request : Request)
  | sendResponse (call : SendResponse)
deriving DecidableEq

namespace GattServer

/-- One exchange. -/
def exchange (server : GattServer) : Exchange → Option GattServer
  | .request request => some (request.handle server)
  | .sendResponse call => some (server.sendResponse call).1

end GattServer

/-- The call is about the request: it is for the device of the request, and its id reads
as the type and the transport of the request. -/
def SendResponse.Names (call : SendResponse) (request : RequestInformation) : Prop :=
  call.device.address = request.device.addr ∧ requestTypeOf call.requestId = request.type ∧
    transportOf call.requestId = request.device.transport

instance (call : SendResponse) (request : RequestInformation) : Decidable (call.Names request) :=
  inferInstanceAs (Decidable (_ ∧ _))

/-- One response was sent, of the type of the request, to its device and for the handle of
its attribute, and that request alone was removed. -/
structure Answered (before after : GattServer) (request : RequestInformation) : Prop where
  sent : ∃ pointer handle value ret, request.context = some pointer ∧
    handleAt before.gattServices pointer = some handle ∧
    after.responses = before.responses ++ [⟨request.type, request.device, some handle, value, ret⟩]
  removed : ∀ other, other ∈ after.requests.elements ↔ other ≠ request ∧ other ∈ before.requests.elements

/-- No response was sent and no request was removed. -/
structure Unanswered (before after : GattServer) : Prop where
  sent : after.responses = before.responses
  kept : after.requests.elements = before.requests.elements

/-- A request for an attribute of the server is recorded if it needs a response, and those
already pending stay. A response answers the pending request it names; if there is none it
answers nothing. -/
def Correct (server : GattServer) : Exchange → Prop
  | .request request =>
      (∀ pointer, request.target server.gattServices = some pointer → request.needsResponse = true →
        request.information pointer ∈ (request.handle server).requests.elements) ∧
      ∀ other ∈ server.requests.elements, other ∈ (request.handle server).requests.elements
  | .sendResponse call =>
      (∀ request ∈ server.requests.elements, call.Names request →
        Answered server (server.sendResponse call).1 request) ∧
      ((∀ request ∈ server.requests.elements, ¬ call.Names request) →
        Unanswered server (server.sendResponse call).1)

/-- A request that needs a response comes while only requests of its type and transport are
pending, and none of its device for another attribute. A response to a pending request is
let through and accepted by the service. A response to no pending request is stopped
before it is sent, or only requests of its type and transport are pending. -/
def OneKind (server : GattServer) : Exchange → Prop
  | .request request =>
      ∀ pointer, request.target server.gattServices = some pointer → request.needsResponse = true →
        ∀ other ∈ server.requests.elements, (request.information pointer).SameKind other ∧
          (other.device.addr = request.device.addr → other.context = some pointer)
  | .sendResponse call =>
      ((∃ request ∈ server.requests.elements, call.Names request) →
        call.Passes server ∧ call.answer = some btNoError) ∧
      ((∀ request ∈ server.requests.elements, ¬ call.Names request) →
        call.Passes server → IsRequestType (requestTypeOf call.requestId) → call.answer ≠ none →
        ∀ request ∈ server.requests.elements, call.key.SameKind request)

/-- Every pending request is of a known type and leads to an attribute that can be read as
that type says. -/
def Readable (server : GattServer) : Prop :=
  ∀ request ∈ server.requests.elements, IsRequestType request.type ∧
    (server.handleRead request.type request).isSome = true

namespace GattServer

/-- The server before the first request. -/
def start (services : ServiceList) (devices : List GattDevice) (hasCallback : Bool) :
    GattServer where
  gattServices := services
  devices := devices
  hasCallback := hasCallback

end GattServer

/-! ## Single exchanges -/

namespace Request

/-- A request for no attribute of the server is ignored. -/
theorem handle_unknown {request : Request} {server : GattServer}
    (unknown : request.target server.gattServices = none) : request.handle server = server := by
  cases request with
  | onCharacteristicReadRequest device handle =>
    rw [target] at unknown
    simp only [Request.handle, GattServer.onCharacteristicReadRequest, GattServer.receive, unknown]
  | onCharacteristicWriteRequest device handle value needResponse =>
    rw [target] at unknown
    simp only [Request.handle, GattServer.onCharacteristicWriteRequest, GattServer.receive, unknown]
  | onDescriptorReadRequest device handle =>
    rw [target] at unknown
    simp only [Request.handle, GattServer.onDescriptorReadRequest, GattServer.receive, unknown]
  | onDescriptorWriteRequest device handle value =>
    rw [target] at unknown
    simp only [Request.handle, GattServer.onDescriptorWriteRequest, GattServer.receive, unknown]

/-- A request for an attribute is recorded if it needs a response, and moves no attribute. It is
said for the requests of all kinds at once, since the pending set treats them alike. -/
theorem handle_known {request : Request} {server : GattServer} {pointer : Attribute}
    (known : request.target server.gattServices = some pointer) :
    (request.handle server).requests =
        (if request.needsResponse then server.requests.emplace (request.information pointer)
          else server.requests) ∧
      SameHandles server.gattServices (request.handle server).gattServices ∧
      (request.handle server).devices = server.devices := by
  cases request with
  | onCharacteristicReadRequest device handle =>
    rw [target] at known
    simp only [Request.handle, GattServer.onCharacteristicReadRequest, GattServer.receive, known]
    exact ⟨rfl, .refl _, trivial⟩
  | onCharacteristicWriteRequest device handle value needResponse =>
    rw [target] at known
    simp only [Request.handle, GattServer.onCharacteristicWriteRequest, GattServer.receive, known]
    refine ⟨rfl, sameHandles_changeCharacteristic _ _ ?_ pointer, trivial⟩
    intro character
    exact character.outline_setValue value
  | onDescriptorReadRequest device handle =>
    rw [target] at known
    simp only [Request.handle, GattServer.onDescriptorReadRequest, GattServer.receive, known]
    exact ⟨rfl, .refl _, trivial⟩
  | onDescriptorWriteRequest device handle value =>
    rw [target] at known
    simp only [Request.handle, GattServer.onDescriptorWriteRequest, GattServer.receive, known]
    exact ⟨rfl, sameHandles_changeDescriptor _ _ (fun desc => desc.handle_setValue value) pointer, trivial⟩

/-- The type that a request is recorded under is one of those the source knows. -/
theorem isRequestType (request : Request) : IsRequestType request.type := by
  cases request <;> simp [IsRequestType, type]

/-- The attribute of a request is of the type its response reads. A request for a characteristic
points to one, and a request for a descriptor to a descriptor. -/
theorem handleRead_target {request : Request} {server : GattServer} {pointer : Attribute}
    (known : request.target server.gattServices = some pointer) :
    (server.handleRead request.type (request.information pointer)).isSome = true := by
  cases request with
  | onCharacteristicReadRequest device handle =>
    simp [GattServer.handleRead, type, GattServer.characteristicHandle, information,
      findCharacteristic_found known]
  | onCharacteristicWriteRequest device handle value needResponse =>
    simp [GattServer.handleRead, type, GattServer.characteristicHandle, information,
      findCharacteristic_found known]
  | onDescriptorReadRequest device handle =>
    have notCharacteristic : ¬ (requestTypeDescriptorRead = requestTypeCharacteristicsRead ∨
        requestTypeDescriptorRead = requestTypeCharacteristicsWrite) := by decide
    simp [GattServer.handleRead, type, notCharacteristic, GattServer.descriptorHandle, information,
      findDescriptor_found known]
  | onDescriptorWriteRequest device handle value =>
    have notCharacteristic : ¬ (requestTypeDescriptorWrite = requestTypeCharacteristicsRead ∨
        requestTypeDescriptorWrite = requestTypeCharacteristicsWrite) := by decide
    simp [GattServer.handleRead, type, notCharacteristic, GattServer.descriptorHandle, information,
      findDescriptor_found known]

/-- A request adds at most its own entry. So the entries that are pending are entries of requests
that have come. -/
theorem mem_handle {request : Request} {server : GattServer} {other : RequestInformation}
    (member : other ∈ (request.handle server).requests.elements) :
    other ∈ server.requests.elements ∨
      ∃ pointer, request.target server.gattServices = some pointer ∧
        other = request.information pointer := by
  cases known : request.target server.gattServices with
  | none =>
    rw [handle_unknown known] at member
    exact .inl member
  | some pointer =>
    rw [(handle_known known).1] at member
    split at member
    · rcases OrderedSet.mem_of_mem_place member with new | old
      · exact .inr ⟨pointer, rfl, new⟩
      · exact .inl old
    · exact .inl member

/-- A request takes no entry away. -/
theorem mem_handle_of_mem (request : Request) {server : GattServer} {other : RequestInformation}
    (member : other ∈ server.requests.elements) :
      other ∈ (request.handle server).requests.elements := by
  cases known : request.target server.gattServices with
  | none =>
    rw [handle_unknown known]
    exact member
  | some pointer =>
    rw [(handle_known known).1]
    split
    · exact OrderedSet.mem_emplace_of_mem server.requests _ member
    · exact member

/-- A request is recorded exactly when the pending requests are of its kind, and none of
its device is for another attribute. -/
theorem recorded_iff {request : Request} {server : GattServer} {pointer : Attribute}
    (known : request.target server.gattServices = some pointer)
    (needed : request.needsResponse = true) :
    request.information pointer ∈ (request.handle server).requests.elements ↔
      ∀ other ∈ server.requests.elements, (request.information pointer).SameKind other ∧
        (other.device.addr = request.device.addr → other.context = some pointer) := by
  constructor
  · intro recorded other member
    have stays := mem_handle_of_mem request member
    obtain ⟨kind, unique⟩ := RequestInformation.sameKind_of_mem _ recorded stays
    refine ⟨kind, fun address => ?_⟩
    have same := unique address.symm
    exact same ▸ rfl
  · intro alone
    rw [(handle_known known).1, if_pos needed]
    by_cases met : ∃ other ∈ server.requests.elements,
        meetsKey RequestInformation.less (request.information pointer) other = true
    · obtain ⟨other, member, meets⟩ := met
      obtain ⟨kind, attributes⟩ := alone other member
      have address := (RequestInformation.meetsKey_iff _ _).mp meets kind
      have same : request.information pointer = other := by
        obtain ⟨type, ⟨transport, addr⟩, context⟩ := other
        obtain ⟨sameType, sameTransport⟩ := kind
        have sameContext := attributes address.symm
        simp only [information] at sameType sameTransport address sameContext ⊢
        rw [sameType, sameContext, ← sameTransport, ← address]
      rw [server.requests.emplace_met _ member meets, same]
      exact member
    · have new : ∀ element ∈ server.requests.elements,
          meetsKey RequestInformation.less (request.information pointer) element = false := by
        simpa using met
      exact (server.requests.mem_emplace_new _ new _).mpr (.inl rfl)

end Request

namespace GattServer

/-- Where no attribute moved, the same handles are read. -/
theorem handleRead_same {before after : GattServer}
    (same : SameHandles before.gattServices after.gattServices) (type : UInt8)
    (request : RequestInformation) :
    after.handleRead type request = before.handleRead type request := by
  simp only [handleRead, characteristicHandle, descriptorHandle, same.characteristic, same.descriptor]

/-- A handle that is read is the handle of the attribute. -/
theorem handleAt_of_handleRead {server : GattServer} {type : UInt8} {request : RequestInformation}
    {handle : UInt16} (read : server.handleRead type request = some handle) :
    ∃ pointer, request.context = some pointer ∧
      handleAt server.gattServices pointer = some handle := by
  rw [handleRead] at read
  split at read
  · obtain ⟨pointer, context, found⟩ := Option.bind_eq_some_iff.mp read
    exact ⟨pointer, context, by simp [handleAt, found]⟩
  · obtain ⟨pointer, context, found⟩ := Option.bind_eq_some_iff.mp read
    refine ⟨pointer, context, ?_⟩
    cases pointer with
    | characteristic => cases found
    | descriptor service index place => simpa [handleAt, characteristicAt] using found

end GattServer

namespace SendResponse

/-- An id built for a request names it. -/
theorem names_of_buildRequestId {call : SendResponse} {request : RequestInformation}
    (device : call.device.address = request.device.addr)
    (id : call.requestId = buildRequestId request.type request.device.transport) :
      call.Names request :=
  ⟨device, by rw [id, requestTypeOf_buildRequestId], by rw [id, transportOf_buildRequestId]⟩

/-- The lookup finds the request that is named. -/
theorem find_named {server : GattServer} {call : SendResponse} {request : RequestInformation}
    (member : request ∈ server.requests.elements) (named : call.Names request) :
    server.requests.find call.key = some request :=
  RequestInformation.find_of_mem _ member named.2 named.1

/-- If no request is named, the lookup finds one exactly when one of another kind is pending. The
comparison of the set tells kinds apart in neither direction, so the lookup stops at the wrong
entry. -/
theorem find_unnamed {server : GattServer} {call : SendResponse}
    (unnamed : ∀ request ∈ server.requests.elements, ¬ call.Names request) :
    server.requests.find call.key = none ↔
      ∀ request ∈ server.requests.elements, call.key.SameKind request := by
  rw [OrderedSet.find_eq_none_iff]
  constructor
  · intro unmet request member
    by_contra otherKind
    have met := (RequestInformation.meetsKey_iff call.key request).mpr fun kind => absurd kind otherKind
    rw [unmet request member] at met
    cases met
  · intro kinds request member
    rw [Bool.eq_false_iff]
    intro met
    have kind := kinds request member
    have address := (RequestInformation.meetsKey_iff call.key request).mp met kind
    exact unnamed request member ⟨address, kind⟩

/-- A named request is answered exactly when the call is let through and the service
accepts the response. -/
theorem answered_iff {server : GattServer} (readable : Readable server) {call : SendResponse}
    {request : RequestInformation} (member : request ∈ server.requests.elements)
    (named : call.Names request) :
    Answered server (server.sendResponse call).1 request ↔
      call.Passes server ∧ call.answer = some btNoError := by
  obtain ⟨known, isRead⟩ := readable request member
  obtain ⟨handle, read⟩ := Option.isSome_iff_exists.mp isRead
  obtain ⟨pointer, context, atPointer⟩ := GattServer.handleAt_of_handleRead read
  have found := find_named member named
  have device : call.key.device = request.device := by
    simp only [key, named.1, named.2.2]
  have type : call.key.type = request.type := named.2.1
  constructor
  · rintro ⟨⟨_, _, _, _, -, -, sent⟩, removed⟩
    have changed : (server.sendResponse call).1 ≠ server := by
      intro same
      rw [same] at sent
      exact absurd (congrArg List.length sent) (by simp)
    have passes : call.Passes server := by
      by_contra refused
      exact changed (GattServer.sendResponse_refused refused)
    cases answer : call.answer with
    | none => exact absurd (GattServer.sendResponse_silent (.inr (.inr answer))) changed
    | some result =>
      obtain ⟨value, after⟩ := GattServer.sendResponse_sent passes found (type ▸ known) answer
      by_cases accepted : result = btNoError
      · exact ⟨passes, congrArg some accepted⟩
      · have absent := (removed request).not.mpr fun kept => kept.1 rfl
        rw [after, if_neg accepted] at absent
        exact absurd member absent
  · rintro ⟨passes, answer⟩
    obtain ⟨value, after⟩ := GattServer.sendResponse_sent passes found (type ▸ known) answer
    rw [after, if_pos rfl]
    constructor
    · refine ⟨pointer, handle, value, call.status, context, atPointer, ?_⟩
      rw [type, device, read]
    · intro other
      exact server.requests.mem_erase request other

/-- If no request is named, nothing is answered exactly when the call is stopped or only
requests of its kind are pending. -/
theorem unanswered_iff {server : GattServer} {call : SendResponse}
    (unnamed : ∀ request ∈ server.requests.elements, ¬ call.Names request) :
    Unanswered server (server.sendResponse call).1 ↔
      (call.Passes server → IsRequestType (requestTypeOf call.requestId) → call.answer ≠ none →
        ∀ request ∈ server.requests.elements, call.key.SameKind request) := by
  have ofSame (same : (server.sendResponse call).1 = server) :
      Unanswered server (server.sendResponse call).1 := by
    rw [same]
    exact ⟨rfl, rfl⟩
  rw [← find_unnamed unnamed]
  constructor
  · intro unanswered passes known proxy
    obtain ⟨result, answer⟩ := Option.ne_none_iff_exists'.mp proxy
    cases found : server.requests.find call.key with
    | none => rfl
    | some request =>
      obtain ⟨value, after⟩ := GattServer.sendResponse_sent passes found known answer
      have sent := unanswered.sent
      rw [after] at sent
      exact absurd (congrArg List.length sent) (by simp)
  · intro absent
    apply ofSame
    by_cases passes : call.Passes server
    · apply GattServer.sendResponse_silent
      by_cases known : IsRequestType (requestTypeOf call.requestId)
      · by_cases proxy : call.answer = none
        · exact .inr (.inr proxy)
        · exact .inl (absent passes known proxy)
      · exact .inr (.inl known)
    · exact GattServer.sendResponse_refused passes

/-- A response changes no service and no device, and adds no request. What it takes from the
pending requests is said elsewhere. -/
theorem sendResponse_keeps (server : GattServer) (call : SendResponse) :
    (server.sendResponse call).1.gattServices = server.gattServices ∧
      (server.sendResponse call).1.devices = server.devices ∧
      ∀ request ∈ (server.sendResponse call).1.requests.elements,
        request ∈ server.requests.elements := by
  have ofSame (same : (server.sendResponse call).1 = server) :
      (server.sendResponse call).1.gattServices = server.gattServices ∧
        (server.sendResponse call).1.devices = server.devices ∧
        ∀ request ∈ (server.sendResponse call).1.requests.elements, request ∈ server.requests.elements := by
    rw [same]
    exact ⟨rfl, rfl, fun _ member => member⟩
  by_cases passes : call.Passes server
  · by_cases known : IsRequestType call.key.type
    · cases answer : call.answer with
      | none => exact ofSame (GattServer.sendResponse_silent (.inr (.inr answer)))
      | some result =>
        cases found : server.requests.find call.key with
        | none => exact ofSame (GattServer.sendResponse_silent (.inl found))
        | some request =>
          obtain ⟨value, after⟩ := GattServer.sendResponse_sent passes found known answer
          rw [after]
          refine ⟨rfl, rfl, ?_⟩
          intro other member
          dsimp only at member
          split at member
          · exact List.mem_of_mem_erase member
          · exact member
    · exact ofSame (GattServer.sendResponse_silent (.inr (.inl known)))
  · exact ofSame (GattServer.sendResponse_refused passes)

end SendResponse

/-! ## Runs -/

/-- Every exchange keeps the pending requests readable. A request is recorded with a pointer that
is valid, and no exchange moves the attributes. -/
theorem readable_exchange (server : GattServer) (exchange : Exchange) (next : GattServer)
    (readable : Readable server) (enabled : server.exchange exchange = some next) :
      Readable next := by
  cases exchange with
  | request request =>
    cases enabled
    intro other member
    cases known : request.target server.gattServices with
    | none =>
      rw [Request.handle_unknown known] at member ⊢
      exact readable other member
    | some pointer =>
      rw [GattServer.handleRead_same (Request.handle_known known).2.1]
      rcases Request.mem_handle member with old | ⟨found, atFound, rfl⟩
      · exact readable other old
      · exact ⟨request.isRequestType, Request.handleRead_target atFound⟩
  | sendResponse call =>
    cases enabled
    obtain ⟨services, -, pending⟩ := SendResponse.sendResponse_keeps server call
    intro request member
    have same : SameHandles server.gattServices (server.sendResponse call).1.gattServices := by
      rw [services]
      exact .refl _
    rw [GattServer.handleRead_same same]
    exact readable request (pending request member)

/-- An exchange is handled correctly exactly when the requests are of one kind. For a response
this is what the lookup finds. -/
theorem correct_iff_oneKind (server : GattServer) (exchange : Exchange)
    (readable : Readable server) :
    Correct server exchange ↔ OneKind server exchange := by
  cases exchange with
  | request request =>
    have kept := fun other (member : other ∈ server.requests.elements) => request.mem_handle_of_mem member
    rw [Correct, OneKind, and_iff_left kept]
    refine forall_congr' fun pointer => forall_congr' fun known => forall_congr' fun needed => ?_
    exact Request.recorded_iff known needed
  | sendResponse call =>
    rw [Correct, OneKind]
    apply and_congr
    · constructor
      · rintro answered ⟨request, member, named⟩
        exact (SendResponse.answered_iff readable member named).mp (answered request member named)
      · intro accepted request member named
        exact (SendResponse.answered_iff readable member named).mpr (accepted ⟨request, member, named⟩)
    · exact forall_congr' SendResponse.unanswered_iff

/-- Ids built for a pending request name it, and in every sequence of requests and responses all
are handled correctly exactly when they are of one kind. With two kinds pending the comparison of
the set calls each of them less than the other, and a response may miss its request. -/
theorem requests_answered_iff (services : ServiceList) (devices : List GattDevice)
    (hasCallback : Bool) (exchanges : List Exchange) :
    (∀ (call : SendResponse) (request : RequestInformation),
      call.device.address = request.device.addr →
        call.requestId = buildRequestId request.type request.device.transport →
          call.Names request) ∧
    (Meets GattServer.exchange Correct (GattServer.start services devices hasCallback) exchanges ↔
      Meets GattServer.exchange OneKind (GattServer.start services devices hasCallback) exchanges) := by
  constructor
  · intro call request device id
    exact SendResponse.names_of_buildRequestId device id
  · refine @meets_iff_meets _ _ GattServer.exchange Readable OneKind Correct ?_ ?_ _ _ ?_
    · intro server exchange next readable _ enabled
      exact readable_exchange server exchange next readable enabled
    · intro server exchange _ readable _
      exact correct_iff_oneKind server exchange readable
    · intro request member
      cases member

/-- A service with a readable characteristic and a descriptor of it. -/
def thermometer : ServiceList :=
  ({} : ServiceList).append
    { handle := 1, endHandle := 4
      characteristics := [{ handle := 3, descriptors := [{ handle := 4 }] }] }

/-- `"00:11:22:33:44:55"` -/
def phone : ByteString :=
  [0x30, 0x30, 0x3A, 0x31, 0x31, 0x3A, 0x32, 0x32, 0x3A, 0x33, 0x33, 0x3A, 0x34, 0x34, 0x3A, 0x35, 0x35]

/-- A device reads a characteristic and then a descriptor before the application has
responded: the second request is not recorded. -/
theorem descriptor_read_dropped :
    ¬ ∀ exchanges : List Exchange,
      Meets GattServer.exchange Correct (GattServer.start thermometer [⟨gattTransportTypeLe, phone⟩] true)
        exchanges := by
  intro always
  have run := always [.request (.onCharacteristicReadRequest ⟨gattTransportTypeLe, phone⟩ 3),
    .request (.onDescriptorReadRequest ⟨gattTransportTypeLe, phone⟩ 4)]
  have second := run.2.1.1 (.descriptor 0 0 0) (by decide) rfl
  revert second
  decide

end BluetoothFramework
