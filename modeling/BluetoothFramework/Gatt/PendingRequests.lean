import BluetoothFramework.Gatt.Answers

/-!
# Which pending requests stay meaningful

A pending request refers to a device and to an attribute. Devices disconnect and services
are removed while requests are pending, and none of the functions that do this looks at
the pending requests.

`pending_requests_meaningful_iff` names the steps that leave a request behind: the last
disconnection of its device, the removal of its service, and clearing the services.
-/

namespace BluetoothFramework

open Runs SearchTree

/-- Something that happens to the server. -/
inductive ServerEvent where
  | exchange (exchange : Exchange)
  | onConnectionStateChanged (device : GattDevice) (state : Int32)
  | onAddService (ret : Int32) (service : Service)
  | removeGattService (bleEnabled : Bool) (answer : Option Int32) (uuid : UUID)
  | clearServices (bleEnabled : Bool) (answer : Option Int32)

namespace GattServer

/-- One event. Requests come from connected devices. -/
def step (server : GattServer) : ServerEvent → Option GattServer
  | .exchange (.request request) =>
      if request.device ∈ server.devices then server.exchange (.request request) else none
  | .exchange (.sendResponse call) => server.exchange (.sendResponse call)
  | .onConnectionStateChanged device state => some (server.onConnectionStateChanged device state)
  | .onAddService ret service => some (server.onAddService ret service)
  | .removeGattService bleEnabled answer uuid => some (server.removeGattService bleEnabled answer uuid).1
  | .clearServices bleEnabled answer => some (server.clearServices bleEnabled answer).1

end GattServer

/-- The device of the request is connected, and its attribute is part of the services. -/
def RequestInformation.Meaningful (request : RequestInformation) (server : GattServer) : Prop :=
  request.device ∈ server.devices ∧
    ∃ pointer, request.context = some pointer ∧ (handleAt server.gattServices pointer).isSome = true

/-- Every pending request is meaningful. -/
def AllMeaningful (server : GattServer) : Prop :=
  ∀ request ∈ server.requests.elements, request.Meaningful server

/-- The event leaves no pending request behind. A device with pending requests disconnects
only while it is connected once more; the service that is removed has no pending request;
the services are cleared only when nothing is pending. -/
def LeavesNoneBehind (server : GattServer) : ServerEvent → Prop
  | .exchange _ => True
  | .onConnectionStateChanged device state =>
      state = btConnectStateDisconnected →
        (∃ request ∈ server.requests.elements, request.device = device) →
        2 ≤ server.devices.count device
  | .onAddService _ _ => True
  | .removeGattService bleEnabled answer uuid =>
      bleEnabled = true → answer ≠ none →
        ∀ erased, server.gattServices.first (fun svc => svc.uuid.equals uuid) = some erased →
          ∀ request ∈ server.requests.elements, ∀ pointer, request.context = some pointer →
            pointer.service ≠ erased.1
  | .clearServices bleEnabled answer =>
      bleEnabled = true → answer ≠ none → server.requests.elements = []

/-- A response is read off a meaningful request. -/
def UsesMeaningful (server : GattServer) : ServerEvent → Prop
  | .exchange (.sendResponse call) =>
      ∀ request, server.requests.find call.key = some request → request.Meaningful server
  | _ => True

/-! ## Attributes of changing services -/

/-- The handle at the places of a pointer in a service. -/
def GattService.handleIn (svc : GattService) : Attribute → Option UInt16
  | .characteristic _ index => svc.characteristics[index]?.map GattCharacteristic.handle
  | .descriptor _ index place =>
      (svc.characteristics[index]?.bind fun character => character.descriptors[place]?).map
        GattDescriptor.handle

/-- A pointer leads to a handle through the list and then through its service. -/
theorem handleAt_eq (services : ServiceList) (pointer : Attribute) :
    handleAt services pointer =
      (services.follow pointer.service).bind fun svc => svc.handleIn pointer := by
  cases pointer with
  | characteristic service index =>
    simp only [handleAt, characteristicAt, descriptorAt, Option.map_none, Option.or_none,
      Attribute.service, GattService.handleIn, Option.map_bind, Function.comp_def]
  | descriptor service index place =>
    simp only [handleAt, characteristicAt, descriptorAt, Option.map_none, Option.none_or,
      Attribute.service, GattService.handleIn, Option.map_bind, Function.comp_def]

/-- An attribute stays part of the services when one is appended. -/
theorem handleAt_append {services : ServiceList} {pointer : Attribute} (svc : GattService)
    (live : (handleAt services pointer).isSome = true) :
    (handleAt (services.append svc) pointer).isSome = true := by
  obtain ⟨handle, found⟩ := Option.isSome_iff_exists.mp live
  rw [handleAt_eq] at found ⊢
  obtain ⟨old, followed, inOld⟩ := Option.bind_eq_some_iff.mp found
  rw [Nodes.follow_append svc followed, Option.bind_some, inOld]
  rfl

/-- An attribute stays part of the services when another service is erased. The pointer names its
service by its address, so the removal of another does not move it. -/
theorem handleAt_eraseFirst {services : ServiceList} (property : GattService → Bool)
    {pointer : Attribute} (live : (handleAt services pointer).isSome = true) :
    (handleAt (services.eraseFirst property) pointer).isSome = true ↔
      ∀ erased, services.first property = some erased → pointer.service ≠ erased.1 := by
  obtain ⟨handle, found⟩ := Option.isSome_iff_exists.mp live
  rw [handleAt_eq] at found ⊢
  obtain ⟨old, followed, inOld⟩ := Option.bind_eq_some_iff.mp found
  constructor
  · intro stays
    obtain ⟨_, after⟩ := Option.isSome_iff_exists.mp stays
    obtain ⟨svc, afterFollowed, -⟩ := Option.bind_eq_some_iff.mp after
    intro erased first same
    exact ((services.follow_eraseFirst property _ svc).mp afterFollowed).2 erased first same.symm
  · intro other
    have stays := (services.follow_eraseFirst property _ old).mpr
      ⟨followed, fun erased first same => other erased first same.symm⟩
    rw [stays, Option.bind_some, inOld]
    rfl

/-- In a list that was cleared no pointer leads to a handle. -/
theorem handleAt_clear (services : ServiceList) (pointer : Attribute) :
    handleAt services.clear pointer = none := by
  rw [handleAt_eq, Nodes.follow_clear]
  rfl

/-- Lists with the same handles take every pointer to the same. -/
theorem SameHandles.handleAt {before after : ServiceList} (same : SameHandles before after)
    (pointer : Attribute) : BluetoothFramework.handleAt after pointer =
      BluetoothFramework.handleAt before pointer := by
  simp only [BluetoothFramework.handleAt, same.characteristic, same.descriptor]

/-- Whether a device is still there after one of its entries is erased. -/
theorem mem_erase_device (devices : List GattDevice) (erased device : GattDevice)
    (present : device ∈ devices) :
    device ∈ devices.erase erased ↔ (device = erased → 2 ≤ devices.count erased) := by
  by_cases same : device = erased
  · subst same
    rw [← List.count_pos_iff, List.count_erase_self]
    have : 1 ≤ devices.count device := List.count_pos_iff.mpr present
    constructor
    · intro more _
      omega
    · intro twice
      have := twice rfl
      omega
  · exact iff_of_true ((List.mem_erase_of_ne same).mpr present) fun equal => absurd equal same

/-! ## Single events -/

/-- A request of a connected device is meaningful, and leaves the others so. Its attribute was
found in the services a moment before it is recorded. -/
theorem allMeaningful_request {server : GattServer} (request : Request)
    (connected : request.device ∈ server.devices) (meaningful : AllMeaningful server) :
    AllMeaningful (request.handle server) := by
  cases known : request.target server.gattServices with
  | none =>
    rw [Request.handle_unknown known]
    exact meaningful
  | some pointer =>
    obtain ⟨-, moved, devices⟩ := Request.handle_known known
    intro other member
    rw [RequestInformation.Meaningful, devices]
    rcases Request.mem_handle member with old | ⟨found, atFound, rfl⟩
    · obtain ⟨present, place, context, live⟩ := meaningful other old
      exact ⟨present, place, context, (moved.handleAt place).symm ▸ live⟩
    · obtain ⟨handle, read⟩ := Option.isSome_iff_exists.mp (Request.handleRead_target atFound)
      obtain ⟨place, context, live⟩ := GattServer.handleAt_of_handleRead read
      refine ⟨connected, place, context, ?_⟩
      rw [moved.handleAt, live]
      rfl

/-- A response leaves the pending requests meaningful. -/
theorem allMeaningful_sendResponse {server : GattServer} (call : SendResponse)
    (meaningful : AllMeaningful server) : AllMeaningful (server.sendResponse call).1 := by
  obtain ⟨services, devices, pending⟩ := SendResponse.sendResponse_keeps server call
  intro request member
  rw [RequestInformation.Meaningful, services, devices]
  exact meaningful request (pending request member)

/-- Where only the devices change, what counts is which are still there. -/
theorem allMeaningful_devices_iff {server : GattServer} (meaningful : AllMeaningful server)
    (devices : List GattDevice) :
    AllMeaningful { server with devices := devices } ↔
      ∀ request ∈ server.requests.elements, request.device ∈ devices :=
  forall₂_congr fun request member => and_iff_left (meaningful request member).2

/-- Where only the services change, what counts is which attributes are still there. -/
theorem allMeaningful_services_iff {server : GattServer} (meaningful : AllMeaningful server)
    (services : ServiceList) :
    AllMeaningful { server with gattServices := services } ↔
      ∀ request ∈ server.requests.elements, ∀ pointer, request.context = some pointer →
        (handleAt services pointer).isSome = true := by
  refine forall₂_congr fun request member => ?_
  obtain ⟨present, pointer, context, -⟩ := meaningful request member
  rw [RequestInformation.Meaningful, and_iff_right present]
  constructor
  · rintro ⟨found, atFound, live⟩ other atOther
    rw [atFound] at atOther
    exact Option.some.inj atOther ▸ live
  · intro live
    exact ⟨pointer, context, live pointer context⟩

/-- The attribute of a meaningful request is part of the services. -/
theorem AllMeaningful.live {server : GattServer} (meaningful : AllMeaningful server)
    {request : RequestInformation} (member : request ∈ server.requests.elements)
    {pointer : Attribute} (context : request.context = some pointer) :
      (handleAt server.gattServices pointer).isSome = true := by
  obtain ⟨-, found, atFound, isLive⟩ := meaningful request member
  rw [context] at atFound
  exact Option.some.inj atFound ▸ isLive

/-- After a connection has changed, all pending requests mean something exactly if the event
leaves none behind. Requests of a device that is gone stay in the set. -/
theorem allMeaningful_connection_iff {server : GattServer} (meaningful : AllMeaningful server)
    (device : GattDevice) (state : Int32) :
    AllMeaningful (server.onConnectionStateChanged device state) ↔
      LeavesNoneBehind server (.onConnectionStateChanged device state) := by
  rw [LeavesNoneBehind, GattServer.onConnectionStateChanged]
  by_cases connected : state = btConnectStateConnected
  · have distinct : state ≠ btConnectStateDisconnected := by
      rw [connected]
      decide
    rw [if_pos connected, allMeaningful_devices_iff meaningful]
    refine iff_of_true ?_ fun same => absurd same distinct
    intro request member
    exact List.mem_append_left _ (meaningful request member).1
  · by_cases disconnected : state = btConnectStateDisconnected
    · have stays (request) (member : request ∈ server.requests.elements) :=
        mem_erase_device server.devices device request.device (meaningful request member).1
      rw [if_neg connected, if_pos disconnected, allMeaningful_devices_iff meaningful]
      constructor
      · rintro present _ ⟨request, member, same⟩
        exact (stays request member).mp (present request member) same
      · intro more request member
        exact (stays request member).mpr fun same => more disconnected ⟨request, member, same⟩
    · rw [if_neg connected, if_neg disconnected]
      exact iff_of_true meaningful fun same => absurd same disconnected

/-- A service more leaves all pointers as they were. -/
theorem allMeaningful_onAddService {server : GattServer} (meaningful : AllMeaningful server)
    (ret : Int32) (service : Service) : AllMeaningful (server.onAddService ret service) := by
  rw [GattServer.onAddService]
  split
  · rw [allMeaningful_services_iff meaningful]
    intro request member pointer context
    exact handleAt_append _ (meaningful.live member context)
  · exact meaningful

/-- After a service was removed, all pending requests mean something exactly if none of them
points into it. -/
theorem allMeaningful_remove_iff {server : GattServer} (meaningful : AllMeaningful server)
    (bleEnabled : Bool) (answer : Option Int32) (uuid : UUID) :
    AllMeaningful (server.removeGattService bleEnabled answer uuid).1 ↔
      LeavesNoneBehind server (.removeGattService bleEnabled answer uuid) := by
  rw [LeavesNoneBehind]
  cases bleEnabled with
  | false => exact iff_of_true meaningful nofun
  | true =>
    cases answer with
    | none => exact iff_of_true meaningful fun _ absent => absurd rfl absent
    | some result =>
      cases first : server.gattServices.first (fun svc => svc.uuid.equals uuid) with
      | none =>
        simp only [GattServer.removeGattService, first]
        exact iff_of_true meaningful nofun
      | some erased =>
        have erase (request) (member : request ∈ server.requests.elements) (pointer)
            (context : request.context = some pointer) :=
          handleAt_eraseFirst (fun svc : GattService => svc.uuid.equals uuid) (meaningful.live member context)
        simp only [GattServer.removeGattService, first]
        refine (allMeaningful_services_iff meaningful _).trans ?_
        constructor
        · intro stays _ _ other isErased request member pointer context
          exact (erase request member pointer context).mp (stays request member pointer context) other
            (first.trans isErased)
        · intro others request member pointer context
          refine (erase request member pointer context).mpr fun other isErased => ?_
          exact others trivial nofun other (first.symm.trans isErased) request member pointer context

/-- After the services were cleared, all pending requests mean something exactly if there were
none. -/
theorem allMeaningful_clear_iff {server : GattServer} (meaningful : AllMeaningful server)
    (bleEnabled : Bool) (answer : Option Int32) :
    AllMeaningful (server.clearServices bleEnabled answer).1 ↔
      LeavesNoneBehind server (.clearServices bleEnabled answer) := by
  rw [LeavesNoneBehind]
  cases bleEnabled with
  | false => exact iff_of_true meaningful nofun
  | true =>
    cases answer with
    | none => exact iff_of_true meaningful fun _ absent => absurd rfl absent
    | some result =>
      refine (allMeaningful_services_iff meaningful _).trans ?_
      constructor
      · intro stays _ _
        apply List.eq_nil_iff_forall_not_mem.mpr
        intro request member
        obtain ⟨-, pointer, context, -⟩ := meaningful request member
        have cleared := stays request member pointer context
        rw [handleAt_clear] at cleared
        cases cleared
      · intro empty request member
        rw [empty rfl nofun] at member
        cases member

/-- An event keeps the pending requests meaningful exactly when it leaves none behind. Requests
are left behind by a disconnection and by the removal of a service, as neither looks at them. -/
theorem allMeaningful_step_iff (server : GattServer) (event : ServerEvent) (next : GattServer)
    (meaningful : AllMeaningful server) (enabled : server.step event = some next) :
    AllMeaningful next ↔ LeavesNoneBehind server event := by
  cases event with
  | exchange exchange =>
    cases exchange with
    | request request =>
      obtain ⟨connected, handled⟩ := Option.ite_none_right_eq_some.mp enabled
      cases handled
      exact iff_of_true (allMeaningful_request request connected meaningful) trivial
    | sendResponse call =>
      cases enabled
      exact iff_of_true (allMeaningful_sendResponse call meaningful) trivial
  | onConnectionStateChanged device state =>
    cases enabled
    exact allMeaningful_connection_iff meaningful device state
  | onAddService ret service =>
    cases enabled
    exact iff_of_true (allMeaningful_onAddService meaningful ret service) trivial
  | removeGattService bleEnabled answer uuid =>
    cases enabled
    exact allMeaningful_remove_iff meaningful bleEnabled answer uuid
  | clearServices bleEnabled answer =>
    cases enabled
    exact allMeaningful_clear_iff meaningful bleEnabled answer

/-! ## Runs -/

/-- In every run from a server with nothing pending, all pending requests are meaningful
throughout exactly when no step leaves one behind; and then every response is read off a
meaningful request. -/
theorem pending_requests_meaningful_iff (services : ServiceList) (devices : List GattDevice)
    (hasCallback : Bool) (events : List ServerEvent) :
    (Always GattServer.step AllMeaningful (GattServer.start services devices hasCallback) events ↔
      Meets GattServer.step LeavesNoneBehind (GattServer.start services devices hasCallback) events) ∧
    (Always GattServer.step AllMeaningful (GattServer.start services devices hasCallback) events →
      Meets GattServer.step UsesMeaningful (GattServer.start services devices hasCallback) events) := by
  constructor
  · refine @always_iff_meets _ _ GattServer.step AllMeaningful (fun _ => True) LeavesNoneBehind
      (fun _ _ _ _ _ => trivial) ?_ _ _ trivial ?_
    · intro server event next _ meaningful enabled
      exact allMeaningful_step_iff server event next meaningful enabled
    · intro request member
      cases member
  · apply meets_of_always
    intro server event meaningful
    cases event with
    | exchange exchange =>
      cases exchange with
      | request => trivial
      | sendResponse call =>
        intro request found
        exact meaningful request (OrderedSet.find_mem found).1
    | _ => trivial

/-- A device asks to read a characteristic and disconnects before the application has
responded: the request stays. -/
theorem request_outlives_connection :
    ¬ ∀ events : List ServerEvent,
      Always GattServer.step AllMeaningful
        (GattServer.start thermometer [⟨gattTransportTypeLe, phone⟩] true) events := by
  intro always
  have run := always
    [.exchange (.request (.onCharacteristicReadRequest ⟨gattTransportTypeLe, phone⟩ 3)),
      .onConnectionStateChanged ⟨gattTransportTypeLe, phone⟩ btConnectStateDisconnected]
  have left := run.2.2 ⟨0, ⟨gattTransportTypeLe, phone⟩, some (.characteristic 0 0)⟩ (by decide)
  exact absurd left.1 (by decide)

end BluetoothFramework
