import BluetoothFramework.Gatt.Server

/-!
# Services on their way to the remote service and back

`AddService` copies a service of the application into the classes of the IPC layer. The
remote service gives it handles and reports it, and `OnAddService` copies it back. Both
copies are written field by field, and an included service travels as its handle.

`added_service_returns` says that nothing is lost on the way: what comes back is the
service of the application with the handles of the remote service.
-/

namespace BluetoothFramework

/-- `Uuid::ConvertFrom128Bits` -/
def Uuid.convertFrom128Bits (uuid : Vector UInt8 16) : Uuid where
  uuid := uuid

/-- `Descriptor(const Uuid &, uint16_t, int, const uint8_t *, size_t)` -/
def Descriptor.construct (uuid : Uuid) (handle : UInt16) (permissions : Int32)
    (value : ByteString) :
    Descriptor where
  handle := handle
  permissions := permissions
  value := if value.length ≠ 0 then value else []
  uuid := uuid

/-- `Characteristic(const Uuid &, uint16_t, int, int, const uint8_t *, size_t)` -/
def Characteristic.construct (uuid : Uuid) (handle : UInt16) (properties permissions : Int32)
    (value : ByteString) : Characteristic where
  handle := handle
  valueHandle := handle + 1
  properties := properties
  permissions := permissions
  value := if value.length ≠ 0 then value else []
  uuid := uuid

/-- `Service(uint16_t)` -/
def Service.construct (handle : UInt16) : Service where
  handle := handle
  startHandle := handle

/-- A descriptor as `AddService` sends it. -/
def GattDescriptor.sent (desc : GattDescriptor) : Descriptor :=
  .construct (.convertFrom128Bits desc.uuid.convertTo128Bits) desc.handle desc.permissions desc.value

/-- A characteristic as `AddService` sends it. -/
def GattCharacteristic.sent (character : GattCharacteristic) : Characteristic :=
  { Characteristic.construct (.convertFrom128Bits character.uuid.convertTo128Bits) character.handle
      character.properties character.permissions character.value with
    descriptors := character.descriptors.map GattDescriptor.sent }

/-- `isvc.get().GetHandle()`, for a service of the list or an object of the application
outside of it. -/
def includedHandle (services : ServiceList) (outside : Nat → UInt16) (isvc : Nat) : UInt16 :=
  ((services.follow isvc).map GattService.handle).getD (outside isvc)

/-- The service as `AddService` sends it. -/
def GattService.sent (service : GattService) (services : ServiceList) (outside : Nat → UInt16) :
    Service where
  isPrimary := service.isPrimary
  uuid := .convertFrom128Bits service.uuid.convertTo128Bits
  includeServices := service.includeServices.map fun isvc => .construct (includedHandle services outside isvc)
  characteristics := service.characteristics.map GattCharacteristic.sent

/-- `AddService`, with the answer of the remote service if there is a proxy, and what is sent
to it. -/
def GattServer.addService (server : GattServer) (service : GattService) (outside : Nat → UInt16)
    (bleEnabled : Bool) (answer : Option Int32) : Int32 × Option Service :=
  if !bleEnabled then (btErrInvalidState, none)
  else
    match answer with
    | none => (btErrInternalError, none)
    | some ret => (ret, some (service.sent server.gattServices outside))

/-! ## What the remote service assigns -/

/-- The remote service has given the descriptor a handle. -/
structure Descriptor.Assigned (sent received : Descriptor) : Prop where
  permissions : received.permissions = sent.permissions
  value : received.value = sent.value
  uuid : received.uuid = sent.uuid

/-- The remote service has given the characteristic and its descriptors handles. -/
structure Characteristic.Assigned (sent received : Characteristic) : Prop where
  properties : received.properties = sent.properties
  permissions : received.permissions = sent.permissions
  value : received.value = sent.value
  uuid : received.uuid = sent.uuid
  descriptors : List.Forall₂ Descriptor.Assigned sent.descriptors received.descriptors

/-- The remote service has given the service and its attributes handles. The services it
includes have theirs already. -/
structure Service.Assigned (sent received : Service) : Prop where
  isPrimary : received.isPrimary = sent.isPrimary
  uuid : received.uuid = sent.uuid
  includeServices : received.includeServices.map Service.startHandle =
    sent.includeServices.map Service.startHandle
  characteristics : List.Forall₂ Characteristic.Assigned sent.characteristics received.characteristics

/-- The descriptors differ in their handles at most. -/
structure GattDescriptor.Returned (given returned : GattDescriptor) : Prop where
  permissions : returned.permissions = given.permissions
  value : returned.value = given.value
  uuid : returned.uuid = given.uuid

/-- The characteristics differ in their handles and their write types at most. -/
structure GattCharacteristic.Returned (given returned : GattCharacteristic) : Prop where
  properties : returned.properties = given.properties
  permissions : returned.permissions = given.permissions
  value : returned.value = given.value
  uuid : returned.uuid = given.uuid
  descriptors : List.Forall₂ GattDescriptor.Returned given.descriptors returned.descriptors

/-- A service of the list has the handle. -/
def ServiceList.hasHandle (services : ServiceList) (handle : UInt16) : Bool :=
  services.entries.any fun svc => svc.2.handle = handle

/-- The services differ in their handles and write types at most. Both include services of
the same handles, in order, as far as the list has such services; and if its handles are
distinct, and no other object has one of them, these are the very same services. -/
structure GattService.Returned (services : ServiceList) (outside : Nat → UInt16)
    (given returned : GattService) :
    Prop where
  uuid : returned.uuid = given.uuid
  isPrimary : returned.isPrimary = given.isPrimary
  characteristics : List.Forall₂ GattCharacteristic.Returned given.characteristics returned.characteristics
  includedHandles : returned.includeServices.map (includedHandle services outside) =
    (given.includeServices.map (includedHandle services outside)).filter services.hasHandle
  includeServices : (services.entries.map fun svc => svc.2.handle).Nodup →
    (∀ isvc ∈ given.includeServices, services.follow isvc = none → services.hasHandle (outside isvc) = false) →
    returned.includeServices = given.includeServices.filter fun isvc => (services.follow isvc).isSome

/-! ## There and back -/

/-- A UUID that is converted to the class of the IPC layer and back is the same. -/
theorem UUID.convertFrom128Bits_sent (uuid : UUID) :
    UUID.convertFrom128Bits (Uuid.convertFrom128Bits uuid.convertTo128Bits).convertTo128Bits =
      uuid := by
  obtain ⟨bytes⟩ := uuid
  rw [UUID.convertFrom128Bits, Uuid.convertTo128Bits, Uuid.convertFrom128Bits, UUID.convertTo128Bits]
  refine congrArg UUID.mk (Vector.ext fun i inside => ?_)
  rw [Vector.getElem_ofFn]
  rfl

/-- A value that is taken over is the value, also where it is empty. -/
theorem value_construct (value : ByteString) :
    (if value.length ≠ 0 then value else []) = value := by
  cases value <;> rfl

/-- `SetValue` in a fresh object stores any value. -/
theorem GattDescriptor.value_build (desc : Descriptor) :
    (GattDescriptor.build desc).value = desc.value := by
  rw [build, setValue]
  split
  · rename_i empty
    exact (List.eq_nil_of_length_eq_zero empty).symm
  · rfl

/-- Building a descriptor takes over permissions and UUID. `SetValue` does not touch them. -/
theorem GattDescriptor.build_fields (desc : Descriptor) :
    (GattDescriptor.build desc).permissions = desc.permissions ∧
      (GattDescriptor.build desc).uuid = .convertFrom128Bits desc.uuid.convertTo128Bits := by
  rw [build, setValue]
  split <;> exact ⟨rfl, rfl⟩

/-- A characteristic that is built has the value of the one it is built from, also where that is
empty and `SetValue` returns early. -/
theorem GattCharacteristic.value_build (character : Characteristic) :
    (GattCharacteristic.build character).value = character.value := by
  rw [build, setValue]
  split
  · rename_i empty
    exact (List.eq_nil_of_length_eq_zero empty).symm
  · rfl

/-- Building a characteristic takes over properties, permissions and UUID. -/
theorem GattCharacteristic.build_fields (character : Characteristic) :
    (GattCharacteristic.build character).properties = character.properties ∧
      (GattCharacteristic.build character).permissions = character.permissions ∧
      (GattCharacteristic.build character).uuid =
        .convertFrom128Bits character.uuid.convertTo128Bits := by
  rw [build, setValue]
  split <;> exact ⟨rfl, rfl, rfl⟩

/-- A descriptor comes back as it was given. -/
theorem GattDescriptor.returned {given : GattDescriptor} {received : Descriptor}
    (assigned : given.sent.Assigned received) : given.Returned (.build received) := by
  obtain ⟨permissions, uuid⟩ := GattDescriptor.build_fields received
  refine ⟨permissions.trans assigned.permissions, ?_, ?_⟩
  · rw [GattDescriptor.value_build, assigned.value, sent, Descriptor.construct, value_construct]
  · rw [uuid, assigned.uuid]
    exact UUID.convertFrom128Bits_sent given.uuid

/-- A characteristic comes back as it was given: by induction over its descriptors, each of
which comes back at its place. -/
theorem GattCharacteristic.returned {given : GattCharacteristic} {received : Characteristic}
    (assigned : given.sent.Assigned received) : given.Returned (.build received) := by
  obtain ⟨properties, permissions, uuid⟩ := GattCharacteristic.build_fields received
  refine ⟨properties.trans assigned.properties, permissions.trans assigned.permissions, ?_, ?_, ?_⟩
  · rw [GattCharacteristic.value_build, assigned.value]
    exact value_construct given.value
  · rw [uuid, assigned.uuid]
    exact UUID.convertFrom128Bits_sent given.uuid
  · have descriptors : List.Forall₂ Descriptor.Assigned (given.descriptors.map GattDescriptor.sent)
        received.descriptors := assigned.descriptors
    rw [List.forall₂_map_left_iff] at descriptors
    have taken : (GattCharacteristic.build received).descriptors =
        received.descriptors.map GattDescriptor.build := rfl
    rw [taken, List.forall₂_map_right_iff]
    exact descriptors.imp fun _ _ => GattDescriptor.returned

/-! ## Included services -/

/-- A lookup by a handle leads to a service of that handle. -/
theorem getIncludeService_handle {services : ServiceList} {handle : UInt16} {isvc : Nat}
    (found : getIncludeService services handle = some isvc) :
    (services.follow isvc).map GattService.handle = some handle := by
  obtain ⟨entry, first, rfl⟩ := Option.map_eq_some_iff.mp found
  have member : entry ∈ services.entries := List.mem_of_find?_eq_some first
  have same : entry.2.handle = handle := by simpa using List.find?_some first
  rw [(services.follow_eq_some_iff entry.1 entry.2).mpr member]
  exact congrArg some same

/-- The lookup of an included service succeeds exactly if the list has the handle. -/
theorem getIncludeService_isSome (services : ServiceList) (handle : UInt16) :
    (getIncludeService services handle).isSome = services.hasHandle handle := by
  rw [getIncludeService, Option.isSome_map, Nodes.first, Bool.eq_iff_iff, List.find?_isSome,
    ServiceList.hasHandle, List.any_eq_true]

/-- Where handles are distinct, the lookup of a service's handle finds it. -/
theorem getIncludeService_of_follow {services : ServiceList}
    (distinct : (services.entries.map fun svc => svc.2.handle).Nodup) {isvc : Nat}
    {svc : GattService} (followed : services.follow isvc = some svc) :
      getIncludeService services svc.handle = some isvc := by
  have member : (isvc, svc) ∈ services.entries := (services.follow_eq_some_iff isvc svc).mp followed
  have known : services.hasHandle svc.handle = true :=
    List.any_eq_true.mpr ⟨(isvc, svc), member, decide_eq_true rfl⟩
  rw [← getIncludeService_isSome] at known
  obtain ⟨found, first⟩ := Option.isSome_iff_exists.mp known
  obtain ⟨entry, firstEntry, rfl⟩ := Option.map_eq_some_iff.mp first
  have same : entry.2.handle = svc.handle := by simpa using List.find?_some firstEntry
  have one := List.inj_on_of_nodup_map distinct (List.mem_of_find?_eq_some firstEntry) member same
  rw [first, one]

/-- The included services that are built are those of the handles that the list has. -/
theorem map_handle_built (services : ServiceList) (outside : Nat → UInt16) (handles : List UInt16) :
    (handles.filterMap (getIncludeService services)).map (includedHandle services outside) =
      handles.filter services.hasHandle := by
  induction handles with
  | nil => rfl
  | cons handle rest inductionHypothesis =>
    rw [List.filterMap_cons, List.filter_cons, ← getIncludeService_isSome]
    cases found : getIncludeService services handle with
    | none => exact inductionHypothesis
    | some isvc =>
      have same : includedHandle services outside isvc = handle := by
        rw [includedHandle, getIncludeService_handle found]
        rfl
      simp only [List.map_cons, Option.isSome_some, if_true, same, inductionHypothesis]

/-- Where handles are distinct, the included services of the list are found again. A service
outside of the list must not have a handle of one inside, or it would be taken for that one. -/
theorem filterMap_includedHandle {services : ServiceList} {outside : Nat → UInt16}
    (distinct : (services.entries.map fun svc => svc.2.handle).Nodup) {included : List Nat}
    (others : ∀ isvc ∈ included, services.follow isvc = none →
      services.hasHandle (outside isvc) = false) :
    (included.filterMap fun isvc => getIncludeService services (includedHandle services outside isvc)) =
      included.filter fun isvc => (services.follow isvc).isSome := by
  induction included with
  | nil => rfl
  | cons isvc rest inductionHypothesis =>
    have tail := inductionHypothesis fun other member => others other (List.mem_cons_of_mem _ member)
    rw [List.filterMap_cons, List.filter_cons, tail, includedHandle]
    cases followed : services.follow isvc with
    | some svc =>
      simp only [Option.map_some, Option.getD_some, getIncludeService_of_follow distinct followed,
        Option.isSome_some, if_true]
    | none =>
      have unknown := others isvc List.mem_cons_self followed
      rw [← getIncludeService_isSome, Option.isSome_eq_false_iff, Option.isNone_iff_eq_none] at unknown
      simp only [Option.map_none, Option.getD_none, unknown, Option.isSome_none, Bool.false_eq_true, if_false]

namespace GattServer

/-- `AddService` sends the copy of the service, and nothing else, exactly when Bluetooth is on
and there is a proxy. -/
theorem addService_sends_iff (server : GattServer) (service : GattService) (outside : Nat → UInt16)
    (bleEnabled : Bool) (answer : Option Int32) (sent : Service) :
    (server.addService service outside bleEnabled answer).2 = some sent ↔
      bleEnabled = true ∧ answer.isSome = true ∧
        service.sent server.gattServices outside = sent := by
  rw [addService.eq_def]
  cases bleEnabled with
  | false => simp
  | true => cases answer <;> simp

/-- **A service that is added comes back.** Whatever handles the remote service assigns, the
service that `OnAddService` builds from what `AddService` sent has the UUID and the type of
the one that was added, its characteristics and descriptors in order with their values, and
its included services as far as the list has them. -/
theorem added_service_returns (server : GattServer) (service : GattService) (outside : Nat → UInt16)
    (received : Service) (assigned : (service.sent server.gattServices outside).Assigned received) :
    service.Returned server.gattServices outside
      (buildIncludeService server.gattServices (buildService received) received.includeServices) := by
  have handles : received.includeServices.map Service.startHandle =
      service.includeServices.map (includedHandle server.gattServices outside) := by
    rw [assigned.includeServices, GattService.sent, List.map_map]
    rfl
  have included : (buildIncludeService server.gattServices (buildService received)
      received.includeServices).includeServices = (service.includeServices.map
        (includedHandle server.gattServices outside)).filterMap (getIncludeService server.gattServices) := by
    rw [← handles, List.filterMap_map]
    exact List.nil_append _
  refine ⟨?_, assigned.isPrimary, ?_, ?_, ?_⟩
  · have converted : (buildService received).uuid =
        .convertFrom128Bits received.uuid.convertTo128Bits := rfl
    rw [buildIncludeService, converted, assigned.uuid]
    exact UUID.convertFrom128Bits_sent service.uuid
  · have characteristics : List.Forall₂ Characteristic.Assigned
        (service.characteristics.map GattCharacteristic.sent) received.characteristics :=
      assigned.characteristics
    rw [List.forall₂_map_left_iff] at characteristics
    have taken : (buildIncludeService server.gattServices (buildService received)
      received.includeServices).characteristics =
        received.characteristics.map GattCharacteristic.build := rfl
    rw [taken, List.forall₂_map_right_iff]
    exact characteristics.imp fun _ _ => GattCharacteristic.returned
  · rw [included]
    exact map_handle_built server.gattServices outside _
  · intro distinct others
    rw [included, List.filterMap_map]
    exact filterMap_includedHandle distinct others

/-- A server with one more service, at the handle 7. -/
def withService (server : GattServer) : GattServer :=
  { server with gattServices := server.gattServices.append { handle := 7 } }

/-- A service that includes it, with an empty and a full value. -/
def includingService : GattService where
  includeServices := [0]
  characteristics := [{ value := [], descriptors := [{ value := [1, 2] }] }]

/-- It comes back from the handles 9 to 12. -/
theorem added_service_returns_numbered :
    includingService.Returned (withService {}).gattServices (fun _ => 0)
      (buildIncludeService (withService {}).gattServices
        (buildService
          { includingService.sent (withService {}).gattServices (fun _ => 0) with
            handle := 9, endHandle := 12 })
        (includingService.sent (withService {}).gattServices (fun _ => 0)).includeServices) :=
  added_service_returns (withService {}) includingService (fun _ => 0)
    { includingService.sent (withService {}).gattServices (fun _ => 0) with handle := 9, endHandle := 12 }
    ⟨rfl, rfl, rfl, .cons ⟨rfl, rfl, rfl, rfl, .cons ⟨rfl, rfl, rfl⟩ .nil⟩ .nil⟩

end GattServer
end BluetoothFramework
