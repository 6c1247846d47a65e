import BluetoothFramework.Library.Runs
import BluetoothFramework.CAdapter.GattServerChanges

/-!
# Slots of the GATT server

A server that is unregistered leaves its slot to the next one that registers, and whatever
is still in the slot with it: unregistering sets the pointer to null and nothing else.
`slots_clean_iff` says in which runs no slot without a server ever holds anything. A server
must have deleted its services and lost its devices before it is unregistered, no service
may be added to a slot without a server, and no device may connect to one.
-/

namespace BluetoothFramework.CAdapter.ServerSlots

open Runs SearchTree

/-- The slot of a server holds no service, no attribute and no device. -/
structure Empty (gatts : Gatts) (server : ServerId) : Prop where
  services : ∀ i, (gatts.gattServices server i).gattService = none
  attributes : ∀ i, (gatts.gattServices server i).attributes = []
  devices : ∀ record ∈ gatts.mapConnectedDevice.elements, record.device.serverId ≠ server

instance (gatts : Gatts) (server : ServerId) : Decidable (Empty gatts server) :=
  decidable_of_iff
    ((∀ i, (gatts.gattServices server i).gattService = none) ∧
      (∀ i, (gatts.gattServices server i).attributes = []) ∧
      ∀ record ∈ gatts.mapConnectedDevice.elements, record.device.serverId ≠ server)
    ⟨fun ⟨services, attributes, devices⟩ => ⟨services, attributes, devices⟩,
      fun ⟨services, attributes, devices⟩ => ⟨services, attributes, devices⟩⟩

/-- Slots without a server are empty. -/
def Clean (gatts : Gatts) : Prop :=
  ∀ server, gatts.gattServer server = false → Empty gatts server

instance (gatts : Gatts) : Decidable (Clean gatts) :=
  inferInstanceAs (Decidable (∀ _, _))

/-- A slot that gets a server is empty then, and the server can add a service. -/
def StartsClean (gatts : Gatts) (label : GattsLabel) : Prop :=
  ∀ server, gatts.gattServer server = false → (gatts.perform label).gatts.gattServer server = true →
    Empty (gatts.perform label).gatts server ∧
      ∀ (serverId : Int) (srvcUuid : ByteString) (isPrimary : Bool) (number : Int),
        serverAt serverId = some server → readUuid srvcUuid ≠ none →
          ((gatts.perform label).gatts.bleGattsAddService serverId srvcUuid isPrimary number).status = .success

/-- When a call leaves the slots clean: a server that is unregistered has nothing left, and
only slots with a server get a service or a device. A device gets no record if the next id
is in use. -/
def LeavesClean (gatts : Gatts) : GattsLabel → Prop
  | .bleGattsUnRegister serverId => ∀ server, serverAt serverId = some server → Empty gatts server
  | .bleGattsAddService serverId srvcUuid _ _ =>
      ∀ server, serverAt serverId = some server → readUuid srvcUuid ≠ none →
        gatts.gattServer server = true
  | .onConnectionStateUpdate device state =>
      state = btConnectStateConnected →
        gatts.gattsCallback.any BtGattServerCallbacks.connectServerCb = true →
        gatts.gattServer device.serverId = true ∨
          ∃ record ∈ gatts.mapConnectedDevice.elements, record.connId = gatts.connId
  | _ => True

/-- A slot stays empty where its services stay and no device is added. Devices may go, and those
of other servers may come. -/
theorem Empty.congr {gatts next : Gatts} {server : ServerId} (empty : Empty gatts server)
    (services : ∀ i, next.gattServices server i = gatts.gattServices server i)
    (devices : ∀ record ∈ next.mapConnectedDevice.elements,
      record ∈ gatts.mapConnectedDevice.elements ∨ record.device.serverId ≠ server) :
    Empty next server where
  services := by
    intro i
    rw [services]
    exact empty.services i
  attributes := by
    intro i
    rw [services]
    exact empty.attributes i
  devices := by
    intro record member
    exact (devices record member).elim (empty.devices record) id

/-- A write to a slot with a server leaves the others clean. -/
theorem clean_setServices {gatts : Gatts} (clean : Clean gatts) {server : ServerId}
    (registered : gatts.gattServer server = true) (i : ServiceIndex)
    (wrapper : GattServiceWrapper) :
    Clean (gatts.setServices server i wrapper) := by
  intro other free
  rw [Gatts.gattServer_setServices] at free
  have different : other ≠ server := by
    rintro rfl
    rw [registered] at free
    cases free
  refine (clean other free).congr ?_ fun record member => .inl member
  intro j
  simp [Gatts.gattServices_setServices, different]

/-- A service is only in a slot with a server. -/
theorem registered_of_service {gatts : Gatts} (clean : Clean gatts) {server : ServerId}
    {i : ServiceIndex}
    {service : GattService} (there : (gatts.gattServices server i).gattService = some service) :
    gatts.gattServer server = true := by
  by_contra free
  have gone := (clean server (Bool.eq_false_iff.mpr free)).services i
  rw [there] at gone
  cases gone

/-- Adding to a service that is there keeps the slots clean: nothing comes into a slot without
one. -/
theorem clean_addToService {gatts : Gatts} (clean : Clean gatts) {server : ServerId}
    {i : ServiceIndex}
    {service : GattService} (there : (gatts.gattServices server i).gattService = some service)
    (attrType : AttributeType) (uuid : UUID) (grown : UInt16 → GattService)
    (isSet : BtGattServerCallbacks → Bool) (call : UInt16 → Call) :
    Clean (gatts.addToService server i attrType uuid grown isSet call).gatts := by
  have registered := registered_of_service clean there
  have taken : Clean gatts.getNextAttributeHandle.2 := by
    intro other free
    exact (clean other free).congr (fun _ => rfl) fun record member => .inl member
  have still : (gatts.getNextAttributeHandle.2.setServices server i
      { gatts.getNextAttributeHandle.2.gattServices server i with
        gattService := some (grown gatts.getNextAttributeHandle.1) }).gattServer server = true := by
    rw [Gatts.gattServer_setServices]
    exact registered
  exact clean_setServices (clean_setServices taken registered i _) still i _

/-- Recording a device keeps the slots clean where its server is registered, or where the table
refuses the record because of its number. -/
theorem clean_addDeviceRecord {gatts : Gatts} (clean : Clean gatts) (device : ConnectedDevice)
    (good : gatts.gattServer device.serverId = true ∨
      ∃ record ∈ gatts.mapConnectedDevice.elements, record.connId = gatts.connId) :
    Clean (gatts.addDeviceRecord device).2 := by
  rw [Gatts.addDeviceRecord]
  split
  · exact clean
  · intro other free
    refine (clean other free).congr (fun _ => rfl) ?_
    intro record member
    rcases good with registered | ⟨taken, takenMember, same⟩
    · rcases OrderedSet.mem_of_mem_place member with rfl | before
      · right
        rintro rfl
        exact Bool.false_ne_true (free.symm.trans registered)
      · exact .inl before
    · -- The map keeps the record that has the id.
      have met : meetsKey lessConnId ⟨gatts.connId, device⟩ taken = true := by
        simp [meetsKey, lessConnId, same]
      left
      rwa [OrderedSet.emplace_met _ _ takenMember met] at member

/-- A call that meets the condition keeps the slots clean. The calls are taken in the few forms
in which they change the state, most of which touch only slots that have a server. -/
theorem clean_next {gatts next : Gatts} {label : GattsLabel} {status : BtStatus}
    (clean : Clean gatts)
    (change : gatts.Change label status next) (leaves : LeavesClean gatts label) : Clean next := by
  cases change with
  | unchanged _ _ _ => exact clean
  | callbacks func => exact fun server free => (clean server free).congr (fun _ => rfl) fun _ => .inl
  | registered i created free =>
    intro server stillFree
    rw [Gatts.gattServer_setServer] at stillFree
    have before : gatts.gattServer server = false := by
      split at stillFree
      · rename_i same
        exact same ▸ free
      · exact stillFree
    exact (clean server before).congr (fun _ => by simp) fun _ => .inl
  | unregistered named =>
    intro server nowFree
    rw [Gatts.gattServer_setServer] at nowFree
    have before : Empty gatts server := by
      split at nowFree
      · rename_i same
        exact same ▸ leaves _ named
      · exact clean server nowFree
    exact before.congr (fun _ => by simp) fun _ => .inl
  | serviceAdded named read empty free =>
    exact clean_setServices clean (leaves _ named (by simp [read])) _ _
  | characteristicAdded named indexed read bare there isSet call =>
    exact clean_addToService clean there _ _ _ _ _
  | descriptorAdded named indexed read same there last isSet call =>
    exact clean_addToService clean there _ _ _ _ _
  | started named indexed registered there => exact clean_setServices clean registered _ _
  | stopped named indexed registered => exact clean_setServices clean registered _ _
  | deleted named indexed registered => exact clean_setServices clean registered _ _
  | connected device isSet => exact clean_addDeviceRecord clean device (leaves rfl isSet)
  | disconnected device record found =>
    intro server free
    have before : gatts.gattServer server = false := by
      simpa [Gatts.gattServer] using free
    refine (clean server before).congr (fun i => by simp [Gatts.gattServices]) ?_
    intro other member
    exact .inl ((Gatts.mem_removeDeviceRecord (Gatts.mem_of_getConnIdByDeviceInfo found).1 other).mp member).2
  | resolved found =>
    have adding := List.find?_some found
    rw [Gatts.isAddingUuid] at adding
    split at adding
    · cases adding
    · rename_i service there
      exact clean_setServices clean (registered_of_service clean there) _ _

/-- Where unregistering a server leaves the slots clean, the slot was empty. The function takes
the server out of its slot and touches neither the services nor the devices. -/
theorem empty_of_unregistered {gatts : Gatts} {serverId : Int}
    (clean : Clean (gatts.bleGattsUnRegister serverId).gatts) {server : ServerId}
    (named : serverAt serverId = some server) : Empty gatts server := by
  have free : (gatts.bleGattsUnRegister serverId).gatts.gattServer server = false := by
    simp only [Gatts.bleGattsUnRegister, named]
    split
    · simp [Gatts.gattServer_setServer]
    · rename_i free
      exact Bool.eq_false_iff.mpr free
  refine (clean server free).congr ?_ ?_
  · intro i
    simp only [Gatts.bleGattsUnRegister, named]
    split <;> simp
  · intro record member
    left
    simp only [Gatts.bleGattsUnRegister, named]
    split <;> exact member

/-- A service can be added to an empty slot, to its first place. -/
theorem addService_empty {gatts : Gatts} {server : ServerId} (empty : Empty gatts server)
    {serverId : Int} {srvcUuid : ByteString} {uuid : UUID} (named : serverAt serverId = some server)
    (read : readUuid srvcUuid = some uuid) (isPrimary : Bool) (number : Int) :
    (gatts.bleGattsAddService serverId srvcUuid isPrimary number).status = .success ∧
      ((gatts.bleGattsAddService serverId srvcUuid isPrimary number).gatts.gattServices server 0).gattService ≠
        none ∧
      (gatts.bleGattsAddService serverId srvcUuid isPrimary number).gatts.gattServer server =
        gatts.gattServer server := by
  have first : (List.finRange maximumNumberGattservice).find?
      (fun i => (gatts.gattServices server i).gattService = none) = some 0 := by
    rw [List.finRange_succ, List.find?_cons_of_pos]
    exact decide_eq_true (empty.services 0)
  simp [Gatts.bleGattsAddService, named, read, first, Gatts.gattServices_setServices]

/-- Where adding a service leaves the slots clean, the slot had a server. -/
theorem registered_of_addService {gatts : Gatts} (clean : Clean gatts) {serverId : Int}
    {srvcUuid : ByteString} {isPrimary : Bool} {number : Int}
    (next : Clean (gatts.bleGattsAddService serverId srvcUuid isPrimary number).gatts)
    {server : ServerId}
    (named : serverAt serverId = some server) (valid : readUuid srvcUuid ≠ none) :
    gatts.gattServer server = true := by
  obtain ⟨uuid, read⟩ := Option.ne_none_iff_exists'.mp valid
  by_contra notRegistered
  have free := Bool.eq_false_iff.mpr notRegistered
  obtain ⟨_, there, same⟩ := addService_empty (clean server free) named read isPrimary number
  exact there ((next server (same.trans free)).services 0)

/-- Where a new connection leaves the slots clean, the slot has a server or the id is in
use. -/
theorem registered_of_connected {gatts : Gatts} (clean : Clean gatts) {device : ConnectedDevice}
    (isSet : gatts.gattsCallback.any BtGattServerCallbacks.connectServerCb = true)
    (next : Clean (gatts.onConnectionStateUpdate device btConnectStateConnected).gatts) :
    gatts.gattServer device.serverId = true ∨
      ∃ record ∈ gatts.mapConnectedDevice.elements, record.connId = gatts.connId := by
  by_contra neither
  rw [not_or, not_exists] at neither
  obtain ⟨notRegistered, unused⟩ := neither
  have free := Bool.eq_false_iff.mpr notRegistered
  have missing : gatts.getConnIdByDeviceInfo device = none := by
    rw [Gatts.getConnIdByDeviceInfo_eq_none_iff]
    intro record member same
    exact (clean _ free).devices record member (congrArg ConnectedDevice.serverId same)
  have added := (Gatts.mem_addDeviceRecord missing
    (fun record member same => unused record ⟨member, same⟩) _).mpr
    (.inl rfl)
  simp only [Gatts.onConnectionStateUpdate, if_true, isSet] at next
  have stillFree : (gatts.addDeviceRecord device).2.gattServer device.serverId = false := by
    simpa [Gatts.gattServer] using free
  exact (next _ stillFree).devices _ added rfl

/-- A call keeps the slots clean exactly if it meets the condition. -/
theorem clean_iff {gatts : Gatts} (clean : Clean gatts) (label : GattsLabel) :
    Clean (gatts.perform label).gatts ↔ LeavesClean gatts label := by
  constructor
  · intro next
    cases label with
    | bleGattsUnRegister serverId => exact fun server named => empty_of_unregistered next named
    | bleGattsAddService serverId srvcUuid isPrimary number =>
      exact fun server named valid => registered_of_addService clean next named valid
    | onConnectionStateUpdate device state =>
      rintro rfl isSet
      exact registered_of_connected clean isSet next
    | _ => trivial
  · exact clean_next clean (gatts.change_perform label)

/-- Only `BleGattsRegister` gives a slot a server, and it leaves the slot as it was. So a server
starts with whatever its slot held, and in a clean state that is nothing. -/
theorem startsClean {gatts : Gatts} (clean : Clean gatts) (label : GattsLabel) :
    StartsClean gatts label := by
  intro server free registered
  have empty : Empty (gatts.perform label).gatts server := by
    have change := gatts.change_perform label
    generalize (gatts.perform label).gatts = next at change registered ⊢
    generalize (gatts.perform label).status = status at change
    have unregistered (other : next.gattServer server = gatts.gattServer server) : Empty next server := by
      rw [other, free] at registered
      cases registered
    cases change with
    | registered i created _ => exact (clean server free).congr (fun _ => by simp) fun _ => .inl
    | unregistered named =>
      rw [Gatts.gattServer_setServer] at registered
      split at registered
      · cases registered
      · exact absurd registered (Bool.eq_false_iff.mp free)
    | unchanged _ _ _ => exact unregistered rfl
    | callbacks func => exact unregistered rfl
    | connected device isSet => exact unregistered (by simp [Gatts.gattServer])
    | disconnected device record found => exact unregistered (by simp [Gatts.gattServer])
    | _ => exact unregistered (by simp)
  refine ⟨empty, ?_⟩
  intro serverId srvcUuid isPrimary number named valid
  obtain ⟨uuid, read⟩ := Option.ne_none_iff_exists'.mp valid
  exact (addService_empty empty named read isPrimary number).1

/-- Slots without a server are empty all along a run, and every server starts in an empty one,
exactly if every call leaves the slots clean. The second half needs no condition of its own, as a
server is only ever put into a slot without one. -/
theorem slots_clean_iff (labels : List GattsLabel) :
    Always Gatts.step Clean {} labels ∧ Meets Gatts.step StartsClean {} labels ↔
      Meets Gatts.step LeavesClean {} labels := by
  apply @always_good_iff_meets _ _ Gatts.step Clean (fun _ => True)
  · intro gatts label next _ _
    trivial
  · intro gatts label next _ clean taken
    rw [← Option.some.inj taken, and_iff_left (startsClean clean label)]
    exact clean_iff clean label
  · trivial
  · intro server _
    exact ⟨fun _ => rfl, fun _ => rfl, by simp⟩

/-- A server is unregistered with a service left. -/
def leftover : List GattsLabel :=
  [.bleGattsRegisterCallbacks (some {}), .bleGattsRegister true,
    .bleGattsAddService 0 (UUID.toString {}) true 4, .bleGattsUnRegister 0]

/-- The service is still there for the next server. -/
theorem service_left_behind : ¬ Always Gatts.step Clean {} leftover := by
  decide +kernel

end BluetoothFramework.CAdapter.ServerSlots
