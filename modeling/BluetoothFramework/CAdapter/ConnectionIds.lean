import BluetoothFramework.Library.Runs
import BluetoothFramework.CAdapter.GattServerChanges

/-!
# Connection ids of the GATT server

A device that connects to a server gets an id, and the application names the device by it
from then on. `Watched` keeps account of what the adapter has been told and has given out,
and `connection_ids_iff` compares the two: the map tells the truth, and only connected
devices are addressed, in exactly the runs where every update finds its callback set, the
counter has not come back to an id of another device, and the application sends to no id of
a device that is connected to another server only.
-/

namespace BluetoothFramework.CAdapter

open Runs SearchTree

/-- The server and the device that a call addresses. -/
def Call.addressed : Call → Option (ServerId × BluetoothRemoteDevice)
  | .sendResponse serverId device _ _ _ => some (serverId, device)
  | .notifyCharacteristicChanged serverId device _ _ => some (serverId, device)
  | _ => none

/-- The id that a call gives to a device. -/
def Call.given : Call → Option DeviceRecord
  | .connectServerCb record => some record
  | _ => none

namespace ConnectionIds

/-- The adapter, the devices of which the last update was `CONNECTED`, and all ids that have
been given. -/
structure Watched where
  gatts : Gatts := {}
  connected : List ConnectedDevice := []
  given : List DeviceRecord := []

namespace Watched

/-- The records of the map. -/
def records (watched : Watched) : List DeviceRecord :=
  watched.gatts.mapConnectedDevice.elements

/-- The devices that are connected after an update. -/
def updated (watched : Watched) (device : ConnectedDevice) (state : Int32) : List ConnectedDevice :=
  if state = btConnectStateConnected then device :: watched.connected
  else if state = btConnectStateDisconnected then watched.connected.filter (· ≠ device)
  else watched.connected

/-- A call, and what it adds to the account. -/
def next (watched : Watched) (label : GattsLabel) : Watched :=
  let outcome := watched.gatts.perform label
  match label with
  | .onConnectionStateUpdate device state =>
      { gatts := outcome.gatts
        connected := watched.updated device state
        given := watched.given ++ outcome.calls.filterMap Call.given }
  | _ => { watched with gatts := outcome.gatts }

def step (watched : Watched) (label : GattsLabel) : Option Watched :=
  some (watched.next label)

end Watched

/-! ## The law -/

/-- The map has one id for each device that is connected, and no id was ever given to two
devices. -/
structure Faithful (watched : Watched) : Prop where
  distinct : ∀ first ∈ watched.records, ∀ second ∈ watched.records,
    first.connId = second.connId ↔ first.device = second.device
  recorded : ∀ device ∈ watched.connected, ∃ record ∈ watched.records, record.device = device
  current : ∀ record ∈ watched.records, record.device ∈ watched.connected
  owned : ∀ first ∈ watched.given, ∀ second ∈ watched.given,
    first.connId = second.connId → first.device = second.device

instance (watched : Watched) : Decidable (Faithful watched) :=
  decidable_of_iff
    ((∀ first ∈ watched.records, ∀ second ∈ watched.records,
        first.connId = second.connId ↔ first.device = second.device) ∧
      (∀ device ∈ watched.connected, ∃ record ∈ watched.records, record.device = device) ∧
      (∀ record ∈ watched.records, record.device ∈ watched.connected) ∧
      ∀ first ∈ watched.given, ∀ second ∈ watched.given,
        first.connId = second.connId → first.device = second.device)
    ⟨fun ⟨distinct, recorded, current, owned⟩ => ⟨distinct, recorded, current, owned⟩,
      fun ⟨distinct, recorded, current, owned⟩ => ⟨distinct, recorded, current, owned⟩⟩

/-- Whom a call addresses is connected to the server that addresses it. -/
def AddressesConnected (watched : Watched) (label : GattsLabel) : Prop :=
  ∀ target ∈ (watched.gatts.perform label).calls.filterMap Call.addressed,
    ∃ device ∈ watched.connected, device.serverId = target.1 ∧ device.remoteDevice = target.2

instance (watched : Watched) (label : GattsLabel) : Decidable (AddressesConnected watched label) :=
  inferInstanceAs (Decidable (∀ _ ∈ _, _))

/-- The device with the id is connected to the server. -/
def OwnDevice (watched : Watched) (server : ServerId) (connectId : Int32) : Prop :=
  ∀ record ∈ watched.records, record.connId = connectId →
    ⟨server, record.device.remoteAddr⟩ ∈ watched.connected

/-- The callback for a new connection is set, and the next id was given to no other device. -/
def CanRecord (watched : Watched) (device : ConnectedDevice) : Prop :=
  watched.gatts.gattsCallback.any BtGattServerCallbacks.connectServerCb = true ∧
    ∀ record ∈ watched.given, record.connId = watched.gatts.connId → record.device = device

/-- The server has an attribute with the handle. -/
def HasHandle (gatts : Gatts) (server : ServerId) (handle : Int32) : Prop :=
  ∃ i, ∃ attr ∈ (gatts.gattServices server i).attributes, (attr.handle.toNat : Int) = handle.toInt

/-- When a call does right: the update of a new connection can be recorded, that of an old
one finds its callback set, and what is sent is sent to a device of the server. -/
def Correct (watched : Watched) : GattsLabel → Prop
  | .onConnectionStateUpdate device state =>
      (state = btConnectStateConnected → device ∈ watched.connected ∨ CanRecord watched device) ∧
        (state = btConnectStateDisconnected → device ∉ watched.connected ∨
          watched.gatts.gattsCallback.any BtGattServerCallbacks.disconnectServerCb = true)
  | .bleGattsSendResponse serverId (some param) _ =>
      ∀ server, serverAt serverId = some server → watched.gatts.gattServer server = true →
        OwnDevice watched server param.connectId
  | .bleGattsSendIndication serverId (some param) =>
      ∀ server, serverAt serverId = some server → watched.gatts.gattServer server = true →
        HasHandle watched.gatts server param.attrHandle → OwnDevice watched server param.connectId
  | _ => True

/-! ## What is sent -/

/-- A notification that goes to every server is addressed to no connection, if the call has no
address. -/
theorem addressed_notify (gatts : Gatts) (isSet : BtGattServerCallbacks → Bool) {call : Call}
    (silent : call.addressed = none) : (gatts.notify isSet call).filterMap Call.addressed = [] := by
  rw [Gatts.notify]
  split
  · simp [silent]
  · rfl

/-- A request that a device makes is addressed to no connection, if the call has no address. The
record of the device only supplies the id it is made with. -/
theorem addressed_requested (gatts : Gatts) (device : ConnectedDevice) (actualHandle : UInt16)
    (isSet : BtGattServerCallbacks → Bool) {call : DeviceRecord → UInt16 → Call}
    (silent : ∀ record handle, (call record handle).addressed = none) :
    (gatts.requested device actualHandle isSet call).calls.filterMap Call.addressed = [] := by
  rw [Gatts.requested]
  split
  · exact addressed_notify gatts isSet (silent _ _)
  · rfl

/-- A label of a function that sends. -/
def Sends : GattsLabel → Prop
  | .bleGattsSendResponse _ _ _ => True
  | .bleGattsSendIndication _ _ => True
  | _ => False

/-- The other functions address nobody. They call the application or change the attributes, and
only sending a response or an indication names a device. -/
theorem addressed_other (gatts : Gatts) (label : GattsLabel) (other : ¬ Sends label) :
    (gatts.perform label).calls.filterMap Call.addressed = [] := by
  cases label with
  | bleGattsRegisterCallbacks func => cases func <;> rfl
  | bleGattsRegister created =>
    rw [Gatts.perform, Gatts.bleGattsRegister]
    split
    · rfl
    · split <;> exact addressed_notify gatts _ rfl
  | bleGattsUnRegister serverId =>
    rw [Gatts.perform, Gatts.bleGattsUnRegister]
    split
    · rfl
    · split <;> rfl
  | bleGattsAddService serverId srvcUuid isPrimary number =>
    simp only [Gatts.perform, Gatts.bleGattsAddService]
    split
    · split
      · rfl
      · exact addressed_notify gatts _ rfl
    · rfl
  | bleGattsAddCharacteristic serverId srvcHandle characUuid properties permissions =>
    simp only [Gatts.perform, Gatts.bleGattsAddCharacteristic]
    split
    · split
      · rfl
      · exact addressed_notify gatts _ rfl
    · rfl
  | bleGattsAddDescriptor serverId srvcHandle descUuid permissions =>
    simp only [Gatts.perform, Gatts.bleGattsAddDescriptor]
    split
    · split
      · rfl
      · split
        · rfl
        · exact addressed_notify gatts _ rfl
    · rfl
  | bleGattsStartService serverId srvcHandle =>
    apply Gatts.withService_cases (motive := fun outcome => outcome.calls.filterMap Call.addressed = [])
    · intro status _
      rfl
    · intro server i service named indexed registered there
      rfl
  | bleGattsStopService serverId srvcHandle =>
    apply Gatts.withService_cases (motive := fun outcome => outcome.calls.filterMap Call.addressed = [])
    · intro status _
      rfl
    · intro server i service named indexed registered there
      exact addressed_notify gatts _ rfl
  | bleGattsDeleteService serverId srvcHandle =>
    apply Gatts.withService_cases (motive := fun outcome => outcome.calls.filterMap Call.addressed = [])
    · intro status _
      rfl
    · intro server i service named indexed registered there
      exact addressed_notify gatts _ rfl
  | bleGattsSendResponse serverId param ret => exact absurd trivial other
  | bleGattsSendIndication serverId param => exact absurd trivial other
  | onConnectionStateUpdate device state =>
    rw [Gatts.perform, Gatts.onConnectionStateUpdate]
    repeat (split <;> try rfl)
  | onServiceAdded server service ret =>
    rw [Gatts.perform, Gatts.onServiceAdded]
    repeat (split <;> try rfl)
  | onCharacteristicReadRequest device characteristic requestId =>
    exact addressed_requested gatts device _ _ fun _ _ => rfl
  | onCharacteristicWriteRequest device characteristic requestId =>
    exact addressed_requested gatts device _ _ fun _ _ => rfl
  | onDescriptorReadRequest device descriptor requestId =>
    exact addressed_requested gatts device _ _ fun _ _ => rfl
  | onDescriptorWriteRequest device descriptor requestId =>
    exact addressed_requested gatts device _ _ fun _ _ => rfl
  | onMtuUpdate device mtu =>
    rw [Gatts.perform, Gatts.onMtuUpdate]
    split
    · exact addressed_notify gatts _ rfl
    · rfl
  | onNotificationCharacteristicChanged device result =>
    rw [Gatts.perform, Gatts.onNotificationCharacteristicChanged]
    split
    · exact addressed_notify gatts _ rfl
    · rfl

/-- A device of the server is sent to like this one exactly if it has the address. -/
theorem connected_alike_iff (watched : Watched) (server : ServerId) (addressee : ConnectedDevice) :
    (∃ device ∈ watched.connected, device.serverId = server ∧
      device.remoteDevice = addressee.remoteDevice) ↔
      ⟨server, addressee.remoteAddr⟩ ∈ watched.connected := by
  constructor
  · rintro ⟨device, member, rfl, alike⟩
    rwa [← ConnectedDevice.remoteAddr_eq alike]
  · intro member
    exact ⟨_, member, rfl, rfl⟩

/-- Sending to the device with an id is right if the device is connected to the server. -/
theorem ownDevice_iff (watched : Watched) (server : ServerId) (connectId : Int32) :
    OwnDevice watched server connectId ↔
      ∀ record, watched.gatts.getDeviceInfoByConnId connectId = some record →
        ∃ device ∈ watched.connected, device.serverId = server ∧
          device.remoteDevice = record.device.remoteDevice := by
  constructor
  · intro own record found
    obtain ⟨member, same⟩ := (watched.gatts.getDeviceInfoByConnId_eq_some_iff _ _).mp found
    exact (connected_alike_iff watched server record.device).mpr (own record member same)
  · intro right record member same
    have found := (watched.gatts.getDeviceInfoByConnId_eq_some_iff _ _).mpr ⟨member, same⟩
    exact (connected_alike_iff watched server record.device).mp (right record found)

/-- A response goes to a connected device exactly if the id that it names is in force. The id is
looked up among the records, not among the connections. -/
theorem addresses_response_iff (watched : Watched) (serverId : Int)
    (param : Option GattsSendRspParam)
    (ret : Int32) : AddressesConnected watched (.bleGattsSendResponse serverId param ret) ↔
      Correct watched (.bleGattsSendResponse serverId param ret) := by
  cases param with
  | none => simp [AddressesConnected, Correct, Gatts.perform, Gatts.bleGattsSendResponse]
  | some param =>
    simp only [AddressesConnected, Correct, Gatts.perform, Gatts.bleGattsSendResponse, ownDevice_iff]
    have silent := @addressed_notify watched.gatts BtGattServerCallbacks.responseConfirmationCb
      (.responseConfirmationCb ret param.attrHandle) rfl
    cases named : serverAt serverId with
    | none => simp
    | some server =>
      cases registered : watched.gatts.gattServer server with
      | false => simp [registered]
      | true =>
        cases found : watched.gatts.getDeviceInfoByConnId param.connectId with
        | none => simp [registered, found]
        | some record =>
          simp only [registered, found, if_true, List.filterMap_cons, silent, Call.addressed]
          simp [registered]

/-- `HasHandle` is what the search for the handle finds out. -/
theorem hasHandle_iff (gatts : Gatts) (server : ServerId) (handle : Int32) :
    HasHandle gatts server handle ↔
      ∃ attr, gatts.getAttributeWithHandle server handle = some attr := by
  rw [← Option.ne_none_iff_exists', Gatts.getAttributeWithHandle, Ne, Gatts.getAttributeOfServer_eq_none_iff]
  simp [HasHandle]

/-- An indication goes to a connected device exactly if the id that it names is in force, as for
a response. -/
theorem addresses_indication_iff (watched : Watched) (serverId : Int)
    (param : Option GattsSendIndParam) :
    AddressesConnected watched (.bleGattsSendIndication serverId param) ↔
      Correct watched (.bleGattsSendIndication serverId param) := by
  cases param with
  | none => simp [AddressesConnected, Correct, Gatts.perform, Gatts.bleGattsSendIndication]
  | some param =>
    simp only [AddressesConnected, Correct, Gatts.perform, Gatts.bleGattsSendIndication, ownDevice_iff,
      hasHandle_iff]
    cases named : serverAt serverId with
    | none => simp
    | some server =>
      cases found : watched.gatts.getDeviceInfoByConnId param.connectId with
      | none => simp [found]
      | some record =>
        cases held : watched.gatts.getAttributeWithHandle server param.attrHandle with
        | none => simp [found, held]
        | some attr =>
          cases registered : watched.gatts.gattServer server with
          | false => simp [found, held, registered]
          | true => simp [found, held, registered, Call.addressed]

/-! ## Updates -/

/-- What is recorded has been given, and so many ids have been given. -/
structure Counted (count : Nat) (watched : Watched) : Prop where
  connId : watched.gatts.connId = Int32.ofNat count
  recorded : ∀ record ∈ watched.records, record ∈ watched.given
  given : ∀ record ∈ watched.given, ∃ earlier < count, record.connId = Int32.ofNat earlier

/-- A device that connects is connected, and the others stay as they are. -/
theorem mem_updated_connected (watched : Watched) (device other : ConnectedDevice) :
    other ∈ watched.updated device btConnectStateConnected ↔
      other = device ∨ other ∈ watched.connected := by
  simp [Watched.updated]

/-- A device that disconnects is not connected, and the others stay as they are. -/
theorem mem_updated_disconnected (watched : Watched) (device other : ConnectedDevice) :
    other ∈ watched.updated device btConnectStateDisconnected ↔
      other ∈ watched.connected ∧ other ≠ device := by
  have different : btConnectStateDisconnected ≠ btConnectStateConnected := by decide
  simp [Watched.updated, different]

/-- A device that is connected is found, and no other. -/
theorem found_iff {watched : Watched} (faithful : Faithful watched) (device : ConnectedDevice) :
    (∃ record, watched.gatts.getConnIdByDeviceInfo device = some record) ↔
      device ∈ watched.connected := by
  constructor
  · rintro ⟨record, found⟩
    obtain ⟨member, same⟩ := Gatts.mem_of_getConnIdByDeviceInfo found
    exact same ▸ faithful.current record member
  · intro connected
    obtain ⟨record, member, same⟩ := faithful.recorded device connected
    rw [← Option.ne_none_iff_exists', Ne, Gatts.getConnIdByDeviceInfo_eq_none_iff]
    intro missing
    exact missing record member same

/-- Where the map stays as it is, the connected devices must. An update that cannot be recorded
changes the devices and not the map, which is how the two come apart. -/
theorem faithful_same_iff {watched next : Watched} (faithful : Faithful watched)
    (records : next.records = watched.records)
    (given : ∀ record, record ∈ next.given ↔ record ∈ watched.given) :
    Faithful next ↔ ∀ device, device ∈ next.connected ↔ device ∈ watched.connected := by
  constructor
  · intro nextFaithful device
    constructor
    · intro connected
      obtain ⟨record, member, rfl⟩ := nextFaithful.recorded device connected
      exact faithful.current record (records ▸ member)
    · intro connected
      obtain ⟨record, member, rfl⟩ := faithful.recorded device connected
      exact nextFaithful.current record (records ▸ member)
  · intro same
    refine ⟨records ▸ faithful.distinct, ?_, ?_, ?_⟩
    · intro device connected
      rw [records]
      exact faithful.recorded device ((same device).mp connected)
    · rw [records]
      intro record member
      exact (same _).mpr (faithful.current record member)
    · intro first member second other
      exact faithful.owned first ((given first).mp member) second ((given second).mp other)

/-- A new connection is recorded faithfully if no other device was given its id. The counter of
the ids wraps around, so that an id may come a second time. -/
theorem faithful_new_iff {watched : Watched} (faithful : Faithful watched)
    (given : ∀ record ∈ watched.records, record ∈ watched.given) {device : ConnectedDevice}
    (missing : watched.gatts.getConnIdByDeviceInfo device = none) :
    Faithful
      { gatts := (watched.gatts.addDeviceRecord device).2
        connected := watched.updated device btConnectStateConnected
        given := watched.given ++ [⟨watched.gatts.connId, device⟩] } ↔
      ∀ record ∈ watched.given, record.connId = watched.gatts.connId → record.device = device := by
  constructor
  · intro next record member same
    exact next.owned record (by simp [member]) ⟨watched.gatts.connId, device⟩ (by simp) same
  · intro fresh
    have absent := (watched.gatts.getConnIdByDeviceInfo_eq_none_iff device).mp missing
    have unused : ∀ record ∈ watched.records, record.connId ≠ watched.gatts.connId := by
      intro record member same
      exact absent record member (fresh record (given record member) same)
    have mem := Gatts.mem_addDeviceRecord missing unused
    refine ⟨?_, ?_, ?_, ?_⟩
    · intro first member second other
      rcases (mem first).mp member with rfl | firstOld
      · rcases (mem second).mp other with rfl | secondOld
        · exact iff_of_true rfl rfl
        · exact iff_of_false (fun same => unused second secondOld same.symm)
            (fun same => absent second secondOld same.symm)
      · rcases (mem second).mp other with rfl | secondOld
        · exact iff_of_false (unused first firstOld) (absent first firstOld)
        · exact faithful.distinct first firstOld second secondOld
    · intro other member
      rcases (mem_updated_connected watched device other).mp member with rfl | before
      · exact ⟨_, (mem _).mpr (.inl rfl), rfl⟩
      · obtain ⟨record, old, same⟩ := faithful.recorded other before
        exact ⟨record, (mem record).mpr (.inr old), same⟩
    · intro record member
      apply (mem_updated_connected watched device _).mpr
      rcases (mem record).mp member with rfl | old
      · exact .inl rfl
      · exact .inr (faithful.current record old)
    · intro first member second other same
      simp only [List.mem_append, List.mem_singleton] at member other
      rcases member with firstOld | rfl
      · rcases other with secondOld | rfl
        · exact faithful.owned first firstOld second secondOld same
        · exact fresh first firstOld same
      · rcases other with secondOld | rfl
        · exact (fresh second secondOld same.symm).symm
        · rfl

/-- A connection that ends is forgotten. Its id was that of one record alone, so no other device
loses its record with it. -/
theorem faithful_removed {watched : Watched} (faithful : Faithful watched)
    {device : ConnectedDevice}
    {record : DeviceRecord} (found : watched.gatts.getConnIdByDeviceInfo device = some record) :
    Faithful
      { gatts := watched.gatts.removeDeviceRecord record.connId
        connected := watched.updated device btConnectStateDisconnected
        given := watched.given } := by
  obtain ⟨member, same⟩ := Gatts.mem_of_getConnIdByDeviceInfo found
  have mem := Gatts.mem_removeDeviceRecord member
  refine ⟨?_, ?_, ?_, ?_⟩
  · intro first firstMember second secondMember
    exact faithful.distinct first ((mem first).mp firstMember).2 second ((mem second).mp secondMember).2
  · intro other connected
    obtain ⟨before, different⟩ := (mem_updated_disconnected watched device other).mp connected
    obtain ⟨old, oldMember, oldSame⟩ := faithful.recorded other before
    refine ⟨old, (mem old).mpr ⟨?_, oldMember⟩, oldSame⟩
    rintro rfl
    exact different (oldSame.symm.trans same)
  · intro old oldMember
    obtain ⟨different, before⟩ := (mem old).mp oldMember
    refine (mem_updated_disconnected watched device _).mpr ⟨faithful.current old before, ?_⟩
    intro sameDevice
    exact different (Gatts.eq_of_connId before member
      ((faithful.distinct old before record member).mpr (sameDevice.trans same.symm)))
  · exact faithful.owned

/-- After a connection the ids are faithful exactly if the device was connected already or there
was room for its record. Without a record it is connected and has no id. -/
theorem connected_iff {watched : Watched} (faithful : Faithful watched)
    (given : ∀ record ∈ watched.records, record ∈ watched.given) (device : ConnectedDevice) :
    Faithful (watched.next (.onConnectionStateUpdate device btConnectStateConnected)) ↔
      device ∈ watched.connected ∨ CanRecord watched device := by
  simp only [Watched.next, Gatts.perform, Gatts.onConnectionStateUpdate, if_true, CanRecord]
  have joined (connected : device ∈ watched.connected) (other : ConnectedDevice) :
      other ∈ watched.updated device btConnectStateConnected ↔ other ∈ watched.connected := by
    rw [mem_updated_connected, or_iff_right_of_imp]
    rintro rfl
    exact connected
  by_cases isSet : watched.gatts.gattsCallback.any BtGattServerCallbacks.connectServerCb = true
  · simp only [isSet, if_true, true_and]
    cases found : watched.gatts.getConnIdByDeviceInfo device with
    | some record =>
      obtain ⟨member, same⟩ := Gatts.mem_of_getConnIdByDeviceInfo found
      have connected : device ∈ watched.connected := same ▸ faithful.current record member
      have added : watched.gatts.addDeviceRecord device = (record.connId, watched.gatts) := by
        simp [Gatts.addDeviceRecord, found]
      rw [added, ← same]
      refine iff_of_true ((faithful_same_iff faithful ?_ ?_).mpr ?_) (.inl (same ▸ connected))
      · rfl
      · intro other
        have known : other = record → other ∈ watched.given := fun equal => equal ▸ given record member
        simpa [Call.given] using known
      · exact same ▸ joined connected
    | none =>
      have unconnected : device ∉ watched.connected := by
        rw [← found_iff faithful, found]
        simp
      have added : (watched.gatts.addDeviceRecord device).1 = watched.gatts.connId := by
        simp [Gatts.addDeviceRecord, found]
      rw [or_iff_right unconnected, ← faithful_new_iff faithful given found, added]
      rfl
  · simp only [isSet, Bool.false_eq_true, if_false, false_and, or_false]
    refine (faithful_same_iff faithful ?_ ?_).trans ?_
    · rfl
    · simp
    · constructor
      · intro same
        exact (same device).mp ((mem_updated_connected _ _ _).mpr (.inl rfl))
      · exact joined

/-- After a disconnection the ids are faithful exactly if the device was not connected, or there
is an application whose callback makes the code remove the record. -/
theorem disconnected_iff {watched : Watched} (faithful : Faithful watched)
    (device : ConnectedDevice) :
    Faithful (watched.next (.onConnectionStateUpdate device btConnectStateDisconnected)) ↔
      device ∉ watched.connected ∨
        watched.gatts.gattsCallback.any BtGattServerCallbacks.disconnectServerCb = true := by
  have different : btConnectStateDisconnected ≠ btConnectStateConnected := by decide
  have unaffected (next : Watched) (records : next.records = watched.records)
    (given : next.given = watched.given)
      (updated : next.connected = watched.updated device btConnectStateDisconnected) :
      Faithful next ↔ device ∉ watched.connected := by
    rw [faithful_same_iff faithful records (by simp [given]), updated]
    constructor
    · intro same connected
      exact ((mem_updated_disconnected _ _ _).mp ((same device).mpr connected)).2 rfl
    · intro unconnected other
      rw [mem_updated_disconnected, and_iff_left_of_imp]
      rintro connected rfl
      exact unconnected connected
  simp only [Watched.next, Gatts.perform, Gatts.onConnectionStateUpdate, different, if_false, if_true]
  by_cases isSet : watched.gatts.gattsCallback.any BtGattServerCallbacks.disconnectServerCb = true
  · refine iff_of_true ?_ (.inr isSet)
    simp only [isSet, if_true]
    cases found : watched.gatts.getConnIdByDeviceInfo device with
    | some record =>
      have removed := faithful_removed faithful found
      rwa [← List.append_nil watched.given] at removed
    | none =>
      have unconnected : device ∉ watched.connected := by
        rw [← found_iff faithful, found]
        simp
      apply (unaffected _ _ _ _).mpr unconnected
      · rfl
      · simp
      · rfl
  · simp only [isSet, Bool.false_eq_true, if_false, or_false]
    apply unaffected
    · rfl
    · simp
    · rfl

/-- An update of a connection keeps the ids faithful exactly if it is a correct one. The two
states have a lemma each; the others change nothing. -/
theorem update_iff {watched : Watched} (faithful : Faithful watched)
    (given : ∀ record ∈ watched.records, record ∈ watched.given) (device : ConnectedDevice)
    (state : Int32) :
    Faithful (watched.next (.onConnectionStateUpdate device state)) ↔
      Correct watched (.onConnectionStateUpdate device state) := by
  have different : btConnectStateDisconnected ≠ btConnectStateConnected := by decide
  by_cases connected : state = btConnectStateConnected
  · subst connected
    simp [connected_iff faithful given, Correct, different.symm]
  · by_cases disconnected : state = btConnectStateDisconnected
    · subst disconnected
      simp [disconnected_iff faithful, Correct, different]
    · refine iff_of_true ?_ ⟨fun equal => absurd equal connected, fun equal => absurd equal disconnected⟩
      have unchanged : watched.next (.onConnectionStateUpdate device state) = watched := by
        simp [Watched.next, Gatts.perform, Gatts.onConnectionStateUpdate, connected, disconnected,
          Watched.updated]
      rwa [unchanged]

/-! ## Runs -/

/-- Other calls leave the account and the map alone. Only the update of a connection adds a
record, removes one or gives an id. -/
theorem next_other (watched : Watched) {label : GattsLabel}
    (other : ∀ device state, label ≠ .onConnectionStateUpdate device state) :
    (watched.next label).records = watched.records ∧
      (watched.next label).connected = watched.connected ∧
      (watched.next label).given = watched.given ∧
      (watched.next label).gatts.connId = watched.gatts.connId := by
  obtain ⟨map, connId⟩ := (watched.gatts.change_perform label).connections other
  have gatts : (watched.next label).gatts = (watched.gatts.perform label).gatts := by
    cases label <;> rfl
  refine ⟨?_, ?_, ?_, gatts ▸ connId⟩
  · rw [Watched.records, gatts, map]
    rfl
  · cases label with
    | onConnectionStateUpdate device state => exact absurd rfl (other device state)
    | _ => rfl
  · cases label with
    | onConnectionStateUpdate device state => exact absurd rfl (other device state)
    | _ => rfl

/-- A record more uses up one number at most. A device that has a record already keeps it, and
the counter stays where it is. -/
theorem counted_added {count : Nat} {watched : Watched} (counted : Counted count watched)
    (device : ConnectedDevice) (connected : List ConnectedDevice) :
    ∃ more ≤ count + 1, Counted more
      { gatts := (watched.gatts.addDeviceRecord device).2
        connected := connected
        given := watched.given ++ [⟨(watched.gatts.addDeviceRecord device).1, device⟩] } := by
  cases found : watched.gatts.getConnIdByDeviceInfo device with
  | some record =>
    obtain ⟨member, same⟩ := Gatts.mem_of_getConnIdByDeviceInfo found
    have added : watched.gatts.addDeviceRecord device = (record.connId, watched.gatts) := by
      simp [Gatts.addDeviceRecord, found]
    rw [added, ← same]
    refine ⟨count, Nat.le_succ count, counted.connId, ?_, ?_⟩
    · intro other otherMember
      exact List.mem_append_left _ (counted.recorded other otherMember)
    · intro other otherMember
      rcases List.mem_append.mp otherMember with before | new
      · exact counted.given other before
      · rw [List.mem_singleton.mp new]
        exact counted.given record (counted.recorded record member)
  | none =>
    have added : watched.gatts.addDeviceRecord device =
        (watched.gatts.connId,
          { watched.gatts with
            mapConnectedDevice := watched.gatts.mapConnectedDevice.emplace ⟨watched.gatts.connId, device⟩
            connId := watched.gatts.connId + 1 }) := by
      simp [Gatts.addDeviceRecord, found]
    rw [added]
    refine ⟨count + 1, Nat.le_refl _, ?_, ?_, ?_⟩
    · simp [counted.connId]
    · intro other otherMember
      rcases OrderedSet.mem_of_mem_place otherMember with rfl | before
      · simp
      · exact List.mem_append_left _ (counted.recorded other before)
    · intro other otherMember
      rcases List.mem_append.mp otherMember with before | new
      · obtain ⟨earlier, less, same⟩ := counted.given other before
        exact ⟨earlier, Nat.lt_succ_of_lt less, same⟩
      · rw [List.mem_singleton.mp new]
        exact ⟨count, Nat.lt_succ_self count, counted.connId⟩

/-- A record that is removed uses up no number. The counter goes on from where it is, whatever
ids have become free. -/
theorem counted_removed {count : Nat} {watched : Watched} (counted : Counted count watched)
    {device : ConnectedDevice} {record : DeviceRecord}
    (found : watched.gatts.getConnIdByDeviceInfo device = some record)
    (connected : List ConnectedDevice) :
    Counted count
      { gatts := watched.gatts.removeDeviceRecord record.connId
        connected := connected
        given := watched.given ++
          [Call.disconnectServerCb ⟨record.connId, device⟩].filterMap Call.given } := by
  have member := (Gatts.mem_of_getConnIdByDeviceInfo found).1
  have silent : [Call.disconnectServerCb ⟨record.connId, device⟩].filterMap Call.given = [] := rfl
  have read := (watched.gatts.getDeviceInfoByConnId_eq_some_iff record.connId record).mpr ⟨member, rfl⟩
  rw [silent, List.append_nil]
  refine ⟨?_, ?_, counted.given⟩
  · simpa [Gatts.removeDeviceRecord, read] using counted.connId
  · intro other otherMember
    exact counted.recorded other ((Gatts.mem_removeDeviceRecord member other).mp otherMember).2

/-- A call gives at most one id. Hence a run of fewer calls than there are ids gives none of them
twice. -/
theorem counted_next {count : Nat} {watched : Watched} (counted : Counted count watched)
    (label : GattsLabel) :
    ∃ more ≤ count + 1, Counted more (watched.next label) := by
  by_cases other : ∀ device state, label ≠ .onConnectionStateUpdate device state
  · obtain ⟨records, _, given, connId⟩ := next_other watched other
    refine ⟨count, Nat.le_succ count, connId ▸ counted.connId, ?_, ?_⟩
    · rw [records, given]
      exact counted.recorded
    · rw [given]
      exact counted.given
  · simp only [not_forall, not_not] at other
    obtain ⟨device, state, rfl⟩ := other
    have silent (connected : List ConnectedDevice) (calls : List Call)
      (none : calls.filterMap Call.given = []) :
        ∃ more ≤ count + 1, Counted more
          { watched with connected := connected, given := watched.given ++ calls.filterMap Call.given } := by
      rw [none, List.append_nil]
      exact ⟨count, Nat.le_succ count, counted.connId, counted.recorded, counted.given⟩
    simp only [Watched.next, Gatts.perform, Gatts.onConnectionStateUpdate]
    split
    · split
      · exact counted_added counted device _
      · exact silent _ [] rfl
    · split
      · split
        · split
          · rename_i record found
            exact ⟨count, Nat.le_succ count, counted_removed counted found _⟩
          · exact silent _ [] rfl
        · exact silent _ [] rfl
      · exact silent _ [] rfl

/-- The next id is new as long as fewer than 2 ^ 32 have been given. -/
theorem next_id_new {count : Nat} {watched : Watched} (counted : Counted count watched)
    (few : count < 2 ^ 32) :
    ∀ record ∈ watched.given, record.connId ≠ watched.gatts.connId := by
  intro record member same
  obtain ⟨earlier, less, equal⟩ := counted.given record member
  have alike := congrArg (fun id => id.toBitVec.toNat) (equal.symm.trans (same.trans counted.connId))
  simp only [Int32.toBitVec_ofNat', BitVec.toNat_ofNat] at alike
  omega

/-- So the counter cannot be at fault in fewer than 2 ^ 32 steps. Each step moves it by one at
most, and it has to go round before it meets an id that was given. -/
theorem new_ids_of_few (labels : List GattsLabel) (few : labels.length < 2 ^ 32) :
    Always Watched.step (fun watched => ∀ record ∈ watched.given, record.connId ≠ watched.gatts.connId)
      {} labels := by
  suffices within : ∀ (watched : Watched) (count : Nat), Counted count watched →
    count + labels.length < 2 ^ 32 →
      Always Watched.step (fun watched => ∀ record ∈ watched.given, record.connId ≠ watched.gatts.connId)
        watched labels by
    exact within {} 0 ⟨rfl, by simp [Watched.records], by simp⟩ (by omega)
  induction labels with
  | nil =>
    intro watched count counted bounded
    exact next_id_new counted (by simpa using bounded)
  | cons label rest inductionHypothesis =>
    intro watched count counted bounded
    rw [List.length_cons] at bounded
    obtain ⟨more, atMost, later⟩ := counted_next counted label
    have continued := inductionHypothesis (by omega) (watched.next label) more later (by omega)
    exact (always_cons rfl rest).mpr ⟨next_id_new counted (by omega), continued⟩

/-- One call keeps the map faithful and addresses only connected devices exactly if it does
right. -/
theorem step_iff {watched : Watched} (faithful : Faithful watched)
    (given : ∀ record ∈ watched.records, record ∈ watched.given) (label : GattsLabel) :
    Faithful (watched.next label) ∧ AddressesConnected watched label ↔ Correct watched label := by
  by_cases other : ∀ device state, label ≠ .onConnectionStateUpdate device state
  · obtain ⟨records, connected, sameGiven, _⟩ := next_other watched other
    have kept : Faithful (watched.next label) := by
      apply (faithful_same_iff faithful records (by simp [sameGiven])).mpr
      simp [connected]
    rw [and_iff_right kept]
    cases label with
    | bleGattsSendResponse serverId param ret => exact addresses_response_iff watched serverId param ret
    | bleGattsSendIndication serverId param => exact addresses_indication_iff watched serverId param
    | onConnectionStateUpdate device state => exact absurd rfl (other device state)
    | _ =>
      refine iff_of_true ?_ trivial
      rw [AddressesConnected, addressed_other watched.gatts _ (by simp [Sends])]
      simp
  · simp only [not_forall, not_not] at other
    obtain ⟨device, state, rfl⟩ := other
    rw [update_iff faithful given, and_iff_left_of_imp]
    intro correct
    rw [AddressesConnected, addressed_other watched.gatts _ (by simp [Sends])]
    simp

/-- The map is faithful all along a run, and only connected devices are addressed, exactly if
every call of it does right. The calls that can go wrong are the update of a connection, which
must find an id to record or a callback to end it, and the two that send to a device. -/
theorem connection_ids_iff (labels : List GattsLabel) :
    Always Watched.step Faithful {} labels ∧ Meets Watched.step AddressesConnected {} labels ↔
      Meets Watched.step Correct {} labels := by
  apply @always_good_iff_meets _ _ Watched.step Faithful (fun watched => ∃ count, Counted count watched)
  · rintro watched label next ⟨count, counted⟩ taken
    obtain ⟨more, _, later⟩ := counted_next counted label
    exact ⟨more, Option.some.inj taken ▸ later⟩
  · rintro watched label next ⟨count, counted⟩ faithful taken
    rw [← Option.some.inj taken]
    exact step_iff faithful counted.recorded label
  · exact ⟨0, rfl, by simp [Watched.records], by simp⟩
  · exact ⟨by simp [Watched.records], by simp, by simp [Watched.records], by simp⟩

/-- There is an application to register at all. -/
theorem maximumNumberApplication_pos : 0 < maximumNumberApplication := by
  decide

/-- A device. -/
def firstDevice : ConnectedDevice where
  serverId := ⟨0, maximumNumberApplication_pos⟩
  remoteAddr := Vector.replicate 6 0

/-- The application has no callback for a device that disconnects. -/
def unheard : List GattsLabel :=
  [.bleGattsRegisterCallbacks (some { connectServerCb := true }),
    .onConnectionStateUpdate firstDevice btConnectStateConnected,
    .onConnectionStateUpdate firstDevice btConnectStateDisconnected]

/-- The device is connected to server 0, and server 1 answers it. -/
def crossed : List GattsLabel :=
  [.bleGattsRegisterCallbacks (some { connectServerCb := true, disconnectServerCb := true }),
    .bleGattsRegister true, .bleGattsRegister true,
    .onConnectionStateUpdate firstDevice btConnectStateConnected,
    .bleGattsSendResponse 1 (some ⟨0, 0, 0, []⟩) 0]

/-- The record of a device that has gone stays, and a response goes to a device of another
server. -/
theorem record_stays : ¬ Always Watched.step Faithful {} unheard ∧
    ¬ Meets Watched.step AddressesConnected {} crossed := by
  decide

end ConnectionIds

end BluetoothFramework.CAdapter
