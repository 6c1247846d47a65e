import BluetoothFramework.Library.Runs
import BluetoothFramework.Gatt.Server

/-!
# The connected devices of the GATT server

The server keeps a list of the devices that are connected. A device that connects is
appended, and one that disconnects is erased where it stands first. Notifications, responses
and disconnecting ask the list whether a device is there.

`devices_follow_iff` says when the list tells what the last event of each device was: no
device may be reported as connected twice in a row. It is appended again then, and stays in
the list when it disconnects.
-/

namespace BluetoothFramework

open Runs

/-- `OnConnectionStateChanged`, less what is only handed on to the application. -/
structure ConnectionEvent where
  device : GattDevice
  state : Int32
deriving DecidableEq, Repr

namespace ConnectionEvent

/-- The event says whether the device is connected. -/
def decides (event : ConnectionEvent) (device : GattDevice) : Bool :=
  event.device = device && (event.state = btConnectStateConnected || event.state = btConnectStateDisconnected)

/-- The state in the last event that says whether the device is connected. -/
def lastState (events : List ConnectionEvent) (device : GattDevice) : Option Int32 :=
  (events.filter fun event => event.decides device).getLast?.map state

/-- The last state of a device is that of the last event that decides it. The others are passed
by. -/
theorem lastState_append (events : List ConnectionEvent) (event : ConnectionEvent)
    (device : GattDevice) :
    lastState (events ++ [event]) device =
      if event.decides device then some event.state else lastState events device := by
  by_cases decides : event.decides device = true
  · simp [lastState, List.filter_append, decides]
  · simp [lastState, List.filter_append, decides]

end ConnectionEvent

/-- The server with the connection events it has had. -/
structure ConnectionLog where
  server : GattServer
  events : List ConnectionEvent := []

namespace ConnectionLog

/-- One event. -/
def step (log : ConnectionLog) (event : ConnectionEvent) : Option ConnectionLog :=
  some
    { server := log.server.onConnectionStateChanged event.device event.state
      events := log.events ++ [event] }

/-- A server begins without devices. -/
def start (server : GattServer) : ConnectionLog where
  server := { server with devices := [] }

/-- The last event of a device said that it is connected. -/
def IsConnected (log : ConnectionLog) (device : GattDevice) : Prop :=
  ConnectionEvent.lastState log.events device = some btConnectStateConnected

instance (log : ConnectionLog) (device : GattDevice) : Decidable (log.IsConnected device) :=
  inferInstanceAs (Decidable (_ = _))

/-- The list has the connected devices, each once, and a lookup finds a remote device if and
only if it is one of them. -/
structure Follows (log : ConnectionLog) : Prop where
  listed (device : GattDevice) : device ∈ log.server.devices ↔ log.IsConnected device
  once (device : GattDevice) : log.server.devices.count device ≤ 1
  found (remote : BluetoothRemoteDevice) :
    (log.server.findConnectedDevice remote).isSome = true ↔
      ∃ device : GattDevice, device.remote = remote ∧ log.IsConnected device

/-- A device that connects was not connected. -/
def ConnectsOnce (log : ConnectionLog) (event : ConnectionEvent) : Prop :=
  event.state = btConnectStateConnected → ¬ log.IsConnected event.device

/-! ## What an event does to the list -/

/-- A device is as the event says, and as it was before where the event says nothing. -/
theorem isConnected_step (log : ConnectionLog) (event : ConnectionEvent) (device : GattDevice) :
    ConnectionEvent.lastState (log.events ++ [event]) device = some btConnectStateConnected ↔
      if event.device = device ∧ event.state = btConnectStateConnected then True
      else if event.device = device ∧ event.state = btConnectStateDisconnected then False
      else log.IsConnected device := by
  have distinct : btConnectStateDisconnected ≠ btConnectStateConnected := by decide
  rw [ConnectionEvent.lastState_append, ConnectionEvent.decides, IsConnected]
  by_cases same : event.device = device
  · by_cases connects : event.state = btConnectStateConnected
    · simp [same, connects]
    · by_cases disconnects : event.state = btConnectStateDisconnected
      · simp [same, disconnects, distinct]
      · simp [same, connects, disconnects]
  · simp [same]

/-- A remote device is found if one of the listed devices is it. -/
theorem findConnectedDevice_isSome_iff (server : GattServer) (remote : BluetoothRemoteDevice) :
    (server.findConnectedDevice remote).isSome = true ↔
      ∃ device ∈ server.devices, device.remote = remote := by
  have compared (device : GattDevice) :
      (remote.address = device.addr && (if remote.transport = (if device.transport = gattTransportTypeLe
        then 1 else 0) then btTransportBle else btTransportBredr) ≠ 0) = true ↔ device.remote = remote := by
    obtain ⟨address, transport⟩ := remote
    simp only [GattDevice.remote, BluetoothRemoteDevice.mk.injEq, btTransportBle, btTransportBredr]
    by_cases le : device.transport = gattTransportTypeLe
    · simp only [le, if_true]
      by_cases same : transport = 1 <;> simp [same, eq_comm]
    · simp only [le, if_false]
      by_cases same : transport = 0 <;> simp [same, eq_comm]
  rw [GattServer.findConnectedDevice, List.find?_isSome]
  simp only [compared]

/-- What is listed decides what is found. -/
theorem follows_of_listed {log : ConnectionLog}
    (listed : ∀ device, device ∈ log.server.devices ↔ log.IsConnected device)
    (once : ∀ device, log.server.devices.count device ≤ 1) : log.Follows := by
  refine ⟨listed, once, fun remote => ?_⟩
  rw [findConnectedDevice_isSome_iff]
  simp only [listed, and_comm]

/-- An event keeps the list right exactly when it connects no connected device. Such a device is
listed twice from then on, and its disconnection takes away one entry. -/
theorem follows_step_iff (log : ConnectionLog) (event : ConnectionEvent) (next : ConnectionLog)
    (follows : log.Follows) (enabled : log.step event = some next) :
    next.Follows ↔ log.ConnectsOnce event := by
  obtain ⟨device, state⟩ := event
  cases enabled
  by_cases connects : state = btConnectStateConnected
  · subst connects
    have appended : (log.server.onConnectionStateChanged device btConnectStateConnected).devices =
        log.server.devices ++ [device] := rfl
    constructor
    · intro after _ connected
      have twice := after.once device
      have already : 0 < log.server.devices.count device :=
        List.count_pos_iff.mpr ((follows.listed device).mpr connected)
      rw [appended, List.count_append, List.count_singleton_self] at twice
      omega
    · intro unconnected
      have absent : device ∉ log.server.devices :=
        fun member => unconnected rfl ((follows.listed device).mp member)
      refine follows_of_listed (fun other => ?_) fun other => ?_
      · rw [IsConnected, isConnected_step, appended, List.mem_append, List.mem_singleton, follows.listed]
        by_cases same : device = other
        · simp [same]
        · simp [same, Ne.symm same]
      · rw [appended, List.count_append, List.count_singleton]
        by_cases same : device = other
        · subst same
          simp [List.count_eq_zero_of_not_mem absent]
        · simpa [same] using follows.once other
  · refine iff_of_true ?_ fun connected => absurd connected connects
    by_cases disconnects : state = btConnectStateDisconnected
    · subst disconnects
      have erased : (log.server.onConnectionStateChanged device btConnectStateDisconnected).devices =
          log.server.devices.erase device := rfl
      have distinct : log.server.devices.Nodup := List.nodup_iff_count_le_one.mpr follows.once
      refine follows_of_listed (fun other => ?_) fun other => ?_
      · rw [IsConnected, isConnected_step, erased, distinct.mem_erase_iff, follows.listed]
        by_cases same : device = other
        · simp [same, connects]
        · simp [same, Ne.symm same]
      · rw [erased]
        exact List.nodup_iff_count_le_one.mp (distinct.erase device) other
    · have unchanged : log.server.onConnectionStateChanged device state = log.server := by
        rw [GattServer.onConnectionStateChanged, if_neg connects, if_neg disconnects]
      refine follows_of_listed (fun other => ?_) fun other => ?_
      · rw [IsConnected, isConnected_step, unchanged, follows.listed]
        simp [connects, disconnects]
      · rw [unchanged]
        exact follows.once other

/-- **The list follows the last events as long as no connected device connects again.** In
every run of connection events the list has exactly the devices whose last event was
CONNECTED, each once, if and only if no event connects a device that is connected. -/
theorem devices_follow_iff (server : GattServer) (events : List ConnectionEvent) :
    Always step Follows (start server) events ↔ Meets step ConnectsOnce (start server) events := by
  apply @always_iff_meets _ _ step Follows (fun _ => True) ConnectsOnce
  · exact fun _ _ _ _ _ => trivial
  · exact fun log event next _ follows enabled => follows_step_iff log event next follows enabled
  · trivial
  · exact follows_of_listed (fun device => iff_of_false List.not_mem_nil nofun) fun device => Nat.zero_le _

/-- A device that is reported as connected twice is still listed when it has disconnected. -/
theorem reconnected_stays :
    ¬ ∀ events : List ConnectionEvent, Always step Follows (start {}) events := by
  intro claimed
  have follows := always_last _ _ _ (claimed [⟨⟨gattTransportTypeLe, [1]⟩, btConnectStateConnected⟩,
    ⟨⟨gattTransportTypeLe, [1]⟩, btConnectStateConnected⟩,
    ⟨⟨gattTransportTypeLe, [1]⟩, btConnectStateDisconnected⟩]) rfl
  have connected := (follows.listed ⟨gattTransportTypeLe, [1]⟩).mp (by decide)
  exact absurd connected (by decide)

end ConnectionLog
end BluetoothFramework
