import BluetoothFramework.Gatt.ClientRequests

/-!
# The sessions of the GATT client

A session begins when `Connect` registers the client and ends when `Close` or the end of
Bluetooth takes the registration back. Five flags describe it, and ending a session resets
one of them.

`session_state_ends_iff` says when the others are clear all the same: every session has
to be wound up (disconnected, nothing under way, no current list of services) before it
is ended.
-/

namespace BluetoothFramework

open Runs

/-- A callback of the service. -/
inductive ServiceCallback where
  | onServicesChanged
  | onConnectionStateChanged (state newState : Int32)
  | onServicesDiscovered (status : Int32)
  | onCharacteristicRead (reply : Reply)
  | onCharacteristicWrite (reply : Reply)
  | onDescriptorRead (reply : Reply)
  | onDescriptorWrite (reply : Reply)

def ServiceCallback.handle (client : GattClient) : ServiceCallback → GattClient
  | onServicesChanged => client.onServicesChanged
  | onConnectionStateChanged state newState => client.onConnectionStateChanged state newState
  | onServicesDiscovered status => client.onServicesDiscovered status
  | onCharacteristicRead reply => client.onCharacteristicRead reply.ret reply.handle reply.value
  | onCharacteristicWrite reply => client.onCharacteristicWrite reply.ret reply.handle reply.timeStamp
  | onDescriptorRead reply => client.onDescriptorRead reply.ret reply.handle reply.value
  | onDescriptorWrite reply => client.onDescriptorWrite reply.ret reply.handle

/-- Something that happens to the client. -/
inductive SessionEvent where
  | connect (call : ConnectCall)
  | disconnect (around : Surroundings)
  | close (around : Surroundings)
  | discoverServices (around : Surroundings)
  | getService (bleEnabled : Bool) (result : Option (List Service))
  | request (request : ClientRequest) (around : Surroundings)
  | callback (callback : ServiceCallback)
  | bluetoothTurnOff

namespace GattClient

/-- A client for a device. -/
def create (device : BluetoothRemoteDevice) : GattClient where
  device := device

/-- One event. Only an open registration receives callbacks. -/
def step (client : GattClient) : SessionEvent → Option GattClient
  | .connect call => some (client.connect call).1
  | .disconnect around => some (client.disconnect around).1
  | .close around => some (client.close around).1
  | .discoverServices around => some (client.discoverServices around).1
  | .getService bleEnabled result => some (client.getService bleEnabled result).1
  | .request request around => some (request.perform client around).client
  | .callback callback => if client.isRegisterSucceeded then some (callback.handle client) else none
  | .bluetoothTurnOff => some client.bluetoothTurnOff

/-- Nothing of a session is left. -/
structure WoundUp (client : GattClient) : Prop where
  disconnected : client.connectionState ≠ btConnectStateConnected
  idle : client.doing = false
  notDiscovering : client.isDiscovering = false
  noServices : client.isGetServiceYet = false

/-- Without a registration nothing of a session is left. -/
def SessionEnded (client : GattClient) : Prop :=
  client.isRegisterSucceeded = false → client.WoundUp

/-- A session is wound up before it is ended. -/
def EndsWoundUp (client : GattClient) : SessionEvent → Prop
  | .close around =>
      around.bleEnabled = true → around.answer = some btNoError →
        client.isRegisterSucceeded = true →
        client.WoundUp
  | .bluetoothTurnOff => client.WoundUp
  | _ => True

/-- A new session is not refused because of the last one, and inherits nothing from it. -/
def StartsFresh (client : GattClient) : SessionEvent → Prop
  | .connect call =>
      client.isRegisterSucceeded = false →
        client.connectionState ≠ btConnectStateConnected ∧ (client.connect call).1.WoundUp
  | _ => True

/-! ## What keeps the registration -/

/-- No request changes the registration. -/
theorem registered_perform (client : GattClient) (request : ClientRequest) (around : Surroundings) :
    (request.perform client around).client.isRegisterSucceeded = client.isRegisterSucceeded := by
  have performs := request.performs client around
  generalize request.perform client around = outcome at performs
  cases performs <;> rfl

/-- A client that is not connected refuses every request. -/
theorem perform_disconnected {client : GattClient}
    (disconnected : client.connectionState ≠ btConnectStateConnected) (request : ClientRequest)
    (around : Surroundings) : (request.perform client around).client = client := by
  have performs := request.performs client around
  generalize request.perform client around = outcome at performs
  cases performs with
  | refused result => rfl
  | rejected _ _ connected => exact absurd connected disconnected
  | accepted _ _ _ connected => exact absurd connected disconnected
  | calledBack _ _ connected => exact absurd connected disconnected

/-- The end of a discovery leaves the registration. -/
theorem registered_discoverComplete (client : GattClient) (state : Int32) :
    (client.discoverComplete state).isRegisterSucceeded = client.isRegisterSucceeded := by
  rw [discoverComplete]
  split <;> rfl

/-- No callback changes the registration. Only the calls of the script do, so that a session
begins and ends with them. -/
theorem registered_callback (client : GattClient) (callback : ServiceCallback) :
    (callback.handle client).isRegisterSucceeded = client.isRegisterSucceeded := by
  cases callback with
  | onServicesChanged => rfl
  | onConnectionStateChanged state newState =>
    simp only [ServiceCallback.handle, onConnectionStateChanged]
    split
    · exact registered_discoverComplete _ _
    · rfl
  | onServicesDiscovered status => exact registered_discoverComplete _ _
  | onCharacteristicRead reply =>
    simp only [ServiceCallback.handle, onCharacteristicRead]
    split <;> rfl
  | onCharacteristicWrite reply =>
    simp only [ServiceCallback.handle, onCharacteristicWrite]
    split <;> rfl
  | onDescriptorRead reply =>
    simp only [ServiceCallback.handle, onDescriptorRead]
    split <;> rfl
  | onDescriptorWrite reply =>
    simp only [ServiceCallback.handle, onDescriptorWrite]
    split
    · rfl
    · split <;> rfl

/-- A check that returns the client as it is keeps what the rest of the call does. -/
theorem returned_or {condition : Prop} [Decidable condition] {client after : GattClient}
    {code : Int32} {rest : GattClient × Int32} (passes : rest.1 = client ∨ rest.1 = after) :
    (if condition then (client, code) else rest).1 = client ∨
      (if condition then (client, code) else rest).1 = after := by
  by_cases returned : condition
  · rw [if_pos returned]
    exact .inl rfl
  · rw [if_neg returned]
    exact passes

/-- Connecting leaves the client as it is, or registers it. -/
theorem connect_cases (client : GattClient) (call : ConnectCall) :
    (client.connect call).1 = client ∨
      (client.connect call).1 =
        { client with applicationId := call.appId, isRegisterSucceeded := true } := by
  rw [connect]
  iterate 8 refine returned_or ?_
  by_cases registered : 0 < call.appId
  · rw [if_pos registered]
    exact .inr rfl
  · rw [if_neg registered]
    exact .inl rfl

/-- A disconnection only sends the request. The state changes with the answer. -/
theorem disconnect_same (client : GattClient) (around : Surroundings) :
    (client.disconnect around).1 = client := by
  rw [disconnect.eq_def]
  split
  · rfl
  · split
    · rfl
    · split <;> rfl

/-- Discovering services changes whether that is under way, in a connected client. In a client
that is not connected it returns before anything is set. -/
theorem discoverServices_cases (client : GattClient) (around : Surroundings) :
    (client.discoverServices around).1 = client ∨
      client.connectionState = btConnectStateConnected ∧
        (client.discoverServices around).1.isRegisterSucceeded = client.isRegisterSucceeded := by
  rw [discoverServices]
  split
  · exact .inl rfl
  · split
    · exact .inl rfl
    · rename_i connected
      refine .inr ⟨by simpa using connected, ?_⟩
      rw [discoverStart.eq_def]
      split
      · rfl
      · split
        · rfl
        · dsimp only
          split
          · rfl
          · split
            · rfl
            · split
              · exact registered_discoverComplete _ _
              · rfl

/-- The services are looked up for a registered client only. The lookup may refresh the list of
the services, and leaves the registration in any case. -/
theorem getService_cases (client : GattClient) (bleEnabled : Bool)
    (result : Option (List Service)) :
    (client.getService bleEnabled result).1 = client ∨
      client.isRegisterSucceeded = true ∧
        (client.getService bleEnabled result).1.isRegisterSucceeded = true := by
  rw [getService]
  split
  · exact .inl rfl
  · dsimp only
    rw [getServices.eq_def]
    split
    · exact .inl rfl
    · split
      · exact .inl rfl
      · split
        · exact .inl rfl
        · split
          · exact .inl rfl
          · rename_i registered
            have registered : client.isRegisterSucceeded = true := by simpa using registered
            split
            · exact .inr ⟨registered, registered⟩
            · exact .inr ⟨registered, registered⟩

/-- Closing leaves the client as it is, or takes its registration back. Neither the connection
state nor the flags of the requests are touched by it. -/
theorem close_cases (client : GattClient) (around : Surroundings) :
    (around.bleEnabled = true ∧ around.answer = some btNoError ∧ client.isRegisterSucceeded = true ∧
        (client.close around).1 = { client with isRegisterSucceeded := false }) ∨
      ((client.close around).1 = client ∧
        (around.bleEnabled = true → around.answer = some btNoError → client.isRegisterSucceeded = false)) := by
  rw [close.eq_def]
  cases enabled : around.bleEnabled with
  | false => exact .inr ⟨rfl, nofun⟩
  | true =>
    cases answer : around.answer with
    | none => exact .inr ⟨rfl, nofun⟩
    | some result =>
      cases registered : client.isRegisterSucceeded with
      | false => exact .inr ⟨rfl, fun _ _ => rfl⟩
      | true =>
        by_cases accepted : result = btNoError
        · subst accepted
          exact .inl ⟨rfl, rfl, rfl, rfl⟩
        · refine .inr ⟨?_, fun _ same => absurd (Option.some.inj same) accepted⟩
          simp only [Bool.not_true, Bool.false_eq_true, if_false, if_true, if_neg accepted]

/-! ## Sessions -/

/-- An event leaves nothing of an ended session exactly when the session was wound up. The events
that end one are the close and the turning off of Bluetooth. -/
theorem sessionEnded_step_iff (client : GattClient) (event : SessionEvent) (next : GattClient)
    (ended : client.SessionEnded) (enabled : client.step event = some next) :
    next.SessionEnded ↔ client.EndsWoundUp event := by
  have registered (keeps : next.isRegisterSucceeded = true) : next.SessionEnded := by
    intro unregistered
    rw [keeps] at unregistered
    cases unregistered
  -- An event that keeps the registration can only touch a client that has one.
  have kept (same : next.isRegisterSucceeded = client.isRegisterSucceeded)
      (untouched : client.isRegisterSucceeded = false → next = client) : next.SessionEnded := by
    intro unregistered
    have before := same.symm.trans unregistered
    exact untouched before ▸ ended before
  cases event with
  | connect call =>
    cases enabled
    refine iff_of_true ?_ trivial
    rcases client.connect_cases call with unchanged | connects
    · rw [unchanged]
      exact ended
    · rw [connects]
      exact nofun
  | disconnect around =>
    cases enabled
    rw [disconnect_same]
    exact iff_of_true ended trivial
  | close around =>
    cases enabled
    rcases client.close_cases around with ⟨on, accepted, isRegistered, closed⟩ | ⟨unchanged, refused⟩
    · rw [closed]
      constructor
      · intro after _ _ _
        obtain ⟨disconnected, idle, notDiscovering, noServices⟩ := after rfl
        exact ⟨disconnected, idle, notDiscovering, noServices⟩
      · intro woundUp _
        obtain ⟨disconnected, idle, notDiscovering, noServices⟩ := woundUp on accepted isRegistered
        exact ⟨disconnected, idle, notDiscovering, noServices⟩
    · rw [unchanged]
      refine iff_of_true ended fun on accepted isRegistered => ended (refused on accepted)
  | discoverServices around =>
    cases enabled
    refine iff_of_true ?_ trivial
    rcases client.discoverServices_cases around with unchanged | ⟨connected, same⟩
    · rw [unchanged]
      exact ended
    · exact kept same fun unregistered => absurd connected (ended unregistered).disconnected
  | getService bleEnabled result =>
    cases enabled
    refine iff_of_true ?_ trivial
    rcases client.getService_cases bleEnabled result with unchanged | ⟨-, keeps⟩
    · rw [unchanged]
      exact ended
    · exact registered keeps
  | request request around =>
    cases enabled
    refine iff_of_true ?_ trivial
    exact kept (client.registered_perform request around) fun unregistered =>
      client.perform_disconnected (ended unregistered).disconnected request around
  | callback callback =>
    obtain ⟨isRegistered, handled⟩ := Option.ite_none_right_eq_some.mp enabled
    cases handled
    refine iff_of_true (registered ?_) trivial
    rw [registered_callback]
    exact isRegistered
  | bluetoothTurnOff =>
    cases enabled
    constructor
    · intro after
      obtain ⟨disconnected, idle, notDiscovering, noServices⟩ := after rfl
      exact ⟨disconnected, idle, notDiscovering, noServices⟩
    · intro woundUp _
      exact ⟨woundUp.disconnected, woundUp.idle, woundUp.notDiscovering, woundUp.noServices⟩

/-- In every run of a new client, a client without a registration keeps nothing of its last
session exactly when every session is wound up before it is ended; and then every new
session starts fresh. -/
theorem session_state_ends_iff (device : BluetoothRemoteDevice) (events : List SessionEvent) :
    (Always step SessionEnded (create device) events ↔
      Meets step EndsWoundUp (create device) events) ∧
      (Always step SessionEnded (create device) events →
        Meets step StartsFresh (create device) events) := by
  constructor
  · refine @always_iff_meets _ _ step SessionEnded (fun _ => True) EndsWoundUp
      (fun _ _ _ _ _ => trivial) ?_ _ _ trivial ?_
    · intro client event next _ ended enabled
      exact sessionEnded_step_iff client event next ended enabled
    · have distinct : btConnectStateDisconnected ≠ btConnectStateConnected := by decide
      intro _
      exact ⟨distinct, rfl, rfl, rfl⟩
  · apply meets_of_always
    intro client event ended
    cases event with
    | connect call =>
      intro unregistered
      have woundUp := ended unregistered
      refine ⟨woundUp.disconnected, ?_⟩
      rcases client.connect_cases call with unchanged | connects
      · rw [unchanged]
        exact woundUp
      · rw [connects]
        exact ⟨woundUp.disconnected, woundUp.idle, woundUp.notDiscovering, woundUp.noServices⟩
    | _ => trivial

/-- A remote device with the address `"00:11:22:33:44:55"`. -/
def bracelet : BluetoothRemoteDevice where
  address := [0x30, 0x30, 0x3A, 0x31, 0x31, 0x3A, 0x32, 0x32, 0x3A, 0x33, 0x33, 0x3A, 0x34, 0x34,
    0x3A, 0x35, 0x35]

/-- A client that is closed while it is connected counts as connected, and the next
`Connect` is refused. -/
theorem closed_while_connected :
    (¬ ∀ events : List SessionEvent, Always step SessionEnded (create bracelet) events) ∧
      (run step (create bracelet)
        [.connect {}, .callback (.onConnectionStateChanged 0 btConnectStateConnected), .close {}]).map
          (fun client => (client.connect {}).2) = some btErrDeviceHasConnected := by
  refine ⟨?_, by decide⟩
  intro always
  have run := always
    [.connect {}, .callback (.onConnectionStateChanged 0 btConnectStateConnected), .close {}]
  have last := run.2.2.2 (by decide)
  exact last.disconnected (by decide)

end GattClient
end BluetoothFramework
