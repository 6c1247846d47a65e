import BluetoothFramework.Gatt.ClientSession

/-!
# Failed calls of the GATT client

Two functions of the client do something before they know whether they can go on.
`DiscoverServices` sets the flag that a discovery is under way and looks at the registration
and the proxy afterwards. `SetNotifyCharacteristic` and `SetIndicateCharacteristic` ask the
service for notifications and look afterwards whether a request is under way.

`no_trace_iff` says in which runs no failure leaves a trace of that.
-/

namespace BluetoothFramework

open Runs

/-- The arguments of `RequestNotification`. -/
structure NotificationRequest where
  handle : UInt16
  enable : Bool
deriving DecidableEq, Repr

/-- The descriptor that notifications are configured by is there. -/
def GattCharacteristic.isConfigurable (characteristic : GattCharacteristic) : Bool :=
  characteristic.descriptors.any fun desc => desc.uuid.equals GattClient.clientConfiguration

namespace GattClient

/-- The `RequestNotification` that `SetNotifyCharacteristicInner` makes before it looks at
`doing_`. -/
def requestedNotification (client : GattClient) (characteristic : GattCharacteristic)
    (enable : Bool) (around : Surroundings) : Option NotificationRequest :=
  if !around.bleEnabled then none
  else if client.connectionState ≠ btConnectStateConnected then none
  else if around.answer = none then none
  else some ⟨characteristic.handle, enable⟩

/-- The discovery that is under way is not over after the wait. -/
def TimesOut (client : GattClient) (around : Surroundings) : Prop :=
  around.bleEnabled = true ∧ client.connectionState = btConnectStateConnected ∧ client.isDiscovering = true

instance (client : GattClient) (around : Surroundings) : Decidable (client.TimesOut around) :=
  inferInstanceAs (Decidable (_ ∧ _))

/-- A discovery that fails, other than by the timeout, leaves none under way. -/
def DiscoversWithoutTrace (client : GattClient) (around : Surroundings) : Prop :=
  (client.discoverServices around).2 ≠ btNoError → ¬ client.TimesOut around →
    (client.discoverServices around).1.isDiscovering = false

/-- A call that finds the client busy has asked the service for nothing, and changed neither
the flag nor the type of the request under way. -/
def NotifiesWithoutTrace (client : GattClient) (characteristic : GattCharacteristic) (enable : Bool)
    (around : Surroundings) (outcome : Outcome) : Prop :=
  outcome.result = btErrOperationBusy →
    client.requestedNotification characteristic enable around = none ∧
      outcome.client.doing = client.doing ∧ outcome.client.type = client.type

/-- What failed leaves no trace. -/
def LeavesNoTrace (client : GattClient) : SessionEvent → Prop
  | .discoverServices around => client.DiscoversWithoutTrace around
  | .request (.setNotifyCharacteristic characteristic enable) around =>
      client.NotifiesWithoutTrace characteristic enable around
        (client.setNotifyCharacteristic characteristic enable around)
  | .request (.setIndicateCharacteristic characteristic enable) around =>
      client.NotifiesWithoutTrace characteristic enable around
        (client.setIndicateCharacteristic characteristic enable around)
  | _ => True

/-- A discovery that begins has a registration and a proxy, and one that is refused meets none
under way. -/
structure DiscoversCleanly (client : GattClient) (around : Surroundings) : Prop where
  begins : around.bleEnabled = true → client.connectionState = btConnectStateConnected →
    client.isDiscovering = false → client.isRegisterSucceeded = true ∧ around.answer ≠ none
  refused : around.bleEnabled = false ∨ client.connectionState ≠ btConnectStateConnected →
    client.isDiscovering = false

/-- Where the service can be asked for notifications, it is not busy, and neither is the
client. -/
def NotifiesCleanly (client : GattClient) (characteristic : GattCharacteristic)
    (around : Surroundings) : Prop :=
  around.bleEnabled = true → client.connectionState = btConnectStateConnected →
    ∀ answer, around.answer = some answer →
      around.notification ≠ btErrOperationBusy ∧
        (around.notification = btNoError → client.doing = false ∧
          (characteristic.isConfigurable = true → answer ≠ btErrOperationBusy))

/-- The call does nothing that a failure could leave behind. -/
def CallsCleanly (client : GattClient) : SessionEvent → Prop
  | .discoverServices around => client.DiscoversCleanly around
  | .request (.setNotifyCharacteristic characteristic _) around => client.NotifiesCleanly characteristic around
  | .request (.setIndicateCharacteristic characteristic _) around => client.NotifiesCleanly
      characteristic around
  | _ => True

/-! ## Discoveries -/

/-- A discovery that begins fails with the flag set where there is no registration or no
proxy, and otherwise takes the flag back if the service refuses. -/
theorem discoverServices_begins {client : GattClient} {around : Surroundings}
    (on : around.bleEnabled = true) (connected : client.connectionState = btConnectStateConnected)
    (idle : client.isDiscovering = false) :
    client.DiscoversWithoutTrace around ↔
      client.isRegisterSucceeded = true ∧ around.answer ≠ none := by
  have internalError : btErrInternalError ≠ btNoError := by decide
  have notTimedOut : ¬ client.TimesOut around := fun timesOut => by
    rw [TimesOut, idle] at timesOut
    cases timesOut.2.2
  rw [DiscoversWithoutTrace, discoverServices, discoverStart.eq_def]
  simp only [on, connected, idle, Bool.not_true, Bool.false_eq_true, if_false, ne_eq, not_true_eq_false]
  cases registered : client.isRegisterSucceeded with
  | false =>
    refine iff_of_false (fun claimed => ?_) fun has => Bool.false_ne_true has.1
    exact absurd (claimed internalError notTimedOut) (by simp)
  | true =>
    cases around.answer with
    | none =>
      refine iff_of_false (fun claimed => ?_) (fun has => has.2 rfl)
      exact absurd (claimed internalError notTimedOut) (by simp)
    | some result =>
      refine iff_of_true (fun fails _ => ?_) ⟨rfl, Option.some_ne_none result⟩
      by_cases accepted : result = btNoError
      · simp [accepted] at fails
      · simp [accepted, discoverComplete, report]

/-- A discovery leaves no trace of its failure exactly under the condition for discoveries. The
mark is set before the service is asked and taken back on one of the ways out. -/
theorem discoversWithoutTrace_iff (client : GattClient) (around : Surroundings) :
    client.DiscoversWithoutTrace around ↔ client.DiscoversCleanly around := by
  have invalidState : btErrInvalidState ≠ btNoError := by decide
  have stateError : btErrGattConnectStateError ≠ btNoError := by decide
  by_cases on : around.bleEnabled = true
  · by_cases connected : client.connectionState = btConnectStateConnected
    · cases discovering : client.isDiscovering with
      | false =>
        rw [discoverServices_begins on connected discovering]
        refine ⟨fun ready => ⟨fun _ _ _ => ready, fun _ => discovering⟩, fun cleanly => ?_⟩
        exact cleanly.begins on connected discovering
      | true =>
        refine iff_of_true (fun _ notTimedOut => absurd ⟨on, connected, discovering⟩ notTimedOut) ⟨?_, ?_⟩
        · intro _ _ idle
          rw [discovering] at idle
          cases idle
        · rintro (off | disconnected)
          · rw [on] at off
            cases off
          · exact absurd connected disconnected
    · have refused : client.discoverServices around = (client, btErrGattConnectStateError) := by
        simp only [discoverServices, on, Bool.not_true, Bool.false_eq_true, if_false, ne_eq, connected,
          not_false_eq_true, if_true]
      rw [DiscoversWithoutTrace, refused]
      constructor
      · intro noTrace
        have idle := noTrace stateError fun timesOut => connected timesOut.2.1
        exact ⟨fun _ isConnected => absurd isConnected connected, fun _ => idle⟩
      · intro cleanly _ _
        exact cleanly.refused (.inr connected)
  · have off : around.bleEnabled = false := by simpa using on
    have refused : client.discoverServices around = (client, btErrInvalidState) := by
      simp only [discoverServices, off, Bool.not_false, if_true]
    rw [DiscoversWithoutTrace, refused]
    constructor
    · intro noTrace
      have idle := noTrace invalidState fun timesOut => on timesOut.1
      exact ⟨fun isOn => absurd isOn on, fun _ => idle⟩
    · intro cleanly _ _
      exact cleanly.refused (.inl off)

/-! ## Notifications -/

/-- The service is asked for notifications by a connected client with a proxy. -/
theorem requestedNotification_eq_none_iff (client : GattClient)
    (characteristic : GattCharacteristic) (enable : Bool) (around : Surroundings) :
    client.requestedNotification characteristic enable around = none ↔
      ¬ (around.bleEnabled = true ∧ client.connectionState = btConnectStateConnected ∧
        around.answer ≠ none) := by
  rw [requestedNotification]
  by_cases on : around.bleEnabled = true
  · by_cases connected : client.connectionState = btConnectStateConnected
    · by_cases missing : around.answer = none
      · simp [on, connected, missing]
      · simp [on, connected, missing]
    · simp [on, connected]
  · simp [on]

/-- A client that cannot ask the service is refused for another reason than being busy. The
checks for Bluetooth, the connection and the proxy come before the test of the flag. -/
theorem setNotify_unasked {client : GattClient} {around : Surroundings}
    (unasked : ¬ (around.bleEnabled = true ∧ client.connectionState = btConnectStateConnected ∧
      around.answer ≠ none)) (characteristic : GattCharacteristic) (value : ByteString) :
    (client.setNotifyCharacteristicInner characteristic value around).result ≠
      btErrOperationBusy := by
  have invalidState : btErrInvalidState ≠ btErrOperationBusy := by decide
  have notEstablished : btErrGattConnectionNotEstabilished ≠ btErrOperationBusy := by decide
  have internalError : btErrInternalError ≠ btErrOperationBusy := by decide
  rw [setNotifyCharacteristicInner.eq_def]
  by_cases on : around.bleEnabled = true
  · by_cases connected : client.connectionState = btConnectStateConnected
    · have missing : around.answer = none := by
        by_contra present
        exact unasked ⟨on, connected, present⟩
      simpa [on, connected, missing] using internalError
    · simpa [on, connected] using notEstablished
  · simpa [on] using invalidState

/-- A client that has asked the service is busy if the service says so, or a request of its
own is under way. -/
theorem setNotify_asked {client : GattClient} {around : Surroundings} {answer : Int32}
    (on : around.bleEnabled = true) (connected : client.connectionState = btConnectStateConnected)
    (answered : around.answer = some answer) (characteristic : GattCharacteristic)
    (value : ByteString) :
    (client.setNotifyCharacteristicInner characteristic value around).result ≠ btErrOperationBusy ↔
      around.notification ≠ btErrOperationBusy ∧
        (around.notification = btNoError → client.doing = false ∧
          (characteristic.isConfigurable = true → answer ≠ btErrOperationBusy)) := by
  have noError : btNoError ≠ btErrOperationBusy := by decide
  rw [setNotifyCharacteristicInner.eq_def]
  simp only [on, connected, answered, Bool.not_true, Bool.false_eq_true, if_false, ne_eq, not_true_eq_false,
    reduceCtorEq]
  by_cases accepted : around.notification = btNoError
  · cases doing : client.doing with
    | true => simp [accepted]
    | false =>
      have configured : characteristic.isConfigurable = (characteristic.descriptors.find? fun desc =>
          desc.uuid.equals clientConfiguration).isSome := by
        rw [GattCharacteristic.isConfigurable, Bool.eq_iff_iff, List.find?_isSome, List.any_eq_true]
      cases found : characteristic.descriptors.find? fun desc => desc.uuid.equals clientConfiguration with
      | none =>
        rw [found] at configured
        simp [accepted, noError, configured]
      | some descriptor =>
        rw [found] at configured
        by_cases written : answer = btNoError
        · simp [accepted, noError, configured, ask, written]
        · simp [accepted, noError, configured, ask, written]
  · simp [accepted]

/-- Setting notifications leaves no trace of its failure exactly under the condition for
notifications. The registration comes first and is not undone when the write fails. -/
theorem notifiesWithoutTrace_iff (client : GattClient) (characteristic : GattCharacteristic)
    (enable : Bool) (value : ByteString) (around : Surroundings) :
    client.NotifiesWithoutTrace characteristic enable around
        (client.setNotifyCharacteristicInner characteristic value around) ↔
      client.NotifiesCleanly characteristic around := by
  by_cases asked : around.bleEnabled = true ∧ client.connectionState = btConnectStateConnected ∧
      around.answer ≠ none
  · obtain ⟨on, connected, present⟩ := asked
    obtain ⟨answer, answered⟩ := Option.ne_none_iff_exists'.mp present
    have sent : client.requestedNotification characteristic enable around ≠ none := fun unasked =>
      (requestedNotification_eq_none_iff client characteristic enable around).mp unasked ⟨on,
        connected, present⟩
    have idle := setNotify_asked on connected answered characteristic value
    constructor
    · intro noTrace _ _ other same
      rw [answered] at same
      cases same
      exact idle.mp fun busy => sent (noTrace busy).1
    · intro cleanly busy
      exact absurd busy (idle.mpr (cleanly on connected answer answered))
  · refine iff_of_true (fun busy => ?_) fun on connected answer answered => ?_
    · exact absurd busy (setNotify_unasked asked characteristic value)
    · refine absurd ⟨on, connected, ?_⟩ asked
      rw [answered]
      exact nofun

/-- A step leaves no trace of a failure exactly when it calls cleanly. One case for each call;
those that can leave a trace are the discovery and the setting of notifications and indications.
-/
theorem leavesNoTrace_iff (client : GattClient) (event : SessionEvent) :
    client.LeavesNoTrace event ↔ client.CallsCleanly event := by
  cases event with
  | discoverServices around => exact client.discoversWithoutTrace_iff around
  | request request around =>
    cases request with
    | setNotifyCharacteristic characteristic enable =>
      exact client.notifiesWithoutTrace_iff characteristic enable _ around
    | setIndicateCharacteristic characteristic enable =>
      exact client.notifiesWithoutTrace_iff characteristic enable _ around
    | readCharacteristic handle => exact Iff.rfl
    | readCharacteristicByUuid uuid startHandle endHandle => exact Iff.rfl
    | readDescriptor handle => exact Iff.rfl
    | writeCharacteristic characteristic value isWithContext => exact Iff.rfl
    | writeDescriptor descriptor => exact Iff.rfl
  | connect call => exact Iff.rfl
  | disconnect around => exact Iff.rfl
  | close around => exact Iff.rfl
  | getService bleEnabled result => exact Iff.rfl
  | callback callback => exact Iff.rfl
  | bluetoothTurnOff => exact Iff.rfl

/-- **Failures leave no trace exactly in runs that call cleanly.** In every run of a new
client, no failed discovery leaves the flag set and no call that finds the client busy has
asked the service, if and only if every discovery that begins has a registration and a proxy,
none is refused while another is under way, and the service is asked for notifications only
where neither it nor the client is busy. -/
theorem no_trace_iff (device : BluetoothRemoteDevice) (events : List SessionEvent) :
    Meets step LeavesNoTrace (create device) events ↔
      Meets step CallsCleanly (create device) events := by
  apply @meets_iff_meets _ _ step (fun _ => True) CallsCleanly LeavesNoTrace
  · exact fun _ _ _ _ _ _ => trivial
  · exact fun client event _ _ _ => client.leavesNoTrace_iff event
  · trivial

/-- A device at the address 00:00:00:00:00:00. -/
def zeroDevice : BluetoothRemoteDevice where
  address := [0x30, 0x30, 0x3A, 0x30, 0x30, 0x3A, 0x30, 0x30, 0x3A, 0x30, 0x30, 0x3A, 0x30, 0x30,
    0x3A, 0x30, 0x30]

/-- A connected client for which Bluetooth was turned off and on again has no registration;
its discovery fails and stays under way. A busy client has asked for notifications. -/
theorem discovery_stays_under_way :
    ¬ Meets step LeavesNoTrace (create zeroDevice)
      [.connect {}, .callback (.onConnectionStateChanged 0 btConnectStateConnected), .bluetoothTurnOff,
        .discoverServices {}] ∧
    ¬ Meets step LeavesNoTrace (create zeroDevice)
      [.connect {}, .callback (.onConnectionStateChanged 0 btConnectStateConnected),
        .request (.readCharacteristic 3) {},
          .request (.setNotifyCharacteristic { handle := 3 } true) {}] := by
  constructor
  · rintro ⟨-, -, -, noTrace, -⟩
    exact absurd (noTrace (by decide) (by decide)) (by decide)
  · rintro ⟨-, -, -, noTrace, -⟩
    exact absurd (noTrace (by decide)).1 (by decide)

end GattClient
end BluetoothFramework
