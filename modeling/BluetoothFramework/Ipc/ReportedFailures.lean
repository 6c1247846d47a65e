import BluetoothFramework.Ipc.BleProxies
import BluetoothFramework.Ipc.ProfileProxies

/-!
# Failures that the proxies report

The functions of the four proxies together. `failures_reported_iff` says for each of them on
which writes, remote objects and replies its success may be trusted. `hid_devices_arrive`,
`hfp_devices_arrive` and `calls_arrive` say of the lists that a reply holds that the function
hands out what the service has written.
-/

namespace BluetoothFramework.Ipc

open Fifo ReplyReader

/-- A function of one of the proxies with its arguments. -/
inductive ProxyFunction where
  | bleCentralManager (function : BluetoothBleCentralManagerProxy.Function)
  | bleAdvertiser (function : BluetoothBleAdvertiserProxy.Function)
  | hidHost (function : BluetoothHidHostProxy.Function)
  | hfpHf (function : BluetoothHfpHfProxy.Function)

namespace ProxyFunction

/-- What a function is. -/
def operation : ProxyFunction → Operation
  | bleCentralManager function => function.operation
  | bleAdvertiser function => function.operation
  | hidHost function => function.operation
  | hfpHf function => function.operation

/-- A scan is delivered if it is written, a list of devices is asked for with all writes done,
`HidHostSendData` is not delivered, and a `StartDial` that is delivered is refused. -/
def Reported (function : ProxyFunction) (transport : Transport) : Prop :=
  match function with
  | bleCentralManager function => function.Reported transport
  | bleAdvertiser _ => True
  | hidHost function => function.Reported transport
  | hfpHf function => function.Reported transport

/-- For every function, all arguments and every way the call can go: success is reported only
where everything has been written, sent and assigned, exactly under this condition. The condition
says something of five functions only, among them the start and the stop of a scan; all others
always report their failures. -/
theorem failures_reported_iff (function : ProxyFunction) (transport : Transport) :
    function.operation.Faithful transport ↔ function.Reported transport := by
  cases function with
  | bleCentralManager function => exact BluetoothBleCentralManagerProxy.faithful_iff function
  | bleAdvertiser function => exact iff_of_true (BluetoothBleAdvertiserProxy.faithful function) trivial
  | hidHost function => exact BluetoothHidHostProxy.faithful_iff function
  | hfpHf function => exact BluetoothHfpHfProxy.faithful_iff function

/-- A transport without a remote object, with codes that are not zero. -/
def withoutRemote : Transport where
  objectNull := -1
  deadObject := -2
  transactionErr := -3
  invalidData := -4
  objectNull_ne := by decide
  transactionErr_ne := by decide
  invalidData_ne := by decide
  writes _ := true
  remote := none

/-- A scan starts successfully where there is no service. -/
theorem scan_without_service :
    ¬ (bleCentralManager (.startScan 1 {} [] true)).operation.Faithful withoutRemote := by
  intro faithful
  obtain ⟨_, ⟨remote, found, _⟩, _⟩ := faithful rfl
  cases found

end ProxyFunction

/-! ## Lists of a reply -/

/-- An object that has been written is read. -/
theorem readParcelable_arrives {α : Type} {read : ParcelReader α} {marshalled : List ParcelItem}
    {element : α} (reads : Reads read marshalled element) (rest : List ParcelItem) :
    (readParcelable read).run (Parcel.writeParcelable marshalled ++ rest) =
      (some element, rest) := by
  have arrives : Parcel.readParcelable read (Parcel.writeParcelable marshalled ++ rest) =
      some (element, rest) :=
    Parcel.reads_parcelable reads rest
  simp only [StateT.run, readParcelable, arrives]

/-- The loop hands out what has been written for each element. The elements that were read before
are carried along, since the output is set at the end only. -/
theorem readElements_arrive {α : Type} {read : ParcelReader α} {write : α → List ParcelItem}
    (value : List α → Value) (failure : Int32)
    (reads : ∀ element, Reads read (write element) element) (elements before : List α) :
    ((readElements read value failure elements.length before).run
        (elements.flatMap fun element => Parcel.writeParcelable (write element))).1 =
      ⟨btNoError, [some (value (before ++ elements))]⟩ := by
  induction elements generalizing before with
  | nil =>
    rw [List.append_nil]
    rfl
  | cons element elements inductionHypothesis =>
    have continued := inductionHypothesis (before ++ [element])
    rw [List.append_assoc, List.singleton_append] at continued
    rw [List.flatMap_cons, List.length_cons, readElements, StateT.run_bind,
      readParcelable_arrives (reads element)]
    exact continued

/-- An address is read as it was written, with its type. -/
theorem reads_rawAddress (device : RawAddress) :
    Reads rawAddressUnmarshalling (rawAddressMarshalling device) device := by
  apply Reads.next (Parcel.reads_string device.address)
  apply Reads.next (Parcel.reads_uint8 device.addressType)
  exact Reads.pure _

/-- A call of the hands-free profile is read as it was written. -/
theorem reads_call (call : BluetoothHfpHfCall) :
    Reads BluetoothHfpHfCall.unmarshalling call.marshalling call := by
  have time : Reads BluetoothHfpHfCall.readInt64 [int64Item call.creationTime] call.creationTime :=
    .take _ _ _ rfl
  apply Reads.next (Parcel.reads_string call.device)
  apply Reads.next (Parcel.reads_int32 call.id)
  apply Reads.next (Parcel.reads_int32 call.state)
  apply Reads.next (Parcel.reads_string call.number)
  apply Reads.bind (reads_uuid call.uuid)
  apply Reads.next (Parcel.reads_bool call.multiParty)
  apply Reads.next (Parcel.reads_bool call.outgoing)
  apply Reads.next (Parcel.reads_bool call.inBandRing)
  apply Reads.next time
  exact Reads.pure _

/-- A counted list of a reply is handed out. The bound on the count is the one that the reader
checks. -/
theorem readCounted_arrives {α : Type} {read : ParcelReader α} {write : α → List ParcelItem}
    (value : List α → Value) (failure : Int32)
    (reads : ∀ element, Reads read (write element) element)
    (elements : List α) (few : elements.length ≤ 100) :
    ((BluetoothHfpHfProxy.readCounted read value failure).run
        (Parcel.writeCounted (fun element => Parcel.writeParcelable (write element)) elements)).1 =
      ⟨btNoError, [some (value elements)]⟩ := by
  have size : (UInt32.ofNat elements.length).toNat = elements.length :=
    UInt32.toNat_ofNat_of_lt' (Nat.lt_of_le_of_lt few (by decide))
  have passes : ¬ UInt32.ofNat elements.length > maxSize.toUInt32 := by
    rw [gt_iff_lt, UInt32.lt_iff_toNat_lt, size]
    exact Nat.not_lt.mpr few
  have arrives := readElements_arrive value failure reads elements []
  rw [List.nil_append] at arrives
  change ((if UInt32.ofNat elements.length > maxSize.toUInt32 then pure ⟨btErrInvalidParam, [none]⟩
    else readElements read value failure (UInt32.ofNat elements.length).toNat []).run _).1 = _
  rw [if_neg passes, size]
  exact arrives

/-- An answer that says success has its reply read by the function's reader. -/
theorem sends_answered {transport : Transport} {request : Request} {failure : Transport → Int32}
    {read : Transport → ReplyReader Outcome}
    {remote : InterfaceCode → List Write → Int32 × List ParcelItem}
    {reply : List ParcelItem} (found : transport.remote = some remote)
    (written : transport.write request.data = true)
    (answered : remote request.code request.data = (btNoError, reply)) :
    (sends request failure read).perform transport = ((read transport).run reply).1 := by
  rw [sends_delivered written found (congrArg Prod.fst answered), answered]

section Arrivals

variable {transport : Transport} {remote : InterfaceCode → List Write → Int32 × List ParcelItem}

/-- The devices that the HID host service writes behind its code are handed out. The reader of
this function takes the code first, as the service writes it. -/
theorem hid_devices_arrive (states : List Int32) (devices : List RawAddress)
    (few : devices.length ≤ 100) (found : transport.remote = some remote)
    (written : transport.write (BluetoothHidHostProxy.getDevicesByStates states).request.data = true)
    (answered : remote .commandGetDevicesByStates
      (BluetoothHidHostProxy.getDevicesByStates states).request.data =
      (btNoError, .int32 btNoError ::
        Parcel.writeSized (fun device => Parcel.writeParcelable (rawAddressMarshalling device)) devices)) :
    (BluetoothHidHostProxy.getDevicesByStates states).perform transport =
      ⟨btNoError, [some (.devices devices)]⟩ := by
  refine (sends_answered found written answered).trans ?_
  have size : (Int32.ofNat devices.length).toInt = devices.length :=
    Int32.toInt_ofNat_of_lt (Nat.lt_of_le_of_lt few (by decide))
  have passes : ¬ Int32.ofNat devices.length > maxSize := by
    rw [gt_iff_lt, Int32.lt_iff_toInt_lt, size]
    exact Int.not_lt.mpr (Int.ofNat_le.mpr few)
  have arrives := readElements_arrive .devices transport.transactionErr reads_rawAddress devices []
  rw [List.nil_append] at arrives
  change ((if Int32.ofNat devices.length > maxSize then pure ⟨btErrInvalidParam, [none]⟩
    else readElements rawAddressUnmarshalling .devices transport.transactionErr
      (Int32.ofNat devices.length).toInt.toNat []).run _).1 = _
  rw [if_neg passes, size]
  exact arrives

/-- The devices that the hands-free service writes are handed out. -/
theorem hfp_devices_arrive (states : List Int32) (devices : List RawAddress)
    (few : devices.length ≤ 100) (found : transport.remote = some remote)
    (written : transport.write (BluetoothHfpHfProxy.getDevicesByStates states).request.data = true)
    (answered : remote .btHfpHfGetDevicesByStates (BluetoothHfpHfProxy.getDevicesByStates states).request.data =
      (btNoError,
        Parcel.writeCounted (fun device => Parcel.writeParcelable (rawAddressMarshalling device)) devices)) :
    (BluetoothHfpHfProxy.getDevicesByStates states).perform transport =
      ⟨btNoError, [some (.devices devices)]⟩ := by
  refine (sends_answered found written answered).trans ?_
  exact readCounted_arrives .devices btErrIpcTransFailed reads_rawAddress devices few

/-- The calls that the hands-free service writes are handed out. -/
theorem calls_arrive (device : RawAddress) (calls : List BluetoothHfpHfCall)
    (few : calls.length ≤ 100) (found : transport.remote = some remote)
    (written : transport.write (BluetoothHfpHfProxy.getCurrentCallList device).request.data = true)
    (answered : remote .btHfpHfGetCurrentCallList (BluetoothHfpHfProxy.getCurrentCallList device).request.data =
      (btNoError, Parcel.writeCounted (fun call => Parcel.writeParcelable call.marshalling) calls)) :
    (BluetoothHfpHfProxy.getCurrentCallList device).perform transport =
      ⟨btNoError, [some (.calls calls)]⟩ := by
  refine (sends_answered found written answered).trans ?_
  exact readCounted_arrives .calls transport.transactionErr reads_call calls few

end Arrivals
end BluetoothFramework.Ipc
