import BluetoothFramework.Ipc.Proxy

/-!
# The HID host and the hands-free proxies

The functions of `BluetoothHidHostProxy` and `BluetoothHfpHfProxy` that return an error code.
`HidHostSendData` and `StartDial` have an output parameter that they never assign. The writes
of `BluetoothHfpHfProxy::GetDevicesByStates` return `false` when they fail, which is the code of
a success.
-/

namespace BluetoothFramework.Ipc

open ReplyReader

/-- The limit on the number of elements in a reply. -/
def maxSize : Int32 := 100

/-- The size of a vector of states and the states. -/
def writeStates (states : List Int32) : List ParcelItem :=
  Parcel.writeSized (fun state => [.int32 state]) states

/-- A code, and the value only after a success, which the function returns. -/
def resultThenInt32 : ReplyReader Outcome := do
  let res ← readInt32
  if res = btNoError then do
    let value ← readInt32
    pure ⟨res, [some (.int32 value)]⟩
  else pure ⟨res, [none]⟩

/-- Reading a code and then a number gives a success only with the number. -/
theorem assigns_resultThenInt32 : Assigns resultThenInt32 := by
  apply assigns_bind
  intro res
  by_cases success : res = btNoError
  · rw [if_pos success]
    apply assigns_bind
    intro value
    apply assigns_pure
    simp
  · rw [if_neg success]
    exact assigns_error success

namespace BluetoothHidHostProxy

/-- A request to the HID host. -/
def request (code : InterfaceCode) (items : List ParcelItem) (outputs : Nat) : Request where
  code := code
  data := .interfaceToken "OHOS.Bluetooth.IBluetoothHidHost" :: items.map .item
  writeFailure := btErrIpcTransFailed
  outputs := outputs

/-- A function that returns `BT_ERR_IPC_TRANS_FAILED` on every failure. -/
def asks (code : InterfaceCode) (items : List ParcelItem) (outputs : Nat)
    (read : Transport → ReplyReader Outcome) :
    Operation :=
  sends (request code items outputs) (fun _ => btErrIpcTransFailed) read

/-- The reply to a report is handed out, and the function itself always succeeds then. -/
def readReport : ReplyReader Outcome := do
  let result ← readInt32
  pure ⟨btNoError, [some (.int32 result)]⟩

/-- `Connect` -/
def connect (device : RawAddress) : Operation :=
  asks .commandConnect (Parcel.writeParcelable (rawAddressMarshalling device)) 0 fun _ => result

/-- `Disconnect` -/
def disconnect (device : RawAddress) : Operation :=
  asks .commandDisconnect (Parcel.writeParcelable (rawAddressMarshalling device)) 0 fun _ => result

/-- `GetDeviceState` -/
def getDeviceState (device : RawAddress) : Operation :=
  asks .commandGetDeviceState (Parcel.writeParcelable (rawAddressMarshalling device)) 1 fun _ => do
    let errCode ← readInt32
    if errCode ≠ btNoError then pure ⟨errCode, [none]⟩
    else do
      let state ← readInt32
      pure ⟨btNoError, [some (.int32 state)]⟩

/-- `GetDevicesByStates`: a negative size is read as no device. -/
def getDevicesByStates (states : List Int32) : Operation :=
  asks .commandGetDevicesByStates (writeStates states) 1 fun transport => do
    let errCode ← readInt32
    if errCode ≠ btNoError then pure ⟨errCode, [none]⟩
    else do
      let rawAddsSize ← readInt32
      if rawAddsSize > maxSize then pure ⟨btErrInvalidParam, [none]⟩
      else readElements rawAddressUnmarshalling .devices transport.transactionErr rawAddsSize.toInt.toNat []

/-- A registration and a deregistration of an observer, which read no reply. -/
def observes (code : InterfaceCode) (observer : Nat) : Operation :=
  sends
    { code := code
      data := [.interfaceToken "OHOS.Bluetooth.IBluetoothHidHost", .remoteObject observer]
      writeFailure := btErrIpcTransFailed }
    Transport.invalidData fun _ => pure ⟨btNoError, []⟩

/-- `RegisterObserver` -/
def registerObserver (observer : Nat) : Operation :=
  observes .commandRegisterObserver observer

/-- `DeregisterObserver` -/
def deregisterObserver (observer : Nat) : Operation :=
  observes .commandDeregisterObserver observer

/-- `HidHostVCUnplug` -/
def hidHostVCUnplug (device : ByteString) (id : UInt8) (size : UInt16) (type : UInt8) : Operation :=
  asks .commandVcunPlug [.string device, .uint8 id, .uint16 size, .uint8 type] 1 fun _ => readReport

/-- `HidHostSendData`, which reads no reply and does not assign `result`. -/
def hidHostSendData (device : ByteString) (id : UInt8) (size : UInt16) (type : UInt8) : Operation :=
  asks .commandSendData [.string device, .uint8 id, .uint16 size, .uint8 type] 1 fun _ =>
    pure ⟨btNoError, [none]⟩

/-- `HidHostSetReport` -/
def hidHostSetReport (device : ByteString) (type : UInt8) (report : ByteString) : Operation :=
  asks .commandSetReport [.string device, .uint8 type, .string report] 1 fun _ => readReport

/-- `HidHostGetReport` -/
def hidHostGetReport (device : ByteString) (id : UInt8) (size : UInt16) (type : UInt8) :
    Operation :=
  asks .commandGetReport [.string device, .uint8 id, .uint16 size, .uint8 type] 1 fun _ => readReport

/-- `SetConnectStrategy` -/
def setConnectStrategy (device : RawAddress) (strategy : Int32) : Operation :=
  asks .commandSetConnectStrategy (Parcel.writeParcelable (rawAddressMarshalling device) ++ [.int32 strategy]) 0
    fun _ => result

/-- `GetConnectStrategy` -/
def getConnectStrategy (device : RawAddress) : Operation :=
  asks .commandGetConnectStrategy (Parcel.writeParcelable (rawAddressMarshalling device)) 1
    fun _ => resultThenInt32

/-- The functions with their arguments. -/
inductive Function where
  | connect (device : RawAddress)
  | disconnect (device : RawAddress)
  | getDeviceState (device : RawAddress)
  | getDevicesByStates (states : List Int32)
  | registerObserver (observer : Nat)
  | deregisterObserver (observer : Nat)
  | hidHostVCUnplug (device : ByteString) (id : UInt8) (size : UInt16) (type : UInt8)
  | hidHostSendData (device : ByteString) (id : UInt8) (size : UInt16) (type : UInt8)
  | hidHostSetReport (device : ByteString) (type : UInt8) (report : ByteString)
  | hidHostGetReport (device : ByteString) (id : UInt8) (size : UInt16) (type : UInt8)
  | setConnectStrategy (device : RawAddress) (strategy : Int32)
  | getConnectStrategy (device : RawAddress)

/-- What a function is. -/
def Function.operation : Function → Operation
  | .connect device => BluetoothHidHostProxy.connect device
  | .disconnect device => BluetoothHidHostProxy.disconnect device
  | .getDeviceState device => BluetoothHidHostProxy.getDeviceState device
  | .getDevicesByStates states => BluetoothHidHostProxy.getDevicesByStates states
  | .registerObserver observer => BluetoothHidHostProxy.registerObserver observer
  | .deregisterObserver observer => BluetoothHidHostProxy.deregisterObserver observer
  | .hidHostVCUnplug device id size type => BluetoothHidHostProxy.hidHostVCUnplug device id size type
  | .hidHostSendData device id size type => BluetoothHidHostProxy.hidHostSendData device id size type
  | .hidHostSetReport device type report => BluetoothHidHostProxy.hidHostSetReport device type report
  | .hidHostGetReport device id size type => BluetoothHidHostProxy.hidHostGetReport device id size type
  | .setConnectStrategy device strategy => BluetoothHidHostProxy.setConnectStrategy device strategy
  | .getConnectStrategy device => BluetoothHidHostProxy.getConnectStrategy device

/-- Data that is sent is not delivered. -/
def Function.Reported (function : Function) (transport : Transport) : Prop :=
  match function with
  | .hidHostSendData .. =>
      transport.write function.operation.request.data = true →
        ¬ transport.Delivers function.operation.request
  | _ => True

variable {transport : Transport}

/-- A request of the HFP proxy reports its failures, whatever its reader is, as long as the
reader gives a success only with all outputs. -/
theorem asks_faithful {code : InterfaceCode} {items : List ParcelItem} {outputs : Nat}
    {read : Transport → ReplyReader Outcome} (assigns : (read transport).Assigns) :
    (asks code items outputs read).Faithful transport :=
  sends_faithful transFailed_ne transFailed_ne assigns

/-- The registration of an observer reports its failures. -/
theorem observes_faithful (code : InterfaceCode) (observer : Nat) :
    (observes code observer).Faithful transport := by
  apply sends_faithful transFailed_ne transport.invalidData_ne
  apply assigns_pure
  simp

/-- Reading a report gives a success only with the report. -/
theorem assigns_readReport : Assigns readReport := by
  apply assigns_bind
  intro result
  apply assigns_pure
  simp

/-- What follows the test of an error code answers for the output. -/
theorem assigns_checked {continued : ReplyReader Outcome} (assigns : continued.Assigns) :
    Assigns (readInt32 >>= fun errCode =>
      if errCode ≠ btNoError then pure ⟨errCode, [none]⟩ else continued) := by
  apply assigns_bind
  intro errCode
  by_cases failed : errCode ≠ btNoError
  · rw [if_pos failed]
    exact assigns_error failed
  · rw [if_neg failed]
    exact assigns

/-- The request for the state of a device reports its failures. -/
theorem getDeviceState_faithful (device : RawAddress) :
    (getDeviceState device).Faithful transport := by
  apply asks_faithful
  apply assigns_checked
  apply assigns_bind
  intro state
  apply assigns_pure
  simp

/-- The request for the devices in given states reports its failures. -/
theorem getDevicesByStates_faithful (states : List Int32) :
    (getDevicesByStates states).Faithful transport := by
  apply asks_faithful
  apply assigns_checked
  apply assigns_bind
  intro rawAddsSize
  apply assigns_ite
  · exact assigns_error (by decide)
  · exact assigns_readElements _ _ _ _ _

/-- `SendData` of the HID host reports its failures exactly if nothing it writes is delivered:
its success has another code than the one that counts as success. -/
theorem hidHostSendData_faithful_iff (device : ByteString) (id : UInt8) (size : UInt16)
    (type : UInt8) :
    (hidHostSendData device id size type).Faithful transport ↔
      (transport.write (hidHostSendData device id size type).request.data = true →
        ¬ transport.Delivers (hidHostSendData device id size type).request) := by
  refine (sends_faithful_iff transFailed_ne).trans ?_
  constructor
  · rintro ⟨_, assigned⟩ written ⟨remote, found, accepted⟩
    have unset := assigned remote written found accepted rfl none (List.mem_singleton_self _)
    cases unset
  · intro undelivered
    refine ⟨fun _ => transFailed_ne, fun remote written found accepted => ?_⟩
    exact absurd ⟨remote, found, accepted⟩ (undelivered written)

/-- A function of the HID host is faithful exactly when it is no `HidHostSendData` that is
delivered. -/
theorem faithful_iff (function : Function) :
    function.operation.Faithful transport ↔ function.Reported transport := by
  cases function with
  | connect device => exact iff_of_true (asks_faithful assigns_result) trivial
  | disconnect device => exact iff_of_true (asks_faithful assigns_result) trivial
  | getDeviceState device => exact iff_of_true (getDeviceState_faithful device) trivial
  | getDevicesByStates states => exact iff_of_true (getDevicesByStates_faithful states) trivial
  | registerObserver observer => exact iff_of_true (observes_faithful _ observer) trivial
  | deregisterObserver observer => exact iff_of_true (observes_faithful _ observer) trivial
  | hidHostVCUnplug device id size type => exact iff_of_true (asks_faithful assigns_readReport) trivial
  | hidHostSendData device id size type => exact hidHostSendData_faithful_iff device id size type
  | hidHostSetReport device type report => exact iff_of_true (asks_faithful assigns_readReport) trivial
  | hidHostGetReport device id size type => exact iff_of_true (asks_faithful assigns_readReport) trivial
  | setConnectStrategy device strategy => exact iff_of_true (asks_faithful assigns_result) trivial
  | getConnectStrategy device => exact iff_of_true (asks_faithful assigns_resultThenInt32) trivial

end BluetoothHidHostProxy

namespace BluetoothHfpHfProxy

/-- A request to the hands-free unit, with the code for a write that fails. -/
def request (code : InterfaceCode) (items : List ParcelItem) (writeFailure : Int32)
    (outputs : Nat) : Request where
  code := code
  data := .interfaceToken "ohos.ipc.IBluetoothHfpHf" :: items.map .item
  writeFailure := writeFailure
  outputs := outputs

/-- A function that returns one code on every failure. -/
def asks (code : InterfaceCode) (items : List ParcelItem) (failure : Int32) (outputs : Nat)
    (read : Transport → ReplyReader Outcome) : Operation :=
  sends (request code items failure outputs) (fun _ => failure) read

/-- A number of elements and the elements. -/
def readCounted {α : Type} (read : ParcelReader α) (value : List α → Value) (failure : Int32) :
    ReplyReader Outcome := do
  let count ← readUint32
  if count > maxSize.toUInt32 then pure ⟨btErrInvalidParam, [none]⟩
  else readElements read value failure count.toNat []

/-- `GetDevicesByStates`: a write that fails returns `false`. -/
def getDevicesByStates (states : List Int32) : Operation :=
  sends (request .btHfpHfGetDevicesByStates (writeStates states) 0 1) (fun _ => btErrIpcTransFailed)
    fun _ => readCounted rawAddressUnmarshalling .devices btErrIpcTransFailed

/-- `GetDeviceState` -/
def getDeviceState (device : RawAddress) : Operation :=
  asks .btHfpHfGetDeviceState (Parcel.writeParcelable (rawAddressMarshalling device)) btErrIpcTransFailed 0
    fun _ => result

/-- `GetScoState` -/
def getScoState (device : RawAddress) : Operation :=
  asks .btHfpHfGetScoState (Parcel.writeParcelable (rawAddressMarshalling device)) btErrIpcTransFailed 0
    fun _ => result

/-- `Connect` -/
def connect (device : RawAddress) : Operation :=
  asks .btHfpHfConnect (Parcel.writeParcelable (rawAddressMarshalling device)) btErrIpcTransactionFailed 0
    fun _ => result

/-- `Disconnect` -/
def disconnect (device : RawAddress) : Operation :=
  asks .btHfpHfDisconnect (Parcel.writeParcelable (rawAddressMarshalling device)) btErrIpcTransactionFailed 0
    fun _ => result

/-- `GetCurrentCallList` -/
def getCurrentCallList (device : RawAddress) : Operation :=
  asks .btHfpHfGetCurrentCallList (Parcel.writeParcelable (rawAddressMarshalling device)) btErrIpcTransFailed 1
    fun transport => readCounted BluetoothHfpHfCall.unmarshalling .calls transport.transactionErr

/-- `StartDial`, which writes the call it is given and does not assign it. -/
def startDial (device : RawAddress) (number : ByteString) (call : BluetoothHfpHfCall) : Operation :=
  asks .btHfpHfStartDial
    (Parcel.writeParcelable (rawAddressMarshalling device) ++
      (.string number :: Parcel.writeParcelable call.marshalling))
    btErrIpcTransFailed 1 fun _ => do
      let ret ← readInt32
      pure ⟨ret, [none]⟩

/-- `SetConnectStrategy` -/
def setConnectStrategy (device : RawAddress) (strategy : Int32) : Operation :=
  asks .btHfpHfSetConnectStrategy (Parcel.writeParcelable (rawAddressMarshalling device) ++ [.int32 strategy])
    btErrIpcTransFailed 0 fun _ => result

/-- `GetConnectStrategy` -/
def getConnectStrategy (device : RawAddress) : Operation :=
  asks .btHfpHfGetConnectStrategy (Parcel.writeParcelable (rawAddressMarshalling device)) btErrIpcTransFailed 1
    fun _ => resultThenInt32

/-- The functions with their arguments. -/
inductive Function where
  | getDevicesByStates (states : List Int32)
  | getDeviceState (device : RawAddress)
  | getScoState (device : RawAddress)
  | connect (device : RawAddress)
  | disconnect (device : RawAddress)
  | getCurrentCallList (device : RawAddress)
  | startDial (device : RawAddress) (number : ByteString) (call : BluetoothHfpHfCall)
  | setConnectStrategy (device : RawAddress) (strategy : Int32)
  | getConnectStrategy (device : RawAddress)

/-- What a function is. -/
def Function.operation : Function → Operation
  | .getDevicesByStates states => BluetoothHfpHfProxy.getDevicesByStates states
  | .getDeviceState device => BluetoothHfpHfProxy.getDeviceState device
  | .getScoState device => BluetoothHfpHfProxy.getScoState device
  | .connect device => BluetoothHfpHfProxy.connect device
  | .disconnect device => BluetoothHfpHfProxy.disconnect device
  | .getCurrentCallList device => BluetoothHfpHfProxy.getCurrentCallList device
  | .startDial device number call => BluetoothHfpHfProxy.startDial device number call
  | .setConnectStrategy device strategy => BluetoothHfpHfProxy.setConnectStrategy device strategy
  | .getConnectStrategy device => BluetoothHfpHfProxy.getConnectStrategy device

/-- A list of devices is asked for with all writes done, and a delivered dial is refused. -/
def Function.Reported (function : Function) (transport : Transport) : Prop :=
  match function with
  | .getDevicesByStates _ => transport.write function.operation.request.data = true
  | .startDial .. => ∀ remote, transport.write function.operation.request.data = true →
      transport.remote = some remote →
      (remote function.operation.request.code function.operation.request.data).1 = btNoError →
      (readInt32.run (remote function.operation.request.code function.operation.request.data).2).1 ≠
        btNoError
  | _ => True

variable {transport : Transport}

/-- A request of the HID proxy reports its failures, if the code it gives for one is an error
and its reader gives a success only with all outputs. -/
theorem asks_faithful {code : InterfaceCode} {items : List ParcelItem} {failure : Int32}
    {outputs : Nat} {read : Transport → ReplyReader Outcome} (isError : failure ≠ btNoError)
    (assigns : (read transport).Assigns) :
    (asks code items failure outputs read).Faithful transport :=
  sends_faithful isError isError assigns

/-- Reading counted elements gives a success only with the elements. -/
theorem assigns_readCounted {α : Type} (read : ParcelReader α) (value : List α → Value)
    (failure : Int32) :
    Assigns (readCounted read value failure) := by
  apply assigns_bind
  intro count
  apply assigns_ite
  · exact assigns_error (by decide)
  · exact assigns_readElements _ _ _ _ _

/-- The request for the devices in given states reports its failures exactly if it can be
written. A failed write returns without a code of its own. -/
theorem getDevicesByStates_faithful_iff (states : List Int32) :
    (getDevicesByStates states).Faithful transport ↔
      transport.write (getDevicesByStates states).request.data = true := by
  refine (sends_faithful_iff transFailed_ne).trans ?_
  constructor
  · intro ⟨reported, _⟩
    by_contra unwritten
    exact reported (Bool.eq_false_of_not_eq_true unwritten) rfl
  · intro written
    constructor
    · intro unwritten
      exact absurd (written.symm.trans unwritten) (by decide)
    · exact fun remote _ _ _ => assigns_readCounted _ _ _ _

/-- Dialling reports its failures under the condition that the table of conditions has for it.
-/
theorem startDial_faithful_iff (device : RawAddress) (number : ByteString)
    (call : BluetoothHfpHfCall) :
    (startDial device number call).Faithful transport ↔
      Function.Reported (.startDial device number call) transport := by
  refine (sends_faithful_iff transFailed_ne).trans ?_
  constructor
  · intro ⟨_, assigned⟩ remote written found accepted success
    have unset := assigned remote written found accepted success none (List.mem_singleton_self _)
    cases unset
  · intro refused
    refine ⟨fun _ => transFailed_ne, fun remote written found accepted success => ?_⟩
    exact absurd success (refused remote written found accepted)

/-- A function of the hands-free unit is faithful exactly when it is neither a list of devices
with a write that fails nor a dial that succeeds. -/
theorem faithful_iff (function : Function) :
    function.operation.Faithful transport ↔ function.Reported transport := by
  cases function with
  | getDevicesByStates states => exact getDevicesByStates_faithful_iff states
  | getDeviceState device => exact iff_of_true (asks_faithful transFailed_ne assigns_result) trivial
  | getScoState device => exact iff_of_true (asks_faithful transFailed_ne assigns_result) trivial
  | connect device => exact iff_of_true (asks_faithful transactionFailed_ne assigns_result) trivial
  | disconnect device => exact iff_of_true (asks_faithful transactionFailed_ne assigns_result) trivial
  | getCurrentCallList device =>
    exact iff_of_true (asks_faithful transFailed_ne (assigns_readCounted _ _ _)) trivial
  | startDial device number call => exact startDial_faithful_iff device number call
  | setConnectStrategy device strategy =>
    exact iff_of_true (asks_faithful transFailed_ne assigns_result) trivial
  | getConnectStrategy device =>
    exact iff_of_true (asks_faithful transFailed_ne assigns_resultThenInt32) trivial

end BluetoothHfpHfProxy
end BluetoothFramework.Ipc
