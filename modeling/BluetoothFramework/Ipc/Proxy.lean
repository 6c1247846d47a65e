import BluetoothFramework.Parcel.BleScanFilter

/-!
# Requests of the IPC proxies

A function of a proxy writes its arguments to a parcel, sends the parcel to the remote object
and reads the reply. It gives up at the first write that fails. Two proxies send through
their `InnerTransact` and two through a macro that returns from the function.

Which writes fail, whether there is a remote object and what it answers is a `Transport`. A
request that fails leaves the reply empty, and a value read from an empty reply is zero or
false. Codes of the IPC library are part of the transport too; those that stand for a failure
are not `NO_ERROR`. `Faithful` says that a function does not report success in vain.
-/

namespace BluetoothFramework.Ipc

open Fifo

/-- `BT_ERR_IPC_TRANS_FAILED` -/
def btErrIpcTransFailed : Int32 := 2900100

/-- `BT_ERR_IPC_TRANSACTION_FAILED` -/
def btErrIpcTransactionFailed : Int32 := -1024

/-- The internal error is no success. -/
theorem internalError_ne : btErrInternalError ≠ btNoError := by
  decide

/-- The error of a failed transfer is no success. -/
theorem transFailed_ne : btErrIpcTransFailed ≠ btNoError := by
  decide

/-- The error of a failed transaction is no success. -/
theorem transactionFailed_ne : btErrIpcTransactionFailed ≠ btNoError := by
  decide

/-- The codes of the modelled requests, in the order of the four interfaces. -/
inductive InterfaceCode where
  | bleStartScan
  | bleStopScan
  | bleSetLpDeviceAdvParam
  | bleSetScanReportChannelToLpDevice
  | bleEnableSyncDataToLpDevice
  | bleDisableSyncDataToLpDevice
  | bleSendParamsToLpDevice
  | bleSetLpDeviceParam
  | bleRemoveLpDeviceParam
  | bleChangeScanParam
  | bleIsValidScannerId
  | bleFlushBatchScanResults
  | bleStartAdvertising
  | bleStopAdvertising
  | bleGetAdvertiserHandle
  | bleEnableAdvertising
  | bleDisableAdvertising
  | bleChangeAdvertisingParams
  | bleGetAdvPowerForRanging
  | bleRestoreRangingAntSwitch
  | commandConnect
  | commandDisconnect
  | commandGetDeviceState
  | commandGetDevicesByStates
  | commandRegisterObserver
  | commandDeregisterObserver
  | commandVcunPlug
  | commandSendData
  | commandSetReport
  | commandGetReport
  | commandSetConnectStrategy
  | commandGetConnectStrategy
  | btHfpHfGetDevicesByStates
  | btHfpHfGetDeviceState
  | btHfpHfGetScoState
  | btHfpHfConnect
  | btHfpHfDisconnect
  | btHfpHfGetCurrentCallList
  | btHfpHfStartDial
  | btHfpHfSetConnectStrategy
  | btHfpHfGetConnectStrategy
deriving DecidableEq

/-- One write of a request. Remote objects are numbered. -/
inductive Write where
  | interfaceToken (descriptor : String)
  | remoteObject (object : Nat)
  | item (item : ParcelItem)
deriving DecidableEq

/-- `WriteInt64`: the eight bytes of the unsigned value with the same bits. -/
def int64Item (value : Int64) : ParcelItem :=
  .uint64 value.toUInt64

/-! ## Addresses and calls -/

/-- `BluetoothRawAddress::Marshalling` -/
def rawAddressMarshalling (self : RawAddress) : List ParcelItem :=
  [.string self.address, .uint8 self.addressType]

/-- `BluetoothRawAddress::ReadFromParcel` -/
def rawAddressUnmarshalling : ParcelReader RawAddress := do
  let address ← Parcel.readString
  let addressType ← Parcel.readUint8
  pure { addressType, address }

/-- `HandsFreeUnitCalls`, which `BluetoothHfpHfCall` extends by no field. -/
structure BluetoothHfpHfCall where
  device : ByteString := []
  id : Int32 := 0
  state : Int32 := -1
  number : ByteString := []
  uuid : Uuid := {}
  multiParty : Bool := false
  outgoing : Bool := false
  inBandRing : Bool := false
  creationTime : Int64 := 0
deriving DecidableEq

namespace BluetoothHfpHfCall

/-- `WriteToParcel` -/
def marshalling (self : BluetoothHfpHfCall) : List ParcelItem :=
  .string self.device :: .int32 self.id :: .int32 self.state :: .string self.number ::
    (Parcel.writeParcelable self.uuid.marshalling ++
      [.bool self.multiParty, .bool self.outgoing, .bool self.inBandRing, int64Item self.creationTime])

/-- `ReadInt64` -/
def readInt64 : ParcelReader Int64 :=
  Fifo.take fun | .uint64 value => some value.toInt64 | _ => none

/-- `ReadFromParcel` -/
def unmarshalling : ParcelReader BluetoothHfpHfCall := do
  let device ← Parcel.readString
  let id ← Parcel.readInt32
  let state ← Parcel.readInt32
  let number ← Parcel.readString
  let uuid ← Parcel.readParcelable Uuid.unmarshalling
  let multiParty ← Parcel.readBool
  let outgoing ← Parcel.readBool
  let inBandRing ← Parcel.readBool
  let creationTime ← readInt64
  pure { device, id, state, number, uuid, multiParty, outgoing, inBandRing, creationTime }

end BluetoothHfpHfCall

/-! ## Replies -/

/-- What a function assigns to an output parameter; of a list, what it appends. -/
inductive Value where
  | bool (value : Bool)
  | int8 (value : Int8)
  | int32 (value : Int32)
  | devices (devices : List RawAddress)
  | calls (calls : List BluetoothHfpHfCall)
deriving DecidableEq

/-- What a function returns and what it leaves in each output parameter, `none` where it
assigns nothing. -/
structure Outcome where
  ret : Int32
  outputs : List (Option Value) := []
deriving DecidableEq

/-- Reads that check nothing. -/
abbrev ReplyReader (α : Type) : Type :=
  StateM (List ParcelItem) α

namespace ReplyReader

/-- The value of a read that fails is the default, and the reply stays as it is. -/
def readOr {α : Type} (read : ParcelReader α) (default : α) : ReplyReader α :=
  fun reply => (read reply).getD (default, reply)

/-- `ReadInt32()` -/
def readInt32 : ReplyReader Int32 :=
  readOr Parcel.readInt32 0

/-- `ReadUint32()` -/
def readUint32 : ReplyReader UInt32 :=
  readOr Parcel.readUint32 0

/-- `ReadBool()` -/
def readBool : ReplyReader Bool :=
  readOr Parcel.readBool false

/-- `ReadParcelable()`, with `none` for the null pointer. -/
def readParcelable {α : Type} (unmarshalling : ParcelReader α) : ReplyReader (Option α) :=
  fun reply => match Parcel.readParcelable unmarshalling reply with
    | some (value, rest) => (some value, rest)
    | none => (none, reply)

/-- `return reply.ReadInt32()` -/
def result : ReplyReader Outcome := do
  let ret ← readInt32
  pure ⟨ret, []⟩

/-- The loop that reads elements and appends each to the output parameter. -/
def readElements {α : Type} (read : ParcelReader α) (value : List α → Value) (failure : Int32) :
    Nat → List α → ReplyReader Outcome
  | 0, elements => pure ⟨btNoError, [some (value elements)]⟩
  | count + 1, elements => do
      match ← readParcelable read with
      | none => pure ⟨failure, [some (value elements)]⟩
      | some element => readElements read value failure count (elements ++ [element])

/-- A success has assigned every output parameter. -/
def Assigns (read : ReplyReader Outcome) : Prop :=
  ∀ reply, (read.run reply).1.ret = btNoError → ∀ output ∈ (read.run reply).1.outputs, output.isSome = true

/-- An outcome that is given directly must have its outputs if it is a success. -/
theorem assigns_pure {outcome : Outcome}
    (assigned : outcome.ret = btNoError → ∀ output ∈ outcome.outputs,
    output.isSome = true) : Assigns (pure outcome) :=
  fun _ => assigned

/-- What is read first gives no outcome, so only what follows has to be looked at. -/
theorem assigns_bind {α : Type} {read : ReplyReader α} {continued : α → ReplyReader Outcome}
    (assigns : ∀ value, Assigns (continued value)) : Assigns (read >>= continued) :=
  fun reply => assigns (read.run reply).1 (read.run reply).2

/-- A branch gives a success only with all outputs if both sides do. -/
theorem assigns_ite {condition : Prop} [Decidable condition] {yes no : ReplyReader Outcome}
    (left : Assigns yes) (right : Assigns no) : Assigns (if condition then yes else no) := by
  split
  · exact left
  · exact right

/-- An error has nothing to assign. -/
theorem assigns_error {outcome : Outcome} (isError : outcome.ret ≠ btNoError) :
    Assigns (pure outcome) :=
  assigns_pure fun success => absurd success isError

/-- Reading the code alone gives a success only where there are no outputs to assign. -/
theorem assigns_result : Assigns result := by
  apply assigns_bind
  intro ret
  apply assigns_pure
  simp

/-- Reading elements one by one gives a success only with all of them. The induction is on how
many are left. -/
theorem assigns_readElements {α : Type} (read : ParcelReader α) (value : List α → Value)
    (failure : Int32) (count : Nat) (elements : List α) :
      Assigns (readElements read value failure count elements) := by
  induction count generalizing elements with
  | zero =>
    apply assigns_pure
    simp
  | succ count inductionHypothesis =>
    apply assigns_bind
    intro element
    cases element with
    | none =>
      apply assigns_pure
      simp
    | some element => exact inductionHypothesis (elements ++ [element])

end ReplyReader

/-! ## Requests -/

/-- What the IPC library does, and its codes: which writes of a request succeed, counted from
its first; the remote object, if there is one, with the result and the reply of its
`SendRequest`. -/
structure Transport where
  objectNull : Int32
  deadObject : Int32
  transactionErr : Int32
  invalidData : Int32
  objectNull_ne : objectNull ≠ btNoError
  transactionErr_ne : transactionErr ≠ btNoError
  invalidData_ne : invalidData ≠ btNoError
  writes : Nat → Bool
  remote : Option (InterfaceCode → List Write → Int32 × List ParcelItem)

/-- What a function sends, what it returns when a write fails, and how many output parameters
it has. -/
structure Request where
  code : InterfaceCode
  data : List Write
  writeFailure : Int32
  outputs : Nat := 0

/-- A return that assigns nothing. -/
def Request.unassigned (request : Request) (ret : Int32) : Outcome :=
  ⟨ret, List.replicate request.outputs none⟩

namespace Transport

variable (transport : Transport)

/-- All writes of a request succeed. -/
def write (data : List Write) : Bool :=
  (List.range data.length).all transport.writes

/-- `SendRequest`; a request that fails leaves the reply empty. -/
def sendRequest (remote : InterfaceCode → List Write → Int32 × List ParcelItem)
    (code : InterfaceCode) (data : List Write) : Int32 × List ParcelItem :=
  let (err, reply) := remote code data
  if err = btNoError then (err, reply) else (err, [])

/-- `InnerTransact` -/
def innerTransact (code : InterfaceCode) (data : List Write) : Int32 × List ParcelItem :=
  match transport.remote with
  | none => (transport.objectNull, [])
  | some remote =>
      let (err, reply) := sendRequest remote code data
      if err = btNoError then (btNoError, reply)
      else if err = transport.deadObject then (transport.deadObject, reply)
      else (transport.transactionErr, reply)

/-- There is a remote object and `SendRequest` returns `NO_ERROR`. -/
def Delivers (request : Request) : Prop :=
  ∃ remote, transport.remote = some remote ∧ (remote request.code request.data).1 = btNoError

end Transport

/-- A function of a proxy that returns an error code. -/
structure Operation where
  request : Request
  perform : Transport → Outcome

/-- A function that sends with `InnerTransact`. On a failure it returns what `failed` makes of
the result, or only logs it and reads the reply. -/
def transacts (request : Request) (failed : Int32 → Option Int32) (read : ReplyReader Outcome) :
    Operation where
  request := request
  perform transport :=
    if !transport.write request.data then request.unassigned request.writeFailure
    else
      let (result, reply) := transport.innerTransact request.code request.data
      if result ≠ btNoError then
        match failed result with
        | some ret => request.unassigned ret
        | none => (read.run reply).1
      else (read.run reply).1

/-- A function that sends with `SEND_IPC_REQUEST_RETURN_RESULT`. -/
def sends (request : Request) (failure : Transport → Int32)
    (read : Transport → ReplyReader Outcome) :
    Operation where
  request := request
  perform transport :=
    if !transport.write request.data then request.unassigned request.writeFailure
    else
      match transport.remote with
      | none => request.unassigned (failure transport)
      | some remote =>
          let (ret, reply) := Transport.sendRequest remote request.code request.data
          if ret ≠ btNoError then request.unassigned (failure transport)
          else ((read transport).run reply).1

/-! ## Success -/

/-- A function that returns `BT_NO_ERROR` has written and sent everything and has assigned its
output parameters. -/
def Operation.Faithful (operation : Operation) (transport : Transport) : Prop :=
  (operation.perform transport).ret = btNoError →
    transport.write operation.request.data = true ∧ transport.Delivers operation.request ∧
      ∀ output ∈ (operation.perform transport).outputs, output.isSome = true

variable {transport : Transport} {request : Request}

/-- An operation that returns an error hides no failure. -/
theorem faithful_of_refusal {operation : Operation}
    (refused : (operation.perform transport).ret ≠ btNoError) :
    operation.Faithful transport :=
  fun success => absurd success refused

/-- A request that is delivered has a reply. -/
theorem innerTransact_delivered (delivers : transport.Delivers request) :
    ∃ reply, transport.innerTransact request.code request.data = (btNoError, reply) := by
  obtain ⟨remote, found, accepted⟩ := delivers
  exact ⟨(remote request.code request.data).2, by
    simp [Transport.innerTransact, Transport.sendRequest, found, accepted]⟩

/-- A request that is not delivered is reported by `InnerTransact` and has no reply. -/
theorem innerTransact_undelivered (undelivered : ¬ transport.Delivers request) :
    ∃ result, result ≠ btNoError ∧
      transport.innerTransact request.code request.data = (result, []) := by
  cases found : transport.remote with
  | none => exact ⟨transport.objectNull, transport.objectNull_ne, by simp [Transport.innerTransact, found]⟩
  | some remote =>
    have refused : (remote request.code request.data).1 ≠ btNoError :=
      fun accepted => undelivered ⟨remote, found, accepted⟩
    by_cases dead : (remote request.code request.data).1 = transport.deadObject
    · refine ⟨transport.deadObject, dead ▸ refused, ?_⟩
      simp only [Transport.innerTransact, Transport.sendRequest, found, if_neg refused, if_pos dead]
    · refine ⟨transport.transactionErr, transport.transactionErr_ne, ?_⟩
      simp only [Transport.innerTransact, Transport.sendRequest, found, if_neg refused, if_neg dead]

section Transacting

variable {failed : Int32 → Option Int32} {read : ReplyReader Outcome}

/-- A request that cannot be written is not sent, and the code of the failed write is returned.
-/
theorem transacts_unwritten (unwritten : transport.write request.data = false) :
    (transacts request failed read).perform transport =
      request.unassigned request.writeFailure := by
  simp [transacts, unwritten]

/-- A request that is written and not delivered leaves the reply empty, and what is returned
depends on whether the function looks at the result. -/
theorem transacts_undelivered (written : transport.write request.data = true)
    (undelivered : ¬ transport.Delivers request) :
    ∃ result, result ≠ btNoError ∧ (transacts request failed read).perform transport =
      match failed result with
      | some ret => request.unassigned ret
      | none => (read.run []).1 := by
  obtain ⟨result, reported, transacted⟩ := innerTransact_undelivered undelivered
  exact ⟨result, reported, by simp [transacts, written, transacted, reported]⟩

/-- A request that is delivered has its reply read, so the outcome is what the reader makes of
it. -/
theorem transacts_delivered (written : transport.write request.data = true)
    (delivers : transport.Delivers request) :
    ∃ reply, (transacts request failed read).perform transport = (read.run reply).1 := by
  obtain ⟨reply, transacted⟩ := innerTransact_delivered delivers
  exact ⟨reply, by simp [transacts, written, transacted]⟩

/-- What is written, delivered and assigned may be reported. -/
theorem transacts_reported (assigns : read.Assigns) (written : transport.write request.data = true)
    (delivers : transport.Delivers request) :
      (transacts request failed read).Faithful transport := by
  obtain ⟨reply, performed⟩ := @transacts_delivered transport request failed read written delivers
  rw [Operation.Faithful, performed]
  exact fun success => ⟨written, delivers, assigns reply success⟩

/-- A function that makes an error of every failure is faithful. -/
theorem transacts_faithful (writeFails : request.writeFailure ≠ btNoError)
    (sendFails : ∀ result, result ≠ btNoError → ∃ ret, ret ≠ btNoError ∧ failed result = some ret)
    (assigns : read.Assigns) : (transacts request failed read).Faithful transport := by
  by_cases written : transport.write request.data = true
  · by_cases delivers : transport.Delivers request
    · exact transacts_reported assigns written delivers
    · obtain ⟨result, reported, performed⟩ :=
        @transacts_undelivered transport request failed read written delivers
      obtain ⟨ret, isError, returned⟩ := sendFails result reported
      apply faithful_of_refusal
      rw [performed, returned]
      exact isError
  · apply faithful_of_refusal
    rw [transacts_unwritten (Bool.eq_false_of_not_eq_true written)]
    exact writeFails

/-- So is a function that returns an error of its own on every failure. -/
theorem transacts_failing {failure : Int32} (writeFails : request.writeFailure ≠ btNoError)
    (sendFails : failure ≠ btNoError) (assigns : read.Assigns) :
    (transacts request (fun _ => some failure) read).Faithful transport :=
  transacts_faithful writeFails (fun _ _ => ⟨failure, sendFails, rfl⟩) assigns

/-- A function that only logs a failure of `InnerTransact` takes the empty reply for a success. -/
theorem transacts_logging_iff (writeFails : request.writeFailure ≠ btNoError)
    (empty : (read.run []).1.ret = btNoError) (assigns : read.Assigns) :
    (transacts request (fun _ => none) read).Faithful transport ↔
      (transport.write request.data = true → transport.Delivers request) := by
  by_cases written : transport.write request.data = true
  · by_cases delivers : transport.Delivers request
    · exact iff_of_true (transacts_reported assigns written delivers) fun _ => delivers
    · obtain ⟨_, _, performed⟩ :=
        @transacts_undelivered transport request (fun _ => none) read written delivers
      refine iff_of_false (fun faithful => delivers ?_) fun deliver => delivers (deliver written)
      exact (faithful (performed ▸ empty)).2.1
  · refine iff_of_true (faithful_of_refusal ?_) fun yes => absurd yes written
    rw [transacts_unwritten (Bool.eq_false_of_not_eq_true written)]
    exact writeFails

end Transacting

section Sending

variable {failure : Transport → Int32} {read : Transport → ReplyReader Outcome}

/-- As `transacts_unwritten`, for the functions that look the remote object up first. -/
theorem sends_unwritten (unwritten : transport.write request.data = false) :
    (sends request failure read).perform transport = request.unassigned request.writeFailure := by
  simp [sends, unwritten]

/-- As `transacts_undelivered`. These functions all return the failure. -/
theorem sends_undelivered (written : transport.write request.data = true)
    (undelivered : ¬ transport.Delivers request) :
    (sends request failure read).perform transport = request.unassigned (failure transport) := by
  cases found : transport.remote with
  | none => simp [sends, written, found]
  | some remote =>
    have refused : (remote request.code request.data).1 ≠ btNoError :=
      fun accepted => undelivered ⟨remote, found, accepted⟩
    simp [sends, written, found, Transport.sendRequest, refused]

/-- As `transacts_delivered`, with the reply of the remote object. -/
theorem sends_delivered {remote : InterfaceCode → List Write → Int32 × List ParcelItem}
    (written : transport.write request.data = true) (found : transport.remote = some remote)
    (accepted : (remote request.code request.data).1 = btNoError) :
    (sends request failure read).perform transport =
      ((read transport).run (remote request.code request.data).2).1 := by
  simp [sends, written, found, Transport.sendRequest, accepted]

/-- A function whose writes and request are reported when they fail is faithful exactly when
it is on a request that is delivered. -/
theorem sends_faithful_iff (sendFails : failure transport ≠ btNoError) :
    (sends request failure read).Faithful transport ↔
      (transport.write request.data = false → request.writeFailure ≠ btNoError) ∧
        ∀ remote, transport.write request.data = true → transport.remote = some remote →
          (remote request.code request.data).1 = btNoError →
          ((read transport).run (remote request.code request.data).2).1.ret = btNoError →
          ∀ output ∈ ((read transport).run (remote request.code request.data).2).1.outputs,
            output.isSome = true := by
  constructor
  · intro faithful
    constructor
    · intro unwritten success
      rw [Operation.Faithful, sends_unwritten unwritten] at faithful
      have written := (faithful success).1
      rw [show (sends request failure read).request = request from rfl, unwritten] at written
      cases written
    · intro remote written found accepted
      rw [Operation.Faithful, sends_delivered written found accepted] at faithful
      exact fun success => (faithful success).2.2
  · rintro ⟨writeFails, assigned⟩
    by_cases written : transport.write request.data = true
    · by_cases delivers : transport.Delivers request
      · obtain ⟨remote, found, accepted⟩ := delivers
        rw [Operation.Faithful, sends_delivered written found accepted]
        exact fun success => ⟨written, ⟨remote, found, accepted⟩,
          assigned remote written found accepted success⟩
      · apply faithful_of_refusal
        rw [sends_undelivered written delivers]
        exact sendFails
    · have unwritten := Bool.eq_false_of_not_eq_true written
      apply faithful_of_refusal
      rw [sends_unwritten unwritten]
      exact writeFails unwritten

/-- A function that returns an error on every failure is faithful. -/
theorem sends_faithful (writeFails : request.writeFailure ≠ btNoError)
    (sendFails : failure transport ≠ btNoError) (assigns : (read transport).Assigns) :
    (sends request failure read).Faithful transport := by
  rw [sends_faithful_iff sendFails]
  exact ⟨fun _ => writeFails, fun remote _ _ _ => assigns _⟩

end Sending
end BluetoothFramework.Ipc
