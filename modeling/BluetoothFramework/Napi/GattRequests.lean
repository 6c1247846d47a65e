import BluetoothFramework.Gatt.ClientRequests
import BluetoothFramework.Napi.AsyncWork

/-!
# Requests of a script to a GATT client

`readCharacteristicValue` and its siblings make an asynchronous work, put it into the map of the
client's callback object under the type of the request, and run it: on a thread of its own the
work asks the client, which may refuse. The answer of the service goes through the client to
`NapiGattClientCallback`, whose functions look the map up for a work that waits under their type.
So an answer finds its work by the type alone. The answer to a write is looked up under two
types, for `OnCharacteristicWriteResult` and `OnCharacteristicWriteResultWithContext`.

The client is the one of `Gatt.Client`, and the works and their map are those of `Napi.AsyncWork`;
their own steps stay as they are. What the client reports is on its way until it has been looked
up, and the two reports of a write may be looked up in any order. The session records every
report that was handed to a work which had not been triggered. The connection stays up, and the
arguments have been parsed.
-/

namespace BluetoothFramework.Napi

/-- `BT_ERR_GATT_READ_NOT_PERMITTED` to `BT_ERR_GATT_CONNECTION_NOT_AUTHORIZED` -/
def btErrGattReadNotPermitted : Int32 := 2901000
def btErrGattWriteNotPermitted : Int32 := 2901001
def btErrGattConnectionCongested : Int32 := 2901004
def btErrGattConnectionNotEncrypted : Int32 := 2901005
def btErrGattConnectionNotAuthenticated : Int32 := 2901006
def btErrGattConnectionNotAuthorized : Int32 := 2901007

/-- `BT_ERR_GATT_REMOTE_DEVICE_ERROR`, `BT_ERR_GATT_PREPARE_QUEUE_FULL`, `BT_ERR_MAX_RESOURCES` -/
def btErrGattRemoteDeviceError : Int32 := -1028
def btErrGattPrepareQueueFull : Int32 := -1029
def btErrMaxResources : Int32 := 2900010

/-- `BT_ERR_BLE_ADV_DATA_EXCEED_LIMIT`, `BT_ERR_BLE_INVALID_ADV_ID` -/
def btErrBleAdvDataExceedLimit : Int32 := 2902054
def btErrBleInvalidAdvId : Int32 := 2902055

/-- `NapiGattClient::g_gattStatusSrvToNapi` -/
def gattStatusSrvToNapi : List (Int32 × Int32) :=
  [(btNoError, gattSuccess),
    (btErrGattWriteNotPermitted, -10),
    (btErrGattReadNotPermitted, -11),
    (btErrGattConnectionCongested, -32),
    (btErrGattConnectionNotEncrypted, -9),
    (btErrGattConnectionNotAuthenticated, -33),
    (btErrGattConnectionNotAuthorized, -7),
    (btErrGattPrepareQueueFull, -5),
    (btErrGattRemoteDeviceError, -44)]

/-- `GattStatusFromService` -/
def gattStatusFromService (status : Int32) : Int32 :=
  if 0 < status then status
  else ((gattStatusSrvToNapi.find? fun entry => entry.2 = status).map Prod.fst).getD btErrInternalError

/-- `statusCodeForNewSdk` -/
def statusCodeForNewSdk : List Int32 :=
  [btErrMaxResources, btErrOperationBusy, btErrGattConnectionNotEstabilished, btErrGattConnectionCongested,
    btErrGattConnectionNotEncrypted, btErrGattConnectionNotAuthenticated, btErrGattConnectionNotAuthorized,
    btErrBleAdvDataExceedLimit, btErrBleInvalidAdvId]

/-- `SDK_VERSION_20` -/
def sdkVersion20 : Int32 := 20

/-- `GetSDKAdaptedStatusCode` -/
def getSDKAdaptedStatusCode (currentSdkVersion status : Int32) : Int32 :=
  if currentSdkVersion < sdkVersion20 ∧ status ∈ statusCodeForNewSdk then btErrInternalError else status

/-- The type under which the work of a request waits. A script cannot read by a UUID. -/
def requestAsyncType : ClientRequest → NapiAsyncType
  | .readCharacteristic _ => .gattClientReadCharacter
  | .readCharacteristicByUuid _ _ _ => .gattClientReadCharacter
  | .readDescriptor _ => .gattClientReadDescriptor
  | .writeCharacteristic _ _ isWithContext =>
      if isWithContext then .gattClientWriteCharacterWithContext else .gattClientWriteCharacter
  | .writeDescriptor _ => .gattClientWriteDescriptor
  | .setNotifyCharacteristic _ _ => .gattClientEnableCharacterChanged
  | .setIndicateCharacteristic _ _ => .gattClientEnableCharacterChanged

/-- `isNeedCallback`: a write without response is settled by its code. -/
def isNeedCallback : ClientRequest → Bool
  | .writeCharacteristic character _ _ => character.writeType = .default
  | _ => true

/-- The functions of `NapiGattClientCallback`: the type they look up, and the code they pass on. -/
def lookupOf : ClientReport → Option (NapiAsyncType × Int32)
  | .onCharacteristicReadResult _ ret => some (.gattClientReadCharacter, ret)
  | .onCharacteristicWriteResult _ ret => some (.gattClientWriteCharacter, ret)
  | .onCharacteristicWriteResultWithContext _ _ ret => some (.gattClientWriteCharacterWithContext, ret)
  | .onDescriptorReadResult _ ret => some (.gattClientReadDescriptor, ret)
  | .onDescriptorWriteResult _ ret => some (.gattClientWriteDescriptor, ret)
  | .onSetNotifyCharacteristic _ ret => some (.gattClientEnableCharacterChanged, ret)
  | _ => none

/-- The types that the answer to a request of the kind is looked up under. -/
def lookedUp : AnswerKind → List NapiAsyncType
  | .characteristicRead => [.gattClientReadCharacter]
  | .characteristicWrite => [.gattClientWriteCharacter, .gattClientWriteCharacterWithContext]
  | .descriptorRead => [.gattClientReadDescriptor]
  | .descriptorWrite => [.gattClientWriteDescriptor]
  | .setNotify => [.gattClientEnableCharacterChanged]

/-- A report on its way, with the work whose request it answers. Nobody waits for the callback of
a write without response. -/
structure Delivery where
  asker : Option Nat
  report : ClientReport
deriving DecidableEq

/-- The report is looked up under the type. -/
def Delivery.LooksUp (delivery : Delivery) (type : NapiAsyncType) : Prop :=
  (lookupOf delivery.report).map Prod.fst = some type

instance (delivery : Delivery) (type : NapiAsyncType) : Decidable (delivery.LooksUp type) :=
  inferInstanceAs (Decidable (_ = _))

/-- The client, the works whose requests the service has accepted and still has to answer, how many
writes without response it may still send a callback for, the works and their map, the works that
were run, the reports on their way, and the reports handed to works that had not been triggered. -/
structure GattRequests where
  client : GattClient
  unanswered : List Nat := []
  unconfirmed : Nat := 0
  works : State
  begun : List Nat := []
  deliveries : List Delivery := []
  handed : List (Nat × Delivery) := []

namespace GattRequests

/-- What can happen. The script calls; the work asks the client; the service answers a request or
sends the callback of a write without response; a report is looked up; a work takes a step of its
own. -/
inductive Label where
  | calls (id : Nat)
  | executes (id : Nat) (around : Surroundings)
  | answers (id : Nat) (reply : Reply)
  | confirms (reply : Reply)
  | looksUp (delivery : Delivery)
  | works (label : Napi.Label)

/-- The steps of works that neither the script nor the client takes part in. -/
def isInternal : Napi.Label → Bool
  | .tryPush _ _ => false
  | .executes _ _ => false
  | .gets _ _ => false
  | _ => true

/-- The client goes on, and what it has reported is on its way. -/
def proceed (session : GattRequests) (asker : Option Nat) (client : GattClient) : GattRequests :=
  { session with
    client
    deliveries := session.deliveries ++
      (client.reports.drop session.client.reports.length).map (Delivery.mk asker) }

/-- The service has accepted a request. -/
def accept (session : GattRequests) (id : Nat) (sent : ServiceRequest) : GattRequests :=
  if sent.needsAnswer then { session with unanswered := session.unanswered ++ [id] }
  else { session with unconfirmed := session.unconfirmed + 1 }

/-- The report goes to the work that was found, if it has not been triggered. -/
def hand (session : GattRequests) (found : Option Nat) (delivery : Delivery) :
    List (Nat × Delivery) :=
  match found with
  | some id =>
    if (session.works.work id).triggered then session.handed else (id, delivery) :: session.handed
  | none => session.handed

variable (currentSdkVersion : Int32) (request : Nat → ClientRequest)

/-- The code of a work for a status of the client. -/
def adapted (status : Int32) : Int32 :=
  getSDKAdaptedStatusCode currentSdkVersion (gattStatusFromService status)

/-- The function of the script: the work is stored, if it needs a callback, and run. -/
def call (session : GattRequests) (id : Nat) : GattRequests :=
  if isNeedCallback (request id) then
    let (works, success) := session.works.tryPush (requestAsyncType (request id)) id
    if success then { session with works, begun := id :: session.begun } else session
  else { session with begun := id :: session.begun }

/-- `Execute`, in which the work asks the client. -/
def execute (session : GattRequests) (id : Nat) (around : Surroundings) : GattRequests :=
  let outcome := (request id).perform session.client around
  let work := (session.works.work id).execute (adapted currentSdkVersion outcome.result)
  let asked := { session with works := session.works.update id work }.proceed (some id) outcome.client
  match outcome.accepted with
  | none => asked
  | some sent => asked.accept id sent

/-- `AsyncWorkCallFunction` up to the work it gets. -/
def lookUp (session : GattRequests) (delivery : Delivery) (type : NapiAsyncType) (ret : Int32) :
    Option GattRequests :=
  (Napi.step session.works (.gets type (adapted currentSdkVersion ret))).map fun works =>
    { session with
      works
      deliveries := session.deliveries.erase delivery
      handed := session.hand (session.works.get type) delivery }

/-- One step. A work is run once. -/
def step (session : GattRequests) : Label → Option GattRequests
  | .calls id => if id ∈ session.begun then none else some (session.call request id)
  | .executes id around =>
      if id ∈ session.begun ∧ (session.works.work id).phase = .created then
        some (session.execute currentSdkVersion request id around)
      else none
  | .answers id reply =>
      if id ∈ session.unanswered then
        some { session.proceed (some id) ((request id).answer session.client reply) with
          unanswered := session.unanswered.erase id }
      else none
  | .confirms reply =>
      if 0 < session.unconfirmed then
        some { session.proceed none
            (session.client.onCharacteristicWrite reply.ret reply.handle reply.timeStamp) with
          unconfirmed := session.unconfirmed - 1 }
      else none
  | .looksUp delivery =>
      if delivery ∈ session.deliveries then
        (lookupOf delivery.report).bind fun (type, ret) => session.lookUp currentSdkVersion delivery type ret
      else none
  | .works label =>
      if isInternal label then (Napi.step session.works label).map fun works => { session with works }
      else none

/-- The session of a client with no request under way. -/
def start (isPromise : Nat → Bool) (client : GattClient) : GattRequests where
  client := { client with doing := false }
  works := Napi.start isPromise fun id => isNeedCallback (request id)

/-- Works are handed only the answers to their own requests. -/
def HandedOwn (session : GattRequests) : Prop :=
  ∀ entry ∈ session.handed, entry.2.asker = some entry.1

/-- An answer is on its way that is looked up under the type: from the service, from the client, or
in a thread that has found its work and is to erase the entry. -/
def Awaited (session : GattRequests) (type : NapiAsyncType) : Prop :=
  (∃ id ∈ session.unanswered, type ∈ lookedUp (request id).kind) ∨
    (∃ delivery ∈ session.deliveries, delivery.LooksUp type) ∨
    ∃ id ∈ session.begun, ∃ call ∈ (session.works.work id).calls, call.stage = .got type

/-- A work waits under the type. -/
def waits (session : GattRequests) (type : NapiAsyncType) : Bool :=
  (session.works.get type).any fun id => !(session.works.work id).triggered

/-- The call stores its work. -/
def stores (session : GattRequests) (id : Nat) : Bool :=
  isNeedCallback (request id) && (session.works.tryPush (requestAsyncType (request id)) id).2

/-- A work is stored while no answer is on its way that would be looked up under its type, and while
no other work waits under a type that its own answer will be looked up under. The callback of a
write without response comes while the service owes no answer and no write waits. -/
def Orderly (session : GattRequests) : Label → Prop
  | .calls id =>
      session.stores request id = true →
        ¬session.Awaited request (requestAsyncType (request id)) ∧
          ∀ type ∈ lookedUp (request id).kind, session.waits type = false
  | .confirms _ =>
      session.unanswered = [] ∧ ∀ type ∈ lookedUp .characteristicWrite, session.waits type = false
  | _ => True

instance (session : GattRequests) (type : NapiAsyncType) :
    Decidable (session.Awaited request type) :=
  inferInstanceAs (Decidable (_ ∨ _ ∨ _))

instance (session : GattRequests) (label : Label) : Decidable (session.Orderly request label) :=
  match label with
  | .calls _ => inferInstanceAs (Decidable (_ → _))
  | .confirms _ => inferInstanceAs (Decidable (_ ∧ _))
  | .executes .. | .answers .. | .looksUp _ | .works _ => isTrue trivial

instance (session : GattRequests) : Decidable session.HandedOwn :=
  inferInstanceAs (Decidable (∀ entry ∈ session.handed, entry.2.asker = some entry.1))

end GattRequests
end BluetoothFramework.Napi
