import Mathlib.Logic.Function.Basic
import BluetoothFramework.Gatt.ClientSession
import BluetoothFramework.CAdapter.GattServer

/-!
# The GATT clients of the C adapter

An application names its clients by numbers. The entry of a client in `g_MapGattClient` owns
the `GattClient` it is connected through and the wrapper of the application's callbacks; the
`GattClient` refers to that wrapper too, but only weakly, and takes over a new one on some
paths of `Connect` only.

Wrappers are numbered in the order they are made, so that a weak reference is a number: it
can be locked as long as the entry owns the wrapper of that number. A `GattClient` is owned
by one entry and stands in it.
-/

namespace BluetoothFramework.CAdapter

/-- The callbacks of an application, known by where they lie. -/
structure BtGattClientCallbacks where
  location : Nat
deriving DecidableEq

/-- `GattClientCallbackWrapper` -/
structure GattClientCallbackWrapper where
  number : Nat
  appCallback : BtGattClientCallbacks
  clientId : Int32
deriving DecidableEq

/-- What a `GattClient` calls its callback for. -/
inductive Report where
  | session (report : ClientReport)
  | onCharacteristicChanged (characteristic : GattCharacteristic)
  | onMtuUpdate (mtu state : Int32)
  | onConnectionParameterChanged (interval latency timeout status : Int32)
  | onReadRemoteRssiValueResult (rssi status : Int32)
  | onBlePhyUpdate (txPhy rxPhy status : Int32)
  | onBlePhyRead (txPhy rxPhy status : Int32)
deriving DecidableEq

/-- A report that has reached the wrapper of an application's callbacks. -/
structure Delivery where
  appCallback : BtGattClientCallbacks
  clientId : Int32
  report : Report
deriving DecidableEq

/-- A `GattClient`, with the weak reference `callback_`. -/
structure SharedGattClient where
  pimpl : GattClient
  callback : Option Nat := none
deriving DecidableEq

/-- `GattClientWrapper`, an entry of `g_MapGattClient`. -/
structure GattClientWrapper where
  gattClient : Option SharedGattClient := none
  gattClientCallback : Option GattClientCallbackWrapper := none
  remoteAddr : ByteString := []
  fastestConnFlag : Bool := false
deriving DecidableEq

/-- `g_clientIncrease` and `g_MapGattClient`, the number of wrappers made, the reports
delivered and the registrations that destructors have given back. -/
structure Gattc where
  clientIncrease : Int32 := 0
  mapGattClient : Int32 → Option GattClientWrapper := fun _ => none
  wrappers : Nat := 0
  deliveries : List Delivery := []
  deregistered : List Int32 := []

/-- The state after a function and its result. -/
structure GattcOutcome where
  gattc : Gattc
  status : BtStatus := .success

/-- `GetGattcResult` -/
def getGattcResult (ret : Int32) : BtStatus :=
  if ret = btNoError then .success else .fail

/-! ## Events -/

/-- The first characteristic with the handle gets the value, and is returned. -/
def storeValue (handle : UInt16) (value : ByteString) :
    List GattCharacteristic → List GattCharacteristic × Option GattCharacteristic
  | [] => ([], none)
  | character :: rest =>
      if character.handle = handle
        then (character.setValue value :: rest, some (character.setValue value))
      else (character :: (storeValue handle value rest).1, (storeValue handle value rest).2)

/-- The same in the services. -/
def storeChange (handle : UInt16) (value : ByteString) :
    List GattService → List GattService × Option GattCharacteristic
  | [] => ([], none)
  | svc :: rest =>
      match storeValue handle value svc.characteristics with
      | (characteristics, some character) =>
          ({ svc with characteristics := characteristics } :: rest, some character)
      | (_, none) => (svc :: (storeChange handle value rest).1, (storeChange handle value rest).2)

/-- Something a `GattClient` is called back for by the service, or asked for by the
application, apart from connecting. -/
inductive ClientEvent where
  | callback (callback : ServiceCallback)
  | onCharacteristicChanged (handle : UInt16) (value : ByteString)
  | onMtuChanged (state mtu : Int32)
  | onConnectionParameterChanged (interval latency timeout status : Int32)
  | onReadRemoteRssiValue (rssi status : Int32)
  | onBlePhyUpdate (txPhy rxPhy status : Int32)
  | onBlePhyRead (txPhy rxPhy status : Int32)
  | discoverServices (around : Surroundings)
  | getService (bleEnabled : Bool) (result : Option (List Service))
  | request (request : ClientRequest) (around : Surroundings)

/-- Collect what the session reports. -/
def collect (client : GattClient) : GattClient × List Report :=
  ({ client with reports := [] }, client.reports.map Report.session)

/-- The client after an event, and what it calls its callback for. -/
def ClientEvent.handle (client : GattClient) : ClientEvent → GattClient × List Report
  | callback received => collect (received.handle { client with reports := [] })
  | onCharacteristicChanged handle value =>
      let (services, found) := storeChange handle value client.gattServices
      ({ client with gattServices := services }, found.toList.map Report.onCharacteristicChanged)
  | onMtuChanged state mtu => (client, [.onMtuUpdate mtu state])
  | onConnectionParameterChanged interval latency timeout status =>
      (client, [.onConnectionParameterChanged interval latency timeout status])
  | onReadRemoteRssiValue rssi status => (client, [.onReadRemoteRssiValueResult rssi status])
  | onBlePhyUpdate txPhy rxPhy status => (client, [.onBlePhyUpdate txPhy rxPhy status])
  | onBlePhyRead txPhy rxPhy status => (client, [.onBlePhyRead txPhy rxPhy status])
  | discoverServices around => collect ({ client with reports := [] }.discoverServices around).1
  | getService bleEnabled result => collect ({ client with reports := [] }.getService bleEnabled result).1
  | request asked around => collect (asked.perform { client with reports := [] } around).client

namespace GattClientWrapper

/-- `callback_.lock()` in the client of the entry. -/
def lock (wrapper : GattClientWrapper) (client : SharedGattClient) :
    Option GattClientCallbackWrapper :=
  wrapper.gattClientCallback.filter fun held => client.callback = some held.number

/-- The client that `BleGattcConnect` goes on with: the one there is, if it is for the
address, or else a new one. -/
def clientFor (wrapper : GattClientWrapper) (strAddress : ByteString) (transport : Int32) :
    SharedGattClient :=
  match wrapper.gattClient with
  | some client =>
      if wrapper.remoteAddr = strAddress then client
      else { pimpl := .create { address := strAddress, transport := transport } }
  | none => { pimpl := .create { address := strAddress, transport := transport } }

/-- The client that is given up for it. -/
def replaced (wrapper : GattClientWrapper) (strAddress : ByteString) : Option SharedGattClient :=
  if wrapper.remoteAddr = strAddress then none else wrapper.gattClient

end GattClientWrapper

/-- `GattClient::Connect` with a callback, which is taken over after the registration is
looked at and before anything can fail. -/
def SharedGattClient.connect (client : SharedGattClient) (callback : Nat) (call : ConnectCall) :
    SharedGattClient × Int32 :=
  let takesOver : Bool := call.bleEnabled && client.pimpl.connectionState ≠ btConnectStateConnected &&
    call.hasProxy && !client.pimpl.isRegisterSucceeded
  ({ pimpl := (client.pimpl.connect call).1, callback := if takesOver then some callback else client.callback },
    (client.pimpl.connect call).2)

namespace Gattc

/-- A write to an entry. -/
def setEntry (gattc : Gattc) (clientId : Int32) (wrapper : Option GattClientWrapper) : Gattc :=
  { gattc with mapGattClient := Function.update gattc.mapGattClient clientId wrapper }

/-- `~GattClient`, where a client is given up. -/
def destroy (gattc : Gattc) (client : Option SharedGattClient) (hasProxy : Bool) : Gattc :=
  match client with
  | none => gattc
  | some client =>
      if hasProxy && client.pimpl.isRegisterSucceeded then
        { gattc with deregistered := gattc.deregistered ++ [client.pimpl.applicationId] }
      else gattc

/-- The client of an entry calls its callback, if that can be locked. -/
def deliver (gattc : Gattc) (callback : Option GattClientCallbackWrapper)
    (reports : List Report) : Gattc :=
  match callback with
  | none => gattc
  | some held =>
      { gattc with deliveries := gattc.deliveries ++ reports.map (Delivery.mk held.appCallback held.clientId) }

/-! Giving up a client and delivering its reports leave the map alone. -/

/-- Setting an entry is an update of the map. -/
@[simp] theorem mapGattClient_setEntry (gattc : Gattc) (clientId : Int32)
    (wrapper : Option GattClientWrapper) :
    (gattc.setEntry clientId wrapper).mapGattClient =
      Function.update gattc.mapGattClient clientId wrapper :=
  rfl

/-- Setting an entry makes no wrapper. -/
@[simp] theorem wrappers_setEntry (gattc : Gattc) (clientId : Int32)
    (wrapper : Option GattClientWrapper) :
    (gattc.setEntry clientId wrapper).wrappers = gattc.wrappers :=
  rfl

/-- The end of a client leaves the map, which has lost the entry before. -/
@[simp] theorem mapGattClient_destroy (gattc : Gattc) (client : Option SharedGattClient)
    (hasProxy : Bool) :
    (gattc.destroy client hasProxy).mapGattClient = gattc.mapGattClient := by
  rw [destroy.eq_def]
  split
  · rfl
  · split <;> rfl

/-- The end of a client makes no wrapper. -/
@[simp] theorem wrappers_destroy (gattc : Gattc) (client : Option SharedGattClient)
    (hasProxy : Bool) :
    (gattc.destroy client hasProxy).wrappers = gattc.wrappers := by
  rw [destroy.eq_def]
  split
  · rfl
  · split <;> rfl

/-- Delivering reports leaves the map. -/
@[simp] theorem mapGattClient_deliver (gattc : Gattc) (callback : Option GattClientCallbackWrapper)
    (reports : List Report) :
      (gattc.deliver callback reports).mapGattClient = gattc.mapGattClient := by
  cases callback <;> rfl

/-- Delivering reports makes no wrapper. -/
@[simp] theorem wrappers_deliver (gattc : Gattc) (callback : Option GattClientCallbackWrapper)
    (reports : List Report) : (gattc.deliver callback reports).wrappers = gattc.wrappers := by
  cases callback <;> rfl

/-- An event of the client that an entry owns; nothing is left to take one of another. -/
def receive (gattc : Gattc) (clientId : Int32) (event : ClientEvent) : Gattc :=
  match gattc.mapGattClient clientId with
  | none => gattc
  | some wrapper =>
      match wrapper.gattClient with
      | none => gattc
      | some client =>
          let (pimpl, reports) := event.handle client.pimpl
          (gattc.deliver (wrapper.lock client) reports).setEntry clientId
            (some { wrapper with gattClient := some { client with pimpl := pimpl } })

/-! ## The functions of the adapter -/

/-- `BleGattcRegister`, with the client id it returns. -/
def bleGattcRegister (gattc : Gattc) : Gattc × Int32 :=
  let clientId := gattc.clientIncrease + 1
  let counted : Gattc := { gattc with clientIncrease := clientId }
  match gattc.mapGattClient clientId with
  | none => (counted.setEntry clientId (some {}), clientId)
  | some _ => (counted, clientId)

/-- `BleGattcUnRegister` -/
def bleGattcUnRegister (gattc : Gattc) (clientId : Int32) (hasProxy : Bool) : GattcOutcome :=
  match gattc.mapGattClient clientId with
  | none => { gattc := gattc }
  | some wrapper => { gattc := (gattc.destroy wrapper.gattClient hasProxy).setEntry clientId none }

/-- `BleGattcSetFastestConn` -/
def bleGattcSetFastestConn (gattc : Gattc) (clientId : Int32) (fastestConnFlag : Bool) :
    GattcOutcome :=
  match gattc.mapGattClient clientId with
  | none => { gattc := gattc, status := .fail }
  | some wrapper =>
      { gattc := gattc.setEntry clientId (some { wrapper with fastestConnFlag := fastestConnFlag }) }

/-- `BleGattcConnect`. Whether the fastest connection could be asked for makes no difference. -/
def bleGattcConnect (gattc : Gattc) (clientId : Int32) (func : Option BtGattClientCallbacks)
    (bdAddr : Option Address) (call : ConnectCall) : GattcOutcome :=
  match func, bdAddr with
  | some func, some bdAddr =>
      match gattc.mapGattClient clientId with
      | none => { gattc := gattc, status := .fail }
      | some wrapper =>
          let strAddress := convertAddr bdAddr
          let client := wrapper.clientFor strAddress call.transport
          let clientWrapper : GattClientCallbackWrapper :=
            { number := gattc.wrappers, appCallback := func, clientId := clientId }
          let made : Gattc := { gattc with wrappers := gattc.wrappers + 1 }
          let replaced := made.destroy (wrapper.replaced strAddress) call.hasProxy
          let (connected, result) := client.connect clientWrapper.number call
          if result ≠ btNoError then
            { gattc := (replaced.destroy (some connected) call.hasProxy).setEntry clientId (some {})
              status := .fail }
          else
            { gattc := replaced.setEntry clientId (some {
                gattClient := some connected
                gattClientCallback := some clientWrapper
                remoteAddr := strAddress }) }
  | _, _ => { gattc := gattc, status := .parmInvalid }

/-- `BleGattcDisconnect` -/
def bleGattcDisconnect (gattc : Gattc) (clientId : Int32) (around : Surroundings) : GattcOutcome :=
  match gattc.mapGattClient clientId with
  | none => { gattc := gattc, status := .fail }
  | some wrapper =>
      match wrapper.gattClient with
      | none => { gattc := gattc, status := .fail }
      | some client =>
          let (pimpl, result) := client.pimpl.disconnect around
          { gattc := gattc.setEntry clientId
              (some { wrapper with gattClient := some { client with pimpl := pimpl } })
            status := getGattcResult result }

/-- What the clients register for the end of Bluetooth, in all of them. -/
def bluetoothTurnOff (gattc : Gattc) : Gattc :=
  { gattc with
    mapGattClient := fun clientId => (gattc.mapGattClient clientId).map fun wrapper =>
      { wrapper with
        gattClient := wrapper.gattClient.map fun client =>
          { client with pimpl := client.pimpl.bluetoothTurnOff } } }

end Gattc

/-- A call or an event. -/
inductive GattcLabel where
  | register
  | unRegister (clientId : Int32) (hasProxy : Bool)
  | setFastestConn (clientId : Int32) (fastestConnFlag : Bool)
  | connect (clientId : Int32) (func : Option BtGattClientCallbacks) (bdAddr : Option Address)
    (call : ConnectCall)
  | disconnect (clientId : Int32) (around : Surroundings)
  | event (clientId : Int32) (event : ClientEvent)
  | bluetoothTurnOff

namespace Gattc

/-- What a call or an event does. -/
def perform (gattc : Gattc) : GattcLabel → GattcOutcome
  | .register => { gattc := gattc.bleGattcRegister.1 }
  | .unRegister clientId hasProxy => gattc.bleGattcUnRegister clientId hasProxy
  | .setFastestConn clientId fastestConnFlag => gattc.bleGattcSetFastestConn clientId fastestConnFlag
  | .connect clientId func bdAddr call => gattc.bleGattcConnect clientId func bdAddr call
  | .disconnect clientId around => gattc.bleGattcDisconnect clientId around
  | .event clientId event => { gattc := gattc.receive clientId event }
  | .bluetoothTurnOff => { gattc := gattc.bluetoothTurnOff }

end Gattc
end BluetoothFramework.CAdapter
