import BluetoothFramework.Library.Runs
import BluetoothFramework.CAdapter.GattClient

/-!
# Connecting clients with their callbacks

The entry of a client and its `GattClient` have to agree on the wrapper of the callbacks:
the entry owns it, and the `GattClient` can call no other. `connected_clients_iff` says
which connects keep it so and, where they fail, leave the client as it was: those of a
client that has no `GattClient` yet, and those that use an unregistered one and succeed. A
registered `GattClient` that is connected again keeps its reference to a wrapper that is no
more, and a connect that fails takes away whatever the client had.
-/

namespace BluetoothFramework

/-- Nothing stands against connecting a client that is not registered. -/
structure GattClient.Accepts (client : GattClient) (call : ConnectCall) : Prop where
  bleEnabled : call.bleEnabled = true
  disconnected : client.connectionState ≠ btConnectStateConnected
  hasProxy : call.hasProxy = true
  unregistered : client.isRegisterSucceeded = false
  classicEnabled : call.transport = gattTransportTypeClassic.toUInt32.toInt32 → call.btEnabled = true
  direct : call.transport = gattTransportTypeClassic.toUInt32.toInt32 → call.isAutoConnect = false
  valid : client.device.isValidBluetoothRemoteDevice = true
  registers : call.registered = btNoError
  connects : 0 < call.appId → call.answer = btNoError

namespace CAdapter

open Runs

/-! ## What the property says -/

/-- The adapter together with the callbacks of each client's last successful connect, which
nothing in the adapter reads. -/
structure ConnectHistory where
  gattc : Gattc := {}
  given : Int32 → Option BtGattClientCallbacks := fun _ => none

namespace ConnectHistory

/-- The callbacks given after a call that has returned. -/
def giveTo (history : ConnectHistory) (status : BtStatus) :
    GattcLabel → Int32 → Option BtGattClientCallbacks
  | .connect clientId func _ _ =>
      if status = .success then Function.update history.given clientId func else history.given
  | .unRegister clientId _ => Function.update history.given clientId none
  | _ => history.given

/-- One call or event. -/
def step (history : ConnectHistory) (label : GattcLabel) : Option ConnectHistory :=
  let outcome := history.gattc.perform label
  some { gattc := outcome.gattc, given := history.giveTo outcome.status label }

end ConnectHistory

/-! ## References -/

/-- An entry without a client is as bare as a new one, and a client refers to a wrapper that
has been made. -/
structure GattClientWrapper.WellFormed (wrapper : GattClientWrapper) (wrappers : Nat) : Prop where
  bare : wrapper.gattClient = none → wrapper.gattClientCallback = none ∧ wrapper.remoteAddr = []
  made : ∀ number, wrapper.gattClient.map SharedGattClient.callback = some (some number) → number < wrappers

/-- All entries are well formed. -/
def Gattc.WellFormed (gattc : Gattc) : Prop :=
  ∀ clientId wrapper, gattc.mapGattClient clientId = some wrapper → wrapper.WellFormed gattc.wrappers

/-- The two entries refer to the same wrapper, for the same address. -/
structure SameReferences (before after : GattClientWrapper) : Prop where
  callback : after.gattClient.map SharedGattClient.callback =
    before.gattClient.map SharedGattClient.callback
  owned : after.gattClientCallback = before.gattClientCallback
  remoteAddr : after.remoteAddr = before.remoteAddr

/-- The entry of a client before and after a step that connects none. -/
inductive EntryChange (label : GattcLabel) (clientId : Int32) :
    Option GattClientWrapper → Option GattClientWrapper → Prop where
  | absent : EntryChange label clientId none none
  | registered : EntryChange label clientId none (some {})
  | kept {before after : GattClientWrapper} (same : SameReferences before after) :
      EntryChange label clientId (some before) (some after)
  | erased {before : GattClientWrapper} {hasProxy : Bool}
    (unregisters : label = .unRegister clientId hasProxy) :
      EntryChange label clientId (some before) none

/-- No change is one that every call is allowed. -/
theorem EntryChange.refl (label : GattcLabel) (clientId : Int32)
    (entry : Option GattClientWrapper) :
    EntryChange label clientId entry entry := by
  cases entry with
  | none => exact .absent
  | some wrapper => exact .kept ⟨rfl, rfl, rfl⟩

/-- A write to one entry changes no other. -/
theorem EntryChange.write {label : GattcLabel} {clientId : Int32}
    {wrapper : Option GattClientWrapper} {entries : Int32 → Option GattClientWrapper}
    (change : EntryChange label clientId (entries clientId) wrapper) (other : Int32) :
    EntryChange label other (entries other) (Function.update entries clientId wrapper other) := by
  by_cases same : other = clientId
  · subst same
    rw [Function.update_self]
    exact change
  · rw [Function.update_of_ne same]
    exact .refl _ _ _

/-- A step that is no connect keeps the references of every entry that it does not erase. A
connect is left out because it may exchange the client behind an entry. -/
theorem Gattc.change_perform (gattc : Gattc) (label : GattcLabel)
    (connectsNone : ∀ clientId func bdAddr call, label ≠ .connect clientId func bdAddr call) :
    (gattc.perform label).gattc.wrappers = gattc.wrappers ∧ ∀ clientId,
      EntryChange label clientId (gattc.mapGattClient clientId)
        ((gattc.perform label).gattc.mapGattClient clientId) := by
  have unchanged (clientId : Int32) :
      EntryChange label clientId (gattc.mapGattClient clientId) (gattc.mapGattClient clientId) :=
        .refl _ _ _
  cases label with
  | register =>
    simp only [perform, bleGattcRegister]
    split
    · rename_i entry
      refine ⟨rfl, EntryChange.write ?_⟩
      rw [entry]
      exact .registered
    · exact ⟨rfl, unchanged⟩
  | unRegister clientId hasProxy =>
    simp only [perform, bleGattcUnRegister]
    split
    · exact ⟨rfl, unchanged⟩
    · rename_i wrapper entry
      rw [wrappers_setEntry, wrappers_destroy, mapGattClient_setEntry, mapGattClient_destroy]
      refine ⟨rfl, EntryChange.write ?_⟩
      rw [entry]
      exact .erased rfl
  | setFastestConn clientId fastestConnFlag =>
    simp only [perform, bleGattcSetFastestConn]
    split
    · exact ⟨rfl, unchanged⟩
    · rename_i wrapper entry
      refine ⟨rfl, EntryChange.write ?_⟩
      rw [entry]
      exact .kept ⟨rfl, rfl, rfl⟩
  | connect clientId func bdAddr call => exact absurd rfl (connectsNone clientId func bdAddr call)
  | disconnect clientId around =>
    simp only [perform, bleGattcDisconnect]
    split
    · exact ⟨rfl, unchanged⟩
    · rename_i wrapper entry
      split
      · exact ⟨rfl, unchanged⟩
      · rename_i client connected
        refine ⟨rfl, EntryChange.write ?_⟩
        rw [entry]
        refine .kept ⟨?_, rfl, rfl⟩
        rw [connected]
        rfl
  | event clientId event =>
    simp only [perform, receive]
    split
    · exact ⟨rfl, unchanged⟩
    · rename_i wrapper entry
      split
      · exact ⟨rfl, unchanged⟩
      · rename_i client connected
        rw [wrappers_setEntry, wrappers_deliver, mapGattClient_setEntry, mapGattClient_deliver]
        refine ⟨rfl, EntryChange.write ?_⟩
        rw [entry]
        refine .kept ⟨?_, rfl, rfl⟩
        rw [connected]
        rfl
  | bluetoothTurnOff =>
    refine ⟨rfl, ?_⟩
    intro clientId
    simp only [perform, bluetoothTurnOff]
    cases gattc.mapGattClient clientId with
    | none => exact .absent
    | some wrapper =>
      refine .kept ⟨?_, rfl, rfl⟩
      exact Option.map_map _ _ _

/-- What `BleGattcConnect` does, by the parameters it is given. -/
inductive Connects (gattc : Gattc) (clientId : Int32) (call : ConnectCall) :
    Option BtGattClientCallbacks → Option Address → GattcOutcome → Prop where
  | refused {func : Option BtGattClientCallbacks} {bdAddr : Option Address} {status : BtStatus}
      (unsuccessful : status ≠ .success)
      (absent : ∀ given addr, func = some given → bdAddr = some addr → gattc.mapGattClient clientId = none) :
      Connects gattc clientId call func bdAddr ⟨gattc, status⟩
  | failed {func : BtGattClientCallbacks} {bdAddr : Address} {wrapper : GattClientWrapper} {next : Gattc}
      (entry : gattc.mapGattClient clientId = some wrapper)
      (result : ((wrapper.clientFor (convertAddr bdAddr) call.transport).pimpl.connect call).2 ≠ btNoError)
      (counted : next.wrappers = gattc.wrappers + 1)
      (emptied : next.mapGattClient = Function.update gattc.mapGattClient clientId (some {})) :
      Connects gattc clientId call (some func) (some bdAddr) ⟨next, .fail⟩
  | connected {func : BtGattClientCallbacks} {bdAddr : Address} {wrapper entered : GattClientWrapper}
      {next : Gattc} (entry : gattc.mapGattClient clientId = some wrapper)
      (result : ((wrapper.clientFor (convertAddr bdAddr) call.transport).pimpl.connect call).2 = btNoError)
      (counted : next.wrappers = gattc.wrappers + 1)
      (updated : next.mapGattClient = Function.update gattc.mapGattClient clientId (some entered))
      (client : entered.gattClient =
        some ((wrapper.clientFor (convertAddr bdAddr) call.transport).connect gattc.wrappers call).1)
      (owned : entered.gattClientCallback = some ⟨gattc.wrappers, func, clientId⟩) :
      Connects gattc clientId call (some func) (some bdAddr) ⟨next, .success⟩

/-- `BleGattcConnect` does what a connecting call may: it makes or replaces one entry and tells
nobody else. -/
theorem Gattc.connects (gattc : Gattc) (clientId : Int32) (func : Option BtGattClientCallbacks)
    (bdAddr : Option Address) (call : ConnectCall) :
    Connects gattc clientId call func bdAddr (gattc.bleGattcConnect clientId func bdAddr call) := by
  rw [bleGattcConnect.eq_def]
  split
  · split
    · rename_i absent
      exact .refused nofun fun _ _ _ _ => absent
    · rename_i wrapper entry
      dsimp only
      split
      · rename_i result
        refine .failed entry result ?_ ?_ <;> simp
      · rename_i result
        have written (made : Gattc) (given : Option SharedGattClient) (entered : Option GattClientWrapper) :
            ((made.destroy given call.hasProxy).setEntry clientId entered).mapGattClient =
              Function.update made.mapGattClient clientId entered := by
          rw [mapGattClient_setEntry, mapGattClient_destroy]
        refine .connected entry (not_not.mp result) (wrappers_destroy _ _ _) (written _ _ _) rfl rfl
  · rename_i incomplete
    refine .refused nofun ?_
    rintro given addr rfl rfl
    exact absurd rfl (incomplete given addr rfl)

/-! ## Well formed entries -/

/-- More wrappers take no reference away. -/
theorem GattClientWrapper.WellFormed.mono {wrapper : GattClientWrapper} {few many : Nat}
    (le : few ≤ many) (wellFormed : wrapper.WellFormed few) : wrapper.WellFormed many :=
  ⟨wellFormed.bare, fun number refers => Nat.lt_of_lt_of_le (wellFormed.made number refers) le⟩

/-- Wrappers with the same references are well formed together. -/
theorem GattClientWrapper.WellFormed.same {before after : GattClientWrapper} {wrappers : Nat}
    (same : SameReferences before after) (wellFormed : before.WellFormed wrappers) :
    after.WellFormed wrappers := by
  constructor
  · intro bare
    have none : before.gattClient = none := by
      rw [← Option.map_eq_none_iff (f := SharedGattClient.callback), ← same.callback, bare]
      rfl
    rw [same.owned, same.remoteAddr]
    exact wellFormed.bare none
  · intro number refers
    rw [same.callback] at refers
    exact wellFormed.made number refers

/-- The client that a connect goes on with refers to a wrapper that has been made, or to none. -/
theorem GattClientWrapper.WellFormed.clientFor {wrapper : GattClientWrapper} {wrappers : Nat}
    (wellFormed : wrapper.WellFormed wrappers) (strAddress : ByteString) (transport : Int32)
    {number : Nat} (refers : (wrapper.clientFor strAddress transport).callback = some number) :
      number < wrappers := by
  rw [GattClientWrapper.clientFor] at refers
  split at refers
  · rename_i client connected
    split at refers
    · apply wellFormed.made
      rw [connected]
      exact congrArg some refers
    · cases refers
  · cases refers

namespace ConnectHistory

/-- The connection of the first client has changed its state. -/
def stateChanged (newState : Int32) : GattcLabel :=
  .event 1 (.callback (.onConnectionStateChanged 0 newState))

end ConnectHistory
end CAdapter
end BluetoothFramework
