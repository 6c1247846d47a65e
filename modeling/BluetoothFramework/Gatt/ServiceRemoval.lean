import BluetoothFramework.Gatt.Server

/-!
# Removing services from the GATT server

A service is in two places, in the list of the server and in the remote service, and both
know it by its handle. `RemoveGattService` looks for it by its UUID and takes it out of the
list whatever the remote service answers. `ClearServices` does not wait for the answer
either.

`removal_exact_iff` says when both places agree all the same: the service has to be the
first with its UUID, and the remote service has to accept.
-/

namespace BluetoothFramework
namespace GattServer

/-- The handle in the `RemoveService` request of `RemoveGattService`. There is none where
Bluetooth is off, without a proxy, and for a UUID that no service has. -/
def removedHandle (server : GattServer) (bleEnabled : Bool) (answer : Option Int32) (uuid : UUID) :
    Option UInt16 :=
  if !bleEnabled then none
  else
    match answer with
    | none => none
    | some _ => (server.gattServices.first fun svc => svc.uuid.equals uuid).map fun svc => svc.2.handle

/-- No two services have one handle. -/
def DistinctHandles (server : GattServer) : Prop :=
  (server.gattServices.entries.map fun svc => svc.2.handle).Nodup

instance (server : GattServer) : Decidable server.DistinctHandles :=
  inferInstanceAs (Decidable (List.Nodup _))

/-- A call for the service at an address asks for its handle; it takes that service and no
other out of the list when it succeeds, and none when it fails. -/
structure RemovesExactly (server : GattServer) (address : Nat) (svc : GattService)
    (bleEnabled : Bool) (answer : Option Int32) : Prop where
  asks : bleEnabled = true → answer.isSome = true →
    server.removedHandle bleEnabled answer svc.uuid = some svc.handle
  removes : (server.removeGattService bleEnabled answer svc.uuid).2 = btNoError →
    (server.removeGattService bleEnabled answer svc.uuid).1.gattServices.entries =
      server.gattServices.entries.filter fun entry => entry.1 ≠ address
  keeps : (server.removeGattService bleEnabled answer svc.uuid).2 ≠ btNoError →
    (server.removeGattService bleEnabled answer svc.uuid).1.gattServices.entries =
      server.gattServices.entries

/-- A call that fails leaves the list as it is. -/
def ClearsOrKeeps (server : GattServer) (bleEnabled : Bool) (answer : Option Int32) : Prop :=
  (server.clearServices bleEnabled answer).2 ≠ btNoError →
    (server.clearServices bleEnabled answer).1.gattServices.entries = server.gattServices.entries

/-- No service before it in the list has its UUID. -/
def IsFirst (server : GattServer) (address : Nat) (svc : GattService) : Prop :=
  ∃ earlier later, server.gattServices.entries = earlier ++ (address, svc) :: later ∧
    ∀ other ∈ earlier, other.2.uuid ≠ svc.uuid

/-- What is the first with its UUID is what a search for the UUID finds. -/
theorem first_eq_iff {server : GattServer} {address : Nat} {svc : GattService} :
    (server.gattServices.first fun other => other.uuid.equals svc.uuid) = some (address, svc) ↔
      server.IsFirst address svc := by
  have itself : svc.uuid.equals svc.uuid = true := (UUID.equals_iff _ _).mpr rfl
  have differs (other : Nat × GattService) :
      (!other.2.uuid.equals svc.uuid) = true ↔ other.2.uuid ≠ svc.uuid := by
    rw [Bool.not_eq_true', ← Bool.not_eq_true, UUID.equals_iff]
  simp only [Nodes.first, List.find?_eq_some_iff_append, itself, differs, true_and, IsFirst]

/-- A service in the list has one that is found under its UUID. -/
theorem exists_first {server : GattServer} {address : Nat} {svc : GattService}
    (member : (address, svc) ∈ server.gattServices.entries) :
    ∃ found ∈ server.gattServices.entries,
      (server.gattServices.first fun other => other.uuid.equals svc.uuid) = some found := by
  cases found : server.gattServices.first fun other => other.uuid.equals svc.uuid with
  | none =>
    have differs := List.find?_eq_none.mp found (address, svc) member
    exact absurd ((UUID.equals_iff _ _).mpr rfl) differs
  | some first => exact ⟨first, List.mem_of_find?_eq_some found, rfl⟩

/-- Removing a service that is in the list goes by what is found under its UUID. -/
theorem removeGattService_found {server : GattServer} {svc : GattService}
    {found : Nat × GattService}
    (first : (server.gattServices.first fun other => other.uuid.equals svc.uuid) = some found)
    (result : Int32) :
    (server.removeGattService true (some result) svc.uuid).2 = result ∧
      (server.removeGattService true (some result) svc.uuid).1.gattServices.entries =
        server.gattServices.entries.filter fun entry => entry.1 ≠ found.1 := by
  rw [removeGattService.eq_def]
  simp only [Bool.not_true, Bool.false_eq_true, if_false, first]
  exact ⟨trivial, Nodes.entries_eraseFirst first⟩

/-- A list without an element it had is another list. -/
theorem filter_ne_self {entries : List (Nat × GattService)} {found : Nat × GattService}
    (member : found ∈ entries) :
    (entries.filter fun entry => entry.1 ≠ found.1) ≠ entries := by
  intro same
  simpa using List.filter_eq_self.mp same found member

/-- With distinct handles, a removal takes away exactly the service it is asked for if the
service says yes and the service is the first with its UUID. Removal is by UUID, so a later one
with the same UUID loses against the first. -/
theorem removesExactly_iff {server : GattServer} (distinct : server.DistinctHandles) {address : Nat}
    {svc : GattService} (member : (address, svc) ∈ server.gattServices.entries) (bleEnabled : Bool)
    (answer : Option Int32) :
    server.RemovesExactly address svc bleEnabled answer ↔
      (bleEnabled = true → ∀ result, answer = some result → result = btNoError ∧
        server.IsFirst address svc) := by
  have invalidState : btErrInvalidState ≠ btNoError := by decide
  have internalError : btErrInternalError ≠ btNoError := by decide
  cases bleEnabled with
  | false =>
    refine iff_of_true ⟨nofun, fun succeeds => ?_, fun _ => rfl⟩ nofun
    exact absurd succeeds invalidState
  | true =>
    cases answer with
    | none =>
      refine iff_of_true ⟨nofun, fun succeeds => ?_, fun _ => rfl⟩ nofun
      exact absurd succeeds internalError
    | some result =>
      obtain ⟨found, listed, first⟩ := exists_first member
      obtain ⟨returned, removed⟩ := removeGattService_found first result
      have asked : server.removedHandle true (some result) svc.uuid = some found.2.handle := by
        simp only [removedHandle, Bool.not_true, Bool.false_eq_true, if_false, first, Option.map_some]
      constructor
      · intro exactly _ _ same
        cases same
        have sameHandle : found.2.handle = svc.handle := by
          have request := exactly.asks rfl rfl
          rw [asked] at request
          exact Option.some.inj request
        have same : found = (address, svc) := List.inj_on_of_nodup_map distinct listed member sameHandle
        constructor
        · by_contra fails
          have kept := exactly.keeps (by rwa [returned])
          exact filter_ne_self listed (removed.symm.trans kept)
        · exact first_eq_iff.mp (same ▸ first)
      · intro accepted
        obtain ⟨succeeds, isFirst⟩ := accepted rfl result rfl
        rw [first_eq_iff.mpr isFirst] at first
        cases first
        exact ⟨fun _ _ => asked, fun _ => removed, fun fails => absurd (returned.trans succeeds) fails⟩

/-- Clearing empties the list, or keeps it, exactly if an answer is a success or there was
nothing to clear. The list is cleared before the answer is looked at. -/
theorem clearsOrKeeps_iff (server : GattServer) (bleEnabled : Bool) (answer : Option Int32) :
    server.ClearsOrKeeps bleEnabled answer ↔
      (bleEnabled = true → ∀ result, answer = some result → result = btNoError ∨
        server.gattServices.entries = []) := by
  cases bleEnabled with
  | false => exact iff_of_true (fun _ => rfl) nofun
  | true =>
    cases answer with
    | none => exact iff_of_true (fun _ => rfl) nofun
    | some result =>
      have cleared : server.clearServices true (some result) =
          ({ server with gattServices := server.gattServices.clear }, result) := rfl
      rw [ClearsOrKeeps, cleared]
      constructor
      · intro keeps _ _ same
        cases same
        by_cases succeeds : result = btNoError
        · exact .inl succeeds
        · exact .inr (keeps succeeds).symm
      · intro accepted fails
        rcases accepted rfl result rfl with succeeds | none
        · exact absurd succeeds fails
        · exact none.symm

/-- **A service is removed exactly if it is the first with its UUID and the remote service
accepts.** For every list with distinct handles and every service in it, the request names its
handle, success removes that service alone and failure removes none, if and only if the
request is not made, or is made for the first service with the UUID and accepted. A failing
`ClearServices` leaves the list alone if and only if nothing was asked or nothing was there. -/
theorem removal_exact_iff (server : GattServer) (distinct : server.DistinctHandles) (address : Nat)
    (svc : GattService) (member : (address, svc) ∈ server.gattServices.entries) (bleEnabled : Bool)
    (answer : Option Int32) :
    (server.RemovesExactly address svc bleEnabled answer ↔
      (bleEnabled = true → ∀ result, answer = some result →
        result = btNoError ∧ server.IsFirst address svc)) ∧
    (server.ClearsOrKeeps bleEnabled answer ↔
      (bleEnabled = true → ∀ result, answer = some result →
        result = btNoError ∨ server.gattServices.entries = [])) :=
  ⟨removesExactly_iff distinct member bleEnabled answer, clearsOrKeeps_iff server bleEnabled answer⟩

/-- A server with two more services of one UUID, a primary one at the handle 1 and a secondary
one at the handle 9. -/
def withBoth (server : GattServer) : GattServer :=
  { server with
    gattServices := (server.gattServices.append { handle := 1 }).append { handle := 9, isPrimary := false } }

/-- The primary service is removed exactly where the remote service accepts. -/
theorem removal_exact_primary :
    (withBoth {}).RemovesExactly 0 { handle := 1 } true (some btNoError) :=
  (removal_exact_iff (withBoth {}) (by decide) 0 { handle := 1 } (by decide) true (some btNoError)).1.mpr
    fun _ _ same => ⟨(Option.some.inj same).symm, [], [(1, { handle := 9, isPrimary := false })], rfl, nofun⟩

/-- Removing the secondary service asks for the handle of the primary service. A removal that
the remote service rejects and a rejected `ClearServices` empty the list all the same. -/
theorem removes_the_other :
    ¬ (withBoth {}).RemovesExactly 1 { handle := 9, isPrimary := false } true (some btNoError) ∧
      ¬ (withBoth {}).RemovesExactly 0 { handle := 1 } true (some btErrInternalError) ∧
      ¬ (withBoth {}).ClearsOrKeeps true (some btErrInternalError) := by
  refine ⟨fun claimed => ?_, fun claimed => ?_, fun claimed => ?_⟩
  · exact absurd (claimed.asks rfl rfl) (by decide)
  · exact absurd (claimed.keeps (by decide)) (by decide)
  · exact absurd (claimed (by decide)) (by decide)

end GattServer
end BluetoothFramework
