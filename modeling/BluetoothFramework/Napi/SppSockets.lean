import BluetoothFramework.Library.Runs
import Mathlib.Data.List.Basic
import Mathlib.Data.Int.Cast.Lemmas
import Mathlib.Logic.Function.Basic

/-!
# The numbers of the sockets of scripts

A script holds the sockets of the serial port profile by numbers. `sppListen` counts the server
sockets and `sppConnect` and `sppAccept` the clients, each from 0, and two maps lead from the
numbers to the sockets. The functions on servers look a number up with `operator[]`, which
leaves an empty entry behind, and `insert` does not replace an entry. `sppCloseServerSocket` also
closes the client of the same number.

`numbers_designate_iff` says that a number leads to its socket until the script closes it, if and
only if no number was looked up before it was given, and no server is closed under the number
of an open client.
-/

namespace BluetoothFramework.Napi

open Runs

/-- `serverMap` and `clientMap` with their counters. Sockets are numbered as they are created. -/
structure SppSockets where
  /-- `serverMap`, in which an entry may be a null pointer. -/
  serverMap : Int → Option (Option Nat) := fun _ => none
  serverCount : Nat := 0
  clientMap : Int → Option Nat := fun _ => none
  clientCount : Nat := 0
  /-- The sockets that have been created. -/
  created : Nat := 0
  /-- The sockets that servers have been asked to accept from. -/
  accepting : List Nat := []
  /-- The servers the script has been given and has not closed. -/
  servers : List (Int × Nat) := []
  /-- The clients the script has been given and has not closed. -/
  clients : List (Int × Nat) := []
  /-- The numbers that have been looked up among the servers. -/
  asked : List Int := []

/-- What happens, in the order of the thread of the script. -/
inductive SppEvent where
  /-- A work of `SppListen` completes with a server. -/
  | listened
  /-- `SppAccept` -/
  | accept (id : Int)
  /-- A work of `SppAccept` completes with a client of the server. -/
  | accepted (server : Nat)
  /-- A work of `SppConnect` completes with a client. -/
  | connected
  | sppCloseServerSocket (id : Int)
  | sppCloseClientSocket (id : Int)
  | getL2capPsm (id : Int)
deriving DecidableEq, Repr

namespace SppSockets

/-- `operator[]` of `serverMap`. -/
def lookUp (sockets : SppSockets) (id : Int) : Option Nat × SppSockets :=
  ((sockets.serverMap id).join,
    { sockets with
      serverMap := Function.update sockets.serverMap id (some (sockets.serverMap id).join)
      asked := id :: sockets.asked })

/-- `insert` of a map, which keeps an entry that is there. -/
def inserted {Socket : Type} (map : Int → Option Socket) (id : Int) (socket : Socket) :
    Int → Option Socket :=
  Function.update map id (some ((map id).getD socket))

/-- A server is inserted under the next number. -/
def addServer (sockets : SppSockets) : SppSockets :=
  { sockets with
    serverMap := inserted sockets.serverMap sockets.serverCount (some sockets.created)
    serverCount := sockets.serverCount + 1
    created := sockets.created + 1
    servers := (sockets.serverCount, sockets.created) :: sockets.servers }

/-- A client is inserted under the next number. -/
def addClient (sockets : SppSockets) : SppSockets :=
  { sockets with
    clientMap := inserted sockets.clientMap sockets.clientCount sockets.created
    clientCount := sockets.clientCount + 1
    created := sockets.created + 1
    clients := (sockets.clientCount, sockets.created) :: sockets.clients }

/-- `SppCloseClientSocket`, and what `SppCloseServerSocket` does to the client of the number. -/
def closeClient (sockets : SppSockets) (id : Int) : SppSockets :=
  { sockets with clientMap := Function.update sockets.clientMap id none }

/-- The part of `SppCloseServerSocket` about the server. -/
def closeServer (sockets : SppSockets) (id : Int) : SppSockets :=
  match sockets.lookUp id with
  | (some _, looked) =>
      { looked with
        serverMap := Function.update looked.serverMap id none
        servers := looked.servers.filter fun server => server.1 ≠ id }
  | (none, looked) => { looked with servers := looked.servers.filter fun server => server.1 ≠ id }

/-- One event. A work of `SppAccept` completes only if it was started. -/
def step (sockets : SppSockets) : SppEvent → Option SppSockets
  | .listened => some sockets.addServer
  | .accept id =>
      some { (sockets.lookUp id).2 with
        accepting := (sockets.lookUp id).1.toList ++ sockets.accepting }
  | .accepted server =>
      if server ∈ sockets.accepting then
        some { sockets.addClient with accepting := sockets.accepting.erase server }
      else none
  | .connected => some sockets.addClient
  | .sppCloseServerSocket id => some ((sockets.closeClient id).closeServer id)
  | .sppCloseClientSocket id =>
      some { sockets.closeClient id with clients := sockets.clients.filter fun client => client.1 ≠ id }
  | .getL2capPsm id => some (sockets.lookUp id).2

/-- A number leads to the socket that was given under it until the script closes it, and to
nothing else. -/
structure Designates (sockets : SppSockets) : Prop where
  servers : ∀ id server, sockets.serverMap id = some (some server) ↔ (id, server) ∈ sockets.servers
  clients : ∀ id client, sockets.clientMap id = some client ↔ (id, client) ∈ sockets.clients

/-- A server gets a number that nobody has asked for, and no server is closed under the number
of an open client. -/
def AsksInTime (sockets : SppSockets) : SppEvent → Prop
  | .listened => (sockets.serverCount : Int) ∉ sockets.asked
  | .sppCloseServerSocket id => sockets.clientMap id = none
  | _ => True

instance (sockets : SppSockets) (event : SppEvent) : Decidable (sockets.AsksInTime event) := by
  cases event <;> unfold AsksInTime <;> infer_instance

/-- What holds of the maps and the counters whatever the script does. -/
structure Kept (sockets : SppSockets) : Prop where
  /-- From the counter on, there are only the entries that a lookup has left. -/
  unused : ∀ id, (sockets.serverCount : Int) ≤ id →
    sockets.serverMap id = if id ∈ sockets.asked then some none else none
  serversBelow : ∀ server ∈ sockets.servers, server.1 < sockets.serverCount
  serversGiven : ∀ id server, sockets.serverMap id = some (some server) → (id, server) ∈ sockets.servers
  clientsBelow : ∀ client ∈ sockets.clients, client.1 < sockets.clientCount
  clientsGiven : ∀ id client, sockets.clientMap id = some client → (id, client) ∈ sockets.clients

/-- The empty maps keep all of it, since no number has been given. -/
theorem kept_empty : Kept {} where
  unused := by simp
  serversBelow := by simp
  serversGiven := by simp
  clientsBelow := by simp
  clientsGiven := by simp

/-- In the empty maps no number leads anywhere, and no socket is open. -/
theorem designates_empty : Designates {} where
  servers := by simp
  clients := by simp

variable {sockets : SppSockets}

/-! ### Looking up -/

/-- A lookup leaves the servers where they were. -/
theorem lookUp_some_some (sockets : SppSockets) (asked id : Int) (server : Nat) :
    (sockets.lookUp asked).2.serverMap id = some (some server) ↔
      sockets.serverMap id = some (some server) := by
  by_cases same : id = asked
  · subst same
    simp [lookUp, Option.join_eq_some_iff]
  · simp [lookUp, same]

/-- A lookup alone disturbs no number. It may insert an empty entry, and an empty entry leads to
no server. -/
theorem lookUp_designates (sockets : SppSockets) (asked : Int) :
    (sockets.lookUp asked).2.Designates ↔ sockets.Designates := by
  constructor
  · intro designates
    constructor
    · intro id server
      rw [← lookUp_some_some sockets asked]
      exact designates.servers id server
    · exact designates.clients
  · intro designates
    constructor
    · intro id server
      rw [lookUp_some_some]
      exact designates.servers id server
    · exact designates.clients

/-- A lookup keeps what holds of the maps. The entry that it may insert at or above the counter
is recorded as asked for, which is what later lets a server that is given this number go
missing. -/
theorem Kept.lookUp (kept : sockets.Kept) (asked : Int) : (sockets.lookUp asked).2.Kept where
  unused id above := by
    have before := kept.unused id above
    by_cases same : id = asked
    · subst same
      by_cases known : id ∈ sockets.asked <;> simp [SppSockets.lookUp, before, known]
    · simp [SppSockets.lookUp, same, before]
  serversBelow := kept.serversBelow
  serversGiven id server found :=
    kept.serversGiven id server ((lookUp_some_some sockets asked id server).mp found)
  clientsBelow := kept.clientsBelow
  clientsGiven := kept.clientsGiven

/-! ### Giving numbers -/

/-- An insertion under a number leaves the other numbers. -/
theorem inserted_other {Socket : Type} (map : Int → Option Socket) {id other : Int}
    (socket : Socket) (different : other ≠ id) : inserted map id socket other = map other :=
  Function.update_of_ne different _ map

/-- An insertion under a number that is taken leaves what was there. `insert` does not replace,
unlike an assignment. -/
theorem inserted_self {Socket : Type} (map : Int → Option Socket) (id : Int) (socket : Socket) :
    inserted map id socket id = some ((map id).getD socket) :=
  Function.update_self id _ map

/-- An entry after an insertion was there before or is the one that was inserted. -/
theorem of_inserted {Socket : Type} {map : Int → Option Socket} {inserting id : Int}
    {new socket : Socket} (found : inserted map inserting new id = some socket) :
    map id = some socket ∨ (id = inserting ∧ socket = new) := by
  by_cases same : id = inserting
  · subst same
    rw [inserted_self] at found
    cases before : map id with
    | none => exact .inr ⟨rfl, by simpa [before] using found.symm⟩
    | some kept => exact .inl (by simpa [before] using found)
  · rw [inserted_other map new same] at found
    exact .inl found

/-- A new server keeps what holds of the maps, even where its number was asked for before and
its entry is therefore not inserted. -/
theorem Kept.addServer (kept : sockets.Kept) : sockets.addServer.Kept where
  unused id above := by
    have later : (sockets.serverCount : Int) < id := by
      simp only [SppSockets.addServer] at above
      omega
    exact (inserted_other _ _ (by omega)).trans (kept.unused id (by omega))
  serversBelow server given := by
    simp only [SppSockets.addServer, List.mem_cons] at given ⊢
    rcases given with rfl | given
    · simp only
      omega
    · have below := kept.serversBelow server given
      omega
  serversGiven id server found := by
    rcases of_inserted found with before | ⟨rfl, new⟩
    · exact List.mem_cons_of_mem _ (kept.serversGiven id server before)
    · simp [SppSockets.addServer, Option.some.inj new]
  clientsBelow := kept.clientsBelow
  clientsGiven := kept.clientsGiven

/-- A server is found under its number unless the number has been looked up before. The lookup
left an empty entry there, which the insertion does not replace. -/
theorem Kept.addServer_designates (kept : sockets.Kept) (designates : sockets.Designates) :
    sockets.addServer.Designates ↔ (sockets.serverCount : Int) ∉ sockets.asked := by
  have free := kept.unused sockets.serverCount (Int.le_refl _)
  by_cases known : (sockets.serverCount : Int) ∈ sockets.asked
  · -- the empty entry stays
    simp only [known, if_true] at free
    apply iff_of_false _ (by simpa using known)
    intro after
    have lost := (after.servers sockets.serverCount sockets.created).mpr (by simp [SppSockets.addServer])
    simp [SppSockets.addServer, inserted_self, free] at lost
  · simp only [known, if_false] at free
    apply iff_of_true _ known
    refine ⟨fun id server => ⟨kept.addServer.serversGiven id server, ?_⟩, designates.clients⟩
    intro given
    simp only [SppSockets.addServer, List.mem_cons, Prod.mk.injEq] at given
    rcases given with ⟨rfl, rfl⟩ | given
    · simp [SppSockets.addServer, inserted_self, free]
    · have below : id < sockets.serverCount := kept.serversBelow _ given
      exact (inserted_other _ _ (by omega)).trans ((designates.servers id server).mpr given)

/-- A new client keeps what holds of the maps. No lookup inserts into the map of the clients, so
its entry is inserted. -/
theorem Kept.addClient (kept : sockets.Kept) : sockets.addClient.Kept where
  unused := kept.unused
  serversBelow := kept.serversBelow
  serversGiven := kept.serversGiven
  clientsBelow client given := by
    simp only [SppSockets.addClient, List.mem_cons] at given ⊢
    rcases given with rfl | given
    · simp only
      omega
    · have below := kept.clientsBelow client given
      omega
  clientsGiven id client found := by
    rcases of_inserted found with before | ⟨rfl, new⟩
    · exact List.mem_cons_of_mem _ (kept.clientsGiven id client before)
    · simp [SppSockets.addClient, new]

/-- A client is always found, since lookups leave no entries among the clients. -/
theorem Kept.addClient_designates (kept : sockets.Kept) (designates : sockets.Designates) :
    sockets.addClient.Designates := by
  have free : sockets.clientMap sockets.clientCount = none := by
    cases found : sockets.clientMap sockets.clientCount with
    | none => rfl
    | some client =>
      have below := kept.clientsBelow _ (kept.clientsGiven _ client found)
      exact absurd below (Int.lt_irrefl _)
  refine ⟨designates.servers, fun id client => ⟨kept.addClient.clientsGiven id client, ?_⟩⟩
  intro given
  simp only [SppSockets.addClient, List.mem_cons, Prod.mk.injEq] at given
  rcases given with ⟨rfl, rfl⟩ | given
  · simp [SppSockets.addClient, inserted_self, free]
  · have below : id < sockets.clientCount := kept.clientsBelow _ given
    exact (inserted_other _ _ (by omega)).trans ((designates.clients id client).mpr given)

/-! ### Closing -/

/-- A client that is found after a close has another number, and was found before. -/
theorem of_closeClient {closed id : Int} {client : Nat}
    (found : (sockets.closeClient closed).clientMap id = some client) :
    id ≠ closed ∧ sockets.clientMap id = some client := by
  by_cases same : id = closed
  · simp [closeClient, same] at found
  · exact ⟨same, by simpa [closeClient, same] using found⟩

/-- To close a client keeps what holds of the maps, whether the script had the client or not. -/
theorem Kept.closeClient (kept : sockets.Kept) (closed : Int) :
    (sockets.closeClient closed).Kept where
  unused := kept.unused
  serversBelow := kept.serversBelow
  serversGiven := kept.serversGiven
  clientsBelow := kept.clientsBelow
  clientsGiven id client found := kept.clientsGiven id client (of_closeClient found).2

/-- What `SppCloseServerSocket` does to an open client of the number costs the script the
client. -/
theorem Kept.closeClient_designates (kept : sockets.Kept) (designates : sockets.Designates)
    (closed : Int) :
    (sockets.closeClient closed).Designates ↔ sockets.clientMap closed = none := by
  constructor
  · intro after
    cases found : sockets.clientMap closed with
    | none => rfl
    | some client =>
      have lost := (after.clients closed client).mpr (kept.clientsGiven closed client found)
      simp [SppSockets.closeClient] at lost
  · intro none
    rwa [SppSockets.closeClient, ← none, Function.update_eq_self]

/-- The script closes a client, and its number leads nowhere. -/
theorem Designates.sppCloseClientSocket (designates : sockets.Designates) (closed : Int) :
    Designates { sockets.closeClient closed with
      clients := sockets.clients.filter fun client => client.1 ≠ closed } where
  servers := designates.servers
  clients id client := by
    by_cases same : id = closed
    · simp [closeClient, same]
    · simp [closeClient, same, designates.clients]

/-- The script closes a client: its own list loses the client together with the map. -/
theorem Kept.sppCloseClientSocket (kept : sockets.Kept) (closed : Int) :
    Kept { sockets.closeClient closed with
      clients := sockets.clients.filter fun client => client.1 ≠ closed } where
  unused := kept.unused
  serversBelow := kept.serversBelow
  serversGiven := kept.serversGiven
  clientsBelow client given := kept.clientsBelow client (List.mem_of_mem_filter given)
  clientsGiven id client found := by
    obtain ⟨other, before⟩ := of_closeClient found
    simpa [other] using kept.clientsGiven id client before

/-- After a server is closed its number leads to no server. -/
theorem closeServer_some_some (sockets : SppSockets) (closed id : Int) (server : Nat) :
    (sockets.closeServer closed).serverMap id = some (some server) ↔
      id ≠ closed ∧ sockets.serverMap id = some (some server) := by
  by_cases same : id = closed
  · subst same
    cases found : (sockets.serverMap id).join <;> simp [closeServer, lookUp, found]
  · cases found : (sockets.serverMap closed).join <;> simp [closeServer, lookUp, found, same]

/-- The servers that the script has open are those with another number. The lookup that comes
first plays no part. -/
theorem closeServer_servers (sockets : SppSockets) (closed : Int) :
    (sockets.closeServer closed).servers =
      sockets.servers.filter fun server => server.1 ≠ closed := by
  cases found : (sockets.serverMap closed).join <;> simp [closeServer, lookUp, found]

/-- The clients are left alone where a server is closed. -/
theorem closeServer_clients (sockets : SppSockets) (closed : Int) :
    (sockets.closeServer closed).clientMap = sockets.clientMap ∧
      (sockets.closeServer closed).clients = sockets.clients ∧
      (sockets.closeServer closed).clientCount = sockets.clientCount ∧
      (sockets.closeServer closed).serverCount = sockets.serverCount := by
  cases found : (sockets.serverMap closed).join <;> simp [closeServer, lookUp, found]

/-- To close a server keeps what holds of the maps. The lookup may leave an empty entry, as on
any other path. -/
theorem Kept.closeServer (kept : sockets.Kept) (closed : Int) :
    (sockets.closeServer closed).Kept := by
  obtain ⟨sameMap, sameClients, sameCount, serverCount⟩ := closeServer_clients sockets closed
  constructor
  case unused =>
    intro id above
    rw [serverCount] at above
    have before := (kept.lookUp closed).unused id above
    cases found : (sockets.serverMap closed).join with
    | none => simpa [SppSockets.closeServer, SppSockets.lookUp, found] using before
    | some server =>
      have given := kept.serversGiven closed server (Option.join_eq_some_iff.mp found)
      have below : closed < sockets.serverCount := kept.serversBelow _ given
      have other : id ≠ closed := by omega
      simpa [SppSockets.closeServer, SppSockets.lookUp, found, other] using before
  case serversBelow =>
    intro server given
    rw [closeServer_servers] at given
    rw [serverCount]
    exact kept.serversBelow server (List.mem_of_mem_filter given)
  case serversGiven =>
    intro id server found
    obtain ⟨other, before⟩ := (closeServer_some_some sockets closed id server).mp found
    simpa [closeServer_servers, other] using kept.serversGiven id server before
  case clientsBelow =>
    rw [sameClients, sameCount]
    exact kept.clientsBelow
  case clientsGiven =>
    rw [sameMap, sameClients]
    exact kept.clientsGiven

/-- Closing a server keeps the numbers right, and it repairs none of a client. So the condition
on the whole step is that on the client which is closed with it. -/
theorem closeServer_designates (sockets : SppSockets)
    (designates : ∀ id server, sockets.serverMap id = some (some server) ↔
      (id, server) ∈ sockets.servers)
    (closed : Int) :
    (sockets.closeServer closed).Designates ↔ sockets.Designates := by
  obtain ⟨sameMap, sameClients, -, -⟩ := closeServer_clients sockets closed
  constructor
  · intro after
    refine ⟨designates, ?_⟩
    rw [← sameMap, ← sameClients]
    exact after.clients
  · intro before
    constructor
    · intro id server
      rw [closeServer_some_some, closeServer_servers, designates]
      simp [and_comm]
    · rw [sameMap, sameClients]
      exact before.clients

/-! ### Runs -/

/-- Every step keeps what holds of the maps, with no condition on what the script asks for. The
condition is only needed for the numbers to lead to their sockets. -/
theorem kept_step (sockets : SppSockets) (event : SppEvent) (next : SppSockets)
    (kept : sockets.Kept) (stepped : sockets.step event = some next) : next.Kept := by
  cases event with
  | listened =>
    cases stepped
    exact kept.addServer
  | accept id =>
    cases stepped
    exact { kept.lookUp id with }
  | accepted server =>
    simp only [step] at stepped
    split at stepped
    · cases stepped
      exact { kept.addClient with }
    · cases stepped
  | connected =>
    cases stepped
    exact kept.addClient
  | sppCloseServerSocket id =>
    cases stepped
    exact (kept.closeClient id).closeServer id
  | sppCloseClientSocket id =>
    cases stepped
    exact kept.sppCloseClientSocket id
  | getL2capPsm id =>
    cases stepped
    exact kept.lookUp id

/-- A step leaves every number leading to its socket if and only if it asks in time. Of the
events only two can go wrong: a new server under a number that was asked for, and the closing of
a server under the number of a client. -/
theorem designates_step (sockets : SppSockets) (event : SppEvent) (next : SppSockets)
    (kept : sockets.Kept)
    (designates : sockets.Designates) (stepped : sockets.step event = some next) :
    next.Designates ↔ sockets.AsksInTime event := by
  cases event with
  | listened =>
    cases stepped
    exact kept.addServer_designates designates
  | accept id =>
    cases stepped
    have looked := (lookUp_designates sockets id).mpr designates
    exact iff_of_true { looked with } trivial
  | accepted server =>
    simp only [step] at stepped
    split at stepped
    · cases stepped
      exact iff_of_true { kept.addClient_designates designates with } trivial
    · cases stepped
  | connected =>
    cases stepped
    exact iff_of_true (kept.addClient_designates designates) trivial
  | sppCloseServerSocket id =>
    cases stepped
    have closed := closeServer_designates (sockets.closeClient id) designates.servers id
    exact closed.trans (kept.closeClient_designates designates id)
  | sppCloseClientSocket id =>
    cases stepped
    exact iff_of_true (designates.sppCloseClientSocket id) trivial
  | getL2capPsm id =>
    cases stepped
    exact iff_of_true ((lookUp_designates sockets id).mpr designates) trivial

/-- However the works of a script complete between its calls, every number leads to its own
socket from the moment it is given until it is closed, if and only if no number of a server was
looked up before it was given and no server is closed under the number of an open client. -/
theorem numbers_designate_iff (events : List SppEvent) :
    Always step Designates {} events ↔ Meets step AsksInTime {} events :=
  always_iff_meets kept_step designates_step {} events kept_empty designates_empty

/-- A server that begins to listen after somebody asked for the number it gets is never found. -/
example : ¬ Meets step AsksInTime {} [.getL2capPsm 0, .listened] := by
  decide

end SppSockets

end BluetoothFramework.Napi
