import BluetoothFramework.Common.Types
import BluetoothFramework.Library.Handles
import BluetoothFramework.Library.LittleEndian
import BluetoothFramework.Library.Runs
import BluetoothFramework.Uuid.Text

/-!
# The descriptors of a socket

Client and server sockets keep a descriptor in `fd_`, use it in system calls and close
it. What an operation does to descriptors is the list of its system calls, together with
the descriptors that come in from the service.

The destructor, `Close` and `CloseFd` close a descriptor only if it is positive, and the
reply of a remote call overwrites `fd_`. The second half of this module says, for an
object that has just `fd_` to remember a descriptor by, what these steps make of its
account: the object is settled when the descriptors it holds are the one in `fd_`.
-/

namespace BluetoothFramework.Socket

open Handles Ledger Runs

/-- `SocketState` -/
inductive SocketState where
  | socketInit
  | socketConnected
  | socketListening
  | socketClosed
deriving DecidableEq, Repr

/-- `BtSocketType` -/
inductive BtSocketType where
  | typeRfcomm
  | typeL2cap
  | typeL2capLe
deriving DecidableEq, Repr

/-- `BtSocketType` as the service is sent it. -/
def BtSocketType.toInt32 : BtSocketType → Int32
  | typeRfcomm => 0
  | typeL2cap => 1
  | typeL2capLe => 2

/-- `INVALID_FD` and `BT_INVALID_SOCKET_FD` -/
def invalidFd : Int := -1

/-- `FLAG_ENCRYPT` -/
def flagEncrypt : Int32 := 1

/-- `FLAG_AUTH` -/
def flagAuth : Int32 := (1 : Int32) <<< 1

/-- `getSecurityFlags` -/
def getSecurityFlags (auth : Bool) : Int32 :=
  if auth then 0 ||| flagAuth ||| flagEncrypt else 0

/-- `SOCKET_RECV_CHANNEL_SIZE` -/
def socketRecvChannelSize : Int32 := 4

/-- `SOCKET_RECV_FD_SIGNAL`: the state, the address and the two packet sizes. -/
def socketRecvFdSignal : Int32 := 11

/-- `SOCKET_RECV_TXRX_SIZE` -/
def socketRecvTxrxSize : Nat := 2

/-- `TX_OFFSET` -/
def txOffset : Nat := 7

/-- `RX_OFFSET` -/
def rxOffset : Nat := 9

/-- `GetPacketSizeFromBuf`, with the bytes from the offset on. -/
def getPacketSizeFromBuf (recvBuf : List UInt8) : UInt32 :=
  if recvBuf.length < socketRecvTxrxSize then 0
  else UInt32.ofNat (LittleEndian.decode (recvBuf.take socketRecvTxrxSize))

/-- What a read of the channel number returns. -/
structure ChannelRead where
  recvBufSize : Int32 := socketRecvChannelSize
  channel : Int32 := 1
deriving DecidableEq, Repr

/-- `MessageParcel::ReadFileDescriptor`: the descriptor in the reply, or `-1` without one. -/
def readFileDescriptor : Option Nat → Int
  | some fd => fd
  | none => invalidFd

/-- `ConnectSocketParam` -/
structure ConnectSocketParam where
  addr : ByteString
  uuid : Uuid
  securityFlag : Int32
  type : Int32
  psm : Int32
deriving DecidableEq, Repr

/-- `ListenSocketParam`, less the observer. -/
structure ListenSocketParam where
  name : ByteString
  uuid : Uuid
  securityFlag : Int32
  type : Int32
  psm : Int32
deriving DecidableEq, Repr

/-- A system call, a request to the service, a descriptor that comes in, and a descriptor
that goes to a new `ClientSocket`. -/
inductive Act where
  | received (fd : Int)
  | recv (fd : Int)
  | recvmsg (fd : Int)
  | send (fd : Int) (buf : ByteString)
  | getsockopt (fd : Int)
  | setsockopt (fd : Int)
  | ioctl (fd : Int)
  | shutdown (fd : Int)
  | close (fd : Int)
  | clientSocket (fd : Int)
  | registerClientObserver (addr : ByteString) (uuid : Uuid)
  | deregisterClientObserver (addr : ByteString) (uuid : Uuid)
  | connect (param : ConnectSocketParam)
  | listen (param : ListenSocketParam)
  | deregisterServerObserver
  | getRandomAddress (realAddr : ByteString)
deriving DecidableEq, Repr

/-- What an act is for the descriptor it is about. -/
def Act.event : Act → Option (Event Int)
  | received fd => some (.handed fd)
  | recv fd => some (.used fd)
  | recvmsg fd => some (.used fd)
  | send fd _ => some (.used fd)
  | getsockopt fd => some (.used fd)
  | setsockopt fd => some (.used fd)
  | ioctl fd => some (.used fd)
  | shutdown fd => some (.used fd)
  | close fd => some (.closed fd)
  | clientSocket fd => some (.passed fd)
  | _ => none

/-- The events of some acts. -/
def events (acts : List Act) : List (Event Int) :=
  acts.filterMap Act.event

/-- The descriptors of an object after some acts. -/
def ledger (acts : List Act) : Ledger Int :=
  ({} : Ledger Int).enterAll (events acts)

/-- Every descriptor that is handed to the object is closed, or goes to a new
`ClientSocket`, exactly once, and is not used from then on. -/
def ClosedExactlyOnce (acts : List Act) : Prop :=
  GivenUpOnce (events acts) ∧ UnusedAfter (events acts)

instance (acts : List Act) : Decidable (ClosedExactlyOnce acts) :=
  inferInstanceAs (Decidable (_ ∧ _))

/-- What an operation leaves, returns and does. -/
structure Outcome (Object Result : Type) where
  object : Object
  result : Result
  acts : List Act

/-- The acts of the destructors, of `Close` and of `CloseFd`. -/
def closeFd (fd : Int) : List Act :=
  if 0 < fd then [.shutdown fd, .shutdown fd, .close fd] else []

/-- The acts by which a descriptor of a reply comes in. -/
def receive : Option Nat → List Act
  | some fd => [.received fd]
  | none => []

/-- The acts by which the descriptors of a message come in. -/
def receiveAll (rights : List Nat) : List Act :=
  rights.map fun fd => .received fd

/-- The events of acts in turn are those of the first and of the second. -/
@[simp] theorem events_append (first second : List Act) :
    events (first ++ second) = events first ++ events second :=
  List.filterMap_append

/-- The ledger after acts in turn is the first ledger with the events of the second entered. -/
@[simp] theorem ledger_append (first second : List Act) :
    ledger (first ++ second) = (ledger first).enterAll (events second) := by
  rw [ledger, events_append, enterAll_append]
  rfl

/-! ## Accounts -/

/-- The descriptor that `fd_` stands for. -/
def owned (fd : Int) : Finset Int :=
  if 0 < fd then {fd} else ∅

/-- The object has touched nothing that it did not hold, and holds the descriptor in
`fd_` and no other. -/
structure Settled (fd : Int) (acts : List Act) : Prop where
  nonzero : fd ≠ 0
  touched : Along Held {} (events acts)
  held : (ledger acts).held = owned fd

/-- What any account keeps to, settled or not. A descriptor in `fd_` has been handed to
the object; where it is closed by now, another one is left open. -/
structure Account (fd : Int) (acts : List Act) : Prop where
  fresh : Along Fresh {} (events acts)
  known : Along Known {} (events acts)
  descriptor : fd ≠ invalidFd → 0 ≤ fd ∧ fd ∈ (ledger acts).seen
  remains : fd ≠ invalidFd → (ledger acts).held.Nonempty

/-- An account depends on the events only. -/
theorem settled_congr {fd : Int} {acts others : List Act} (same : events acts = events others) :
    Settled fd acts ↔ Settled fd others := by
  have sameLedger : ledger acts = ledger others := congrArg ({} : Ledger Int).enterAll same
  constructor <;> rintro ⟨nonzero, touched, held⟩
  · exact ⟨nonzero, same ▸ touched, sameLedger ▸ held⟩
  · exact ⟨nonzero, same ▸ touched, sameLedger ▸ held⟩

/-- An account depends on the events only, so acts without an event may be added anywhere. -/
theorem Account.congr {fd : Int} {acts others : List Act} (account : Account fd acts)
    (same : events acts = events others) : Account fd others := by
  have sameLedger : ledger acts = ledger others := congrArg ({} : Ledger Int).enterAll same
  obtain ⟨fresh, known, descriptor, remains⟩ := account
  exact ⟨same ▸ fresh, same ▸ known, sameLedger ▸ descriptor, sameLedger ▸ remains⟩

/-- The end of an account: a settled one without a descriptor closed everything once. -/
theorem closedExactlyOnce_iff {acts : List Act} (account : Account invalidFd acts) :
    ClosedExactlyOnce acts ↔ Settled invalidFd acts := by
  rw [ClosedExactlyOnce, disciplined_iff _ account.fresh account.known]
  constructor
  · rintro ⟨touched, nothing⟩
    exact ⟨by decide, touched, nothing⟩
  · rintro ⟨-, touched, nothing⟩
    exact ⟨touched, nothing⟩

/-- An account goes on with new acts if their events are fresh and known and the descriptor of
the object is accounted for afterwards. All the rules below are cases of it. -/
theorem account_append {fd next : Int} {acts new : List Act} (account : Account fd acts)
    (fresh : Along Fresh (ledger acts) (events new))
    (known : Along Known (ledger acts) (events new))
    (descriptor : next ≠ invalidFd → 0 ≤ next ∧ next ∈ (ledger (acts ++ new)).seen)
    (remains : next ≠ invalidFd → (ledger (acts ++ new)).held.Nonempty) :
    Account next (acts ++ new) where
  fresh := by
    rw [events_append, along_append]
    exact ⟨account.fresh, fresh⟩
  known := by
    rw [events_append, along_append]
    exact ⟨account.known, known⟩
  descriptor := descriptor
  remains := remains

/-- What new acts have to do for a settled account. -/
theorem settled_append (fd : Int) (acts new : List Act) :
    Settled fd (acts ++ new) ↔
      fd ≠ 0 ∧ Along Held {} (events acts) ∧ Along Held (ledger acts) (events new) ∧
        ((ledger acts).enterAll (events new)).held = owned fd := by
  constructor
  · rintro ⟨nonzero, touched, held⟩
    rw [events_append, along_append] at touched
    rw [ledger_append] at held
    exact ⟨nonzero, touched.1, touched.2, held⟩
  · rintro ⟨nonzero, before, after, held⟩
    refine ⟨nonzero, ?_, ?_⟩
    · rw [events_append, along_append]
      exact ⟨before, after⟩
    · rw [ledger_append]
      exact held

/-- What has been seen stays seen. -/
theorem seen_ledger_append (acts new : List Act) :
    (ledger acts).seen ⊆ (ledger (acts ++ new)).seen := by
  rw [ledger_append]
  exact seen_subset_enterAll _ _

/-- The descriptor stands for itself if it is positive, and for nothing otherwise: `0` is never
closed. -/
theorem mem_owned {fd other : Int} : other ∈ owned fd ↔ 0 < fd ∧ other = fd := by
  rw [owned]
  split <;> simp_all

/-- A descriptor in `fd_` is open in a settled account. -/
theorem Settled.mem {fd : Int} {acts : List Act} (settled : Settled fd acts)
    (account : Account fd acts) (valid : fd ≠ invalidFd) : fd ∈ (ledger acts).held := by
  rw [settled.held, mem_owned]
  have nonzero := settled.nonzero
  have nonnegative := (account.descriptor valid).1
  exact ⟨by omega, rfl⟩

/-! ## Uses -/

/-- Uses of descriptors that were seen keep the account. Nothing is handed over or closed. -/
theorem account_uses {fd : Int} {acts new : List Act} {descriptors : Finset Int}
    (account : Account fd acts) (uses : Uses descriptors (events new))
    (seen : descriptors ⊆ (ledger acts).seen) : Account fd (acts ++ new) := by
  have same : ledger (acts ++ new) = ledger acts := by rw [ledger_append, enterAll_uses uses]
  refine account_append account ?_ ?_ ?_ ?_
  · exact along_uses uses fun _ _ => trivial
  · exact along_uses uses fun descriptor among => seen among
  · rw [same]
    exact account.descriptor
  · rw [same]
    exact account.remains

/-- A use settles nothing, and is right for the descriptor in `fd_` only. A copy of an earlier
descriptor may be used, but that is not held any more. -/
theorem settled_uses {fd descriptor : Int} {acts new : List Act} (account : Account fd acts)
    (uses : Uses {descriptor} (events new)) (used : events new ≠ [])
    (valid : descriptor ≠ invalidFd) :
    Settled fd (acts ++ new) ↔ Settled fd acts ∧ descriptor = fd := by
  rw [settled_append, enterAll_uses uses]
  constructor
  · rintro ⟨nonzero, before, after, held⟩
    refine ⟨⟨nonzero, before, held⟩, ?_⟩
    obtain ⟨event, among⟩ := List.exists_mem_of_ne_nil _ used
    obtain ⟨handle, single, rfl⟩ := uses event among
    have isHeld : handle ∈ (ledger acts).held := along_uses_mem uses after among
    rw [held, mem_owned, Finset.mem_singleton.mp single] at isHeld
    exact isHeld.2
  · rintro ⟨settled, rfl⟩
    refine ⟨settled.nonzero, settled.touched, ?_, settled.held⟩
    apply along_uses uses
    intro handle single
    rw [Finset.mem_singleton.mp single]
    exact settled.mem account valid

/-- Acts that touch no descriptor leave the events as they are. -/
theorem silent {acts new : List Act} (nothing : events new = []) :
    events (acts ++ new) = events acts := by
  rw [events_append, nothing, List.append_nil]

/-- Using the descriptor in `fd_` keeps the account as it is. -/
theorem uses_own {fd : Int} {acts new : List Act} (account : Account fd acts)
    (uses : Uses {fd} (events new)) (nothing : fd = invalidFd → events new = []) :
    Account fd (acts ++ new) ∧ (Settled fd (acts ++ new) ↔ Settled fd acts) := by
  by_cases quiet : events new = []
  · have same : events (acts ++ new) = events acts := silent quiet
    exact ⟨account.congr same.symm, settled_congr same⟩
  · have valid : fd ≠ invalidFd := fun invalid => quiet (nothing invalid)
    constructor
    · apply account_uses account uses
      rw [Finset.singleton_subset_iff]
      exact (account.descriptor valid).2
    · rw [settled_uses account uses quiet valid]
      exact and_iff_left rfl

/-! ## Replies -/

/-- The reply of a remote call overwrites `fd_`. -/
theorem account_receive {fd : Int} {acts : List Act} {descriptor : Option Nat}
    (account : Account fd acts) (fresh : Along Fresh (ledger acts) (events (receive descriptor))) :
    Account (readFileDescriptor descriptor) (acts ++ receive descriptor) := by
  cases descriptor with
  | none =>
    refine account_append account fresh trivial ?_ ?_ <;> exact fun valid => absurd rfl valid
  | some descriptor =>
    refine account_append account fresh ⟨trivial, trivial⟩ ?_ ?_
    · intro _
      rw [ledger_append]
      exact ⟨Int.natCast_nonneg descriptor, Finset.mem_insert_self _ _⟩
    · intro _
      rw [ledger_append]
      exact Finset.insert_nonempty _ _

/-- That is right only while `fd_` is free, and for a descriptor other than `0`. A descriptor
that was there is overwritten and never closed, and a `0` is taken for none when it is to be
closed. -/
theorem settled_receive {fd : Int} {acts : List Act} {descriptor : Option Nat}
    (account : Account fd acts) (fresh : Along Fresh (ledger acts) (events (receive descriptor))) :
    Settled (readFileDescriptor descriptor) (acts ++ receive descriptor) ↔
      Settled fd acts ∧ fd = invalidFd ∧ descriptor ≠ some 0 := by
  have free (nothing : (ledger acts).held = ∅) : fd = invalidFd := by
    by_contra valid
    exact (account.remains valid).ne_empty nothing
  rw [settled_append]
  cases descriptor with
  | none =>
    constructor
    · rintro ⟨nonzero, before, -, held⟩
      have isFree := free held
      subst isFree
      exact ⟨⟨nonzero, before, held⟩, rfl, by simp⟩
    · rintro ⟨settled, rfl, -⟩
      exact ⟨settled.nonzero, settled.touched, trivial, settled.held⟩
  | some descriptor =>
    have opened : ((ledger acts).enterAll (events (receive (some descriptor)))).held =
        insert (descriptor : Int) (ledger acts).held := rfl
    have notHeld : (descriptor : Int) ∉ (ledger acts).held := fresh.1
    rw [opened]
    constructor
    · rintro ⟨nonzero, before, -, held⟩
      have nothing : (ledger acts).held = ∅ := by
        apply Finset.eq_empty_of_forall_notMem
        intro other isHeld
        have among : other ∈ owned descriptor := held ▸ Finset.mem_insert_of_mem isHeld
        exact notHeld ((mem_owned.mp among).2 ▸ isHeld)
      have isFree := free nothing
      subst isFree
      refine ⟨⟨by decide, before, nothing⟩, rfl, ?_⟩
      rintro isZero
      cases isZero
      exact nonzero rfl
    · rintro ⟨settled, rfl, nonzero⟩
      have positive : 0 < (descriptor : Int) := by
        have : descriptor ≠ 0 := fun isZero => nonzero (isZero ▸ rfl)
        omega
      have nothing : (ledger acts).held = ∅ := settled.held
      refine ⟨ne_of_gt positive, settled.touched, ⟨trivial, trivial⟩, ?_⟩
      rw [nothing, readFileDescriptor, owned, if_pos positive]
      rfl

/-- An operation that overwrites `fd_` and uses the new descriptor. -/
theorem overwrites {fd : Int} {acts new rest : List Act} {descriptor : Option Nat}
    (account : Account fd acts) (fresh : Along Fresh (ledger acts) (events new))
    (same : events new = events (receive descriptor ++ rest))
    (uses : Uses {readFileDescriptor descriptor} (events rest))
    (nothing : readFileDescriptor descriptor = invalidFd → events rest = []) :
    Account (readFileDescriptor descriptor) (acts ++ new) ∧
      (Settled (readFileDescriptor descriptor) (acts ++ new) ↔
        Settled fd acts ∧ fd = invalidFd ∧ descriptor ≠ some 0) := by
  have whole : events (acts ++ new) = events (acts ++ receive descriptor ++ rest) := by
    rw [events_append, same, ← events_append, List.append_assoc]
  rw [same, events_append, along_append] at fresh
  obtain ⟨used, settled⟩ := uses_own (account_receive account fresh.1) uses nothing
  constructor
  · exact used.congr whole.symm
  · rw [settled_congr whole, settled, settled_receive account fresh.1]

/-! ## Closing -/

/-- To close a positive descriptor uses it twice, in `shutdown`, before it is closed. -/
theorem events_closeFd {fd : Int} (positive : 0 < fd) :
    events (closeFd fd) = [.used fd, .used fd, .closed fd] := by
  rw [closeFd, if_pos positive]
  rfl

/-- After a close the object has no descriptor and the account goes on. -/
theorem account_closeFd {fd : Int} {acts : List Act} (account : Account fd acts) :
    Account invalidFd (acts ++ closeFd fd) := by
  by_cases positive : 0 < fd
  · have valid : fd ≠ invalidFd := ne_of_gt (Int.lt_trans (by decide) positive)
    have seen : fd ∈ (ledger acts).seen := (account.descriptor valid).2
    refine account_append account ?_ ?_ (fun valid => absurd rfl valid) (fun valid => absurd rfl valid)
    · rw [events_closeFd positive]
      exact ⟨trivial, trivial, trivial, trivial⟩
    · rw [events_closeFd positive]
      exact ⟨seen, seen, seen, trivial⟩
  · refine account_append account ?_ ?_ (fun valid => absurd rfl valid) (fun valid => absurd rfl valid) <;>
      rw [closeFd, if_neg positive] <;> trivial

/-- Closing what is in `fd_` and forgetting it is right for every settled account. The converse
holds too, so the account before can be read off the account after. -/
theorem settled_closeFd {fd : Int} {acts : List Act} (account : Account fd acts) :
    Settled invalidFd (acts ++ closeFd fd) ↔ Settled fd acts := by
  rw [settled_append]
  by_cases positive : 0 < fd
  · rw [events_closeFd positive]
    constructor
    · rintro ⟨-, before, after, held⟩
      refine ⟨ne_of_gt positive, before, ?_⟩
      have isHeld : fd ∈ (ledger acts).held := after.1
      rw [owned, if_pos positive, ← Finset.insert_erase isHeld]
      exact congrArg (insert fd) held
    · intro settled
      have isHeld : fd ∈ (ledger acts).held := by
        rw [settled.held, mem_owned]
        exact ⟨positive, rfl⟩
      refine ⟨by decide, settled.touched, ⟨isHeld, isHeld, isHeld, trivial⟩, ?_⟩
      change (ledger acts).held.erase fd = ∅
      rw [settled.held, owned, if_pos positive, Finset.erase_singleton]
  · rw [closeFd, if_neg positive]
    constructor
    · rintro ⟨-, before, -, nothing⟩
      have isFree : fd = invalidFd := by
        by_contra valid
        exact (account.remains valid).ne_empty nothing
      subst isFree
      exact ⟨by decide, before, nothing⟩
    · intro settled
      have isFree : fd = invalidFd := by
        by_contra valid
        have isHeld := settled.mem account valid
        rw [settled.held, mem_owned] at isHeld
        exact positive isHeld.1
      subst isFree
      exact ⟨by decide, settled.touched, trivial, settled.held⟩

/-- A descriptor that is closed and stays in `fd_` cannot be settled any more. -/
theorem not_settled_close {fd : Int} {acts : List Act} (account : Account fd acts)
    (valid : fd ≠ invalidFd) : ¬ Settled fd (acts ++ [.close fd]) := by
  rw [settled_append]
  rintro ⟨nonzero, -, -, held⟩
  have positive : 0 < fd := by
    have nonnegative := (account.descriptor valid).1
    omega
  have stays : fd ∈ (ledger acts).held.erase fd := by
    change fd ∈ ((ledger acts).enterAll (events [.close fd])).held
    rw [held, mem_owned]
    exact ⟨positive, rfl⟩
  exact Finset.notMem_erase _ _ stays

/-- A descriptor may be closed without a change of `fd_` where another one is left open. The
account goes on, though it is not settled any more. -/
theorem account_close {fd other : Int} {acts : List Act} (account : Account fd acts)
    (valid : fd ≠ invalidFd) (isHeld : other ∈ (ledger acts).held) (distinct : other ≠ fd) :
    Account fd (acts ++ [.close fd]) := by
  refine account_append account ⟨trivial, trivial⟩ ⟨(account.descriptor valid).2, trivial⟩ ?_ ?_
  · rw [ledger_append]
    exact account.descriptor
  · intro _
    rw [ledger_append]
    exact ⟨other, Finset.mem_erase.mpr ⟨distinct, isHeld⟩⟩

/-! ## Messages with descriptors -/

/-- The descriptors of a message come in one after the other. -/
theorem events_receiveAll (rights : List Nat) :
    events (receiveAll rights) = (rights.map Int.ofNat).map .handed := by
  induction rights with
  | nil => rfl
  | cons fd rest inductionHypothesis =>
    exact congrArg (Event.handed (Int.ofNat fd) :: ·) inductionHypothesis

/-- Descriptors that come in with a message keep the account, for whatever was in `fd_` is still
there. -/
theorem account_receiveAll {fd : Int} {acts : List Act} {rights : List Nat}
    (account : Account fd acts) (fresh : Along Fresh (ledger acts) (events (receiveAll rights))) :
    Account fd (acts ++ receiveAll rights) := by
  refine account_append account fresh ?_ ?_ ?_
  · rw [events_receiveAll]
    exact along_handed (fun _ _ => trivial) _ _
  · intro valid
    rw [ledger_append, events_receiveAll, seen_enterAll_handed]
    exact ⟨(account.descriptor valid).1, Finset.mem_union_left _ (account.descriptor valid).2⟩
  · intro valid
    rw [ledger_append, events_receiveAll, held_enterAll_handed]
    exact (account.remains valid).mono Finset.subset_union_left

/-- Descriptors that come in beside the one in `fd_`, and stay, cannot be settled any more. -/
theorem not_settled_receiveAll {fd : Int} {acts : List Act} {rights : List Nat}
    (account : Account fd acts) (valid : fd ≠ invalidFd) (nonempty : rights ≠ [])
    (fresh : Along Fresh (ledger acts) (events (receiveAll rights))) :
    ¬ Settled fd (acts ++ receiveAll rights) := by
  rw [settled_append, events_receiveAll, held_enterAll_handed]
  rintro ⟨-, -, -, held⟩
  obtain ⟨first, rest, rfl⟩ := List.exists_cons_of_ne_nil nonempty
  obtain ⟨other, isHeld⟩ := account.remains valid
  have otherIs : other = fd := (mem_owned.mp (held ▸ Finset.mem_union_left _ isHeld)).2
  have firstIs : Int.ofNat first = fd :=
    (mem_owned.mp (held ▸ Finset.mem_union_right _ (by simp))).2
  have notHeld : Int.ofNat first ∉ (ledger acts).held := fresh.1
  rw [firstIs, ← otherIs] at notHeld
  exact notHeld isHeld

/-- A descriptor that comes in and is given up at once changes nothing. In between it may be
used, and so may the one in `fd_`. -/
theorem account_visit {fd visitor : Int} {acts new : List Act} {middle : List (Event Int)}
    {last : Event Int} (account : Account fd acts) (valid : fd ≠ invalidFd)
    (uses : Uses {visitor, fd} middle) (ends : last = .closed visitor ∨ last = .passed visitor)
    (visits : events new = .handed visitor :: (middle ++ [last]))
    (fresh : Along Fresh (ledger acts) (events new)) : Account fd (acts ++ new) := by
  have notHeld : visitor ∉ (ledger acts).held := by
    rw [visits] at fresh
    exact fresh.1
  have after : ledger (acts ++ new) = ⟨(ledger acts).held, insert visitor (ledger acts).seen⟩ := by
    rw [ledger_append, visits, enterAll_visit uses ends notHeld]
  have seen : fd ∈ insert visitor (ledger acts).seen :=
    Finset.mem_insert_of_mem (account.descriptor valid).2
  refine account_append account fresh ?_ ?_ ?_
  · rw [visits]
    apply along_visit uses trivial
    · intro other among
      rcases Finset.mem_insert.mp among with rfl | single
      · exact Finset.mem_insert_self _ _
      · exact Finset.mem_singleton.mp single ▸ seen
    · rcases ends with rfl | rfl <;> exact Finset.mem_insert_self _ _
  · rw [after]
    exact fun _ => ⟨(account.descriptor valid).1, seen⟩
  · rw [after]
    exact account.remains

/-- A descriptor that comes in, is used and goes out again leaves the account as settled as it
was. The uses in between may be of both. -/
theorem settled_visit {fd visitor : Int} {acts new : List Act} {middle : List (Event Int)}
    {last : Event Int} (account : Account fd acts) (valid : fd ≠ invalidFd)
    (uses : Uses {visitor, fd} middle) (ends : last = .closed visitor ∨ last = .passed visitor)
    (visits : events new = .handed visitor :: (middle ++ [last]))
    (fresh : Along Fresh (ledger acts) (events new)) :
      Settled fd (acts ++ new) ↔ Settled fd acts := by
  have notHeld : visitor ∉ (ledger acts).held := by
    rw [visits] at fresh
    exact fresh.1
  rw [settled_append, visits, enterAll_visit uses ends notHeld]
  constructor
  · rintro ⟨nonzero, before, -, held⟩
    exact ⟨nonzero, before, held⟩
  · intro settled
    refine ⟨settled.nonzero, settled.touched, ?_, settled.held⟩
    apply along_visit uses trivial
    · intro other among
      rcases Finset.mem_insert.mp among with rfl | single
      · exact Finset.mem_insert_self _ _
      · have isHeld := settled.mem account valid
        exact Finset.mem_singleton.mp single ▸ Finset.mem_insert_of_mem isHeld
    · rcases ends with rfl | rfl <;> exact Finset.mem_insert_self _ _

/-! ## Runs -/

/-- Let every step carry the account on and keep it settled exactly when it meets the guard.
Then a run that starts settled and ends without a descriptor has closed every descriptor
exactly once exactly when all its steps meet the guard. -/
theorem closedExactlyOnce_iff_meets {Life Call : Type} {step : Life → Call → Option Life}
    {fd : Life → Int} {acts : Life → List Act} {traced : Life → Prop} {guard : Life → Call → Prop}
    (account : ∀ life, traced life → Account (fd life) (acts life))
    (preserved : ∀ life call next, traced life → step life call = some next → traced next)
    (characterized : ∀ life call next, traced life → step life call = some next →
      (Settled (fd next) (acts next) ↔ Settled (fd life) (acts life) ∧ guard life call))
    {life last : Life} {calls : List Call} (start : traced life)
    (settled : Settled (fd life) (acts life))
    (reached : run step life calls = some last) (ended : fd last = invalidFd) :
    ClosedExactlyOnce (acts last) ↔ Meets step guard life calls := by
  have lastTraced : traced last := preserved_last preserved life last calls start reached
  have lastAccount : Account invalidFd (acts last) := ended ▸ account last lastTraced
  have settles := last_iff_meets preserved characterized life last calls start reached
  rw [closedExactlyOnce_iff lastAccount, ← ended, settles]
  exact and_iff_right settled

end BluetoothFramework.Socket
