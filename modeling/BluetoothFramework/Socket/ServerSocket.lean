import BluetoothFramework.Library.Hexadecimal
import BluetoothFramework.Socket.ClientSocket

/-!
# Server sockets

`Listen` asks the service for a descriptor and reads the channel from it. `Accept` waits
on it for a message that brings the descriptor of a connection, which goes to a new
`ClientSocket`.

A `Listen` that reaches the service forgets the descriptor in `fd_`, and one on a socket
that is listening already closes the descriptor of the reply and keeps its number. The
life of a server socket ends with everything closed exactly once when no `Listen` reaches
the service while `fd_` holds a descriptor, none is answered with descriptor `0`, and a
message to `Accept` brings at most one descriptor, again not `0`
(`ServerLife.conducts_step`).
-/

namespace BluetoothFramework.Socket

open Handles Ledger Runs

/-- `ServerSocket::impl`, less the observer. -/
structure ServerSocket where
  name : ByteString
  uuid : UUID := {}
  type : BtSocketType
  encrypt : Bool := false
  psm : Int32 := -1
  fd : Int := invalidFd
  socketStatus : SocketState := .socketInit
  acceptFd : Int := 0
  acceptAddress : ByteString := []
  socketChannel : Int32 := -1
  maxTxPacketSize : UInt32 := 0
  maxRxPacketSize : UInt32 := 0
deriving DecidableEq

/-- What a call of `Listen` meets. -/
structure ListenAnswers where
  btEnabled : Bool := true
  bleEnabled : Bool := true
  proxy : Bool := true
  errorCode : Int32 := btNoError
  descriptor : Option Nat
  channel : ChannelRead := {}
deriving DecidableEq, Repr

/-- A message that `recvmsg` returns, with the descriptors in its control data. -/
structure Message where
  rv : Int32 := socketRecvFdSignal
  rights : List Nat
  buffer : Vector UInt8 14 := Vector.replicate 14 0
deriving DecidableEq, Repr

/-- What a call of `Accept` meets: a message, unless `recvmsg` fails, and the address that
`GetRandomAddress` knows for the one in the message. -/
structure AcceptAnswers where
  message : Option Message
  randomAddr : Option ByteString := none
deriving DecidableEq, Repr

/-- `ADDR_OFFSET` -/
def addrOffset : Nat := 1

/-- `SOCKET_RECV_ADDR_SIZE` -/
def socketRecvAddrSize : Nat := 6

/-- The address in a message as text, last byte first. -/
def addressText (buf : List UInt8) : ByteString :=
  List.intercalate [0x3A] (buf.reverse.map fun byte => Hexadecimal.encode [byte])

namespace ServerSocket

/-- `RecvSocketPsmOrScn` -/
def recvSocketPsmOrScn (server : ServerSocket) (read : ChannelRead) : Outcome ServerSocket Bool :=
  if read.recvBufSize ≠ socketRecvChannelSize then ⟨server, false, [.recv server.fd]⟩
  else if ¬ 0 < read.channel then ⟨server, false, [.recv server.fd]⟩
  else ⟨{ server with socketChannel := read.channel }, true, [.recv server.fd]⟩

/-- `Listen`, once the remote call has returned. -/
def establish (server : ServerSocket) (errorCode : Int32) (channelRead : ChannelRead) :
    Outcome ServerSocket Int32 :=
  if errorCode ≠ btNoError then ⟨{ server with socketStatus := .socketClosed }, errorCode, []⟩
  else if server.fd = invalidFd then
    ⟨{ server with socketStatus := .socketClosed }, btErrInvalidState, []⟩
  else
    let channel := server.recvSocketPsmOrScn channelRead
    if ¬ channel.result then ⟨channel.object, btErrInvalidState, channel.acts⟩
    else if channel.object.socketStatus = .socketInit then
      ⟨{ channel.object with socketStatus := .socketListening }, btNoError, channel.acts⟩
    else
      -- The descriptor is closed here and stays in `fd_`.
      ⟨{ channel.object with socketStatus := .socketClosed }, btErrInvalidState,
        channel.acts ++ [.close channel.object.fd]⟩

/-- The descriptor in the reply to `Listen`: the proxy starts from `BT_INVALID_SOCKET_FD`
and reads one only if the service reports no error. -/
def replied (answers : ListenAnswers) : Option Nat :=
  if answers.errorCode = btNoError then answers.descriptor else none

/-- `ServerSocket::impl::Listen` -/
def listen (server : ServerSocket) (answers : ListenAnswers) : Outcome ServerSocket Int32 :=
  if ¬ ClientSocket.enabled server.type answers.btEnabled answers.bleEnabled then
    ⟨server, btErrInvalidState, []⟩
  else if ¬ answers.proxy then
    ⟨{ server with socketStatus := .socketClosed }, btErrServiceDisconnected, []⟩
  else if server.socketStatus = .socketClosed then ⟨server, btErrInvalidState, []⟩
  else
    let request := Act.listen ⟨server.name, ClientSocket.sentUuid server.uuid,
      getSecurityFlags server.encrypt, server.type.toInt32, server.psm⟩
    let outcome := { server with fd := readFileDescriptor (replied answers) }.establish
      answers.errorCode answers.channel
    { outcome with acts := [request] ++ receive (replied answers) ++ outcome.acts }

/-- `RecvSocketFd` -/
def recvSocketFd (server : ServerSocket) (answers : AcceptAnswers) : Outcome ServerSocket Int :=
  match answers.message with
  | none => ⟨server, btFailure.toInt, [.recvmsg server.fd]⟩
  | some message =>
      match message.rights with
      | [clientFd] =>
          if message.rv ≠ socketRecvFdSignal then
            ⟨server, invalidFd, [.recvmsg server.fd] ++ receiveAll [clientFd] ++ closeFd clientFd⟩
          else
            let recvBuf := message.buffer.toList.take message.rv.toInt.toNat
            let token := addressText ((recvBuf.drop addrOffset).take socketRecvAddrSize)
            ⟨{ server with
                acceptAddress := answers.randomAddr.getD token
                maxTxPacketSize := getPacketSizeFromBuf (recvBuf.drop txOffset)
                maxRxPacketSize := getPacketSizeFromBuf (recvBuf.drop rxOffset) },
              clientFd, [.recvmsg server.fd] ++ receiveAll [clientFd] ++ [.getRandomAddress token]⟩
      -- The control data is missing, or not that of one descriptor.
      | rights => ⟨server, btFailure.toInt, [.recvmsg server.fd] ++ receiveAll rights⟩

/-- The two calls by which `Accept` sets, and takes back, its timeout. -/
def setTimeout (server : ServerSocket) (timeout : Int32) : List Act :=
  if 0 < timeout then [.setsockopt server.fd, .setsockopt server.fd] else []

/-- `ServerSocket::impl::Accept` -/
def accept (server : ServerSocket) (timeout : Int32) (answers : AcceptAnswers) :
    Outcome ServerSocket (Option ClientSocket) :=
  if server.socketStatus ≠ .socketListening then ⟨server, none, []⟩
  else
    let received := server.recvSocketFd answers
    let accepting := { received.object with acceptFd := received.result }
    if accepting.acceptFd ≤ 0 then ⟨accepting, none, server.setTimeout timeout ++ received.acts⟩
    else
      let clientSocket := { ClientSocket.accepted accepting.acceptFd accepting.acceptAddress accepting.type with
        maxTxPacketSize := accepting.maxTxPacketSize
        maxRxPacketSize := accepting.maxRxPacketSize }
      ⟨accepting, some clientSocket, server.setTimeout timeout ++ received.acts ++
        server.setTimeout timeout ++ [.clientSocket accepting.acceptFd]⟩

/-- `ServerSocket::impl::Close`, with whether there is a proxy. -/
def close (server : ServerSocket) (proxy : Bool) : Outcome ServerSocket Unit :=
  if server.socketStatus = .socketClosed then ⟨server, (), []⟩
  else
    let closed := { server with socketStatus := .socketClosed }
    if 0 < server.fd then
      ⟨{ closed with fd := invalidFd }, (),
        closeFd server.fd ++ if proxy then [.deregisterServerObserver] else []⟩
    else ⟨closed, (), []⟩

/-- `ServerSocket::impl::~impl` -/
def destroy (server : ServerSocket) : List Act :=
  closeFd server.fd

end ServerSocket

/-! ## Its life -/

/-- A server socket until it is destroyed, and what has been done. -/
structure ServerLife where
  server : Option ServerSocket
  acts : List Act := []
deriving DecidableEq

/-- A call on a server socket. -/
inductive ServerCall where
  | listen (answers : ListenAnswers)
  | accept (timeout : Int32) (answers : AcceptAnswers)
  | close (proxy : Bool)
  | destroy

namespace ServerLife

/-- A new server socket. -/
def opened (name : ByteString) (uuid : UUID) (type : BtSocketType) (encrypt : Bool) (psm : Int32) :
    ServerLife where
  server := some { name := name, uuid := uuid, type := type, encrypt := encrypt, psm := psm }

/-- The acts of a call are done. A descriptor that comes in is one that is not open. -/
def doing (life : ServerLife) (acts : List Act) : Option ServerLife :=
  if Along Fresh (ledger life.acts) (events acts) then some { life with acts := life.acts ++ acts }
  else none

/-- One call, while the socket is there. -/
def step (life : ServerLife) (call : ServerCall) : Option ServerLife :=
  match life.server with
  | none => none
  | some server =>
      match call with
      | .listen answers =>
          let outcome := server.listen answers
          { life with server := some outcome.object }.doing outcome.acts
      | .accept timeout answers =>
          let outcome := server.accept timeout answers
          { life with server := some outcome.object }.doing outcome.acts
      | .close proxy =>
          let outcome := server.close proxy
          { life with server := some outcome.object }.doing outcome.acts
      | .destroy => { life with server := none }.doing server.destroy

/-- `fd_`; a socket that is destroyed has none. -/
def fd (life : ServerLife) : Int :=
  match life.server with
  | some server => server.fd
  | none => invalidFd

end ServerLife

/-! ## What the operations do -/

/-- `Listen` reaches the service. -/
structure ServerSocket.Asks (server : ServerSocket) (answers : ListenAnswers) : Prop where
  enabled : ClientSocket.enabled server.type answers.btEnabled answers.bleEnabled = true
  proxy : answers.proxy = true
  notClosed : server.socketStatus ≠ .socketClosed

/-- The descriptors that the message brings. -/
def AcceptAnswers.rights (answers : AcceptAnswers) : List Nat :=
  match answers.message with
  | none => []
  | some message => message.rights

namespace ServerSocket

/-- A socket without a descriptor has not got to listening, or has been closed. -/
def Idle (server : ServerSocket) : Prop :=
  server.fd = invalidFd → server.socketStatus = .socketInit ∨ server.socketStatus = .socketClosed

/-- What `Listen` does with the descriptor it was given, where it does not close it. -/
structure Establishes (fd : Int) (outcome : Outcome ServerSocket Int32) : Prop where
  keeps : outcome.object.fd = fd
  idle : outcome.object.Idle
  uses : Uses {fd} (events outcome.acts)
  nothing : fd = invalidFd → events outcome.acts = []

/-- To receive the channel reads from the descriptor and leaves the descriptor and the status as
they are. -/
theorem recvSocketPsmOrScn_acts (server : ServerSocket) (read : ChannelRead) :
    (server.recvSocketPsmOrScn read).object.fd = server.fd ∧
      (server.recvSocketPsmOrScn read).object.socketStatus = server.socketStatus ∧
        (server.recvSocketPsmOrScn read).acts = [.recv server.fd] := by
  rw [recvSocketPsmOrScn]
  split
  · exact ⟨rfl, rfl, rfl⟩
  · split <;> exact ⟨rfl, rfl, rfl⟩

/-- Only a socket that is past its first `Listen` closes the descriptor and keeps its number.
Otherwise it uses its descriptor and no other, like a client that connects. -/
theorem establish_cases (server : ServerSocket) (errorCode : Int32) (channelRead : ChannelRead) :
    Establishes server.fd (server.establish errorCode channelRead) ∨
      server.socketStatus ≠ .socketInit ∧ server.fd ≠ invalidFd ∧
        (server.establish errorCode channelRead).object.fd = server.fd ∧
          (server.establish errorCode channelRead).acts = [.recv server.fd, .close server.fd] := by
  obtain ⟨channelFd, channelStatus, channelActs⟩ := server.recvSocketPsmOrScn_acts channelRead
  have once : Uses {server.fd} (events [.recv server.fd]) := by simp [Uses, events, Act.event]
  have quiet : Uses {server.fd} (events []) := by
    intro event among
    cases among
  rw [establish]
  split
  · exact .inl ⟨rfl, fun _ => .inr rfl, quiet, fun _ => rfl⟩
  split
  · exact .inl ⟨rfl, fun _ => .inr rfl, quiet, fun _ => rfl⟩
  rename_i valid
  simp only [channelFd, channelStatus, channelActs]
  split
  · refine .inl ⟨channelFd, fun invalid => ?_, once, fun invalid => absurd invalid valid⟩
    exact absurd (channelFd ▸ invalid) valid
  split
  · exact .inl ⟨rfl, fun invalid => absurd invalid valid, once, fun invalid => absurd invalid valid⟩
  · rename_i begun
    exact .inr ⟨begun, valid, rfl, rfl⟩

/-- A `Listen` that does not reach the service does nothing to a descriptor. -/
theorem listen_unasked {server : ServerSocket} {answers : ListenAnswers}
    (unasked : ¬ server.Asks answers) (idle : server.Idle) :
    (server.listen answers).object.fd = server.fd ∧ (server.listen answers).object.Idle ∧
      events (server.listen answers).acts = [] := by
  rw [listen]
  split
  · exact ⟨rfl, idle, rfl⟩
  split
  · exact ⟨rfl, fun _ => .inr rfl, rfl⟩
  split
  · exact ⟨rfl, idle, rfl⟩
  · rename_i isEnabled hasProxy isOpen
    exact absurd ⟨not_not.mp isEnabled, not_not.mp hasProxy, isOpen⟩ unasked

/-- A `Listen` that reaches the service overwrites `fd_`. -/
theorem listen_asked {server : ServerSocket} {answers : ListenAnswers}
    (asks : server.Asks answers) :
    ∃ outcome, outcome = { server with fd := readFileDescriptor (replied answers) }.establish
        answers.errorCode answers.channel ∧
      (server.listen answers).object = outcome.object ∧
        events (server.listen answers).acts = events (receive (replied answers) ++ outcome.acts) := by
  obtain ⟨enabled, proxy, notClosed⟩ := asks
  refine ⟨_, rfl, ?_⟩
  simp only [listen, enabled, proxy, notClosed, not_true_eq_false, if_false]
  exact ⟨trivial, rfl⟩

/-- What `Accept` does to descriptors: it waits on its own, and then one comes in and is given
up again, or some come in and stay. -/
inductive Accepts (fd : Int) (rights : List Nat) (done : List (Event Int)) : Prop
  | alone (nothing : rights = []) (uses : Uses {fd} done)
  | visit (before after : List Act) (middle : List (Event Int)) (last : Event Int) (visitor : Nat)
      (one : rights = [visitor]) (nonzero : visitor ≠ 0) (waits : Uses {fd} (events before))
      (uses : Uses {(visitor : Int), fd} middle)
      (ends : last = .closed (visitor : Int) ∨ last = .passed (visitor : Int))
      (visits : events after = .handed (visitor : Int) :: (middle ++ [last]))
      (whole : done = events (before ++ after))
  | stay (before : List Act) (brought : rights ≠ []) (wrong : ∀ fd, rights = [fd] → fd = 0)
      (waits : Uses {fd} (events before)) (whole : done = events (before ++ receiveAll rights))

/-- To set the time uses the descriptor of the server only. -/
theorem setTimeout_uses (server : ServerSocket) (timeout : Int32) :
    Uses {server.fd} (events (server.setTimeout timeout)) := by
  rw [setTimeout]
  split <;> simp [Uses, events, Act.event]

/-- `RecvSocketFd` reports no descriptor, or the one of a message that brings just one. A message
with several is refused, and the descriptors it brought are left open. -/
theorem recvSocketFd_cases (server : ServerSocket) (answers : AcceptAnswers) :
    (server.recvSocketFd answers).object.fd = server.fd ∧
      (server.recvSocketFd answers).object.socketStatus = server.socketStatus ∧
        ((server.recvSocketFd answers).result ≤ 0 ∧
            Accepts server.fd answers.rights (events (server.recvSocketFd answers).acts) ∨
          ∃ clientFd : Nat, 0 < clientFd ∧ answers.rights = [clientFd] ∧
            (server.recvSocketFd answers).result = clientFd ∧
              events (server.recvSocketFd answers).acts =
                [.used server.fd, .handed (clientFd : Int)]) := by
  have waits : Uses {server.fd} (events [.recvmsg server.fd]) := by simp [Uses, events, Act.event]
  have failure : btFailure.toInt ≤ 0 := by decide
  have invalid : invalidFd ≤ 0 := by decide
  rw [recvSocketFd, AcceptAnswers.rights]
  cases answers.message with
  | none => exact ⟨rfl, rfl, .inl ⟨failure, .alone rfl waits⟩⟩
  | some message =>
    simp only []
    rcases message.rights with _ | ⟨clientFd, _ | ⟨second, rest⟩⟩
    · exact ⟨rfl, rfl, .inl ⟨failure, .alone rfl waits⟩⟩
    · simp only []
      by_cases isZero : clientFd = 0
      · subst isZero
        have stays : Accepts server.fd [0] (events ([.recvmsg server.fd] ++ receiveAll [0])) :=
          .stay _ (by simp) (by simp) waits rfl
        split
        · exact ⟨rfl, rfl, .inl ⟨invalid, stays⟩⟩
        · exact ⟨rfl, rfl, .inl ⟨by simp, stays⟩⟩
      · have positive : 0 < (clientFd : Int) := by omega
        split
        · refine ⟨rfl, rfl, .inl ⟨invalid, ?_⟩⟩
          refine .visit [.recvmsg server.fd] (receiveAll [clientFd] ++ closeFd clientFd)
            [.used clientFd, .used clientFd] (.closed clientFd) clientFd rfl isZero waits (by simp [Uses])
            (.inl rfl) ?_ rfl
          rw [events_append, events_closeFd positive]
          rfl
        · exact ⟨rfl, rfl, .inr ⟨clientFd, by omega, rfl, rfl, rfl⟩⟩
    · refine ⟨rfl, rfl, .inl ⟨failure, ?_⟩⟩
      exact .stay [.recvmsg server.fd] (by simp) (by simp) waits rfl

/-- The timeout calls before the message are further uses of the own descriptor, so they may be
added in front. -/
theorem Accepts.after {fd : Int} {rights : List Nat} {first second : List Act}
    (accepts : Accepts fd rights (events second)) (uses : Uses {fd} (events first)) :
    Accepts fd rights (events (first ++ second)) := by
  have both {before : List Act} (waits : Uses {fd} (events before)) :
      Uses {fd} (events (first ++ before)) := by
    intro event among
    rw [events_append] at among
    exact (List.mem_append.mp among).elim (uses event) (waits event)
  cases accepts with
  | alone nothing waits => exact .alone nothing (both waits)
  | visit before after middle last visitor one nonzero waits within ends visits whole =>
    refine .visit (first ++ before) after middle last visitor one nonzero (both waits) within ends visits ?_
    rw [events_append, whole, ← events_append, List.append_assoc]
  | stay before brought wrong waits whole =>
    refine .stay (first ++ before) brought wrong (both waits) ?_
    rw [events_append, whole, ← events_append, List.append_assoc]

/-- A socket that does not listen accepts nothing. -/
theorem accept_refused {server : ServerSocket} (timeout : Int32) (answers : AcceptAnswers)
    (refused : server.socketStatus ≠ .socketListening) :
    server.accept timeout answers = ⟨server, none, []⟩ := by
  rw [accept, if_pos refused]

/-- To accept a connection uses the descriptor of the server, and passes on or closes each
descriptor that comes in. The server itself does not change. -/
theorem accept_accepts {server : ServerSocket} (timeout : Int32) (answers : AcceptAnswers)
    (listening : server.socketStatus = .socketListening) :
    (server.accept timeout answers).object.fd = server.fd ∧
      (server.accept timeout answers).object.socketStatus = server.socketStatus ∧
        Accepts server.fd answers.rights (events (server.accept timeout answers).acts) := by
  obtain ⟨sameFd, sameStatus, received⟩ := server.recvSocketFd_cases answers
  have timed := server.setTimeout_uses timeout
  have notRefused : ¬ server.socketStatus ≠ .socketListening := not_not.mpr listening
  rw [accept, if_neg notRefused]
  rcases received with ⟨nothing, accepts⟩ | ⟨clientFd, positive, one, result, acts⟩
  · simp only [if_pos nothing]
    exact ⟨sameFd, sameStatus, accepts.after timed⟩
  · have something : ¬ (server.recvSocketFd answers).result ≤ 0 := by omega
    simp only [if_neg something]
    refine ⟨sameFd, sameStatus, ?_⟩
    refine .visit (server.setTimeout timeout ++ [.recvmsg server.fd])
      ([.received clientFd] ++ server.setTimeout timeout ++ [.clientSocket clientFd])
      (events (server.setTimeout timeout)) (.passed clientFd) clientFd one (by omega) ?_ ?_ (.inr rfl) ?_ ?_
    · intro event among
      rw [events_append] at among
      rcases List.mem_append.mp among with isTimed | waits
      · exact timed event isTimed
      · exact ⟨server.fd, Finset.mem_singleton_self _, List.mem_singleton.mp waits⟩
    · intro event among
      obtain ⟨handle, single, used⟩ := timed event among
      exact ⟨handle, Finset.mem_insert_of_mem single, used⟩
    · simp [events, Act.event]
    · simp only [events_append, acts, result, List.append_assoc]
      simp [events, Act.event]

/-- The socket that `Accept` returns holds the descriptor that the server socket passes on. With
it the life of the new socket begins, and the account of the server ends for it. -/
theorem accept_passes {server : ServerSocket} {timeout : Int32} {answers : AcceptAnswers}
    {clientSocket : ClientSocket}
    (accepted : (server.accept timeout answers).result = some clientSocket) :
    ∃ life : ClientLife, life.Born ∧ life.socket = some clientSocket ∧
      .passed clientSocket.fd ∈ events (server.accept timeout answers).acts := by
  obtain ⟨-, -, received⟩ := server.recvSocketFd_cases answers
  rw [accept] at accepted ⊢
  split at accepted
  · cases accepted
  rcases received with ⟨nothing, -⟩ | ⟨clientFd, positive, -, result, -⟩
  · simp only [if_pos nothing] at accepted
    cases accepted
  · have something : ¬ (server.recvSocketFd answers).result ≤ 0 := by omega
    simp only [if_neg something] at accepted ⊢
    cases accepted
    rename_i listening
    rw [if_neg listening, result]
    refine ⟨_, .accepted clientFd positive _ _ _ _, rfl, ?_⟩
    simp [events, Act.event, ClientSocket.accepted]

end ServerSocket

/-! ## A whole life -/

namespace ServerLife

/-- Descriptors come in from `Listen` while `fd_` is free, from `Accept` one by one, and none
of them is `0`. -/
def KeepsDescriptor (life : ServerLife) : ServerCall → Prop
  | .listen answers =>
      ∀ server ∈ life.server, server.Asks answers →
        server.fd = invalidFd ∧ ServerSocket.replied answers ≠ some 0
  | .accept _ answers =>
      ∀ server ∈ life.server, server.socketStatus = .socketListening →
        answers.rights = [] ∨ ∃ fd, fd ≠ 0 ∧ answers.rights = [fd]
  | .close _ => True
  | .destroy => True

/-- What every life keeps to. -/
structure Traced (life : ServerLife) : Prop where
  account : Account life.fd life.acts
  idle : ∀ server ∈ life.server, server.Idle

/-- What a call amounts to: the account goes on, and is settled afterwards exactly when it
was settled before and the call kept the descriptor. -/
structure Conducts (life : ServerLife) (call : ServerCall) (next : ServerLife) : Prop where
  traced : next.Traced
  settled : Settled next.fd next.acts ↔ Settled life.fd life.acts ∧ life.KeepsDescriptor call

/-- A call is taken exactly if the system hands out only new descriptors in it. Then its acts
are entered and nothing else changes. -/
theorem doing_eq_some {life next : ServerLife} {acts : List Act}
    (done : life.doing acts = some next) :
    Along Fresh (ledger life.acts) (events acts) ∧
      next = { life with acts := life.acts ++ acts } := by
  rw [doing] at done
  split at done
  · rename_i fresh
    exact ⟨fresh, (Option.some.inj done).symm⟩
  · cases done

/-- The descriptor of a life is that of its server while there is one. -/
theorem fd_alive {life : ServerLife} {server : ServerSocket} (alive : life.server = some server) :
    life.fd = server.fd := by
  rw [fd, alive]

/-- A life with a server is traced if the account of its descriptor goes on. Without a server
nothing is left to account for. -/
theorem traced_alive {life : ServerLife} {server : ServerSocket} (alive : life.server = some server)
    (account : Account server.fd life.acts) (idle : server.Idle) : life.Traced := by
  refine ⟨fd_alive alive ▸ account, ?_⟩
  intro other isServer
  rw [alive] at isServer
  cases isServer
  exact idle

/-- A second `Listen` closes the descriptor of the reply and leaves the first one open. The
account goes on, but can no longer be settled by any later call. -/
theorem listen_again {fd : Int} {acts : List Act} {descriptor : Option Nat}
    (account : Account fd acts)
    (valid : fd ≠ invalidFd) (fresh : Along Fresh (ledger acts) (events (receive descriptor)))
    (given : readFileDescriptor descriptor ≠ invalidFd) :
    Account (readFileDescriptor descriptor) (acts ++ receive descriptor ++
        [.recv (readFileDescriptor descriptor), .close (readFileDescriptor descriptor)]) ∧
      ¬ Settled (readFileDescriptor descriptor) (acts ++ receive descriptor ++
        [.recv (readFileDescriptor descriptor), .close (readFileDescriptor descriptor)]) := by
  obtain ⟨other, isHeld⟩ := account.remains valid
  have reads : Uses {readFileDescriptor descriptor} (events [.recv (readFileDescriptor descriptor)]) := by
    simp [Uses, events, Act.event]
  have used := (uses_own (account_receive account fresh) reads fun invalid => absurd invalid given).1
  have split : acts ++ receive descriptor ++
      [.recv (readFileDescriptor descriptor), .close (readFileDescriptor descriptor)] =
        acts ++ receive descriptor ++ [.recv (readFileDescriptor descriptor)] ++
          [.close (readFileDescriptor descriptor)] := by simp
  rw [split]
  refine ⟨?_, not_settled_close used given⟩
  cases descriptor with
  | none => exact absurd rfl given
  | some descriptor =>
    have stays : other ∈ (ledger (acts ++ receive (some descriptor) ++
        [.recv (readFileDescriptor (some descriptor))])).held := by
      rw [ledger_append, ledger_append]
      exact Finset.mem_insert_of_mem isHeld
    exact account_close used given stays (ne_of_mem_of_not_mem isHeld fresh.1)

/-- To listen keeps the account. It stays settled unless `fd_` was taken or the answer is the
descriptor `0`. -/
theorem conducts_listen {life next : ServerLife} {server : ServerSocket} {answers : ListenAnswers}
    (traced : life.Traced) (alive : life.server = some server)
    (enabled : life.step (.listen answers) = some next) : Conducts life (.listen answers) next := by
  have account : Account server.fd life.acts := fd_alive alive ▸ traced.account
  have idle : server.Idle := traced.idle server alive
  have keeps : life.KeepsDescriptor (.listen answers) ↔
      (server.Asks answers → server.fd = invalidFd ∧ ServerSocket.replied answers ≠ some 0) := by
    simp only [KeepsDescriptor, alive, Option.mem_some_iff, forall_eq']
  simp only [step, alive] at enabled
  obtain ⟨fresh, rfl⟩ := doing_eq_some enabled
  by_cases asks : server.Asks answers
  · obtain ⟨outcome, established, object, same⟩ := ServerSocket.listen_asked asks
    have cases := ServerSocket.establish_cases
      { server with fd := readFileDescriptor (ServerSocket.replied answers) } answers.errorCode answers.channel
    rw [← established] at cases
    rcases cases with establishes | ⟨begun, given, keepsFd, acts⟩
    · obtain ⟨overwritten, settled⟩ := overwrites account fresh same establishes.uses establishes.nothing
      constructor
      · apply traced_alive rfl
        · rw [object, establishes.keeps]
          exact overwritten
        · rw [object]
          exact establishes.idle
      · change Settled (server.listen answers).object.fd _ ↔ _
        rw [object, establishes.keeps, settled, fd_alive alive, keeps]
        exact and_congr_right fun _ => ⟨fun kept _ => kept, fun kept => kept asks⟩
    · have valid : server.fd ≠ invalidFd := by
        intro invalid
        rcases idle invalid with isInit | isClosed
        · exact begun isInit
        · exact asks.notClosed isClosed
      have sameEvents : events (life.acts ++ (server.listen answers).acts) =
          events (life.acts ++ receive (ServerSocket.replied answers) ++ outcome.acts) := by
        rw [events_append, same, ← events_append, List.append_assoc]
      rw [same, events_append, along_append] at fresh
      obtain ⟨after, unsettled⟩ := listen_again account valid fresh.1 given
      rw [acts] at sameEvents
      constructor
      · apply traced_alive rfl
        · rw [object, keepsFd]
          exact after.congr sameEvents.symm
        · intro invalid
          rw [object, keepsFd] at invalid
          exact absurd invalid given
      · change Settled (server.listen answers).object.fd _ ↔ _
        rw [object, keepsFd, settled_congr sameEvents, keeps]
        exact iff_of_false unsettled fun kept => valid (kept.2 asks).1
  · obtain ⟨sameFd, sameIdle, nothing⟩ := ServerSocket.listen_unasked asks idle
    have sameEvents : events (life.acts ++ (server.listen answers).acts) = events life.acts :=
      silent nothing
    constructor
    · apply traced_alive rfl _ sameIdle
      rw [sameFd]
      exact account.congr sameEvents.symm
    · change Settled (server.listen answers).object.fd _ ↔ _
      rw [sameFd, settled_congr sameEvents, fd_alive alive, keeps]
      exact (and_iff_left fun asked => absurd asked asks).symm

/-- What `Accept` makes of an account. It goes on in any case, and stays settled exactly if the
message brought nothing or one descriptor other than `0`. -/
theorem account_accepts {fd : Int} {rights : List Nat} {acts new : List Act}
    (account : Account fd acts)
    (valid : fd ≠ invalidFd) (accepts : ServerSocket.Accepts fd rights (events new))
    (fresh : Along Fresh (ledger acts) (events new)) :
    Account fd (acts ++ new) ∧
      (Settled fd (acts ++ new) ↔
        Settled fd acts ∧ (rights = [] ∨ ∃ fd, fd ≠ 0 ∧ rights = [fd])) := by
  cases accepts with
  | alone nothing uses =>
    obtain ⟨after, settled⟩ := uses_own account uses fun invalid => absurd invalid valid
    exact ⟨after, settled.trans (and_iff_left (.inl nothing)).symm⟩
  | visit before visiting middle last visitor one nonzero waits uses ends visits whole =>
    have same : events (acts ++ new) = events (acts ++ before ++ visiting) := by
      rw [events_append, whole, ← events_append, List.append_assoc]
    obtain ⟨waited, settled⟩ := uses_own account waits fun invalid => absurd invalid valid
    have comesIn : Along Fresh (ledger (acts ++ before)) (events visiting) := by
      rw [whole, events_append, along_append] at fresh
      rw [ledger_append]
      exact fresh.2
    constructor
    · exact (account_visit waited valid uses ends visits comesIn).congr same.symm
    · rw [settled_congr same, settled_visit waited valid uses ends visits comesIn, settled]
      exact (and_iff_left (.inr ⟨visitor, nonzero, one⟩)).symm
  | stay before brought wrong waits whole =>
    have same : events (acts ++ new) = events (acts ++ before ++ receiveAll rights) := by
      rw [events_append, whole, ← events_append, List.append_assoc]
    obtain ⟨waited, -⟩ := uses_own account waits fun invalid => absurd invalid valid
    have comeIn : Along Fresh (ledger (acts ++ before)) (events (receiveAll rights)) := by
      rw [whole, events_append, along_append] at fresh
      rw [ledger_append]
      exact fresh.2
    constructor
    · exact (account_receiveAll waited comeIn).congr same.symm
    · rw [settled_congr same]
      refine iff_of_false (not_settled_receiveAll waited valid brought comeIn) ?_
      rintro ⟨-, nothing | ⟨visitor, nonzero, one⟩⟩
      · exact brought nothing
      · exact nonzero (wrong visitor one)

/-- To accept keeps the account. It stays settled unless the message brings a descriptor `0` or
more descriptors than one, which nobody closes. -/
theorem conducts_accept {life next : ServerLife} {server : ServerSocket} {timeout : Int32}
    {answers : AcceptAnswers} (traced : life.Traced) (alive : life.server = some server)
    (enabled : life.step (.accept timeout answers) = some next) :
    Conducts life (.accept timeout answers) next := by
  have account : Account server.fd life.acts := fd_alive alive ▸ traced.account
  have idle : server.Idle := traced.idle server alive
  have keeps : life.KeepsDescriptor (.accept timeout answers) ↔
      (server.socketStatus = .socketListening →
        answers.rights = [] ∨ ∃ fd, fd ≠ 0 ∧ answers.rights = [fd]) := by
    simp only [KeepsDescriptor, alive, Option.mem_some_iff, forall_eq']
  simp only [step, alive] at enabled
  obtain ⟨fresh, rfl⟩ := doing_eq_some enabled
  by_cases listening : server.socketStatus = .socketListening
  · have valid : server.fd ≠ invalidFd := by
      intro invalid
      have status := idle invalid
      simp [listening] at status
    obtain ⟨sameFd, sameStatus, accepts⟩ := ServerSocket.accept_accepts timeout answers listening
    obtain ⟨after, settled⟩ := account_accepts account valid accepts fresh
    constructor
    · apply traced_alive rfl
      · rw [sameFd]
        exact after
      · intro invalid
        rw [sameFd] at invalid
        exact absurd invalid valid
    · change Settled (server.accept timeout answers).object.fd _ ↔ _
      rw [sameFd, settled, fd_alive alive, keeps]
      exact and_congr_right fun _ => ⟨fun kept _ => kept, fun kept => kept listening⟩
  · have refused := ServerSocket.accept_refused timeout answers listening
    have sameEvents : events (life.acts ++ (server.accept timeout answers).acts) = events life.acts := by
      rw [refused]
      exact silent rfl
    constructor
    · apply traced_alive rfl
      · rw [refused]
        exact account.congr (silent rfl).symm
      · rw [refused]
        exact idle
    · change Settled (server.accept timeout answers).object.fd _ ↔ _
      rw [settled_congr sameEvents, refused, fd_alive alive, keeps]
      exact (and_iff_left fun listens => absurd listens listening).symm

/-- `Close` closes and forgets the descriptor in `fd_`, or does nothing to it. -/
theorem close_cases (server : ServerSocket) (proxy : Bool) :
    ((server.close proxy).object.fd = invalidFd ∧ (server.close proxy).object.Idle ∧
        events (server.close proxy).acts = events (closeFd server.fd)) ∨
      ((server.close proxy).object.fd = server.fd ∧ (server.Idle → (server.close proxy).object.Idle) ∧
        events (server.close proxy).acts = []) := by
  rw [ServerSocket.close]
  split
  · exact .inr ⟨rfl, id, rfl⟩
  split
  · refine .inl ⟨rfl, fun _ => .inr rfl, ?_⟩
    cases proxy with
    | false => exact silent rfl
    | true => exact silent rfl
  · exact .inr ⟨rfl, fun _ _ => .inr rfl, rfl⟩

/-- To close keeps the account, and closes what is in `fd_`. A server that never got a descriptor
closes nothing. -/
theorem conducts_close {life next : ServerLife} {server : ServerSocket} {proxy : Bool}
    (traced : life.Traced) (alive : life.server = some server)
    (enabled : life.step (.close proxy) = some next) : Conducts life (.close proxy) next := by
  have account : Account server.fd life.acts := fd_alive alive ▸ traced.account
  simp only [step, alive] at enabled
  obtain ⟨-, rfl⟩ := doing_eq_some enabled
  rcases close_cases server proxy with ⟨forgotten, idle, closed⟩ | ⟨kept, idle, nothing⟩
  · have same : events (life.acts ++ (server.close proxy).acts) =
        events (life.acts ++ closeFd server.fd) := by
      rw [events_append, events_append, closed]
    constructor
    · apply traced_alive rfl _ idle
      rw [forgotten]
      exact (account_closeFd account).congr same.symm
    · change Settled (server.close proxy).object.fd _ ↔ _
      rw [forgotten, settled_congr same, settled_closeFd account, fd_alive alive]
      exact (and_iff_left trivial).symm
  · have same : events (life.acts ++ (server.close proxy).acts) = events life.acts := silent nothing
    constructor
    · apply traced_alive rfl _ (idle (traced.idle server alive))
      rw [kept]
      exact account.congr same.symm
    · change Settled (server.close proxy).object.fd _ ↔ _
      rw [kept, settled_congr same, fd_alive alive]
      exact (and_iff_left trivial).symm

/-- The destructor keeps the account. -/
theorem conducts_destroy {life next : ServerLife} {server : ServerSocket} (traced : life.Traced)
    (alive : life.server = some server) (enabled : life.step .destroy = some next) :
    Conducts life .destroy next := by
  have account : Account server.fd life.acts := fd_alive alive ▸ traced.account
  simp only [step, alive] at enabled
  obtain ⟨-, rfl⟩ := doing_eq_some enabled
  constructor
  · refine ⟨account_closeFd account, ?_⟩
    intro other isServer
    cases isServer
  · rw [fd_alive alive]
    exact (settled_closeFd account).trans (and_iff_left trivial).symm

/-- The step law of a server socket's life. -/
theorem conducts_step (life : ServerLife) (call : ServerCall) (next : ServerLife)
    (traced : life.Traced) (enabled : life.step call = some next) : Conducts life call next := by
  cases alive : life.server with
  | none => simp [step, alive] at enabled
  | some server =>
    cases call with
    | listen answers => exact conducts_listen traced alive enabled
    | accept timeout answers => exact conducts_accept traced alive enabled
    | close proxy => exact conducts_close traced alive enabled
    | destroy => exact conducts_destroy traced alive enabled

/-- A life starts with a new server socket. -/
inductive Born : ServerLife → Prop
  | opened (name : ByteString) (uuid : UUID) (type : BtSocketType) (encrypt : Bool) (psm : Int32) :
      Born (ServerLife.opened name uuid type encrypt psm)

/-- What was born is traced, and settled as nothing has been handed to it yet. -/
theorem Born.traced {life : ServerLife} (born : life.Born) :
    life.Traced ∧ Settled life.fd life.acts := by
  cases born with
  | opened name uuid type encrypt psm =>
    have nonzero : invalidFd ≠ 0 := by decide
    refine ⟨traced_alive rfl ?_ fun _ => .inl rfl, nonzero, trivial, rfl⟩
    exact ⟨trivial, trivial, fun valid => absurd rfl valid, fun valid => absurd rfl valid⟩

/-- A life that ends with the socket destroyed has closed or passed on every descriptor exactly
once, and used none of them afterwards, exactly when all its calls kept the descriptor. -/
theorem closed_iff {life last : ServerLife} {calls : List ServerCall} (born : life.Born)
    (reached : run step life calls = some last) (destroyed : last.server = none) :
    ClosedExactlyOnce last.acts ↔ Meets step KeepsDescriptor life calls := by
  obtain ⟨traced, settled⟩ := born.traced
  have ended : last.fd = invalidFd := by rw [fd, destroyed]
  exact closedExactlyOnce_iff_meets (fun _ traced => traced.account)
    (fun life call next traced enabled => (conducts_step life call next traced enabled).traced)
    (fun life call next traced enabled => (conducts_step life call next traced enabled).settled)
    traced settled reached ended

end ServerLife
end BluetoothFramework.Socket
