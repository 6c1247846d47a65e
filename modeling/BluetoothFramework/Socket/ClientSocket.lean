import BluetoothFramework.Library.Runs
import BluetoothFramework.Socket.Descriptors

/-!
# Client sockets

`Connect` asks the service for a descriptor, reads the channel and a signal from it and
makes two streams that hold copies of it. A socket that `Accept` makes has a descriptor
and streams from the start.

The life of a socket goes from its construction over its destruction to the last use of
its streams, which the application may keep. The socket gets as far as its destruction
with everything closed exactly once when `Connect` is not answered while `fd_` holds a
descriptor, is not answered with descriptor `0`, and no stream is used once its
descriptor has left `fd_` (`ClientLife.settled_step_iff`).
-/

namespace BluetoothFramework.Socket

open Handles Ledger Runs

/-! ## Streams -/

/-- `InputStream` -/
structure InputStream where
  socketFd : Int
deriving DecidableEq, Repr

/-- `Read`, with what `recv` returns. The bytes go to the caller's buffer. -/
def InputStream.read (stream : InputStream) (ret : Int64) : Int64 × List Act :=
  if stream.socketFd = -1 then (-1, [])
  else (ret, [.recv stream.socketFd])

/-- `OutputStream` -/
structure OutputStream where
  socketFd : Int
  setTimeoutFlag : Bool := false
deriving DecidableEq, Repr

/-- `AAM_UID` -/
def aamUid : UInt32 := 7878

/-- `AAM_BAD_RET` -/
def aamBadRet : Int32 := -978974

/-- `SOFTBUS_UID` -/
def softbusUid : UInt32 := 1024

/-- `SOCKET_PACKET_HEAD_LENGTH` -/
def socketPacketHeadLength : Int32 := 1512

/-- What the system answers to the calls of `Write`. -/
structure WriteAnswers where
  sockOptRet : Int32 := 0
  bufSize : Int32 := 0
  ioctlRet : Int32 := 0
  bytesInBuffer : UInt64 := 0
  uid : UInt32 := 0
  timeoutRet : Int32 := 0
  ret : Int64 := 1
  errno : Int32 := 0
deriving DecidableEq, Repr

/-- The send queue is known to have no room for so many bytes. -/
def WriteAnswers.queueFull (answers : WriteAnswers) (length : Nat) : Bool :=
  answers.sockOptRet ≠ -1 && answers.ioctlRet ≠ -1 &&
    answers.bufSize.toInt64.toUInt64 > answers.bytesInBuffer &&
      answers.bufSize.toInt64.toUInt64 - answers.bytesInBuffer <
        (Int32.ofNat length + socketPacketHeadLength).toInt64.toUInt64

namespace OutputStream

/-- The end of `Write`. -/
def send (stream : OutputStream) (buf : ByteString) (answers : WriteAnswers) (acts : List Act) :
    Outcome OutputStream Int32 :=
  if answers.ret ≤ 0 then
    ⟨{ stream with setTimeoutFlag := false }, answers.errno, acts ++ [.send stream.socketFd buf]⟩
  else ⟨stream, answers.ret.toInt32, acts ++ [.send stream.socketFd buf]⟩

/-- `Write` -/
def write (stream : OutputStream) (buf : ByteString) (answers : WriteAnswers) :
    Outcome OutputStream Int32 :=
  let fd := stream.socketFd
  if fd = -1 then ⟨stream, -1, []⟩
  else if answers.queueFull buf.length && answers.uid = aamUid then
    ⟨stream, aamBadRet, [.getsockopt fd, .ioctl fd]⟩
  else if answers.uid = softbusUid && !stream.setTimeoutFlag then
    if answers.timeoutRet < 0 then ⟨stream, -1, [.getsockopt fd, .ioctl fd, .setsockopt fd]⟩
    else { stream with setTimeoutFlag := true }.send buf answers [.getsockopt fd, .ioctl fd, .setsockopt fd]
  else stream.send buf answers [.getsockopt fd, .ioctl fd]

end OutputStream

/-! ## The socket -/

/-- `ClientSocket::impl`, less the streams. -/
structure ClientSocket where
  remoteDevice : ByteString := []
  uuid : UUID := {}
  type : BtSocketType
  auth : Bool := false
  address : ByteString := []
  fd : Int := invalidFd
  socketStatus : SocketState := .socketInit
  observerImp : Bool := false
  socketChannel : Int32 := -1
  maxTxPacketSize : UInt32 := 0
  maxRxPacketSize : UInt32 := 0
deriving DecidableEq

/-- What a read of the connection signal returns. -/
structure SignalRead where
  recvBufSize : Int32 := socketRecvFdSignal
  signalBuf : Vector UInt8 11 := Vector.replicate 11 1
deriving DecidableEq, Repr

/-- What a call of `Connect` meets: whether the adapters are on, whether an observer can be
allocated, the answers of the service, if there is a proxy, and what is read. -/
structure ConnectAnswers where
  btEnabled : Bool := true
  bleEnabled : Bool := true
  allocated : Bool := true
  proxy : Bool := true
  registered : Int32 := btNoError
  errorCode : Int32 := btNoError
  descriptor : Option Nat
  channel : ChannelRead := {}
  signal : SignalRead := {}
deriving DecidableEq, Repr

/-- What `Connect` returns, and the streams that it makes. -/
structure Connected where
  ret : Int32
  streams : Option (InputStream × OutputStream) := none
deriving DecidableEq, Repr

namespace ClientSocket

/-- The constructor with a descriptor. -/
def accepted (fd : Int) (address : ByteString) (type : BtSocketType) : ClientSocket where
  remoteDevice := address
  type := type
  address := address
  fd := fd
  socketStatus := .socketConnected

/-- `RecvSocketPsmOrScn` -/
def recvSocketPsmOrScn (socket : ClientSocket) (read : ChannelRead) : Outcome ClientSocket Bool :=
  if read.recvBufSize ≠ socketRecvChannelSize then ⟨socket, false, [.recv socket.fd]⟩
  else if ¬ 0 < read.channel then ⟨socket, false, [.recv socket.fd]⟩
  else ⟨{ socket with socketChannel := read.channel }, true, [.recv socket.fd]⟩

/-- `RecvSocketSignal` -/
def recvSocketSignal (socket : ClientSocket) (read : SignalRead) : Outcome ClientSocket Bool :=
  if read.recvBufSize ≠ socketRecvFdSignal then ⟨socket, false, [.recv socket.fd]⟩
  else
    ⟨{ socket with
        maxTxPacketSize := getPacketSizeFromBuf (read.signalBuf.toList.drop txOffset)
        maxRxPacketSize := getPacketSizeFromBuf (read.signalBuf.toList.drop rxOffset) },
      read.signalBuf.get 0 ≠ 0, [.recv socket.fd]⟩

/-- `Connect`, once the remote call has returned `BT_NO_ERROR`. -/
def establish (socket : ClientSocket) (channelRead : ChannelRead) (signalRead : SignalRead) :
    Outcome ClientSocket Connected :=
  if socket.fd = invalidFd then ⟨socket, ⟨btFailure, none⟩, []⟩
  else
    let channel := socket.recvSocketPsmOrScn channelRead
    if ¬ channel.result then ⟨channel.object, ⟨btErrSppConnectFailed, none⟩, channel.acts⟩
    else
      let signal := channel.object.recvSocketSignal signalRead
      let streams := (InputStream.mk signal.object.fd, OutputStream.mk signal.object.fd false)
      if ¬ signal.result then
        ⟨signal.object, ⟨btFailure, some streams⟩, channel.acts ++ signal.acts⟩
      else
        ⟨{ signal.object with socketStatus := .socketConnected }, ⟨btSuccess, some streams⟩,
          channel.acts ++ signal.acts⟩

/-- The adapter of the socket's type is on. -/
def enabled (type : BtSocketType) (btEnabled bleEnabled : Bool) : Bool :=
  if type = .typeL2capLe then bleEnabled else btEnabled

/-- The UUID as the service is sent it. -/
def sentUuid (uuid : UUID) : Uuid where
  uuid := uuid.convertTo128Bits

/-- `ClientSocket::Connect` -/
def connect (socket : ClientSocket) (psm : Int32) (answers : ConnectAnswers) :
    Outcome ClientSocket Connected :=
  if ¬ enabled socket.type answers.btEnabled answers.bleEnabled then
    ⟨socket, ⟨btErrInvalidState, none⟩, []⟩
  else if ¬ (socket.observerImp || answers.allocated) then
    ⟨socket, ⟨btErrInternalError, none⟩, []⟩
  else
    let socket := { socket with observerImp := true, address := socket.remoteDevice }
    if socket.address.length = 0 then ⟨socket, ⟨btFailure, none⟩, []⟩
    else if socket.socketStatus = .socketClosed then ⟨socket, ⟨btErrInvalidState, none⟩, []⟩
    else if ¬ answers.proxy then ⟨socket, ⟨btErrServiceDisconnected, none⟩, []⟩
    else
      let uuid := sentUuid socket.uuid
      let register := Act.registerClientObserver socket.address uuid
      if answers.registered ≠ btNoError then ⟨socket, ⟨answers.registered, none⟩, [register]⟩
      else
        let request := Act.connect
          ⟨socket.address, uuid, getSecurityFlags socket.auth, socket.type.toInt32, psm⟩
        -- The proxy writes the descriptor only if the service reports no error.
        if answers.errorCode ≠ btNoError then ⟨socket, ⟨answers.errorCode, none⟩, [register, request]⟩
        else
          let outcome := { socket with fd := readFileDescriptor answers.descriptor }.establish
            answers.channel answers.signal
          { outcome with acts := [register, request] ++ receive answers.descriptor ++ outcome.acts }

/-- `ClientSocket::impl::Close`, with whether there is a proxy. -/
def close (socket : ClientSocket) (proxy : Bool) : Outcome ClientSocket Unit :=
  if socket.socketStatus = .socketClosed then ⟨socket, (), []⟩
  else
    let closed := { socket with
      socketStatus := .socketClosed
      fd := if 0 < socket.fd then invalidFd else socket.fd }
    if proxy && socket.observerImp then
      ⟨closed, (), closeFd socket.fd ++ [.deregisterClientObserver socket.remoteDevice (sentUuid socket.uuid)]⟩
    else ⟨closed, (), closeFd socket.fd⟩

/-- `ClientSocket::impl::~impl` -/
def destroy (socket : ClientSocket) : List Act :=
  closeFd socket.fd

end ClientSocket

/-! ## Its life -/

/-- A socket until it is destroyed, the streams it made and what has been done. The getters
of the streams copy pointers, so an application may hold every stream that was made. -/
structure ClientLife where
  socket : Option ClientSocket
  inputStreams : List InputStream := []
  outputStreams : List OutputStream := []
  acts : List Act := []
deriving DecidableEq

/-- A call on a socket or on a stream that it made. -/
inductive ClientCall where
  | connect (psm : Int32) (answers : ConnectAnswers)
  | close (proxy : Bool)
  | destroy
  | read (stream : Nat) (ret : Int64)
  | write (stream : Nat) (buf : ByteString) (answers : WriteAnswers)

namespace ClientLife

/-- A socket for a remote device. -/
def opened (remoteDevice : ByteString) (uuid : UUID) (type : BtSocketType) (auth : Bool) :
    ClientLife where
  socket := some { remoteDevice := remoteDevice, uuid := uuid, type := type, auth := auth }

/-- A socket that `Accept` makes, with the packet sizes that it sets. -/
def accepted (fd : Nat) (address : ByteString) (type : BtSocketType) (tx rx : UInt32) :
    ClientLife where
  socket := some { ClientSocket.accepted fd address type with maxTxPacketSize := tx, maxRxPacketSize := rx }
  inputStreams := [⟨fd⟩]
  outputStreams := [⟨fd, false⟩]
  acts := [.received fd]

/-- The acts of a call are done. A descriptor that comes in is one that is not open. -/
def doing (life : ClientLife) (acts : List Act) : Option ClientLife :=
  if Along Fresh (ledger life.acts) (events acts) then some { life with acts := life.acts ++ acts }
  else none

/-- One call. Calls on the socket need the socket, calls on a stream need the stream. -/
def step (life : ClientLife) : ClientCall → Option ClientLife
  | .connect psm answers =>
      match life.socket with
      | none => none
      | some socket =>
          let outcome := socket.connect psm answers
          { life with
            socket := some outcome.object
            inputStreams := life.inputStreams ++ (outcome.result.streams.map Prod.fst).toList
            outputStreams := life.outputStreams ++ (outcome.result.streams.map Prod.snd).toList }.doing
              outcome.acts
  | .close proxy =>
      match life.socket with
      | none => none
      | some socket =>
          let outcome := socket.close proxy
          { life with socket := some outcome.object }.doing outcome.acts
  | .destroy =>
      match life.socket with
      | none => none
      | some socket => { life with socket := none }.doing socket.destroy
  | .read i ret =>
      match life.inputStreams[i]? with
      | none => none
      | some stream => life.doing (stream.read ret).2
  | .write i buf answers =>
      match life.outputStreams[i]? with
      | none => none
      | some stream =>
          let outcome := stream.write buf answers
          { life with outputStreams := life.outputStreams.set i outcome.object }.doing outcome.acts

/-- `fd_`; a socket that is destroyed has none. -/
def fd (life : ClientLife) : Int :=
  match life.socket with
  | some socket => socket.fd
  | none => invalidFd

end ClientLife

/-! ## What the operations do -/

/-- `Connect` gets as far as to write the descriptor of the reply to `fd_`. -/
structure ClientSocket.Answered (socket : ClientSocket) (answers : ConnectAnswers) : Prop where
  enabled : enabled socket.type answers.btEnabled answers.bleEnabled = true
  observed : (socket.observerImp || answers.allocated) = true
  addressed : socket.remoteDevice.length ≠ 0
  notClosed : socket.socketStatus ≠ .socketClosed
  proxy : answers.proxy = true
  registered : answers.registered = btNoError
  connected : answers.errorCode = btNoError

namespace InputStream

/-- A read of a stream uses its descriptor once and does nothing else, whatever `recv` returns.
-/
theorem read_events (stream : InputStream) (ret : Int64) (valid : stream.socketFd ≠ invalidFd) :
    events (stream.read ret).2 = [.used stream.socketFd] := by
  have isOpen : stream.socketFd ≠ -1 := valid
  rw [read, if_neg isOpen]
  rfl

end InputStream

namespace OutputStream

/-- `Write` leaves the descriptor of the stream, uses it and no other. It uses it in every
branch, also where it only asks for the size of the buffer and then gives up. -/
theorem write_uses (stream : OutputStream) (buf : ByteString) (answers : WriteAnswers)
    (valid : stream.socketFd ≠ invalidFd) :
    (stream.write buf answers).object.socketFd = stream.socketFd ∧
      Uses {stream.socketFd} (events (stream.write buf answers).acts) ∧
        events (stream.write buf answers).acts ≠ [] := by
  have sends (other : OutputStream) (same : other.socketFd = stream.socketFd) (acts : List Act)
      (uses : Uses {stream.socketFd} (events acts)) :
      (other.send buf answers acts).object.socketFd = stream.socketFd ∧
        Uses {stream.socketFd} (events (other.send buf answers acts).acts) ∧
          events (other.send buf answers acts).acts ≠ [] := by
    have sent : Uses {stream.socketFd} (events (acts ++ [.send other.socketFd buf])) := by
      intro event among
      rw [events_append] at among
      rcases List.mem_append.mp among with before | last
      · exact uses event before
      · exact ⟨stream.socketFd, Finset.mem_singleton_self _, same ▸ List.mem_singleton.mp last⟩
    have nonempty : events (acts ++ [.send other.socketFd buf]) ≠ [] := by
      rw [events_append]
      exact List.append_ne_nil_of_right_ne_nil _ (by simp [events, Act.event])
    rw [send]
    split
    · exact ⟨same, sent, nonempty⟩
    · exact ⟨same, sent, nonempty⟩
  have asked : Uses {stream.socketFd} (events [.getsockopt stream.socketFd, .ioctl stream.socketFd]) := by
    simp [Uses, events, Act.event]
  have timed : Uses {stream.socketFd} (events
      [.getsockopt stream.socketFd, .ioctl stream.socketFd, .setsockopt stream.socketFd]) := by
    simp [Uses, events, Act.event]
  have isOpen : stream.socketFd ≠ -1 := valid
  rw [write, if_neg isOpen]
  split
  · exact ⟨rfl, asked, by simp [events, Act.event]⟩
  · split
    · split
      · exact ⟨rfl, timed, by simp [events, Act.event]⟩
      · exact sends { stream with setTimeoutFlag := true } rfl _ timed
    · exact sends _ rfl _ asked

end OutputStream

namespace ClientSocket

/-- To receive the channel reads from the descriptor of the socket and leaves it in place. -/
theorem recvSocketPsmOrScn_acts (socket : ClientSocket) (read : ChannelRead) :
    (socket.recvSocketPsmOrScn read).object.fd = socket.fd ∧
      (socket.recvSocketPsmOrScn read).acts = [.recv socket.fd] := by
  rw [recvSocketPsmOrScn]
  split
  · exact ⟨rfl, rfl⟩
  · split <;> exact ⟨rfl, rfl⟩

/-- To receive the signal reads from the descriptor of the socket and leaves it in place. -/
theorem recvSocketSignal_acts (socket : ClientSocket) (read : SignalRead) :
    (socket.recvSocketSignal read).object.fd = socket.fd ∧
      (socket.recvSocketSignal read).acts = [.recv socket.fd] := by
  rw [recvSocketSignal]
  split <;> exact ⟨rfl, rfl⟩

/-- What `Connect` does with the descriptor it was given. -/
structure Establishes (fd : Int) (outcome : Outcome ClientSocket Connected) : Prop where
  keeps : outcome.object.fd = fd
  uses : Uses {fd} (events outcome.acts)
  nothing : fd = invalidFd → events outcome.acts = []
  streams : ∀ streams ∈ outcome.result.streams,
    fd ≠ invalidFd ∧ streams.1.socketFd = fd ∧ streams.2.socketFd = fd

/-- A connection uses the descriptor of the socket and keeps it. A socket that was given none
touches nothing and makes no streams. -/
theorem establishes (socket : ClientSocket) (channelRead : ChannelRead) (signalRead : SignalRead) :
    Establishes socket.fd (socket.establish channelRead signalRead) := by
  obtain ⟨channelFd, channelActs⟩ := socket.recvSocketPsmOrScn_acts channelRead
  obtain ⟨signalFd, signalActs⟩ :=
    (socket.recvSocketPsmOrScn channelRead).object.recvSocketSignal_acts signalRead
  rw [channelFd] at signalFd signalActs
  have once : Uses {socket.fd} (events [.recv socket.fd]) := by simp [Uses, events, Act.event]
  have twice : Uses {socket.fd} (events ([.recv socket.fd] ++ [.recv socket.fd])) := by
    simp [Uses, events, Act.event]
  rw [establish]
  split
  · rename_i invalid
    refine ⟨rfl, ?_, fun _ => rfl, ?_⟩
    · intro event among
      cases among
    · intro streams among
      cases among
  · rename_i valid
    simp only [channelActs, signalActs]
    split
    · exact ⟨channelFd, once, fun invalid => absurd invalid valid, fun _ among => by cases among⟩
    · split
      · refine ⟨signalFd, twice, fun invalid => absurd invalid valid, ?_⟩
        rintro streams ⟨⟩
        exact ⟨valid, signalFd, signalFd⟩
      · refine ⟨signalFd, twice, fun invalid => absurd invalid valid, ?_⟩
        rintro streams ⟨⟩
        exact ⟨valid, signalFd, signalFd⟩

/-- A `Connect` that gets no answer does nothing to a descriptor: the checks come before the call
of the service, and a call that fails hands nothing over. -/
theorem connect_unanswered {socket : ClientSocket} {answers : ConnectAnswers} (psm : Int32)
    (unanswered : ¬ socket.Answered answers) :
    (socket.connect psm answers).object.fd = socket.fd ∧
      events (socket.connect psm answers).acts = [] ∧
        (socket.connect psm answers).result.streams = none := by
  rw [connect]
  split
  · exact ⟨rfl, rfl, rfl⟩
  split
  · exact ⟨rfl, rfl, rfl⟩
  simp only []
  split
  · exact ⟨rfl, rfl, rfl⟩
  split
  · exact ⟨rfl, rfl, rfl⟩
  split
  · exact ⟨rfl, rfl, rfl⟩
  split
  · exact ⟨rfl, rfl, rfl⟩
  split
  · exact ⟨rfl, rfl, rfl⟩
  · rename_i isEnabled isObserved isAddressed isOpen hasProxy isRegistered isConnected
    exact absurd ⟨not_not.mp isEnabled, not_not.mp isObserved, isAddressed, isOpen, not_not.mp hasProxy,
      not_not.mp isRegistered, not_not.mp isConnected⟩ unanswered

/-- A `Connect` that is answered overwrites `fd_`. -/
theorem connect_answered {socket : ClientSocket} {answers : ConnectAnswers} (psm : Int32)
    (answered : socket.Answered answers) :
    ∃ outcome, Establishes (readFileDescriptor answers.descriptor) outcome ∧
      (socket.connect psm answers).object = outcome.object ∧
        (socket.connect psm answers).result = outcome.result ∧
          events (socket.connect psm answers).acts =
            events (receive answers.descriptor ++ outcome.acts) := by
  obtain ⟨enabled, observed, addressed, notClosed, proxy, registered, connected⟩ := answered
  refine ⟨_, establishes { socket with
    observerImp := true
    address := socket.remoteDevice
    fd := readFileDescriptor answers.descriptor } answers.channel answers.signal, ?_⟩
  simp only [connect, enabled, observed, addressed, notClosed, proxy, registered, connected,
    not_true_eq_false, ne_eq, if_false]
  exact ⟨trivial, trivial, rfl⟩

end ClientSocket

/-! ## A whole life -/

namespace ClientLife

/-- Descriptors come in while `fd_` is free, none of them is `0`, and streams are used while
`fd_` is theirs. -/
def KeepsDescriptor (life : ClientLife) : ClientCall → Prop
  | .connect _ answers =>
      ∀ socket ∈ life.socket, socket.Answered answers →
        socket.fd = invalidFd ∧ answers.descriptor ≠ some 0
  | .close _ => True
  | .destroy => True
  | .read i _ => ∀ stream ∈ life.inputStreams[i]?, stream.socketFd = life.fd
  | .write i _ _ => ∀ stream ∈ life.outputStreams[i]?, stream.socketFd = life.fd

/-- The descriptor of a stream was handed to the socket once. -/
def Copied (acts : List Act) (socketFd : Int) : Prop :=
  socketFd ≠ invalidFd ∧ socketFd ∈ (ledger acts).seen

/-- What every life keeps to. -/
structure Traced (life : ClientLife) : Prop where
  account : Account life.fd life.acts
  inputs : ∀ stream ∈ life.inputStreams, Copied life.acts stream.socketFd
  outputs : ∀ stream ∈ life.outputStreams, Copied life.acts stream.socketFd

/-- What was handed over stays handed over when acts are added. -/
theorem Copied.append {acts : List Act} {socketFd : Int} (copied : Copied acts socketFd)
    (new : List Act) :
    Copied (acts ++ new) socketFd :=
  ⟨copied.1, seen_ledger_append acts new copied.2⟩

/-- Streams that were made keep their descriptors, and one more may be made. -/
theorem copied_more {Stream : Type} {socketFd : Stream → Int} {acts new : List Act}
    {streams : List Stream}
    {made : Option Stream} (before : ∀ stream ∈ streams, Copied acts (socketFd stream))
    (fresh : ∀ stream ∈ made, Copied (acts ++ new) (socketFd stream)) :
    ∀ stream ∈ streams ++ made.toList, Copied (acts ++ new) (socketFd stream) := by
  intro stream among
  rcases List.mem_append.mp among with old | isMade
  · exact (before stream old).append new
  · exact fresh stream (Option.mem_toList.mp isMade)

/-- What a call amounts to: the account goes on, and is settled afterwards exactly when it
was settled before and the call kept the descriptor. -/
structure Conducts (life : ClientLife) (call : ClientCall) (next : ClientLife) : Prop where
  traced : next.Traced
  settled : Settled next.fd next.acts ↔ Settled life.fd life.acts ∧ life.KeepsDescriptor call

/-- A call is taken exactly if the system hands out only new descriptors in it. Then its acts
are entered and nothing else changes. -/
theorem doing_eq_some {life next : ClientLife} {acts : List Act}
    (done : life.doing acts = some next) :
    Along Fresh (ledger life.acts) (events acts) ∧
      next = { life with acts := life.acts ++ acts } := by
  rw [doing] at done
  split at done
  · rename_i fresh
    exact ⟨fresh, (Option.some.inj done).symm⟩
  · cases done

/-- The descriptor of a life is that of its socket while there is one. -/
theorem fd_alive {life : ClientLife} {socket : ClientSocket} (alive : life.socket = some socket) :
    life.fd = socket.fd := by
  rw [fd, alive]

/-- The life goes on from `Connect` with the streams that it made. Their copies of the descriptor
were handed over before, in the same call. -/
theorem traced_connected {life : ClientLife} {socket : ClientSocket} {new : List Act}
    {streams : Option (InputStream × OutputStream)} (traced : life.Traced)
    (account : Account socket.fd (life.acts ++ new))
    (made : ∀ pair ∈ streams,
      Copied (life.acts ++ new) pair.1.socketFd ∧ Copied (life.acts ++ new) pair.2.socketFd) :
    Traced {
      socket := some socket
      inputStreams := life.inputStreams ++ (streams.map Prod.fst).toList
      outputStreams := life.outputStreams ++ (streams.map Prod.snd).toList
      acts := life.acts ++ new } := by
  refine ⟨account, ?_, ?_⟩
  · apply copied_more traced.inputs
    intro stream isMade
    obtain ⟨pair, isPair, rfl⟩ := Option.map_eq_some_iff.mp isMade
    exact (made pair isPair).1
  · apply copied_more traced.outputs
    intro stream isMade
    obtain ⟨pair, isPair, rfl⟩ := Option.map_eq_some_iff.mp isMade
    exact (made pair isPair).2

/-- To connect keeps the account. It stays settled unless `fd_` was taken, so that the earlier
descriptor is lost, or the new descriptor is `0`, which is never closed. -/
theorem conducts_connect {life next : ClientLife} {socket : ClientSocket} {psm : Int32}
    {answers : ConnectAnswers} (traced : life.Traced) (alive : life.socket = some socket)
    (enabled : life.step (.connect psm answers) = some next) :
    Conducts life (.connect psm answers) next := by
  have account : Account socket.fd life.acts := fd_alive alive ▸ traced.account
  have keeps : life.KeepsDescriptor (.connect psm answers) ↔
      (socket.Answered answers → socket.fd = invalidFd ∧ answers.descriptor ≠ some 0) := by
    simp only [KeepsDescriptor, alive, Option.mem_some_iff, forall_eq']
  simp only [step, alive] at enabled
  obtain ⟨fresh, rfl⟩ := doing_eq_some enabled
  by_cases answered : socket.Answered answers
  · obtain ⟨outcome, establishes, object, result, same⟩ := ClientSocket.connect_answered psm answered
    have sameFd : (socket.connect psm answers).object.fd = readFileDescriptor answers.descriptor := by
      rw [object, establishes.keeps]
    obtain ⟨overwritten, settled⟩ := overwrites account fresh same establishes.uses establishes.nothing
    have after : Account (socket.connect psm answers).object.fd
        (life.acts ++ (socket.connect psm answers).acts) := by
      rw [sameFd]
      exact overwritten
    have made : ∀ streams ∈ (socket.connect psm answers).result.streams,
        Copied (life.acts ++ (socket.connect psm answers).acts) streams.1.socketFd ∧
          Copied (life.acts ++ (socket.connect psm answers).acts) streams.2.socketFd := by
      rw [result]
      intro streams isMade
      obtain ⟨valid, input, output⟩ := establishes.streams streams isMade
      have copied : Copied (life.acts ++ (socket.connect psm answers).acts)
          (readFileDescriptor answers.descriptor) := by
        rw [← sameFd] at valid ⊢
        exact ⟨valid, (after.descriptor valid).2⟩
      exact ⟨input ▸ copied, output ▸ copied⟩
    constructor
    · exact traced_connected traced after made
    · change Settled (socket.connect psm answers).object.fd _ ↔ _
      rw [sameFd, settled, fd_alive alive, keeps]
      exact and_congr_right fun _ => ⟨fun kept _ => kept, fun kept => kept answered⟩
  · obtain ⟨sameFd, nothing, noStreams⟩ := ClientSocket.connect_unanswered psm answered
    have sameEvents : events (life.acts ++ (socket.connect psm answers).acts) = events life.acts :=
      silent nothing
    have after : Account (socket.connect psm answers).object.fd
        (life.acts ++ (socket.connect psm answers).acts) := by
      rw [sameFd]
      exact account.congr sameEvents.symm
    constructor
    · apply traced_connected traced after
      rw [noStreams]
      intro pair isPair
      cases isPair
    · change Settled (socket.connect psm answers).object.fd _ ↔ _
      rw [sameFd, settled_congr sameEvents, fd_alive alive, keeps]
      exact (and_iff_left fun answers => absurd answers answered).symm

/-- `Close` closes and forgets the descriptor in `fd_`, or does nothing to it. It does nothing
where the descriptor is not positive. -/
theorem close_cases (socket : ClientSocket) (proxy : Bool) :
    ((socket.close proxy).object.fd = invalidFd ∧
      events (socket.close proxy).acts = events (closeFd socket.fd)) ∨
      ((socket.close proxy).object.fd = socket.fd ∧ events (socket.close proxy).acts = []) := by
  rw [ClientSocket.close]
  split
  · exact .inr ⟨rfl, rfl⟩
  · by_cases positive : 0 < socket.fd
    · left
      simp only [if_pos positive]
      cases proxy && socket.observerImp with
      | false => exact ⟨rfl, rfl⟩
      | true => exact ⟨rfl, silent rfl⟩
    · right
      simp only [if_neg positive, closeFd]
      cases proxy && socket.observerImp with
      | false => exact ⟨rfl, rfl⟩
      | true => exact ⟨rfl, rfl⟩

/-- To close keeps the account, and closes what is in `fd_` if anything is. The streams keep
their copies, which is allowed as long as they are not used. -/
theorem conducts_close {life next : ClientLife} {socket : ClientSocket} {proxy : Bool}
    (traced : life.Traced) (alive : life.socket = some socket)
    (enabled : life.step (.close proxy) = some next) : Conducts life (.close proxy) next := by
  have account : Account socket.fd life.acts := fd_alive alive ▸ traced.account
  simp only [step, alive] at enabled
  obtain ⟨-, rfl⟩ := doing_eq_some enabled
  have copies {socketFd : Int} (copied : Copied life.acts socketFd) :=
    copied.append (socket.close proxy).acts
  have goesOn (after : Account (socket.close proxy).object.fd (life.acts ++ (socket.close proxy).acts))
      (settled : Settled (socket.close proxy).object.fd (life.acts ++ (socket.close proxy).acts) ↔
        Settled socket.fd life.acts) :
      Conducts life (.close proxy) { life with
        socket := some (socket.close proxy).object
        acts := life.acts ++ (socket.close proxy).acts } := by
    refine ⟨⟨after, ?_, ?_⟩, ?_⟩
    · exact fun stream among => copies (traced.inputs stream among)
    · exact fun stream among => copies (traced.outputs stream among)
    · rw [fd_alive alive]
      exact settled.trans (and_iff_left trivial).symm
  apply goesOn
  · rcases close_cases socket proxy with ⟨forgotten, closed⟩ | ⟨kept, nothing⟩
    · rw [forgotten]
      apply (account_closeFd account).congr
      rw [events_append, events_append, closed]
    · rw [kept]
      exact account.congr (silent nothing).symm
  · rcases close_cases socket proxy with ⟨forgotten, closed⟩ | ⟨kept, nothing⟩
    · have same : events (life.acts ++ (socket.close proxy).acts) =
          events (life.acts ++ closeFd socket.fd) := by
        rw [events_append, events_append, closed]
      rw [forgotten, settled_congr same, settled_closeFd account]
    · rw [kept, settled_congr (silent nothing)]

/-- The destructor keeps the account: it closes what is in `fd_`. -/
theorem conducts_destroy {life next : ClientLife} {socket : ClientSocket} (traced : life.Traced)
    (alive : life.socket = some socket) (enabled : life.step .destroy = some next) :
    Conducts life .destroy next := by
  have account : Account socket.fd life.acts := fd_alive alive ▸ traced.account
  simp only [step, alive] at enabled
  obtain ⟨-, rfl⟩ := doing_eq_some enabled
  refine ⟨⟨account_closeFd account, ?_, ?_⟩, ?_⟩
  · exact fun stream among => (traced.inputs stream among).append _
  · exact fun stream among => (traced.outputs stream among).append _
  · rw [fd_alive alive]
    exact (settled_closeFd account).trans (and_iff_left trivial).symm

/-- A read of a stream keeps the account. It is right for the descriptor in `fd_` only, for a
copy outlives a close. -/
theorem conducts_read {life next : ClientLife} {i : Nat} {ret : Int64} {stream : InputStream}
    (traced : life.Traced) (made : life.inputStreams[i]? = some stream)
    (enabled : life.step (.read i ret) = some next) : Conducts life (.read i ret) next := by
  obtain ⟨valid, seen⟩ := traced.inputs stream (List.mem_of_getElem? made)
  have read := stream.read_events ret valid
  have uses : Uses {stream.socketFd} (events (stream.read ret).2) := by
    rw [read]
    simp [Uses]
  have keeps : life.KeepsDescriptor (.read i ret) ↔ stream.socketFd = life.fd := by
    simp only [KeepsDescriptor, made, Option.mem_some_iff, forall_eq']
  simp only [step, made] at enabled
  obtain ⟨-, rfl⟩ := doing_eq_some enabled
  refine ⟨⟨account_uses traced.account uses (Finset.singleton_subset_iff.mpr seen), ?_, ?_⟩, ?_⟩
  · exact fun stream among => (traced.inputs stream among).append _
  · exact fun stream among => (traced.outputs stream among).append _
  · rw [keeps]
    exact settled_uses traced.account uses (read ▸ List.cons_ne_nil _ _) valid

/-- A write of a stream keeps the account, in the same way as a read. The stream itself changes,
but not the descriptor that it has. -/
theorem conducts_write {life next : ClientLife} {i : Nat} {buf : ByteString}
    {answers : WriteAnswers}
    {stream : OutputStream} (traced : life.Traced) (made : life.outputStreams[i]? = some stream)
    (enabled : life.step (.write i buf answers) = some next) :
    Conducts life (.write i buf answers) next := by
  obtain ⟨valid, seen⟩ := traced.outputs stream (List.mem_of_getElem? made)
  obtain ⟨sameFd, uses, nonempty⟩ := stream.write_uses buf answers valid
  have keeps : life.KeepsDescriptor (.write i buf answers) ↔ stream.socketFd = life.fd := by
    simp only [KeepsDescriptor, made, Option.mem_some_iff, forall_eq']
  simp only [step, made] at enabled
  obtain ⟨-, rfl⟩ := doing_eq_some enabled
  refine ⟨⟨account_uses traced.account uses (Finset.singleton_subset_iff.mpr seen), ?_, ?_⟩, ?_⟩
  · exact fun stream among => (traced.inputs stream among).append _
  · intro other among
    apply Copied.append
    rcases List.mem_or_eq_of_mem_set among with old | rfl
    · exact traced.outputs other old
    · rw [sameFd]
      exact ⟨valid, seen⟩
  · rw [keeps]
    exact settled_uses traced.account uses nonempty valid

/-- The step law of a socket's life: every call keeps the account, and keeps it settled exactly
if it keeps the descriptor. One case for each call. -/
theorem conducts_step (life : ClientLife) (call : ClientCall) (next : ClientLife)
    (traced : life.Traced) (enabled : life.step call = some next) : Conducts life call next := by
  cases call with
  | connect psm answers =>
    cases alive : life.socket with
    | none => simp [step, alive] at enabled
    | some socket => exact conducts_connect traced alive enabled
  | close proxy =>
    cases alive : life.socket with
    | none => simp [step, alive] at enabled
    | some socket => exact conducts_close traced alive enabled
  | destroy =>
    cases alive : life.socket with
    | none => simp [step, alive] at enabled
    | some socket => exact conducts_destroy traced alive enabled
  | read i ret =>
    cases made : life.inputStreams[i]? with
    | none => simp [step, made] at enabled
    | some stream => exact conducts_read traced made enabled
  | write i buf answers =>
    cases made : life.outputStreams[i]? with
    | none => simp [step, made] at enabled
    | some stream => exact conducts_write traced made enabled

/-- A life starts with an open socket or with one that `Accept` makes. -/
inductive Born : ClientLife → Prop
  | opened (remoteDevice : ByteString) (uuid : UUID) (type : BtSocketType) (auth : Bool) :
      Born (ClientLife.opened remoteDevice uuid type auth)
  | accepted (fd : Nat) (positive : 0 < fd) (address : ByteString) (type : BtSocketType)
      (tx rx : UInt32) :
      Born (ClientLife.accepted fd address type tx rx)

/-- What was born is traced, and settled as nothing has been handed to it yet. A socket that
`Accept` makes is handed its descriptor by its birth. -/
theorem Born.traced {life : ClientLife} (born : life.Born) :
    life.Traced ∧ Settled life.fd life.acts := by
  cases born with
  | opened remoteDevice uuid type auth =>
    have nonzero : invalidFd ≠ 0 := by decide
    refine ⟨⟨⟨trivial, trivial, ?_, ?_⟩, ?_, ?_⟩, nonzero, trivial, rfl⟩
    · exact fun valid => absurd rfl valid
    · exact fun valid => absurd rfl valid
    · intro stream among
      cases among
    · intro stream among
      cases among
  | accepted fd positive address type tx rx =>
    have isFd : (ClientLife.accepted fd address type tx rx).fd = fd := rfl
    have seen : (fd : Int) ∈ (ledger (ClientLife.accepted fd address type tx rx).acts).seen :=
      Finset.mem_insert_self _ _
    have valid : (fd : Int) ≠ invalidFd := by
      rw [invalidFd]
      omega
    refine ⟨⟨⟨?_, ?_, ?_, ?_⟩, ?_, ?_⟩, ?_, ?_, ?_⟩
    · exact ⟨Finset.notMem_empty _, trivial⟩
    · exact ⟨trivial, trivial⟩
    · exact fun _ => ⟨Int.natCast_nonneg fd, seen⟩
    · exact fun _ => ⟨fd, Finset.mem_insert_self _ _⟩
    · intro stream among
      rw [List.mem_singleton.mp among]
      exact ⟨valid, seen⟩
    · intro stream among
      rw [List.mem_singleton.mp among]
      exact ⟨valid, seen⟩
    · rw [isFd]
      omega
    · exact ⟨trivial, trivial⟩
    · have positive : 0 < (fd : Int) := by omega
      rw [isFd, owned, if_pos positive]
      rfl

/-- A life that ends with the socket destroyed has closed every descriptor exactly once, and
used none of them afterwards, exactly when all its calls kept the descriptor. -/
theorem closed_iff {life last : ClientLife} {calls : List ClientCall} (born : life.Born)
    (reached : run step life calls = some last) (destroyed : last.socket = none) :
    ClosedExactlyOnce last.acts ↔ Meets step KeepsDescriptor life calls := by
  obtain ⟨traced, settled⟩ := born.traced
  have ended : last.fd = invalidFd := by rw [fd, destroyed]
  exact closedExactlyOnce_iff_meets (fun _ traced => traced.account)
    (fun life call next traced enabled => (conducts_step life call next traced enabled).traced)
    (fun life call next traced enabled => (conducts_step life call next traced enabled).settled)
    traced settled reached ended

end ClientLife
end BluetoothFramework.Socket
