import BluetoothFramework.Socket.ServerSocket

/-!
# Every descriptor is closed once

The two kinds of socket side by side: the lives in which every descriptor is closed
exactly once and never used again are those whose calls keep the descriptor. The three
ways in which calls fail to are a second `Connect`, a second `Listen` and a stream that
is used after its socket was closed.
-/

namespace BluetoothFramework.Socket

open Handles Runs

/-- In the life of a client or a server socket that ends with its destruction, every
descriptor handed to it is given up exactly once and not used afterwards exactly when all
its calls kept the descriptor. -/
theorem descriptors_closed_once_iff (client lastClient : ClientLife) (clientCalls : List ClientCall)
    (server lastServer : ServerLife) (serverCalls : List ServerCall) :
    (client.Born → run ClientLife.step client clientCalls = some lastClient → lastClient.socket = none →
      (ClosedExactlyOnce lastClient.acts ↔
        Meets ClientLife.step ClientLife.KeepsDescriptor client clientCalls)) ∧
    (server.Born → run ServerLife.step server serverCalls = some lastServer → lastServer.server = none →
      (ClosedExactlyOnce lastServer.acts ↔
        Meets ServerLife.step ServerLife.KeepsDescriptor server serverCalls)) := by
  constructor
  · intro born reached destroyed
    exact ClientLife.closed_iff born reached destroyed
  · intro born reached destroyed
    exact ServerLife.closed_iff born reached destroyed

/-- A client socket for a device with the address `"00:11:22:33:44:55"`. -/
def headset : ClientLife :=
  .opened [0x30, 0x30, 0x3A, 0x31, 0x31, 0x3A, 0x32, 0x32, 0x3A, 0x33, 0x33, 0x3A, 0x34, 0x34, 0x3A, 0x35, 0x35]
    {} .typeRfcomm false

/-- A server socket without a name. -/
def service : ServerLife :=
  .opened [] {} .typeRfcomm false (-1)

/-- A client that connects, writes, closes and is destroyed, and a server that listens,
accepts a connection and is destroyed. -/
theorem descriptors_closed_once_iff_sessions :
    Meets ClientLife.step ClientLife.KeepsDescriptor headset
        [.connect (-1) { descriptor := some 5 }, .write 0 [1] {}, .close true, .destroy] ∧
      Meets ServerLife.step ServerLife.KeepsDescriptor service
        [.listen { descriptor := some 7 }, .accept 0 { message := some { rights := [8] } }, .destroy] := by
  constructor
  · exact ((descriptors_closed_once_iff headset _ _ service service []).1 (.opened _ _ _ _) rfl rfl).mp
      (by decide)
  · exact ((descriptors_closed_once_iff headset headset [] service _ _).2 (.opened _ _ _ _ _) rfl rfl).mp
      (by decide)

/-- A socket that listens twice leaves its first descriptor open and closes its second one
twice; a socket that connects again after the channel could not be read leaves its first
descriptor open; a stream that is written to after `Close` uses a closed descriptor. -/
theorem listened_twice_closed_twice :
    (¬ ∀ (last : ServerLife) (calls : List ServerCall), run ServerLife.step service calls = some last →
      last.server = none → ClosedExactlyOnce last.acts) ∧
    (¬ ∀ (last : ClientLife) (calls : List ClientCall), run ClientLife.step headset calls = some last →
      last.socket = none → GivenUpOnce (events last.acts)) ∧
    (¬ ∀ (last : ClientLife) (calls : List ClientCall), run ClientLife.step headset calls = some last →
      last.socket = none → UnusedAfter (events last.acts)) := by
  refine ⟨?_, ?_, ?_⟩
  · intro always
    have once := always _ [.listen { descriptor := some 7 }, .listen { descriptor := some 8 }, .destroy] rfl rfl
    exact absurd once (by decide)
  · intro always
    have once := always _ [.connect (-1) { descriptor := some 5, channel := { recvBufSize := -1 } },
      .connect (-1) { descriptor := some 6 }, .destroy] rfl rfl
    exact absurd once (by decide)
  · intro always
    have unused := always _ [.connect (-1) { descriptor := some 5 }, .close true, .write 0 [1] {}, .destroy]
      rfl rfl
    exact absurd unused (by decide)

end BluetoothFramework.Socket
