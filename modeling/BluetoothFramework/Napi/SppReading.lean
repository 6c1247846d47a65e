import BluetoothFramework.Library.Runs
import Mathlib.Data.List.Basic
import Mathlib.Logic.Function.Basic
import Mathlib.Tactic.Common

/-!
# Reading from the socket of a script

A script registers for the data of a client socket. `On` creates a thread-safe function around
the callback and starts a thread. The thread reads from the socket, pushes what it has read to
the buffer of the registration and calls the function. The thread of the script takes the calls
from the queue of the function, pops the buffer and hands the data to the callback. `Off` and the
closing of the socket abort the function, but nobody waits for the thread, which may be reading.

`data_in_order` says what holds when a script registers again only after the thread of its last
registration has ended: the callbacks get the data in the order it was read, nothing is lost while a
registration lasts, and no buffer is used after it was freed. Two threads that read at the same
time break the order.
-/

namespace BluetoothFramework.Napi

open Runs

/-- The data that one call of `Read` returns. -/
abbrev SppChunk : Type := List UInt8

/-- `L2CAP_SOCKET_BUFFER_SIZE` -/
def l2capSocketBufferSize : Nat := 65535

/-- How far a thread in `SppRead` has come. From `PushData` to the end of the round it holds the
registration it pushed to. -/
inductive SppReader where
  | starting
  /-- In `InputStream::Read`. -/
  | reading
  /-- `Read` has returned data. -/
  | holding (chunk : SppChunk)
  /-- After `PushData`. -/
  | pushed (info : Nat)
  /-- After `napi_acquire_threadsafe_function`. -/
  | acquired (info : Nat)
  /-- After `napi_call_threadsafe_function`. -/
  | called (info : Nat)
  | ended
deriving DecidableEq, Repr

namespace SppReader

/-- The `BufferCallbackInfo` that the thread holds. -/
def info : SppReader → Option Nat
  | .pushed info | .acquired info | .called info => some info
  | _ => none

/-- Data that was read and not pushed. -/
def inHand : SppReader → List SppChunk
  | .holding chunk => [chunk]
  | _ => []

/-- The calls that are still to be made for what was pushed. -/
def toCall : SppReader → Nat
  | .pushed _ | .acquired _ => 1
  | _ => 0

/-- The acquisitions that are still to be released. -/
def toRelease : SppReader → Nat
  | .acquired _ | .called _ => 1
  | _ => 0

end SppReader

/-- A client socket as `clientMap` holds it. Registrations are numbered; the number also stands for
the function and the thread that belong to the registration. -/
structure SppReading where
  /-- The client is no longer in `clientMap`. -/
  closed : Bool := false
  sppReadFlag : Bool := false
  /-- `callbackInfos_[REGISTER_SPP_READ_TYPE]` -/
  callbackInfo : Option Nat := none
  sppReadThreadSafeFunc : Option Nat := none
  /-- The registrations so far. -/
  count : Nat := 0
  readers : Nat → SppReader := fun _ => .ended
  /-- `buffer_` of the registrations. -/
  buffers : Nat → List SppChunk := fun _ => []
  /-- The queues of the functions, with the registration that each call passes. -/
  calls : Nat → List Nat := fun _ => []
  /-- The thread counts of the functions. -/
  threadCounts : Nat → Nat := fun _ => 0
  aborted : Nat → Bool := fun _ => false
  /-- A call has used a registration that was freed. -/
  crashed : Bool := false
  /-- What was read before the last registration and what callbacks had got by then. -/
  earlierReceived : List SppChunk := []
  earlierDelivered : List SppChunk := []
  /-- What has been read since and what callbacks have got. -/
  received : List SppChunk := []
  delivered : List SppChunk := []

inductive SppReadEvent where
  | on
  | off
  /-- `SppCloseClientSocket` -/
  | close
  /-- The thread checks what it was started with. -/
  | start (reader : Nat)
  /-- `Read` returns data, of as many bytes as the buffer has at most. -/
  | receive (reader : Nat) (chunk : SppChunk)
  /-- `Read` fails. -/
  | fail (reader : Nat)
  /-- The thread checks the registration and pushes. -/
  | push (reader : Nat)
  | acquire (reader : Nat)
  | call (reader : Nat)
  | release (reader : Nat)
  /-- The thread of the script takes a call from the queue of a function. -/
  | dispatch (function : Nat)
deriving DecidableEq, Repr

namespace SppReading

def setReader (spp : SppReading) (reader : Nat) (now : SppReader) : SppReading :=
  { spp with readers := Function.update spp.readers reader now }

def withAborted (spp : SppReading) (function : Nat) : SppReading :=
  { spp with
    threadCounts := Function.update spp.threadCounts function (spp.threadCounts function - 1)
    aborted := Function.update spp.aborted function true }

/-- `napi_release_threadsafe_function` with `napi_tsfn_abort`. -/
def abort (spp : SppReading) (function : Nat) : Option SppReading :=
  if spp.threadCounts function = 0 then none else some (spp.withAborted function)

/-- The new registration replaces the old one. -/
def register (spp : SppReading) : SppReading :=
  { spp with
    sppReadFlag := true
    callbackInfo := some spp.count
    count := spp.count + 1
    earlierReceived := spp.earlierReceived ++ spp.received
    earlierDelivered := spp.earlierDelivered ++ spp.delivered
    received := []
    delivered := [] }

/-- The function of a registration replaces the old one and the thread is started. -/
def startReading (spp : SppReading) (registration : Nat) : SppReading :=
  { spp with
    sppReadThreadSafeFunc := some registration
    threadCounts := Function.update spp.threadCounts registration 1
    readers := Function.update spp.readers registration .starting }

/-- `CheckSppClientOn` -/
def on (spp : SppReading) : SppReading :=
  if spp.closed ∨ spp.sppReadFlag then spp
  else
    match spp.sppReadThreadSafeFunc with
    | none => spp.register.startReading spp.count
    | some function =>
        match spp.register.abort function with
        | none => spp.register
        | some aborted => aborted.startReading spp.count

/-- `CheckSppClientOff`, which fails without a function. -/
def off (spp : SppReading) : SppReading :=
  if spp.closed then spp
  else
    match spp.sppReadThreadSafeFunc.bind spp.abort with
    | none => spp
    | some aborted =>
        { aborted with
          sppReadThreadSafeFunc := none
          callbackInfo := none
          sppReadFlag := false }

def close (spp : SppReading) : SppReading :=
  if spp.closed then spp
  else { (spp.sppReadThreadSafeFunc.bind spp.abort).getD spp with closed := true }

/-- The checks at the start of `SppRead`. -/
def start (spp : SppReading) (reader : Nat) : SppReading :=
  spp.setReader reader
    (if ¬ spp.closed ∧ spp.sppReadFlag ∧ spp.callbackInfo.isSome then .reading else .ended)

def receive (spp : SppReading) (reader : Nat) (chunk : SppChunk) : SppReading :=
  { spp.setReader reader (.holding chunk) with received := spp.received ++ [chunk] }

/-- The thread ends where the registration is gone, and the data with it. -/
def push (spp : SppReading) (reader : Nat) (chunk : SppChunk) : SppReading :=
  match spp.sppReadFlag, spp.callbackInfo with
  | true, some info =>
      { spp.setReader reader (.pushed info) with
        buffers := Function.update spp.buffers info (spp.buffers info ++ [chunk]) }
  | _, _ => spp.setReader reader .ended

def acquire (spp : SppReading) (reader info : Nat) : SppReading :=
  match spp.sppReadThreadSafeFunc with
  | none => spp.setReader reader .ended
  | some function =>
      if spp.aborted function ∨ spp.threadCounts function = 0 then spp.setReader reader .ended
      else
        { spp.setReader reader (.acquired info) with
          threadCounts := Function.update spp.threadCounts function (spp.threadCounts function + 1) }

def call (spp : SppReading) (reader info : Nat) : SppReading :=
  match spp.sppReadThreadSafeFunc with
  | none => spp.setReader reader .ended
  | some function =>
      if spp.aborted function then spp.setReader reader .ended
      else
        { spp.setReader reader (.called info) with
          calls := Function.update spp.calls function (spp.calls function ++ [info]) }

def release (spp : SppReading) (reader : Nat) : SppReading :=
  match spp.sppReadThreadSafeFunc with
  | none => spp.setReader reader .ended
  | some function =>
      if spp.threadCounts function = 0 then spp.setReader reader .ended
      else
        { spp.setReader reader .reading with
          threadCounts := Function.update spp.threadCounts function (spp.threadCounts function - 1) }

/-- Somebody holds the registration. -/
def Alive (spp : SppReading) (info : Nat) : Prop :=
  spp.callbackInfo = some info ∨ ∃ reader < spp.count, (spp.readers reader).info = some info

instance (spp : SppReading) (info : Nat) : Decidable (spp.Alive info) := by
  unfold Alive
  infer_instance

/-- `PopData` and the call of the callback. -/
def popData (spp : SppReading) (info : Nat) : SppReading :=
  match spp.buffers info with
  | [] => spp
  | chunk :: rest =>
      let popped := { spp with buffers := Function.update spp.buffers info rest }
      if l2capSocketBufferSize < chunk.length then popped
      else { popped with delivered := popped.delivered ++ [chunk] }

/-- `NapiThreadSafeFuncCallJs`. An aborted function has no callback. -/
def callJs (spp : SppReading) (function info : Nat) : SppReading :=
  if spp.aborted function then spp
  else if spp.Alive info then spp.popData info
  else { spp with crashed := true }

def step (spp : SppReading) : SppReadEvent → Option SppReading
  | .on => some spp.on
  | .off => some spp.off
  | .close => some spp.close
  | .start reader =>
      match spp.readers reader with
      | .starting => some (spp.start reader)
      | _ => none
  | .receive reader chunk =>
      match spp.readers reader with
      | .reading =>
          if chunk = [] ∨ l2capSocketBufferSize < chunk.length then none
          else some (spp.receive reader chunk)
      | _ => none
  | .fail reader =>
      match spp.readers reader with
      | .reading => some (spp.setReader reader .ended)
      | _ => none
  | .push reader =>
      match spp.readers reader with
      | .holding chunk => some (spp.push reader chunk)
      | _ => none
  | .acquire reader =>
      match spp.readers reader with
      | .pushed info => some (spp.acquire reader info)
      | _ => none
  | .call reader =>
      match spp.readers reader with
      | .acquired info => some (spp.call reader info)
      | _ => none
  | .release reader =>
      match spp.readers reader with
      | .called _ => some (spp.release reader)
      | _ => none
  | .dispatch function =>
      match spp.calls function with
      | [] => none
      | info :: rest =>
          some ({ spp with calls := Function.update spp.calls function rest }.callJs function info)

/-- A script that registers has seen the threads of its earlier registrations end. -/
def WaitsForReaders (spp : SppReading) : SppReadEvent → Prop
  | .on => ∀ reader < spp.count, spp.readers reader = .ended
  | _ => True

instance (spp : SppReading) (event : SppReadEvent) : Decidable (spp.WaitsForReaders event) := by
  cases event <;> unfold WaitsForReaders <;> infer_instance

/-- The data that was read is handed over in order. -/
structure InOrder (spp : SppReading) : Prop where
  /-- No registration is used after it was freed. -/
  sound : spp.crashed = false
  /-- The callbacks got data that was read, in this order and none of it twice. -/
  ordered : (spp.earlierDelivered ++ spp.delivered).Sublist (spp.earlierReceived ++ spp.received)
  /-- While a registration lasts, its callback has got all data but for what is on the way. -/
  complete : spp.closed = false → ∀ info, spp.callbackInfo = some info →
    spp.received = spp.delivered ++ spp.buffers info ++ (spp.readers info).inHand
  /-- What is on the way will be handed over by the calls that are queued or still to be made. -/
  calledFor : spp.closed = false → ∀ info, spp.callbackInfo = some info →
    (spp.buffers info).length = (spp.calls info).length + (spp.readers info).toCall

/-! ### What guarded runs keep -/

/-- What holds between the registrations too. -/
structure Kept (spp : SppReading) : Prop where
  fresh : ∀ number, spp.count ≤ number →
    spp.readers number = .ended ∧ spp.buffers number = [] ∧ spp.calls number = [] ∧
      spp.aborted number = false
  /-- Only the thread of the last registration may be running. -/
  alone : ∀ reader, spp.readers reader ≠ .ended → reader + 1 = spp.count
  /-- The earlier functions are aborted. -/
  older : ∀ function, function + 1 < spp.count → spp.aborted function = true
  infoBelow : ∀ info, spp.callbackInfo = some info → info < spp.count
  functionBelow : ∀ function, spp.sppReadThreadSafeFunc = some function → function < spp.count
  sound : spp.crashed = false
  earlierOrdered : spp.earlierDelivered.Sublist spp.earlierReceived
  ordered : spp.delivered <+: spp.received
  /-- What was read fitted the buffer of a thread. -/
  sized : ∀ chunk ∈ spp.received, chunk.length ≤ l2capSocketBufferSize

/-- The registration is the one of the open socket. -/
structure Current (spp : SppReading) (info : Nat) : Prop where
  opened : spp.closed = false
  flagged : spp.sppReadFlag = true
  registered : spp.callbackInfo = some info
  function : spp.sppReadThreadSafeFunc = some info
  last : info + 1 = spp.count
  running : spp.aborted info = false

/-- The books of a registration are balanced. -/
structure Balanced (spp : SppReading) (info : Nat) : Prop where
  counted : spp.threadCounts info = (spp.readers info).toRelease + 1
  ownCalls : ∀ passed ∈ spp.calls info, passed = info
  ownInfo : ∀ held, (spp.readers info).info = some held → held = info
  calledFor : (spp.buffers info).length = (spp.calls info).length + (spp.readers info).toCall
  complete : spp.received = spp.delivered ++ spp.buffers info ++ (spp.readers info).inHand

/-- A registration lasts. -/
structure Lasts (spp : SppReading) (info : Nat) : Prop extends Current spp info, Balanced spp info

/-- No registration lasts. -/
structure Over (spp : SppReading) : Prop where
  aborted : ∀ function < spp.count, spp.aborted function = true
  ended : spp.closed = true ∨
    spp.sppReadFlag = false ∧ spp.callbackInfo = none ∧ spp.sppReadThreadSafeFunc = none

def Ordered (spp : SppReading) : Prop :=
  spp.Kept ∧ ((∃ info, spp.Lasts info) ∨ spp.Over)

/-- At the start nothing has been registered, so nothing lasts and nothing has been read. -/
theorem ordered_start : Ordered {} := by
  refine ⟨⟨?_, ?_, ?_, ?_, ?_, rfl, List.Sublist.refl [], List.prefix_refl [], ?_⟩, .inr ⟨?_, ?_⟩⟩ <;> simp

variable {spp : SppReading}

/-- An ordered state hands the data over in order. Where a registration lasts, its balanced
books give the rest; where none does, the earlier ones are all that counts. -/
theorem Ordered.inOrder (ordered : spp.Ordered) : spp.InOrder := by
  obtain ⟨kept, state⟩ := ordered
  have lasting (opened : spp.closed = false) {info : Nat} (registered : spp.callbackInfo = some info) :
      spp.Lasts info := by
    rcases state with ⟨last, lasts⟩ | isOver
    · cases registered.symm.trans lasts.registered
      exact lasts
    · rcases isOver.ended with closed | ⟨-, none, -⟩
      · simp [opened] at closed
      · simp [registered] at none
  refine ⟨kept.sound, kept.earlierOrdered.append kept.ordered.sublist, ?_, ?_⟩
  · intro opened info registered
    exact (lasting opened registered).complete
  · intro opened info registered
    exact (lasting opened registered).calledFor

/-- The thread of the last registration has gone on, and the script has got nothing. -/
structure GoesOn (reader : Nat) (before after : SppReading) : Prop where
  closed : after.closed = before.closed
  flag : after.sppReadFlag = before.sppReadFlag
  callbackInfo : after.callbackInfo = before.callbackInfo
  function : after.sppReadThreadSafeFunc = before.sppReadThreadSafeFunc
  count : after.count = before.count
  aborted : after.aborted = before.aborted
  crashed : after.crashed = before.crashed
  earlierReceived : after.earlierReceived = before.earlierReceived
  earlierDelivered : after.earlierDelivered = before.earlierDelivered
  delivered : after.delivered = before.delivered
  received : ∃ more, after.received = before.received ++ more ∧
    ∀ chunk ∈ more, chunk.length ≤ l2capSocketBufferSize
  others : ∀ other, other ≠ reader → after.readers other = before.readers other
  buffers : ∀ number, before.count ≤ number → after.buffers number = before.buffers number
  calls : ∀ number, before.count ≤ number → after.calls number = before.calls number

/-- A thread that has gone on keeps what holds between the registrations. Its own number is
below the counter because it was the thread of the last registration. -/
theorem GoesOn.kept {reader : Nat} {after : SppReading} (goesOn : GoesOn reader spp after)
    (kept : spp.Kept) (runs : spp.readers reader ≠ .ended) : after.Kept where
  fresh number above := by
    rw [goesOn.count] at above
    have last := kept.alone reader runs
    rw [goesOn.others number (by omega), goesOn.buffers number above, goesOn.calls number above, goesOn.aborted]
    exact kept.fresh number above
  alone other otherRuns := by
    rw [goesOn.count]
    by_cases same : other = reader
    · rw [same]
      exact kept.alone reader runs
    · rw [goesOn.others other same] at otherRuns
      exact kept.alone other otherRuns
  older := by
    rw [goesOn.count, goesOn.aborted]
    exact kept.older
  infoBelow := by
    rw [goesOn.count, goesOn.callbackInfo]
    exact kept.infoBelow
  functionBelow := by
    rw [goesOn.count, goesOn.function]
    exact kept.functionBelow
  sound := goesOn.crashed.trans kept.sound
  earlierOrdered := by
    rw [goesOn.earlierDelivered, goesOn.earlierReceived]
    exact kept.earlierOrdered
  ordered := by
    obtain ⟨more, received, -⟩ := goesOn.received
    rw [goesOn.delivered, received]
    exact kept.ordered.trans (List.prefix_append _ more)
  sized chunk present := by
    obtain ⟨more, received, sized⟩ := goesOn.received
    rw [received, List.mem_append] at present
    rcases present with before | new
    · exact kept.sized chunk before
    · exact sized chunk new

/-- A thread that has gone on begins no registration. -/
theorem GoesOn.isOver {reader : Nat} {after : SppReading} (goesOn : GoesOn reader spp after)
    (isOver : spp.Over) : after.Over where
  aborted := by
    rw [goesOn.count, goesOn.aborted]
    exact isOver.aborted
  ended := by
    rw [goesOn.closed, goesOn.flag, goesOn.callbackInfo, goesOn.function]
    exact isOver.ended

/-- A thread that has gone on leaves the registration of the open socket as it is. -/
theorem GoesOn.current {reader info : Nat} {after : SppReading} (goesOn : GoesOn reader spp after)
    (current : spp.Current info) : after.Current info where
  opened := goesOn.closed.trans current.opened
  flagged := goesOn.flag.trans current.flagged
  registered := goesOn.callbackInfo.trans current.registered
  function := goesOn.function.trans current.function
  last := by
    rw [goesOn.count]
    exact current.last
  running := by
    rw [goesOn.aborted]
    exact current.running

/-- A step of a thread keeps the order if it keeps the books of a registration that lasts. -/
theorem Ordered.goesOn {reader : Nat} {after : SppReading} (ordered : spp.Ordered)
    (runs : spp.readers reader ≠ .ended) (goesOn : GoesOn reader spp after)
    (balanced : spp.Lasts reader → after.Balanced reader) : after.Ordered := by
  obtain ⟨kept, state⟩ := ordered
  refine ⟨goesOn.kept kept runs, ?_⟩
  rcases state with ⟨info, lasting⟩ | isOver
  · have same : info = reader := by
      have last := kept.alone reader runs
      have lastInfo := lasting.last
      omega
    subst same
    exact .inl ⟨info, goesOn.current lasting.toCurrent, balanced lasting⟩
  · exact .inr (goesOn.isOver isOver)

/-! ### The steps of a thread -/

/-- A thread that was written is the one that is read. -/
@[simp] theorem setReader_self (spp : SppReading) (reader : Nat) (now : SppReader) :
    (spp.setReader reader now).readers reader = now := by
  simp [setReader]

/-- A thread alone goes on when it is written, for everything else stays. -/
theorem goesOn_setReader (spp : SppReading) (reader : Nat) (now : SppReader) :
    GoesOn reader spp (spp.setReader reader now) where
  closed := rfl
  flag := rfl
  callbackInfo := rfl
  function := rfl
  count := rfl
  aborted := rfl
  crashed := rfl
  earlierReceived := rfl
  earlierDelivered := rfl
  delivered := rfl
  received := ⟨[], (List.append_nil _).symm, by simp⟩
  others other different := by simp [setReader, different]
  buffers _ _ := rfl
  calls _ _ := rfl

/-- The thread goes on to where it has the same in hand and the same to do. The books speak of
the thread only through these, so they stay balanced. -/
theorem Balanced.setReader {info : Nat} (balanced : spp.Balanced info) (now : SppReader)
    (sameHand : now.inHand = (spp.readers info).inHand)
    (sameCall : now.toCall = (spp.readers info).toCall)
    (sameRelease : now.toRelease = (spp.readers info).toRelease)
    (ownInfo : ∀ held, now.info = some held → held = info) :
      (spp.setReader info now).Balanced info where
  ownInfo := by rwa [setReader_self]
  counted := by
    rw [setReader_self, sameRelease]
    exact balanced.counted
  calledFor := by
    rw [setReader_self, sameCall]
    exact balanced.calledFor
  complete := by
    rw [setReader_self, sameHand]
    exact balanced.complete
  ownCalls := balanced.ownCalls

/-- A thread that starts stays the thread of the registration: it has read nothing yet. -/
theorem Ordered.start {reader : Nat} (ordered : spp.Ordered)
    (found : spp.readers reader = .starting) :
    (spp.start reader).Ordered := by
  apply ordered.goesOn (by simp [found]) (goesOn_setReader spp reader _)
  intro lasts
  apply lasts.setReader
  case ownInfo => split <;> simp [SppReader.info]
  all_goals
    rw [found]
    split <;> rfl

/-- A read that fails ends the thread. The registration lasts, and no more data comes in. -/
theorem Ordered.fail {reader : Nat} (ordered : spp.Ordered)
    (found : spp.readers reader = .reading) :
    (spp.setReader reader .ended).Ordered := by
  apply ordered.goesOn (by simp [found]) (goesOn_setReader spp reader _)
  intro lasts
  apply lasts.setReader <;> simp [found, SppReader.inHand, SppReader.toCall, SppReader.toRelease,
    SppReader.info]

/-- A read that succeeds puts the data into the hand of the thread. The books stay balanced, as
what is in hand counts as received. -/
theorem Ordered.receive {reader : Nat} {chunk : SppChunk} (ordered : spp.Ordered)
    (found : spp.readers reader = .reading) (sized : chunk.length ≤ l2capSocketBufferSize) :
    (spp.receive reader chunk).Ordered := by
  have goesOn : GoesOn reader spp (spp.receive reader chunk) :=
    { goesOn_setReader spp reader (.holding chunk) with received := ⟨[chunk], rfl, by simpa using sized⟩ }
  apply ordered.goesOn (by simp [found]) goesOn
  intro lasts
  have there : (spp.receive reader chunk).readers reader = .holding chunk := setReader_self spp reader _
  constructor
  case complete =>
    have before := lasts.complete
    rw [there]
    simp only [found, SppReader.inHand, List.append_nil] at before
    simp [SppReading.receive, SppReading.setReader, before, SppReader.inHand]
  case counted =>
    have before := lasts.counted
    rw [there]
    rwa [found] at before
  case calledFor =>
    have before := lasts.calledFor
    rw [there]
    rwa [found] at before
  case ownInfo =>
    rw [there]
    simp [SppReader.info]
  case ownCalls => exact lasts.ownCalls

/-- The thread moves what it has in hand into its buffer, so the received data stays the
delivered, the buffered and the data in hand. -/
theorem Ordered.push {reader : Nat} {chunk : SppChunk} (ordered : spp.Ordered)
    (found : spp.readers reader = .holding chunk) : (spp.push reader chunk).Ordered := by
  have runs : spp.readers reader ≠ .ended := by simp [found]
  simp only [SppReading.push]
  split
  · next info flagged registered =>
    have below := ordered.1.infoBelow info registered
    apply ordered.goesOn runs
    · exact
        { goesOn_setReader spp reader (.pushed info) with
          buffers := fun number above => Function.update_of_ne (by omega) _ _ }
    · intro lasts
      cases lasts.registered.symm.trans registered
      constructor
      case complete =>
        have before := lasts.complete
        rw [found] at before
        simp only [SppReader.inHand] at before
        simp [SppReading.setReader, before, SppReader.inHand]
      case counted =>
        have before := lasts.counted
        rw [found] at before
        simpa [SppReading.setReader, SppReader.toRelease] using before
      case calledFor =>
        have before := lasts.calledFor
        rw [found] at before
        simpa [SppReading.setReader, SppReader.toCall] using before
      case ownInfo => simp [SppReading.setReader, SppReader.info]
      case ownCalls => exact lasts.ownCalls
  · next gone =>
    apply ordered.goesOn runs (goesOn_setReader spp reader _)
    intro lasts
    exact absurd lasts.registered (gone reader lasts.flagged)

/-- The thread takes the function, which counts it. The function is not aborted while the
registration lasts. -/
theorem Ordered.acquire {reader info : Nat} (ordered : spp.Ordered)
    (found : spp.readers reader = .pushed info) : (spp.acquire reader info).Ordered := by
  have runs : spp.readers reader ≠ .ended := by simp [found]
  simp only [SppReading.acquire]
  split
  · next none =>
    apply ordered.goesOn runs (goesOn_setReader spp reader _)
    intro lasts
    simp [lasts.function] at none
  · next function current =>
    split
    · next refused =>
      apply ordered.goesOn runs (goesOn_setReader spp reader _)
      intro lasts
      cases lasts.function.symm.trans current
      simp [lasts.running, lasts.counted] at refused
    · apply ordered.goesOn runs
      · exact { goesOn_setReader spp reader (.acquired info) with }
      intro lasts
      cases lasts.function.symm.trans current
      have own := lasts.ownInfo info (by simp [found, SppReader.info])
      constructor
      case complete =>
        have before := lasts.complete
        rw [found] at before
        simpa [SppReading.setReader, SppReader.inHand] using before
      case counted =>
        have before := lasts.counted
        rw [found] at before
        simpa [SppReading.setReader, SppReader.toRelease] using before
      case calledFor =>
        have before := lasts.calledFor
        rw [found] at before
        simpa [SppReading.setReader, SppReader.toCall] using before
      case ownInfo => simp [SppReading.setReader, SppReader.info, own]
      case ownCalls => exact lasts.ownCalls

/-- The thread queues a call for the data that it has buffered, so the calls still make up the
buffer. -/
theorem Ordered.call {reader info : Nat} (ordered : spp.Ordered)
    (found : spp.readers reader = .acquired info) : (spp.call reader info).Ordered := by
  have runs : spp.readers reader ≠ .ended := by simp [found]
  simp only [SppReading.call]
  split
  · next none =>
    apply ordered.goesOn runs (goesOn_setReader spp reader _)
    intro lasts
    simp [lasts.function] at none
  · next function current =>
    have below := ordered.1.functionBelow function current
    split
    · next aborted =>
      apply ordered.goesOn runs (goesOn_setReader spp reader _)
      intro lasts
      cases lasts.function.symm.trans current
      simp [lasts.running] at aborted
    · apply ordered.goesOn runs
      · exact
          { goesOn_setReader spp reader (.called info) with
            calls := fun number above => Function.update_of_ne (by omega) _ _ }
      · intro lasts
        cases lasts.function.symm.trans current
        have own := lasts.ownInfo info (by simp [found, SppReader.info])
        constructor
        case complete =>
          have before := lasts.complete
          rw [found] at before
          simpa [SppReading.setReader, SppReader.inHand] using before
        case counted =>
          have before := lasts.counted
          rw [found] at before
          simpa [SppReading.setReader, SppReader.toRelease] using before
        case calledFor =>
          have before := lasts.calledFor
          rw [found] at before
          simpa [SppReading.setReader, SppReader.toCall] using before
        case ownCalls =>
          intro passed queued
          simp only [Function.update_self, List.mem_append, List.mem_singleton] at queued
          rcases queued with before | rfl
          · exact lasts.ownCalls passed before
          · exact own
        case ownInfo => simp [SppReading.setReader, SppReader.info, own]

/-- The thread gives the function back, which the count has allowed for. The registration has a
count of its own, so the function is not destroyed under it. -/
theorem Ordered.release {reader info : Nat} (ordered : spp.Ordered)
    (found : spp.readers reader = .called info) : (spp.release reader).Ordered := by
  have runs : spp.readers reader ≠ .ended := by simp [found]
  simp only [SppReading.release]
  split
  · next none =>
    apply ordered.goesOn runs (goesOn_setReader spp reader _)
    intro lasts
    simp [lasts.function] at none
  · next function current =>
    split
    · next refused =>
      apply ordered.goesOn runs (goesOn_setReader spp reader _)
      intro lasts
      cases lasts.function.symm.trans current
      simp [lasts.counted] at refused
    · apply ordered.goesOn runs
      · exact { goesOn_setReader spp reader .reading with }
      intro lasts
      cases lasts.function.symm.trans current
      constructor
      case complete =>
        have before := lasts.complete
        rw [found] at before
        simpa [SppReading.setReader, SppReader.inHand] using before
      case counted =>
        have before := lasts.counted
        rw [found] at before
        simp [SppReading.setReader, SppReader.toRelease, before]
      case calledFor =>
        have before := lasts.calledFor
        rw [found] at before
        simpa [SppReading.setReader, SppReader.toCall] using before
      case ownInfo => simp [SppReading.setReader, SppReader.info]
      case ownCalls => exact lasts.ownCalls

/-! ### The steps of the script -/

/-- An abort of the function of a registration that lasts succeeds. -/
theorem Lasts.abort {info : Nat} (lasts : spp.Lasts info) :
    spp.abort info = some (spp.withAborted info) := by
  rw [SppReading.abort, if_neg (by simp [lasts.counted])]

/-- With the last function all of them are aborted. -/
theorem Kept.all_aborted {last : Nat} (kept : spp.Kept) (isLast : last + 1 = spp.count) :
    ∀ function < spp.count, (spp.withAborted last).aborted function = true := by
  intro function below
  by_cases same : function = last
  · simp [withAborted, same]
  · simpa [withAborted, same] using kept.older function (by omega)

/-- To abort the function of the last registration keeps what holds between the registrations.
-/
theorem Kept.withAborted {last : Nat} (kept : spp.Kept) (isLast : last + 1 = spp.count) :
    (spp.withAborted last).Kept :=
  { kept with
    fresh := fun number above => by
      have different : number ≠ last := by
        have isAbove : spp.count ≤ number := above
        omega
      simpa [SppReading.withAborted, different] using kept.fresh number above
    older := fun function below => kept.all_aborted isLast function (Nat.lt_of_succ_lt below) }

/-- To take the callback away ends the registration: the function is aborted and the fields are
cleared. Without a registration nothing happens. -/
theorem Ordered.off (ordered : spp.Ordered) : spp.off.Ordered := by
  obtain ⟨kept, state⟩ := ordered
  rcases state with ⟨info, lasts⟩ | isOver
  · have entered : spp.off = { spp.withAborted info with
        sppReadThreadSafeFunc := none
        callbackInfo := none
        sppReadFlag := false } := by
      simp [SppReading.off, lasts.opened, lasts.function, lasts.abort]
    rw [entered]
    refine ⟨?_, .inr ⟨kept.all_aborted lasts.last, .inr ⟨rfl, rfl, rfl⟩⟩⟩
    exact { kept.withAborted lasts.last with infoBelow := by simp, functionBelow := by simp }
  · have unchanged : spp.off = spp := by
      rcases isOver.ended with closed | ⟨-, -, none⟩
      · simp [SppReading.off, closed]
      · simp [SppReading.off, none]
    rw [unchanged]
    exact ⟨kept, .inr isOver⟩

/-- To close the socket ends the registration as well. The fields stay set, but the socket is no
longer open. -/
theorem Ordered.close (ordered : spp.Ordered) : spp.close.Ordered := by
  obtain ⟨kept, state⟩ := ordered
  cases closed : spp.closed with
  | true =>
    have unchanged : spp.close = spp := by simp [SppReading.close, closed]
    rw [unchanged]
    exact ⟨kept, state⟩
  | false =>
    rcases state with ⟨info, lasts⟩ | isOver
    · have entered : spp.close = { spp.withAborted info with closed := true } := by
        simp [SppReading.close, closed, lasts.function, lasts.abort]
      rw [entered]
      exact ⟨{ kept.withAborted lasts.last with }, .inr ⟨kept.all_aborted lasts.last, .inl rfl⟩⟩
    · obtain ⟨-, -, none⟩ := isOver.ended.resolve_left (by simp [closed])
      have entered : spp.close = { spp with closed := true } := by
        simp [SppReading.close, closed, none]
      rw [entered]
      exact ⟨{ kept with }, .inr ⟨isOver.aborted, .inl rfl⟩⟩

/-- A new registration starts with nothing. It is here that the script must have waited for the
threads of the earlier registrations, since the thread of one would go on reading for the next.
-/
theorem Ordered.on (ordered : spp.Ordered)
    (waited : ∀ reader < spp.count, spp.readers reader = .ended) :
    spp.on.Ordered := by
  obtain ⟨kept, state⟩ := ordered
  rcases state with ⟨info, lasts⟩ | isOver
  · have unchanged : spp.on = spp := by simp [SppReading.on, lasts.flagged]
    rw [unchanged]
    exact ⟨kept, .inl ⟨info, lasts⟩⟩
  · rcases isOver.ended with closed | ⟨off, -, none⟩
    · have unchanged : spp.on = spp := by simp [SppReading.on, closed]
      rw [unchanged]
      exact ⟨kept, .inr isOver⟩
    · cases closed : spp.closed with
      | true =>
        have unchanged : spp.on = spp := by simp [SppReading.on, closed]
        rw [unchanged]
        exact ⟨kept, .inr isOver⟩
      | false =>
        have entered : spp.on = spp.register.startReading spp.count := by
          simp [SppReading.on, closed, off, none]
        obtain ⟨-, noBuffer, noCalls, notAborted⟩ := kept.fresh spp.count (Nat.le_refl _)
        rw [entered]
        refine ⟨?_, .inl ⟨spp.count, ?_, ?_⟩⟩
        · constructor
          case fresh =>
            intro number above
            have different : number ≠ spp.count := by
              simp only [startReading, register] at above
              omega
            simpa [startReading, register, different] using
              kept.fresh number (by simp only [startReading, register] at above; omega)
          case alone =>
            intro reader runs
            by_cases new : reader = spp.count
            · rw [new]
              rfl
            · simp only [startReading, register, Function.update_of_ne new] at runs
              by_cases below : reader < spp.count
              · exact absurd (waited reader below) runs
              · exact absurd (kept.fresh reader (by omega)).1 runs
          case older =>
            intro function below
            exact isOver.aborted function (by simp only [startReading, register] at below; omega)
          case infoBelow =>
            intro info registered
            cases registered
            exact Nat.lt_succ_self _
          case functionBelow =>
            intro function current
            cases current
            exact Nat.lt_succ_self _
          case sound => exact kept.sound
          case earlierOrdered => exact kept.earlierOrdered.append kept.ordered.sublist
          case ordered => exact List.prefix_refl []
          case sized => simp [startReading, register]
        · exact ⟨closed, rfl, rfl, rfl, rfl, notAborted⟩
        · constructor <;> simp [startReading, register, noBuffer, noCalls, SppReader.toRelease,
            SppReader.info, SppReader.toCall, SppReader.inHand]

/-- A call that is run finds the data it was made for. -/
theorem Lasts.popData {info : Nat} {rest : List Nat} (kept : spp.Kept) (lasts : spp.Lasts info)
    (queued : spp.calls info = info :: rest) :
    ∃ chunk more, spp.buffers info = chunk :: more ∧ chunk.length ≤ l2capSocketBufferSize := by
  have calledFor := lasts.calledFor
  cases buffered : spp.buffers info with
  | nil =>
    rw [buffered, queued, List.length_nil, List.length_cons] at calledFor
    omega
  | cons chunk more =>
    have present : chunk ∈ spp.received := by
      rw [lasts.complete, buffered]
      simp
    exact ⟨chunk, more, rfl, kept.sized chunk present⟩

/-- A queued call hands over the first data of the buffer. Where the function was aborted
nothing is handed over, and the registration was over. -/
theorem Ordered.dispatch {function passed : Nat} {rest : List Nat} (ordered : spp.Ordered)
    (queued : spp.calls function = passed :: rest) :
    ({ spp with calls := Function.update spp.calls function rest }.callJs function passed).Ordered := by
  obtain ⟨kept, state⟩ := ordered
  have below : function < spp.count := by
    by_contra beyond
    have none := (kept.fresh function (by omega)).2.2.1
    simp [none] at queued
  have fresh (number : Nat) (above : spp.count ≤ number) : number ≠ function := by omega
  cases aborted : spp.aborted function with
  | true =>
    simp only [callJs, aborted, if_true]
    refine ⟨{ kept with fresh := fun number above => ?_ }, ?_⟩
    · simpa [fresh number above] using kept.fresh number above
    · rcases state with ⟨info, lasts⟩ | isOver
      · have different : info ≠ function := by
          rintro rfl
          simp [lasts.running] at aborted
        refine .inl ⟨info, { lasts.toCurrent with }, ?_⟩
        exact
          { lasts.toBalanced with
            ownCalls := by simpa [different] using lasts.ownCalls
            calledFor := by simpa [different] using lasts.calledFor }
      · exact .inr { isOver with }
  | false =>
    rcases state with ⟨info, lasts⟩ | isOver
    · have same : function = info := by
        have last := lasts.last
        by_contra different
        have old := kept.older function (by omega)
        simp [aborted] at old
      subst same
      have own : passed = function := lasts.ownCalls passed (by simp [queued])
      subst own
      obtain ⟨chunk, more, buffered, sized⟩ := lasts.popData kept queued
      have alive : ({ spp with calls := Function.update spp.calls passed rest } : SppReading).Alive passed :=
        .inl lasts.registered
      have fits : ¬ l2capSocketBufferSize < chunk.length := by omega
      have complete := lasts.complete
      have calledFor := lasts.calledFor
      rw [buffered] at complete calledFor
      rw [queued] at calledFor
      simp only [callJs, aborted, Bool.false_eq_true, if_false, alive, if_true, SppReading.popData,
        buffered, fits]
      refine ⟨{ kept with fresh := fun number above => ?_, ordered := ?_ },
        .inl ⟨passed, { lasts.toCurrent with }, ?_⟩⟩
      · simpa [fresh number above] using kept.fresh number above
      · rw [complete]
        simp
      · exact
          { lasts.toBalanced with
            ownCalls := fun other present => lasts.ownCalls other (by
              rw [queued]
              simp only [Function.update_self] at present
              exact List.mem_cons_of_mem _ present)
            calledFor := by
              simp only [List.length_cons] at calledFor
              simp only [Function.update_self]
              omega
            complete := by simp [complete] }
    · simp [isOver.aborted function below] at aborted

/-! ### Runs -/

/-- Every step of a run in which the script waits keeps the order. One case for each step of the
threads, the queue and the script. -/
theorem ordered_step (spp : SppReading) (event : SppReadEvent) (next : SppReading)
    (ordered : spp.Ordered)
    (waits : spp.WaitsForReaders event) (stepped : spp.step event = some next) : next.Ordered := by
  cases event <;> simp only [step] at stepped
  case on =>
    cases stepped
    exact ordered.on waits
  case off =>
    cases stepped
    exact ordered.off
  case close =>
    cases stepped
    exact ordered.close
  case dispatch function =>
    split at stepped
    · cases stepped
    · next passed rest queued =>
      cases stepped
      exact ordered.dispatch queued
  case receive reader chunk =>
    split at stepped
    · next found =>
      split at stepped
      · cases stepped
      · next sized =>
        cases stepped
        exact ordered.receive found (by omega)
    · cases stepped
  all_goals
    split at stepped
    · next found =>
      cases stepped
      first
        | exact ordered.start found
        | exact ordered.fail found
        | exact ordered.push found
        | exact ordered.acquire found
        | exact ordered.call found
        | exact ordered.release found
    · cases stepped

/-- **Data is handed over in the order it was read.** However the threads interleave, if a script
registers again only after the threads of its earlier registrations have ended, then its callbacks get
the data in order and none of it twice; while a registration lasts, nothing is lost and there is a
call for everything that waits; and no registration is used after it was freed. -/
theorem data_in_order (events : List SppReadEvent) (waits : Meets step WaitsForReaders {} events) :
    Always step InOrder {} events :=
  guarded_always ordered_step (fun _ => Ordered.inOrder) {} events ordered_start waits

/-- A script that turns reading off and on after the first thread has ended. -/
theorem data_in_order_again :
    Always step InOrder {}
      [.on, .start 0, .receive 0 [1], .push 0, .off, .acquire 0, .on, .start 1, .receive 1 [2],
        .push 1, .acquire 1,
        .call 1, .dispatch 1] :=
  data_in_order _ (by decide)

/-- Two threads that read from the socket at the same time swap what they have read. -/
example :
    (run step {} [.on, .start 0, .off, .on, .start 1, .receive 0 [1], .receive 1 [2], .push 1,
      .push 0, .acquire 1,
      .call 1, .dispatch 1, .acquire 0, .call 0, .dispatch 1]).map
        (fun spp => (spp.received, spp.delivered)) = some ([[1], [2]], [[2], [1]]) := by
  decide

end SppReading

end BluetoothFramework.Napi
