import BluetoothFramework.Socket.ClientSocket

/-!
# Writing a whole buffer

`WriteDataLoop` and `SppWrite` call `OutputStream::Write` until nothing of the buffer is
left or a call returns no positive number. They take a positive number for the bytes
that were sent, whereas `Write` returns `errno` when `send` fails.

A loop is its pointer, the size that remains and what every call returned and sent. The
bytes behind the end of the buffer are in memory too, so a size that has underflowed is
still the size of a read. `written_exactly_iff` says which answers of `send` the loop
needs: it is exact as long as no `send` that fails leaves a positive `errno`, and no count
turns into another positive one where it is converted to `int`.
-/

namespace BluetoothFramework.Socket

open Runs

/-- The memory from an offset on. -/
def bytes (memory : Nat → UInt8) (offset size : Nat) : ByteString :=
  (List.range size).map fun i => memory (offset + i)

/-- The bytes that the socket takes: as many of each `send` as it returns. -/
def taken (acts : List Act) (ret : Int64) : ByteString :=
  acts.flatMap fun act =>
    match act with
    | .send _ buf => buf.take ret.toInt.toNat
    | _ => []

/-- What a call of `Write` returned, and the bytes that went out in it. -/
structure Written where
  result : Int32
  sent : ByteString
deriving DecidableEq, Repr

/-- The loop of `WriteDataLoop` and `SppWrite`. The pointer is an offset into memory, where
the buffer starts at `0`. -/
structure WriteLoop where
  outputStream : OutputStream
  totalBuf : Nat := 0
  totalSize : UInt64
  isOK : Bool := false
  failed : Bool := false
  writes : List Written := []
deriving DecidableEq

namespace WriteLoop

/-- The loop at its start, for a buffer of this size. -/
def start (outputStream : OutputStream) (totalSize : UInt64) : WriteLoop where
  outputStream := outputStream
  totalSize := totalSize

/-- The body of the loop. -/
def body (memory : Nat → UInt8) (loop : WriteLoop) (answers : WriteAnswers) : WriteLoop :=
  let outcome := loop.outputStream.write (bytes memory loop.totalBuf loop.totalSize.toNat) answers
  let called := { loop with
    outputStream := outcome.object
    writes := loop.writes ++ [Written.mk outcome.result (taken outcome.acts answers.ret)] }
  if outcome.result ≤ 0 then { called with failed := true }
  else
    { called with
      totalSize := loop.totalSize - outcome.result.toInt64.toUInt64
      totalBuf := loop.totalBuf + outcome.result.toInt64.toUInt64.toNat
      isOK := true }

/-- What `WriteDataLoop` returns, once it does. -/
def writeDataLoop (loop : WriteLoop) : Option Int32 :=
  if loop.failed then some btErrSppIo
  else if loop.totalSize = 0 then some btNoError
  else none

/-- The error that `SppWrite` throws and what it returns, once it does. -/
def sppWrite (loop : WriteLoop) : Option (Int32 × Bool) :=
  if loop.failed then some (btErrSppIo, false)
  else if loop.totalSize = 0 then some (btNoError, loop.isOK)
  else none

/-- `send` returns a count of at most the size that is asked for, or `-1`. -/
def Possible (totalSize : UInt64) (ret : Int64) : Prop :=
  ret = -1 ∨ 0 ≤ ret.toInt ∧ ret.toInt ≤ totalSize.toNat

instance (totalSize : UInt64) (ret : Int64) : Decidable (Possible totalSize ret) :=
  inferInstanceAs (Decidable (_ ∨ _ ∧ _))

/-- One turn of the loop, until it ends. -/
def step (memory : Nat → UInt8) (loop : WriteLoop) (answers : WriteAnswers) : Option WriteLoop :=
  if loop.writeDataLoop = none ∧ Possible loop.totalSize answers.ret then some (loop.body memory answers)
  else none

/-- Everything that went out. -/
def sent (loop : WriteLoop) : ByteString :=
  loop.writes.flatMap Written.sent

/-- The loop has done right so far. The pointer and the size that remains make up the whole
size, so neither has passed its end; what went out is a prefix of the buffer, the part that
the pointer has passed as long as nothing failed; every call that returned a positive number
sent so many bytes; and every call was made while something was left, so there are no more
calls than bytes. -/
structure Exact (memory : Nat → UInt8) (size : Nat) (loop : WriteLoop) : Prop where
  fits : loop.totalBuf + loop.totalSize.toNat = size
  running : loop.failed = false → loop.sent = bytes memory 0 loop.totalBuf ∧
    loop.writes.length ≤ loop.totalBuf
  isPrefix : ∃ count ≤ size, loop.sent = bytes memory 0 count
  honest : ∀ written ∈ loop.writes, 0 < written.result → written.sent.length = written.result.toInt
  bounded : loop.writes.length ≤ size
  whole : loop.writeDataLoop = some btNoError → loop.sent = bytes memory 0 size
  wholeSpp : ∀ isOK, loop.sppWrite = some (btNoError, isOK) → loop.sent = bytes memory 0 size

end WriteLoop

/-- `Write` gets as far as its `send`. -/
def OutputStream.ReachesSend (stream : OutputStream) (length : Nat)
    (answers : WriteAnswers) : Prop :=
  stream.socketFd ≠ -1 ∧ ¬ (answers.queueFull length = true ∧ answers.uid = aamUid) ∧
    ¬ (answers.uid = softbusUid ∧ stream.setTimeoutFlag = false ∧ answers.timeoutRet < 0)

/-- The answer to a `send` fits the convention of the loops: a count keeps its value as an
`int`, or is no positive one there, and a failure leaves no positive `errno`. -/
def WriteAnswers.Conforms (answers : WriteAnswers) : Prop :=
  (0 < answers.ret → answers.ret.toInt32.toInt = answers.ret.toInt ∨ answers.ret.toInt32 ≤ 0) ∧
    (answers.ret ≤ 0 → answers.errno ≤ 0)

/-- So many bytes are read as were asked for. -/
@[simp] theorem length_bytes (memory : Nat → UInt8) (offset size : Nat) :
    (bytes memory offset size).length = size := by
  simp [bytes]

/-- The first bytes of a stretch are a shorter stretch. -/
theorem take_bytes (memory : Nat → UInt8) (offset : Nat) {count size : Nat} (fits : count ≤ size) :
    (bytes memory offset size).take count = bytes memory offset count := by
  rw [bytes, ← List.map_take, List.take_range, Nat.min_eq_left fits]
  rfl

/-- Two stretches that follow each other are one. -/
theorem bytes_append (memory : Nat → UInt8) (first second : Nat) :
    bytes memory 0 first ++ bytes memory first second = bytes memory 0 (first + second) := by
  simp only [bytes, List.range_add, List.map_append, List.map_map, Nat.zero_add]
  rfl

namespace OutputStream

/-- A `Write` that does not reach its `send` returns no positive number. It sends nothing then,
so the loop ends with what has been sent before. -/
theorem write_early {stream : OutputStream} {buf : ByteString} {answers : WriteAnswers}
    (early : ¬ stream.ReachesSend buf.length answers) :
    (stream.write buf answers).result ≤ 0 ∧
      taken (stream.write buf answers).acts answers.ret = [] := by
  have failure : (-1 : Int32) ≤ 0 := by decide
  have badRet : aamBadRet ≤ 0 := by decide
  rw [write]
  split
  · exact ⟨failure, rfl⟩
  split
  · exact ⟨badRet, rfl⟩
  split
  · split
    · exact ⟨failure, rfl⟩
    · rename_i isOpen notFull softbus inTime
      simp only [Bool.and_eq_true, decide_eq_true_eq, Bool.not_eq_true'] at notFull softbus
      exact absurd ⟨isOpen, notFull, fun late => inTime late.2.2⟩ early
  · rename_i isOpen notFull notSoftbus
    simp only [Bool.and_eq_true, decide_eq_true_eq, Bool.not_eq_true'] at notFull notSoftbus
    exact absurd ⟨isOpen, notFull, fun late => notSoftbus ⟨late.1, late.2.1⟩⟩ early

/-- A `Write` that reaches its `send` returns the count, or `errno` without one. The positive
`errno` is what the loop then takes for a count of bytes. -/
theorem write_sends {stream : OutputStream} {buf : ByteString} {answers : WriteAnswers}
    (reaches : stream.ReachesSend buf.length answers) :
    (stream.write buf answers).result =
      (if answers.ret ≤ 0 then answers.errno else answers.ret.toInt32) ∧
      taken (stream.write buf answers).acts answers.ret = buf.take answers.ret.toInt.toNat := by
  have sends (other : OutputStream) (acts : List Act) (quiet : taken acts answers.ret = []) :
      (other.send buf answers acts).result =
        (if answers.ret ≤ 0 then answers.errno else answers.ret.toInt32) ∧
        taken (other.send buf answers acts).acts answers.ret = buf.take answers.ret.toInt.toNat := by
    have last : taken (acts ++ [.send other.socketFd buf]) answers.ret =
        buf.take answers.ret.toInt.toNat := by
      rw [taken, List.flatMap_append, ← taken, quiet]
      simp
    rw [send]
    split
    · exact ⟨rfl, last⟩
    · exact ⟨rfl, last⟩
  obtain ⟨isOpen, notFull, inTime⟩ := reaches
  rw [write, if_neg isOpen, if_neg (by simpa using notFull)]
  split
  · rename_i softbus
    simp only [Bool.and_eq_true, decide_eq_true_eq, Bool.not_eq_true'] at softbus
    rw [if_neg fun late => inTime ⟨softbus.1, softbus.2, late⟩]
    exact sends _ _ rfl
  · exact sends _ _ rfl

end OutputStream

namespace WriteLoop

/-- Every `send` that the loop reaches is answered so. -/
def SendConforms (loop : WriteLoop) (answers : WriteAnswers) : Prop :=
  loop.outputStream.ReachesSend loop.totalSize.toNat answers → answers.Conforms

/-- The call of `Write` in a turn: it returns no positive number and sends nothing, or it
sends what it was asked to. -/
structure Turn (memory : Nat → UInt8) (loop : WriteLoop) (answers : WriteAnswers)
    (written : Written) :
    Prop where
  early : ¬ loop.outputStream.ReachesSend loop.totalSize.toNat answers →
    written.result ≤ 0 ∧ written.sent = []
  sends : loop.outputStream.ReachesSend loop.totalSize.toNat answers →
    written.result = (if answers.ret ≤ 0 then answers.errno else answers.ret.toInt32) ∧
      written.sent = bytes memory loop.totalBuf answers.ret.toInt.toNat

/-- What the body's call of `Write` returned and sent. -/
def written (memory : Nat → UInt8) (loop : WriteLoop) (answers : WriteAnswers) : Written :=
  let outcome := loop.outputStream.write (bytes memory loop.totalBuf loop.totalSize.toNat) answers
  ⟨outcome.result, taken outcome.acts answers.ret⟩

/-- Every call of `Write` is a turn, given that `send` returns no more than it was asked to
send. -/
theorem turn {memory : Nat → UInt8} {loop : WriteLoop} {answers : WriteAnswers}
    (possible : Possible loop.totalSize answers.ret) :
    Turn memory loop answers (loop.written memory answers) where
  early := by
    intro early
    apply OutputStream.write_early
    rwa [length_bytes]
  sends := by
    intro reaches
    have fits : answers.ret.toInt.toNat ≤ loop.totalSize.toNat := by
      obtain failed | ⟨-, atMost⟩ := possible
      · rw [failed]
        exact Nat.zero_le _
      · omega
    obtain ⟨result, sent⟩ := @OutputStream.write_sends loop.outputStream
      (bytes memory loop.totalBuf loop.totalSize.toNat) answers (by rwa [length_bytes])
    exact ⟨result, sent.trans (take_bytes memory _ fits)⟩

/-- The loop after a call that returned no positive number. -/
theorem body_stops {memory : Nat → UInt8} {loop : WriteLoop} {answers : WriteAnswers}
    (stops : (loop.written memory answers).result ≤ 0) :
    loop.body memory answers =
      { loop with
        outputStream := (loop.body memory answers).outputStream
        writes := loop.writes ++ [loop.written memory answers]
        failed := true } := by
  rw [written] at stops
  simp only [body, if_pos stops, written]

/-- The loop after a call that returned a positive number. -/
theorem body_goes_on {memory : Nat → UInt8} {loop : WriteLoop} {answers : WriteAnswers}
    (positive : ¬ (loop.written memory answers).result ≤ 0) :
    loop.body memory answers =
      { loop with
        outputStream := (loop.body memory answers).outputStream
        writes := loop.writes ++ [loop.written memory answers]
        totalSize := loop.totalSize - (loop.written memory answers).result.toInt64.toUInt64
        totalBuf := loop.totalBuf + (loop.written memory answers).result.toInt64.toUInt64.toNat
        isOK := true } := by
  rw [written] at positive
  simp only [body, if_neg positive, written]

/-- What the loop has sent grows by what the call has sent. -/
theorem sent_append {loop next : WriteLoop} {written : Written}
    (called : next.writes = loop.writes ++ [written]) :
    next.sent = loop.sent ++ written.sent := by
  rw [sent, called, List.flatMap_append, ← sent]
  simp

/-- A loop that has not ended has bytes left and has not failed. -/
theorem writeDataLoop_eq_none {loop : WriteLoop} :
    loop.writeDataLoop = none ↔ loop.failed = false ∧ loop.totalSize ≠ 0 := by
  rw [writeDataLoop]
  cases loop.failed with
  | true => simp
  | false => simp

/-- The result of the loop is `BT_NO_ERROR` only with nothing left and nothing failed. -/
theorem ended_of_no_error {loop : WriteLoop}
    (ended : loop.writeDataLoop = some btNoError ∨ ∃ isOK, loop.sppWrite = some (btNoError, isOK)) :
    loop.failed = false ∧ loop.totalSize = 0 := by
  have differ : btErrSppIo ≠ btNoError := by decide
  rw [writeDataLoop, sppWrite] at ended
  cases failed : loop.failed with
  | true => simp [failed, differ] at ended
  | false =>
    by_cases empty : loop.totalSize = 0
    · exact ⟨rfl, empty⟩
    · simp [failed, empty] at ended

/-- An exact loop that calls once more is still exact if the call is honest and, having
returned a positive number, leaves the pointer behind the bytes that went out. -/
theorem exact_stopped {memory : Nat → UInt8} {size : Nat} {loop next : WriteLoop}
    {written : Written}
    (exact : Exact memory size loop) (running : loop.writeDataLoop = none) {count : Nat}
    (called : next.writes = loop.writes ++ [written]) (stopped : next.failed = true)
    (same : next.totalBuf = loop.totalBuf ∧ next.totalSize = loop.totalSize)
    (nonpositive : written.result ≤ 0) (atMost : count ≤ loop.totalSize.toNat)
    (sent : written.sent = bytes memory loop.totalBuf count) : Exact memory size next := by
  obtain ⟨runs, nonempty⟩ := writeDataLoop_eq_none.mp running
  obtain ⟨sentSoFar, calls⟩ := exact.running runs
  have fits := exact.fits
  have left : loop.totalSize.toNat ≠ 0 := by
    intro empty
    exact nonempty (UInt64.toNat_inj.mp empty)
  have sentNow : next.sent = bytes memory 0 (loop.totalBuf + count) := by
    rw [sent_append called, sentSoFar, sent, bytes_append]
  have notEnded : ¬ (next.writeDataLoop = some btNoError ∨ ∃ isOK, next.sppWrite = some (btNoError, isOK)) := by
    intro ended
    rw [(ended_of_no_error ended).1] at stopped
    cases stopped
  refine ⟨?_, ?_, ?_, ?_, ?_, ?_, ?_⟩
  · rw [same.1, same.2]
    exact fits
  · intro runs
    rw [runs] at stopped
    cases stopped
  · exact ⟨loop.totalBuf + count, by omega, sentNow⟩
  · intro call member positive
    rw [called, List.mem_append, List.mem_singleton] at member
    obtain earlier | rfl := member
    · exact exact.honest call earlier positive
    · exact absurd nonpositive (Int32.not_le.mpr positive)
  · rw [called, List.length_append, List.length_singleton]
    omega
  · intro ended
    exact absurd (Or.inl ended) notEnded
  · intro isOK ended
    exact absurd (Or.inr ⟨isOK, ended⟩) notEnded

/-- A turn that has sent bytes keeps the loop exact: the pointer moves on by as many as are
taken from the size. -/
theorem exact_went_on {memory : Nat → UInt8} {size : Nat} {loop next : WriteLoop}
    {written : Written}
    (exact : Exact memory size loop) (running : loop.writeDataLoop = none) {count : Nat}
    (called : next.writes = loop.writes ++ [written])
    (moved : next.totalBuf = loop.totalBuf + count ∧ next.totalSize.toNat = loop.totalSize.toNat - count)
    (positive : 0 < count) (atMost : count ≤ loop.totalSize.toNat)
    (result : written.result.toInt = count)
    (sent : written.sent = bytes memory loop.totalBuf count) : Exact memory size next := by
  obtain ⟨runs, -⟩ := writeDataLoop_eq_none.mp running
  obtain ⟨sentSoFar, calls⟩ := exact.running runs
  have fits := exact.fits
  have sentNow : next.sent = bytes memory 0 next.totalBuf := by
    rw [sent_append called, sentSoFar, sent, bytes_append, moved.1]
  have callsNow : next.writes.length ≤ next.totalBuf := by
    rw [called, List.length_append, List.length_singleton, moved.1]
    omega
  have fitsNow : next.totalBuf + next.totalSize.toNat = size := by
    rw [moved.1, moved.2]
    omega
  have whole (ended : next.writeDataLoop = some btNoError ∨ ∃ isOK, next.sppWrite = some (btNoError, isOK)) :
      next.sent = bytes memory 0 size := by
    have empty : next.totalSize.toNat = 0 := by rw [(ended_of_no_error ended).2]; rfl
    rw [sentNow, show next.totalBuf = size by omega]
  refine ⟨fitsNow, ?_, ?_, ?_, ?_, ?_, ?_⟩
  · intro _
    exact ⟨sentNow, callsNow⟩
  · exact ⟨next.totalBuf, by omega, sentNow⟩
  · intro call member above
    rw [called, List.mem_append, List.mem_singleton] at member
    obtain earlier | rfl := member
    · exact exact.honest call earlier above
    · rw [sent, length_bytes, result]
  · omega
  · intro ended
    exact whole (Or.inl ended)
  · intro isOK ended
    exact whole (Or.inr ⟨isOK, ended⟩)

/-- A step keeps the loop exact just when the answer to `send`, if it is reached, fits the
convention. -/
theorem exact_step_iff {memory : Nat → UInt8} {size : Nat} {loop next : WriteLoop}
    {answers : WriteAnswers}
    (exact : Exact memory size loop) (stepped : step memory loop answers = some next) :
    Exact memory size next ↔ loop.SendConforms answers := by
  rw [step] at stepped
  split at stepped
  swap
  · cases stepped
  rename_i enabled
  obtain ⟨running, possible⟩ := enabled
  obtain rfl := Option.some.inj stepped
  have callTurn := @turn memory loop answers possible
  generalize call : loop.written memory answers = written at callTurn
  have called : (loop.body memory answers).writes = loop.writes ++ [written] := by
    rw [← call]
    by_cases stops : (loop.written memory answers).result ≤ 0
    · rw [body_stops stops]
    · rw [body_goes_on stops]
  have stopsExactly {count : Nat} (nonpositive : written.result ≤ 0) (atMost : count ≤ loop.totalSize.toNat)
      (sent : written.sent = bytes memory loop.totalBuf count) :
        Exact memory size (loop.body memory answers) := by
    have stops : (loop.written memory answers).result ≤ 0 := by rwa [call]
    apply exact_stopped exact running called _ _ nonpositive atMost sent
    · rw [body_stops stops]
    · rw [body_stops stops]
      exact ⟨rfl, rfl⟩
  by_cases reaches : loop.outputStream.ReachesSend loop.totalSize.toNat answers
  swap
  · obtain ⟨nonpositive, nothing⟩ := callTurn.early reaches
    refine iff_of_true ?_ fun reached => absurd reached reaches
    exact stopsExactly nonpositive (Nat.zero_le _) nothing
  obtain ⟨result, sent⟩ := callTurn.sends reaches
  have atMost : answers.ret.toInt.toNat ≤ loop.totalSize.toNat := by
    obtain failed | ⟨-, atMost⟩ := possible
    · rw [failed]
      exact Nat.zero_le _
    · omega
  rw [SendConforms, imp_iff_right reaches]
  constructor
  · -- A positive result is the length of what went out, so it is neither `errno` nor cut.
    intro exactNext
    have honest := exactNext.honest written (by rw [called]; simp)
    rw [sent, length_bytes, result] at honest
    constructor
    · intro positive
      rw [if_neg (Int64.not_le.mpr positive)] at honest
      by_cases cut : answers.ret.toInt32 ≤ 0
      · exact Or.inr cut
      · have same := honest (Int32.not_le.mp cut)
        have count := Int64.lt_iff_toInt_lt.mp positive
        rw [Int64.toInt_zero] at count
        exact Or.inl (by omega)
    · intro failed
      rw [if_pos failed] at honest
      by_contra above
      have same := honest (Int32.not_le.mp above)
      have error := Int32.lt_iff_toInt_lt.mp (Int32.not_le.mp above)
      have none := Int64.le_iff_toInt_le.mp failed
      rw [Int32.toInt_zero] at error
      rw [Int64.toInt_zero] at none
      omega
  · rintro ⟨counts, failures⟩
    by_cases failed : answers.ret ≤ 0
    · rw [if_pos failed] at result
      exact stopsExactly (result ▸ failures failed) atMost sent
    · rw [if_neg failed] at result
      obtain kept | cut := counts (Int64.not_le.mp failed)
      swap
      · exact stopsExactly (result ▸ cut) atMost sent
      have count := Int64.lt_iff_toInt_lt.mp (Int64.not_le.mp failed)
      rw [Int64.toInt_zero] at count
      have value : written.result.toInt = answers.ret.toInt.toNat := by
        rw [result, kept]
        omega
      have above : ¬ (loop.written memory answers).result ≤ 0 := by
        rw [call, Int32.le_iff_toInt_le, value, Int32.toInt_zero]
        omega
      have asSize : written.result.toInt64.toUInt64.toNat = answers.ret.toInt.toNat := by
        rw [Int64.toNat_toUInt64_of_le, Int64.toNatClampNeg, Int32.toInt_toInt64, value]
        · rfl
        · rw [Int64.le_iff_toInt_le, Int32.toInt_toInt64, value, Int64.toInt_zero]
          omega
      apply exact_went_on exact running called _ (by omega) atMost value sent
      rw [body_goes_on above, call]
      constructor
      · rw [asSize]
      · rw [UInt64.toNat_sub_of_le, asSize]
        rw [UInt64.le_iff_toNat_le, asSize]
        exact atMost

/-- The loop is exact at the start, with everything still to send. -/
theorem exact_start (memory : Nat → UInt8) (stream : OutputStream) (totalSize : UInt64) :
    Exact memory totalSize.toNat (start stream totalSize) where
  fits := Nat.zero_add _
  running := by
    intro _
    exact ⟨rfl, Nat.le_refl _⟩
  isPrefix := ⟨0, Nat.zero_le _, rfl⟩
  honest := by
    intro written member
    cases member
  bounded := Nat.zero_le _
  whole := by
    intro ended
    have empty : totalSize = 0 := (ended_of_no_error (Or.inl ended)).2
    rw [empty]
    rfl
  wholeSpp := by
    intro isOK ended
    have empty : totalSize = 0 := (ended_of_no_error (Or.inr ⟨isOK, ended⟩)).2
    rw [empty]
    rfl

/-- Every turn is one call. -/
theorem length_writes {memory : Nat → UInt8} {loop last : WriteLoop} {answers : List WriteAnswers}
    (reached : run (step memory) loop answers = some last) :
    last.writes.length = loop.writes.length + answers.length := by
  induction answers generalizing loop with
  | nil => exact Option.some.inj reached ▸ rfl
  | cons given rest inductionHypothesis =>
    obtain ⟨next, stepped, reached⟩ := run_cons_eq_some reached
    have called : next.writes.length = loop.writes.length + 1 := by
      rw [step] at stepped
      split at stepped
      · rw [← Option.some.inj stepped, body]
        split <;> simp
      · cases stepped
    rw [inductionHypothesis reached, called, List.length_cons]
    omega

/-- **The loop sends the buffer exactly once as long as the answers of `send` conform.** For
every buffer and all answers, the loop does right throughout exactly when no `send` that it
reaches fails with a positive `errno` or returns a count that is another positive `int`. It
then ends after no more turns than the buffer has bytes. -/
theorem written_exactly_iff (memory : Nat → UInt8) (stream : OutputStream) (totalSize : UInt64)
    (answers : List WriteAnswers) :
    (Always (step memory) (Exact memory totalSize.toNat) (start stream totalSize) answers ↔
      Meets (step memory) SendConforms (start stream totalSize) answers) ∧
    (Meets (step memory) SendConforms (start stream totalSize) answers →
      run (step memory) (start stream totalSize) answers ≠ none →
        answers.length ≤ totalSize.toNat) := by
  have exactly : Always (step memory) (Exact memory totalSize.toNat) (start stream totalSize) answers ↔
      Meets (step memory) SendConforms (start stream totalSize) answers := by
    apply @always_iff_meets _ _ (step memory) (Exact memory totalSize.toNat) (fun _ => True) SendConforms
    · intro _ _ _ _ _
      trivial
    · intro loop given next _ exact stepped
      exact exact_step_iff exact stepped
    · trivial
    · exact exact_start memory stream totalSize
  refine ⟨exactly, ?_⟩
  intro conforms possible
  obtain ⟨last, reached⟩ := Option.ne_none_iff_exists'.mp possible
  have exactAtLast := always_last _ last answers (exactly.mpr conforms) reached
  have turns := length_writes reached
  have none : (start stream totalSize).writes.length = 0 := rfl
  have atMost := exactAtLast.bounded
  omega

/-- Eleven bytes, and a `send` that fails with `EAGAIN`, which is eleven: the loop returns
`BT_NO_ERROR` and nothing went out. -/
theorem errno_counts_as_sent :
    ¬ Always (step Nat.toUInt8) (Exact Nat.toUInt8 11) (start ⟨3, false⟩ 11)
    [{ ret := -1, errno := 11 }] ∧
    (run (step Nat.toUInt8) (start ⟨3, false⟩ 11) [{ ret := -1, errno := 11 }]).map
        (fun loop => (loop.writeDataLoop, loop.sppWrite, loop.sent)) =
      some (some btNoError, some (btNoError, true), []) := by
  have ended : (run (step Nat.toUInt8) (start ⟨3, false⟩ 11) [{ ret := -1, errno := 11 }]).map
      (fun loop => (loop.writeDataLoop, loop.sppWrite, loop.sent)) =
        some (some btNoError, some (btNoError, true), []) := by decide
  refine ⟨?_, ended⟩
  intro always
  obtain ⟨last, reached, values⟩ := Option.map_eq_some_iff.mp ended
  have exact := always_last _ last _ always reached
  have nothing : last.sent = [] := congrArg (fun v => v.2.2) values
  rw [exact.whole (congrArg Prod.fst values)] at nothing
  exact absurd nothing (by decide)

end WriteLoop
end BluetoothFramework.Socket
