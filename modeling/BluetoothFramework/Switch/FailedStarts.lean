import BluetoothFramework.Switch.NoAutoConnect

/-!
# What a request leaves behind whose action did not start

An action that does not start is detected by the code of its call, after the timeout task
was armed, the flag set and the no-auto-connect mark consumed in the closure. The failure
branch resets the flag and cancels the task. It does not set the mark again, and a task
that has already started survives its cancellation.

`failed_start_unchanged_iff` speaks about every reachable state with no action in progress
and every request whose call fails: the module is as before exactly if the request was not
an ENABLE that consumed the mark and its call did not outlast the delay of the timeout.
-/

namespace BluetoothFramework.Switch.FailedStarts

open BluetoothSwitchModule Runs

variable {Tag : Type}

/-- The flag, the cached events, the timeout tasks still to run and the mark are the same. -/
structure Unchanged (before after : BluetoothSwitchModule Tag) : Prop where
  flag : after.isBtSwitchProcessing = before.isBtSwitchProcessing
  cache : after.cachedEventVec = before.cachedEventVec
  timeouts : after.ffrtQueue.timeouts = before.ffrtQueue.timeouts
  started : after.ffrtQueue.started = before.ffrtQueue.started
  mark : after.noAutoConnect = before.noAutoConnect

/-- The handles of queued timeout tasks have all been given out, so the next one is new. -/
def HandlesGiven (module : BluetoothSwitchModule Tag) : Prop :=
  ∀ task ∈ module.ffrtQueue.timeouts, task < module.ffrtQueue.nextHandle

/-- An event queues no timeout task but its own. The handle is the next one, and the counter is
moved on with it. -/
theorem event_handles_given (event : BluetoothSwitchEvent) (callingName : String)
    (isAsync isBleOwnerMode : Bool) (tag : Tag) (outcome : Outcome)
    (module : BluetoothSwitchModule Tag) (given : HandlesGiven module) :
    HandlesGiven (module.processBluetoothSwitchEvent event callingName isAsync isBleOwnerMode tag
      outcome).2 := by
  rcases event_cases event callingName isAsync isBleOwnerMode tag outcome module with
    ⟨_, cached | started⟩ | ⟨_, ended | ⟨_, same⟩⟩
  · rw [cached.effect]
    exact given
  · intro task member
    rw [started.nextHandle]
    rcases started.timeouts task member with earlier | ⟨rfl, _⟩
    · exact Nat.lt_succ_of_lt (given task earlier)
    · exact Nat.lt_succ_self _
  · intro task member
    rw [ended.nextHandle]
    rw [ended.timeouts] at member
    exact given task (List.mem_filter.mp member).1
  · rw [same]
    exact given

/-- No step gives a handle a second time. A handle that is queued is below the counter, and the
counter only grows. -/
theorem step_handles_given (module : BluetoothSwitchModule Tag) (label : Label Tag)
    (next : BluetoothSwitchModule Tag) (given : HandlesGiven module)
    (taken : module.step label = some next) :
    HandlesGiven next := by
  cases label with
  | event event callingName isAsync isBleOwnerMode tag outcome =>
    exact Option.some.inj taken ▸ event_handles_given _ _ _ _ _ _ _ given
  | replay outcome =>
    obtain ⟨task, rest, _, effect⟩ := replay_taken taken
    have fewer : HandlesGiven (module.withReplays rest) := given
    exact effect ▸ event_handles_given _ _ _ _ _ _ _ fewer
  | timeoutStarts handle =>
    simp only [step, Option.ite_none_right_eq_some, Option.some.injEq] at taken
    intro task member
    rw [← taken.2] at member ⊢
    exact given task (List.mem_filter.mp member).1
  | timeoutRuns handle =>
    simp only [step, Option.ite_none_right_eq_some, Option.some.injEq] at taken
    exact taken.2 ▸ given
  | setNoAutoConnect noAutoConnect => exact Option.some.inj taken ▸ given

/-- The failure branch cancels exactly the timeout task that was armed before the call. The
handle is new, so no other task can have it and no other is cancelled with it. -/
theorem start_action_timeouts (action : BluetoothSwitchModule Tag →
    SwitchCall × BluetoothSwitchModule Tag)
    (tag : Tag) (outcome : Outcome) (module : BluetoothSwitchModule Tag)
    (given : HandlesGiven module) (failed : outcome.ret ≠ btNoError)
    (frame : ∀ armed, ∃ mark, (action armed).2 = armed.setNoAutoConnect mark) :
    (module.startAction action tag outcome).2.ffrtQueue.timeouts = module.ffrtQueue.timeouts := by
  have others : (module.ffrtQueue.timeouts ++ [module.ffrtQueue.nextHandle]).filter
      (· ≠ module.ffrtQueue.nextHandle) = module.ffrtQueue.timeouts := by
    rw [List.filter_append, List.filter_eq_self.mpr]
    · simp
    · intro task member
      exact decide_eq_true (Nat.ne_of_lt (given task member))
  rw [startAction]
  generalize armedEq : ({ module with
    ffrtQueue := module.ffrtQueue.submitTimeout
    taskTimeoutHandle := some module.ffrtQueue.nextHandle
    isBtSwitchProcessing := true } : BluetoothSwitchModule Tag) = armed
  obtain ⟨mark, consumed⟩ := frame armed
  rcases actionEq : action armed with ⟨call, next⟩
  rw [actionEq] at consumed
  subst consumed armedEq
  cases outcome.outlastsTimeout with
  | true =>
    simpa [failed, setNoAutoConnect, FfrtQueue.submitTimeout, FfrtQueue.start, FfrtQueue.cancel] using others
  | false =>
    simpa [failed, setNoAutoConnect, FfrtQueue.submitTimeout, FfrtQueue.cancel] using others

/-- So does a request of any kind that fails with the flag clear. The four kinds differ in their
calls only, and a failure treats them alike. -/
theorem request_timeouts {event : BluetoothSwitchEvent} (requested : event.IsRequest)
    (callingName : String) (isAsync isBleOwnerMode : Bool) (tag : Tag) {outcome : Outcome}
    {module : BluetoothSwitchModule Tag}
    (given : HandlesGiven module) (idle : module.isBtSwitchProcessing = false)
    (failed : outcome.ret ≠ btNoError) :
    (module.processBluetoothSwitchEvent event callingName isAsync isBleOwnerMode tag
      outcome).2.ffrtQueue.timeouts = module.ffrtQueue.timeouts := by
  have starts (action : BluetoothSwitchModule Tag → SwitchCall × BluetoothSwitchModule Tag)
      (entry : BluetoothSwitchCacheEvent Tag)
      (frame : ∀ armed, ∃ mark, (action armed).2 = armed.setNoAutoConnect mark) :
      (module.processBluetoothSwitchAction action entry outcome).2.ffrtQueue.timeouts =
        module.ffrtQueue.timeouts := by
    simp only [processBluetoothSwitchAction, idle]
    exact start_action_timeouts action entry.tag outcome module given failed frame
  cases event with
  | enableBluetooth => exact starts _ _ (enable_action_frame callingName isAsync)
  | disableBluetooth => exact starts _ _ unmarked
  | enableBluetoothToRestriceMode => exact starts _ _ unmarked
  | none | bluetoothOn | bluetoothOff | bluetoothHalf => exact absurd requested id

/-- The mark survives every request but an ENABLE, and an ENABLE leaves it clear. -/
theorem request_mark_iff {event : BluetoothSwitchEvent} (callingName : String)
    (isAsync isBleOwnerMode : Bool)
    (tag : Tag) (outcome : Outcome) {module : BluetoothSwitchModule Tag}
    (idle : module.isBtSwitchProcessing = false) :
    (module.processBluetoothSwitchEvent event callingName isAsync isBleOwnerMode tag outcome).2.noAutoConnect =
      module.noAutoConnect ↔ ¬ (event = .enableBluetooth ∧ module.noAutoConnect = true) := by
  by_cases enables : event = .enableBluetooth
  · rw [enables, (NoAutoConnect.enable_consumes callingName isAsync isBleOwnerMode tag outcome idle).1]
    cases module.noAutoConnect <;> simp
  · refine iff_of_true ?_ (fun both => enables both.1)
    exact NoAutoConnect.event_noAutoConnect _ _ _ _ _ _ (fun made => absurd made enables)

/-- **A request that fails to start leaves the module as it was, except for a consumed mark
and a timeout task that has started.** In every reachable state with no action in progress,
a request whose call returns anything but `BT_NO_ERROR` changes nothing exactly if it was no
ENABLE with the mark set and its call returned before its timeout task started. -/
theorem failed_start_unchanged_iff (labels : List (Label Tag)) (module : BluetoothSwitchModule Tag)
    (reached : run step {} labels = some module) (idle : module.isBtSwitchProcessing = false)
    (event : BluetoothSwitchEvent) (requested : event.IsRequest) (callingName : String)
    (isAsync isBleOwnerMode : Bool) (tag : Tag) (outcome : Outcome)
    (failed : outcome.ret ≠ btNoError) :
    Unchanged module (module.processBluetoothSwitchEvent event callingName isAsync isBleOwnerMode
      tag outcome).2 ↔
      ¬ (event = .enableBluetooth ∧ module.noAutoConnect = true) ∧
        outcome.outlastsTimeout = false := by
  have given : HandlesGiven module :=
    preserved_last step_handles_given {} module labels (by simp [HandlesGiven]) reached
  have timeouts := request_timeouts requested callingName isAsync isBleOwnerMode tag given idle failed
  have mark := @request_mark_iff _ event callingName isAsync isBleOwnerMode tag outcome module idle
  rcases request_cases event requested callingName isAsync isBleOwnerMode tag outcome module with
    cached | started
  · have busy := cached.busy
    rw [idle] at busy
    cases busy
  · constructor
    · intro unchanged
      refine ⟨mark.mp unchanged.mark, ?_⟩
      have same := started.started.symm.trans unchanged.started
      simpa using same
    · rintro ⟨kept, returned⟩
      refine ⟨?_, started.cache, timeouts, ?_, mark.mpr kept⟩
      · rw [started.flag, idle]
        exact decide_eq_false failed
      · rw [started.started, returned]
        exact List.append_nil _

/-- A dialog shown for a DISABLE leaves the module as it was, the pending mark included. -/
theorem failed_disable_unchanged :
    Unchanged ({ noAutoConnect := true } : BluetoothSwitchModule Unit)
      (({ noAutoConnect := true } : BluetoothSwitchModule Unit).processBluetoothSwitchEvent .disableBluetooth
        "a" false false () ⟨btErrDialogForUserConfirm, false⟩).2 :=
  (failed_start_unchanged_iff [.setNoAutoConnect true] _ (by rfl) (by rfl) .disableBluetooth trivial "a" false
    false () _ (by decide)).mpr (by decide)

/-- A dialog shown for an ENABLE without auto-connect has consumed the mark. -/
theorem failed_enable_loses_mark :
    ¬ ∀ (labels : List (Label Unit)) (module : BluetoothSwitchModule Unit),
      run step {} labels = some module →
      module.isBtSwitchProcessing = false → ∀ outcome : Outcome, outcome.ret ≠ btNoError →
      Unchanged module (module.processBluetoothSwitchEvent .enableBluetooth "a" false false () outcome).2 := by
  intro claimed
  have unchanged := claimed [.setNoAutoConnect true] _ rfl rfl ⟨btErrDialogForUserConfirm, false⟩ (by decide)
  have lost := unchanged.mark
  cases lost

end BluetoothFramework.Switch.FailedStarts
