import BluetoothFramework.Switch.System

/-!
# Which action a timeout ends

Every action arms its own timeout task and stores the handle. Ending the action
cancels the task, but a task that has already started is only waiting for the mutex
and survives its cancellation; `OnTaskTimeout` then clears whatever it finds.

Under the mutex the queue never holds a timeout task of an ended action. A stale task
is therefore one that had started before its action ended, and it does harm only when
another action starts before it obtains the mutex. `timeout_ends_own_action` proves
for all runs in which no action starts over a waiting timeout task that each timeout
finds its own action in progress or none; `stale_timeout_ends_action` shows the
excluded start going wrong in the very next step.
-/

namespace BluetoothFramework.Switch.Timeouts

open BluetoothSwitchModule

variable {Tag : Type}

/-- A timeout task that obtains the mutex while an action is in progress is the one
armed for that action. -/
def EndsOwnAction (module : BluetoothSwitchModule Tag) : Label Tag → Prop
  | .timeoutRuns handle => ∀ action ∈ module.inProgress, action.timeout = handle
  | _ => True

/-- No action starts while a timeout task waits for the mutex: a request or a replay
task taken up with the flag clear finds none that has started. -/
def NoneWaiting (module : BluetoothSwitchModule Tag) : Label Tag → Prop
  | .event event _ _ _ _ _ => event.IsRequest → module.isBtSwitchProcessing = false →
      module.ffrtQueue.started = []
  | .replay _ => module.isBtSwitchProcessing = false → module.ffrtQueue.started = []
  | _ => True

instance (module : BluetoothSwitchModule Tag) (label : Label Tag) :
    Decidable (NoneWaiting module label) :=
  match label with
  | .event .. => inferInstanceAs (Decidable (_ → _ → _))
  | .replay _ => inferInstanceAs (Decidable (_ → _))
  | .timeoutStarts _ | .timeoutRuns _ | .setNoAutoConnect _ => isTrue trivial

instance (module : BluetoothSwitchModule Tag) (label : Label Tag) :
    Decidable (EndsOwnAction module label) :=
  match label with
  | .timeoutRuns _ => inferInstanceAs (Decidable (∀ action ∈ module.inProgress, _))
  | .event .. | .replay _ | .timeoutStarts _ | .setNoAutoConnect _ => isTrue trivial

/-- The timeout tasks belong to the action in progress: the queued ones always, the
waiting ones as long as there is such an action. Handles are never reused, and a task
is not queued and waiting at once. -/
structure Owned (module : BluetoothSwitchModule Tag) : Prop where
  queued : ∀ task ∈ module.ffrtQueue.timeouts,
    module.isBtSwitchProcessing = true ∧ module.taskTimeoutHandle = some task
  waiting : ∀ task ∈ module.ffrtQueue.started, module.isBtSwitchProcessing = true →
    module.taskTimeoutHandle = some task
  apart : ∀ task ∈ module.ffrtQueue.started, task ∉ module.ffrtQueue.timeouts
  fresh : ∀ task ∈ module.ffrtQueue.started, task < module.ffrtQueue.nextHandle
  freshQueued : ∀ task ∈ module.ffrtQueue.timeouts, task < module.ffrtQueue.nextHandle
  recorded : ∀ action ∈ module.invocations.getLast?,
    module.taskTimeoutHandle = some action.timeout

/-- An action that starts over no waiting task owns every timeout task there is: the one it arms
itself. None can be queued before, since a queued task belongs to an action in progress and there
is none. -/
theorem started_owned (before after : BluetoothSwitchModule Tag) (event : BluetoothSwitchEvent)
    (tag : Tag) (outcome : Outcome) (owned : Owned before) (none : before.ffrtQueue.started = [])
    (effect : Started before after event tag outcome) : Owned after := by
  have noneQueued : ∀ task ∈ before.ffrtQueue.timeouts, False := by
    intro task member
    have busy := (owned.queued task member).1
    simp [effect.idle] at busy
  have queuedNew : ∀ task ∈ after.ffrtQueue.timeouts, task = before.ffrtQueue.nextHandle ∧
      outcome.ret = btNoError ∧ outcome.outlastsTimeout = false := by
    intro task member
    rcases effect.timeouts task member with earlier | new
    · exact (noneQueued task earlier).elim
    · exact new
  have waitingNew : ∀ task ∈ after.ffrtQueue.started, task = before.ffrtQueue.nextHandle ∧
      outcome.outlastsTimeout = true := by
    intro task member
    rw [effect.started, none, List.nil_append] at member
    split at member
    · exact ⟨List.mem_singleton.mp member, by assumption⟩
    · exact absurd member List.not_mem_nil
  obtain ⟨call, _, log⟩ := effect.log
  refine ⟨?_, ?_, ?_, ?_, ?_, ?_⟩
  · intro task member
    obtain ⟨rfl, success, _⟩ := queuedNew task member
    exact ⟨by simp [effect.flag, success], effect.handle⟩
  · intro task member _
    obtain ⟨rfl, _⟩ := waitingNew task member
    exact effect.handle
  · intro task member queued
    have outlasting := (waitingNew task member).2
    simp [(queuedNew task queued).2.2] at outlasting
  · intro task member
    rw [(waitingNew task member).1, effect.nextHandle]
    exact Nat.lt_succ_self _
  · intro task member
    rw [(queuedNew task member).1, effect.nextHandle]
    exact Nat.lt_succ_self _
  · intro action last
    rw [log, List.getLast?_append] at last
    have same : action = ⟨tag, call, before.ffrtQueue.nextHandle, outcome.ret⟩ := by
      simpa using last.symm
    rw [same]
    exact effect.handle

/-- Ending an action cancels its queued timeout task, and there is no other. A task that waits
for the mutex stays, and belongs to no action from then on. -/
theorem ended_owned (before after : BluetoothSwitchModule Tag) (owned : Owned before)
    (effect : Ended before after) : Owned after := by
  have emptied : after.ffrtQueue.timeouts = [] := by
    rw [effect.timeouts, List.filter_eq_nil_iff]
    intro task member
    simp [(owned.queued task member).2]
  refine ⟨?_, ?_, ?_, ?_, ?_, ?_⟩
  · simp [emptied]
  · intro task _ busy
    simp [effect.flag] at busy
  · simp [emptied]
  · rw [effect.started, effect.nextHandle]
    exact owned.fresh
  · simp [emptied]
  · rw [effect.log, effect.handle]
    exact owned.recorded

/-- Caching a request leaves the timeout tasks and the action alone. -/
theorem cached_owned (before after : BluetoothSwitchModule Tag)
    (entry : BluetoothSwitchCacheEvent Tag) (owned : Owned before)
    (effect : Cached before after entry) : Owned after := by
  rw [effect.effect]
  exact ⟨owned.queued, owned.waiting, owned.apart, owned.fresh, owned.freshQueued, owned.recorded⟩

/-- Ownership does not read the posted replay tasks. -/
theorem withReplays_owned (module : BluetoothSwitchModule Tag)
    (replays : List (BluetoothSwitchCacheEvent Tag)) (owned : Owned module) :
    Owned (module.withReplays replays) :=
  ⟨owned.queued, owned.waiting, owned.apart, owned.fresh, owned.freshQueued, owned.recorded⟩

/-- A queued timeout task that starts is still that of the action in progress. It waits for the
mutex now, and its handle is out of the queue. -/
theorem timeout_starts_owned (module : BluetoothSwitchModule Tag) (handle : Nat)
    (owned : Owned module) (queued : handle ∈ module.ffrtQueue.timeouts) :
    Owned { module with ffrtQueue := module.ffrtQueue.start handle } := by
  have armed := owned.queued handle queued
  refine ⟨?_, ?_, ?_, ?_, ?_, owned.recorded⟩
  · intro task member
    exact owned.queued task (List.mem_filter.mp member |>.1)
  · intro task member busy
    rcases List.mem_append.mp member with earlier | new
    · exact owned.waiting task earlier busy
    · exact List.mem_singleton.mp new ▸ armed.2
  · intro task member still
    obtain ⟨inside, different⟩ := List.mem_filter.mp still
    rcases List.mem_append.mp member with earlier | new
    · exact owned.apart task earlier inside
    · simp [List.mem_singleton.mp new] at different
  · intro task member
    rcases List.mem_append.mp member with earlier | new
    · exact owned.fresh task earlier
    · exact List.mem_singleton.mp new ▸ owned.freshQueued handle queued
  · intro task member
    exact owned.freshQueued task (List.mem_filter.mp member |>.1)

/-- After a timeout nothing is in progress, so nothing may be queued: the task armed
last is the one that just ran. -/
theorem timeout_runs_owned (module : BluetoothSwitchModule Tag) (handle : Nat)
    (owned : Owned module) (waiting : handle ∈ module.ffrtQueue.started) :
    Owned (onTaskTimeout { module with ffrtQueue := { module.ffrtQueue with
      started := module.ffrtQueue.started.filter (· ≠ handle) } }) := by
  have emptied : module.ffrtQueue.timeouts = [] := by
    by_contra nonempty
    obtain ⟨task, rest, queue⟩ := List.exists_cons_of_ne_nil nonempty
    have member : task ∈ module.ffrtQueue.timeouts := by simp [queue]
    obtain ⟨busy, armed⟩ := owned.queued task member
    have same : task = handle :=
      Option.some.inj (armed.symm.trans (owned.waiting handle waiting busy))
    exact owned.apart handle waiting (same ▸ member)
  refine ⟨?_, ?_, ?_, ?_, ?_, owned.recorded⟩
  · simp [onTaskTimeout, emptied]
  · intro task _ busy
    simp [onTaskTimeout] at busy
  · simp [onTaskTimeout, emptied]
  · intro task member
    exact owned.fresh task (List.mem_filter.mp member |>.1)
  · simp [onTaskTimeout, emptied]

/-- One step that starts no action over a waiting timeout task keeps ownership. Only starting an
action and ending one change the tasks, and each is a case of its own. -/
theorem step_owned (module : BluetoothSwitchModule Tag) (label : Label Tag)
    (next : BluetoothSwitchModule Tag) (invariant : Owned module ∧ HoldsRequests module)
    (none : NoneWaiting module label) (taken : module.step label = some next) :
    Owned next ∧ HoldsRequests next := by
  obtain ⟨owned, requests⟩ := invariant
  refine ⟨?_, step_holds_requests module label next requests taken⟩
  cases label with
  | event event callingName isAsync isBleOwnerMode tag outcome =>
    have effect := Option.some.inj taken
    subst effect
    rcases event_cases event callingName isAsync isBleOwnerMode tag outcome module with
      ⟨requested, cached | started⟩ | ⟨_, ended | ⟨_, same⟩⟩
    · exact cached_owned _ _ _ owned cached
    · exact started_owned _ _ _ _ _ owned (none requested started.idle) started
    · exact ended_owned _ _ owned ended
    · rw [same]
      exact owned
  | replay outcome =>
    obtain ⟨task, rest, _, effect⟩ := replay_cases module next outcome requests taken
    have kept := withReplays_owned module rest owned
    rcases effect with cached | started
    · exact cached_owned _ _ _ kept cached
    · exact started_owned _ _ _ _ _ kept (none started.idle) started
  | timeoutStarts handle =>
    simp only [step, Option.ite_none_right_eq_some, Option.some.injEq] at taken
    exact taken.2 ▸ timeout_starts_owned module handle owned taken.1
  | timeoutRuns handle =>
    simp only [step, Option.ite_none_right_eq_some, Option.some.injEq] at taken
    exact taken.2 ▸ timeout_runs_owned module handle owned taken.1
  | setNoAutoConnect noAutoConnect =>
    exact Option.some.inj taken ▸
      ⟨owned.queued, owned.waiting, owned.apart, owned.fresh, owned.freshQueued, owned.recorded⟩

/-- At the start no task is queued and none waits. -/
theorem initial_owned : Owned ({} : BluetoothSwitchModule Tag) := by
  refine ⟨?_, ?_, ?_, ?_, ?_, ?_⟩ <;> simp

/-- In every run in which no action starts while a timeout task waits for the mutex, a timeout
that finds an action in progress is the one armed for it. A task that has begun to wait can no
longer be cancelled, and it is told apart by nothing but the time at which it gets the mutex. -/
theorem timeout_ends_own_action (labels : List (Label Tag))
    (none : Runs.Meets step NoneWaiting {} labels) : Runs.Meets step EndsOwnAction {} labels := by
  refine Runs.guarded_steps step_owned ?_ {} labels ⟨initial_owned, by simp [HoldsRequests]⟩ none
  intro module label next invariant _ taken
  cases label with
  | timeoutRuns handle =>
    simp only [step, Option.ite_none_right_eq_some] at taken
    intro action current
    have busy := inProgress_busy current
    have last : action ∈ module.invocations.getLast? := by
      simpa [inProgress, busy] using current
    exact Option.some.inj ((invariant.1.recorded action last).symm.trans
      (invariant.1.waiting handle taken.1 busy))
  | _ => trivial

/-- A run in which a timeout ends the action it was armed for. -/
theorem timeout_ends_own_action_enable :
    Runs.Meets step EndsOwnAction ({} : BluetoothSwitchModule Unit)
      [.event .enableBluetooth "a" false false () {}, .timeoutStarts 0, .timeoutRuns 0] :=
  timeout_ends_own_action _ (by decide)

/-- The timeout of ENABLE starts and waits while ENABLE completes and DISABLE starts;
it then ends DISABLE. -/
theorem stale_timeout_ends_disable :
    ¬ ∀ labels : List (Label Unit), Runs.Meets step EndsOwnAction {} labels := by
  intro claimed
  have ended := claimed [
    .event .enableBluetooth "a" false false () {},
    .timeoutStarts 0,
    .event .bluetoothOn "" false false () {},
    .event .disableBluetooth "b" false false () {},
    .timeoutRuns 0]
  exact absurd ended (by decide)

/-- The excluded start is exact: when an action starts over a waiting timeout task,
that task can obtain the mutex next and ends the new action. -/
theorem stale_timeout_ends_action (before after : BluetoothSwitchModule Tag)
    (event : BluetoothSwitchEvent) (tag : Tag) (handle : Nat) (owned : Owned before)
    (waiting : handle ∈ before.ffrtQueue.started) (effect : Started before after event tag {}) :
    (after.step (.timeoutRuns handle)).isSome ∧ ¬ EndsOwnAction after (.timeoutRuns handle) := by
  obtain ⟨call, _, log⟩ := effect.log
  have still : handle ∈ after.ffrtQueue.started := by
    rw [effect.started]
    exact List.mem_append_left _ waiting
  have older : handle < before.ffrtQueue.nextHandle := owned.fresh handle waiting
  refine ⟨by simp [step, still], ?_⟩
  intro own
  have busy : after.isBtSwitchProcessing = true := effect.flag
  have current : after.inProgress = some ⟨tag, call, before.ffrtQueue.nextHandle, btNoError⟩ := by
    simp [inProgress, busy, log]
  have same : before.ffrtQueue.nextHandle = handle := own _ current
  omega

end BluetoothFramework.Switch.Timeouts
