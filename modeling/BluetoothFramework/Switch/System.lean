import BluetoothFramework.Library.Runs
import BluetoothFramework.Switch.Module

/-!
# The switch module under all interleavings

Each function of the module runs under its mutex, so a run is a sequence of atomic
steps: a thread passes an event, the oldest replay task runs, a timeout task starts
and later obtains the mutex, or the host sets the no-auto-connect mark. Labels carry
the choices of the environment, the outcome of a call on `switchAction_` included.

What a step can do is said once here. `Cached`, `Started` and `Ended` describe the
three effects an event can have, and `event_cases` says that every event has one of
them; the results about runs use these descriptions and never unfold the module's
functions again.
-/

namespace BluetoothFramework.Switch

variable {Tag : Type}

namespace BluetoothSwitchModule

/-- One atomic step, chosen by the environment. -/
inductive Label (Tag : Type) where
  | event (event : BluetoothSwitchEvent) (callingName : String) (isAsync isBleOwnerMode : Bool)
      (tag : Tag) (outcome : Outcome)
  | replay (outcome : Outcome)
  | timeoutStarts (handle : Nat)
  | timeoutRuns (handle : Nat)
  | setNoAutoConnect (noAutoConnect : Bool)
deriving DecidableEq

/-- The module with another list of posted replay tasks. -/
def withReplays (module : BluetoothSwitchModule Tag)
    (replays : List (BluetoothSwitchCacheEvent Tag)) :
    BluetoothSwitchModule Tag :=
  { module with ffrtQueue := { module.ffrtQueue with replays := replays } }

/-- The step a label stands for, if it is enabled. A replay needs a posted task, a
timeout task must be queued to start and must have started to obtain the mutex. -/
def step (module : BluetoothSwitchModule Tag) : Label Tag → Option (BluetoothSwitchModule Tag)
  | .event event callingName isAsync isBleOwnerMode tag outcome =>
      some (module.processBluetoothSwitchEvent event callingName isAsync isBleOwnerMode tag outcome).2
  | .replay outcome =>
      match module.ffrtQueue.replays with
      | [] => none
      | task :: rest =>
          some ((module.withReplays rest).runReplay task outcome).2
  | .timeoutStarts handle =>
      if handle ∈ module.ffrtQueue.timeouts then
        some { module with ffrtQueue := module.ffrtQueue.start handle }
      else none
  | .timeoutRuns handle =>
      if handle ∈ module.ffrtQueue.started then
        some (onTaskTimeout { module with ffrtQueue := { module.ffrtQueue with
          started := module.ffrtQueue.started.filter (· ≠ handle) } })
      else none
  | .setNoAutoConnect noAutoConnect => some (module.setNoAutoConnect noAutoConnect)

end BluetoothSwitchModule

open BluetoothSwitchModule

/-- The request event a call on `switchAction_` executes. -/
def SwitchCall.event : SwitchCall → BluetoothSwitchEvent
  | .enableBluetooth .. => .enableBluetooth
  | .disableBluetooth .. => .disableBluetooth
  | .enableBluetoothToRestrictMode .. => .enableBluetoothToRestriceMode

/-- The requests a caller can make. -/
inductive SwitchRequest where
  | enable
  | disable
  | restrict
deriving DecidableEq, Repr

/-- The event a request is passed as. -/
def SwitchRequest.event : SwitchRequest → BluetoothSwitchEvent
  | .enable => .enableBluetooth
  | .disable => .disableBluetooth
  | .restrict => .enableBluetoothToRestriceMode

/-- The event of a request is one of the four that ask for something. -/
theorem SwitchRequest.event_isRequest (request : SwitchRequest) : request.event.IsRequest := by
  cases request <;> trivial

/-- The completion event that belongs to a call on `switchAction_`. -/
def SwitchCall.completion : SwitchCall → BluetoothSwitchEvent
  | .enableBluetooth .. => .bluetoothOn
  | .disableBluetooth .. => .bluetoothOff
  | .enableBluetoothToRestrictMode .. => .bluetoothHalf

/-- While the flag is set a request is only cached. -/
structure Cached (before after : BluetoothSwitchModule Tag)
    (entry : BluetoothSwitchCacheEvent Tag) :
    Prop where
  busy : before.isBtSwitchProcessing = true
  effect : after = { before with cachedEventVec := before.cachedEventVec ++ [entry] }

/-- With the flag clear a request starts its action. The flag afterwards says whether
the call succeeded; only a successful call that did not outlast the delay leaves its
timeout task queued. -/
structure Started (before after : BluetoothSwitchModule Tag) (event : BluetoothSwitchEvent)
    (tag : Tag) (outcome : Outcome) : Prop where
  idle : before.isBtSwitchProcessing = false
  flag : after.isBtSwitchProcessing = decide (outcome.ret = btNoError)
  cache : after.cachedEventVec = before.cachedEventVec
  replays : after.ffrtQueue.replays = before.ffrtQueue.replays
  handle : after.taskTimeoutHandle = some before.ffrtQueue.nextHandle
  nextHandle : after.ffrtQueue.nextHandle = before.ffrtQueue.nextHandle + 1
  started : after.ffrtQueue.started = before.ffrtQueue.started ++
    if outcome.outlastsTimeout then [before.ffrtQueue.nextHandle] else []
  timeouts : ∀ task ∈ after.ffrtQueue.timeouts, task ∈ before.ffrtQueue.timeouts ∨
    (task = before.ffrtQueue.nextHandle ∧ outcome.ret = btNoError ∧ outcome.outlastsTimeout = false)
  log : ∃ call : SwitchCall, call.event = event ∧ after.invocations = before.invocations ++
    [⟨tag, call, before.ffrtQueue.nextHandle, outcome.ret⟩]

/-- What happens to the cache when an action ends: it is cleared, or one entry is
posted for replay and it and everything before it leave the cache. -/
inductive Drained (before after : BluetoothSwitchModule Tag) : Prop where
  | cleared (cache : after.cachedEventVec = [])
      (replays : after.ffrtQueue.replays = before.ffrtQueue.replays)
  | posted (dropped : List (BluetoothSwitchCacheEvent Tag)) (entry : BluetoothSwitchCacheEvent Tag)
      (cache : before.cachedEventVec = dropped ++ entry :: after.cachedEventVec)
      (replays : after.ffrtQueue.replays = before.ffrtQueue.replays ++ [entry])

/-- A completion event resets the flag and cancels the timeout task whatever the
action in progress is. -/
structure Ended (before after : BluetoothSwitchModule Tag) : Prop where
  flag : after.isBtSwitchProcessing = false
  handle : after.taskTimeoutHandle = before.taskTimeoutHandle
  nextHandle : after.ffrtQueue.nextHandle = before.ffrtQueue.nextHandle
  started : after.ffrtQueue.started = before.ffrtQueue.started
  timeouts : after.ffrtQueue.timeouts =
    before.ffrtQueue.timeouts.filter (fun task => some task ≠ before.taskTimeoutHandle)
  log : after.invocations = before.invocations
  drained : Drained before after

/-- Deduplication keeps a suffix free of the current event; what it erases is empty or
ends with an entry of that event. -/
theorem deduplicate_spec (curEvent : BluetoothSwitchEvent)
    (cached : List (BluetoothSwitchCacheEvent Tag)) :
    ∃ dropped, cached = dropped ++ deduplicateCacheEvent curEvent cached ∧
      (∀ entry ∈ deduplicateCacheEvent curEvent cached, entry.event ≠ curEvent) ∧
      ∀ entry ∈ dropped.getLast?, entry.event = curEvent := by
  rw [deduplicateCacheEvent]
  cases found : cached.reverse.findIdx? (fun entry => entry.event = curEvent) with
  | none =>
    have absent := List.findIdx?_eq_none_iff.mp found
    refine ⟨[], rfl, ?_, by simp⟩
    intro entry member
    simpa using absent entry (List.mem_reverse.mpr member)
  | some back =>
    obtain ⟨inside, matched, earlier⟩ := List.findIdx?_eq_some_iff_getElem.mp found
    have bound : back < cached.length := by simpa using inside
    refine ⟨cached.take (cached.length - back - 1 + 1), (List.take_append_drop _ _).symm, ?_, ?_⟩
    · intro entry member
      obtain ⟨index, valid, same⟩ := List.mem_iff_getElem.mp member
      simp only [List.length_drop] at valid
      have unmatched := earlier (back - 1 - index) (by omega)
      rw [List.getElem_reverse] at unmatched
      have position : cached.length - 1 - (back - 1 - index) =
          cached.length - back - 1 + 1 + index := by omega
      simp only [position] at unmatched
      rw [List.getElem_drop] at same
      simpa [same] using unmatched
    · intro entry last
      rw [List.getElem_reverse] at matched
      have width : cached.length - back - 1 + 1 = cached.length - back := by omega
      rw [width, List.getLast?_take] at last
      have position : cached.length - back - 1 = cached.length - 1 - back := by omega
      have positive : cached.length - back ≠ 0 := by omega
      have valid : cached.length - 1 - back < cached.length := by omega
      have present : cached[cached.length - 1 - back]? = some cached[cached.length - 1 - back] :=
        List.getElem?_eq_getElem valid
      simp only [positive, ↓reduceIte, position, present, Option.some_or, Option.mem_def,
        Option.some.injEq] at last
      simpa [← last] using matched

/-- Without the first expected entry nothing is left to replay; with it everything
before it is erased. -/
theorem action_end_ended (curEvent : BluetoothSwitchEvent) (expected : List BluetoothSwitchEvent)
    (module : BluetoothSwitchModule Tag) :
    Ended module (module.processBluetoothSwitchActionEnd curEvent expected).2 := by
  obtain ⟨dropped, split, _, _⟩ := deduplicate_spec curEvent module.cachedEventVec
  have skipped := List.takeWhile_append_dropWhile
    (p := fun entry : BluetoothSwitchCacheEvent Tag => !expected.contains entry.event)
    (l := deduplicateCacheEvent curEvent module.cachedEventVec)
  rw [processBluetoothSwitchActionEnd]
  simp only
  split
  · rename_i it rest remaining
    have cache : module.cachedEventVec = (dropped ++ (deduplicateCacheEvent curEvent
        module.cachedEventVec).takeWhile (fun entry => !expected.contains entry.event)) ++
        it :: rest := by
      rw [List.append_assoc, ← remaining, skipped]
      exact split
    exact ⟨rfl, rfl, rfl, rfl, rfl, rfl, .posted _ it cache rfl⟩
  · exact ⟨rfl, rfl, rfl, rfl, rfl, rfl, .cleared rfl rfl⟩

/-- Starting an action whose closure only touches the no-auto-connect mark. All four actions are
of this kind, so what a start does is proved once. -/
theorem start_action_started (action : BluetoothSwitchModule Tag →
    SwitchCall × BluetoothSwitchModule Tag)
    (event : BluetoothSwitchEvent) (tag : Tag) (outcome : Outcome)
    (module : BluetoothSwitchModule Tag) (idle : module.isBtSwitchProcessing = false)
    (kind : ∀ armed, (action armed).1.event = event)
    (frame : ∀ armed, ∃ mark, (action armed).2 = armed.setNoAutoConnect mark) :
    Started module (module.startAction action tag outcome).2 event tag outcome := by
  rw [startAction]
  generalize armedEq : ({ module with
    ffrtQueue := module.ffrtQueue.submitTimeout
    taskTimeoutHandle := some module.ffrtQueue.nextHandle
    isBtSwitchProcessing := true } : BluetoothSwitchModule Tag) = armed
  obtain ⟨mark, consumed⟩ := frame armed
  have called := kind armed
  rcases actionEq : action armed with ⟨call, next⟩
  rw [actionEq] at consumed called
  subst consumed armedEq
  by_cases success : outcome.ret = btNoError <;>
    cases overran : outcome.outlastsTimeout <;>
    refine ⟨idle, ?_, ?_, ?_, ?_, ?_, ?_, ?_, ⟨call, called, ?_⟩⟩ <;>
    simp_all [setNoAutoConnect, FfrtQueue.submitTimeout, FfrtQueue.start, FfrtQueue.cancel]

/-- A request is cached or starts its action. -/
theorem switch_action_cases (action : BluetoothSwitchModule Tag → SwitchCall × BluetoothSwitchModule Tag)
    (entry : BluetoothSwitchCacheEvent Tag) (outcome : Outcome) (module : BluetoothSwitchModule Tag)
    (kind : ∀ armed, (action armed).1.event = entry.event)
    (frame : ∀ armed, ∃ mark, (action armed).2 = armed.setNoAutoConnect mark) :
    Cached module (module.processBluetoothSwitchAction action entry outcome).2 entry ∨
      Started module (module.processBluetoothSwitchAction action entry outcome).2 entry.event
        entry.tag outcome := by
  rw [processBluetoothSwitchAction]
  cases busy : module.isBtSwitchProcessing with
  | true =>
    refine .inl ⟨busy, ?_⟩
    simp only [↓reduceIte, busy]
  | false =>
    exact .inr (start_action_started action entry.event entry.tag outcome module busy kind frame)

/-- A closure that leaves the module as it is only touches the mark. -/
theorem unmarked (armed : BluetoothSwitchModule Tag) :
    ∃ mark, armed = armed.setNoAutoConnect mark :=
  ⟨armed.noAutoConnect, rfl⟩

/-- So does the closure of an ENABLE. -/
theorem enable_action_frame (callingName : String) (isAsync : Bool)
    (armed : BluetoothSwitchModule Tag) :
    ∃ mark, (enableBluetoothAction callingName isAsync armed).2 = armed.setNoAutoConnect mark := by
  rw [enableBluetoothAction]
  cases armed.noAutoConnect with
  | true => exact ⟨false, rfl⟩
  | false => exact unmarked armed

/-- Every event is cached, starts an action, ends one, or is the invalid `NONE`. The later
invariants go through these cases and never through the function itself. -/
theorem event_cases (event : BluetoothSwitchEvent) (callingName : String)
    (isAsync isBleOwnerMode : Bool) (tag : Tag) (outcome : Outcome)
    (module : BluetoothSwitchModule Tag) :
    let after := (module.processBluetoothSwitchEvent event callingName isAsync isBleOwnerMode
      tag outcome).2
    (event.IsRequest ∧ (Cached module after ⟨event, callingName, tag⟩ ∨
        Started module after event tag outcome)) ∨
      (¬ event.IsRequest ∧ (Ended module after ∨ (event = .none ∧ after = module))) := by
  cases event with
  | none => exact .inr ⟨id, .inr ⟨rfl, rfl⟩⟩
  | enableBluetooth =>
    exact .inl ⟨trivial, switch_action_cases _ ⟨.enableBluetooth, callingName, tag⟩ outcome module
      (fun _ => rfl) (enable_action_frame callingName isAsync)⟩
  | disableBluetooth =>
    exact .inl ⟨trivial, switch_action_cases _ ⟨.disableBluetooth, callingName, tag⟩ outcome module
      (fun _ => rfl) unmarked⟩
  | enableBluetoothToRestriceMode =>
    exact .inl ⟨trivial, switch_action_cases _ ⟨.enableBluetoothToRestriceMode, callingName, tag⟩
      outcome module (fun _ => rfl) unmarked⟩
  | bluetoothOn => exact .inr ⟨id, .inl (action_end_ended _ _ module)⟩
  | bluetoothOff => exact .inr ⟨id, .inl (action_end_ended _ _ module)⟩
  | bluetoothHalf => exact .inr ⟨id, .inl (action_end_ended _ _ module)⟩

/-- A completion event is not a request and always ends an action. -/
theorem completion_ended (call : SwitchCall) (callingName : String) (isAsync isBleOwnerMode : Bool)
    (tag : Tag) (outcome : Outcome) (module : BluetoothSwitchModule Tag) :
    Ended module (module.processBluetoothSwitchEvent call.completion callingName isAsync
      isBleOwnerMode tag outcome).2 := by
  cases call <;> exact action_end_ended _ _ module

/-- A request is cached or starts its action. -/
theorem request_cases (event : BluetoothSwitchEvent) (requested : event.IsRequest)
    (callingName : String) (isAsync isBleOwnerMode : Bool) (tag : Tag) (outcome : Outcome)
    (module : BluetoothSwitchModule Tag) :
    let after := (module.processBluetoothSwitchEvent event callingName isAsync isBleOwnerMode
      tag outcome).2
    Cached module after ⟨event, callingName, tag⟩ ∨ Started module after event tag outcome := by
  rcases event_cases event callingName isAsync isBleOwnerMode tag outcome module with
    ⟨_, effect⟩ | ⟨other, _⟩
  · exact effect
  · exact absurd requested other

/-- The tags of all requests that are not dropped: executed, posted, cached. -/
def pipeline (module : BluetoothSwitchModule Tag) : List Tag :=
  module.invocations.map Invocation.tag ++
    (module.ffrtQueue.replays ++ module.cachedEventVec).map BluetoothSwitchCacheEvent.tag

/-- A cached request joins the end of the pipeline. -/
theorem cached_pipeline {before after : BluetoothSwitchModule Tag}
    {entry : BluetoothSwitchCacheEvent Tag} (effect : Cached before after entry) :
    pipeline after = pipeline before ++ [entry.tag] := by
  rw [effect.effect]
  simp [pipeline]

/-- A request whose action starts joins it behind the executed ones. -/
theorem started_pipeline {before after : BluetoothSwitchModule Tag} {event : BluetoothSwitchEvent}
    {tag : Tag} {outcome : Outcome} (effect : Started before after event tag outcome) :
    pipeline after = before.invocations.map Invocation.tag ++ tag ::
      (before.ffrtQueue.replays ++ before.cachedEventVec).map BluetoothSwitchCacheEvent.tag := by
  obtain ⟨call, _, log⟩ := effect.log
  simp [pipeline, log, effect.replays, effect.cache]

/-- Either way the pipeline gains exactly the request. -/
theorem joined_pipeline {before after : BluetoothSwitchModule Tag}
    {entry : BluetoothSwitchCacheEvent Tag} {outcome : Outcome}
    (effect : Cached before after entry ∨ Started before after entry.event entry.tag outcome) :
    (pipeline after).Perm (entry.tag :: pipeline before) := by
  rcases effect with cached | started
  · rw [cached_pipeline cached]
    exact List.perm_append_singleton _ _
  · rw [started_pipeline started]
    exact List.perm_middle

/-- A completion event only drops requests from the pipeline: the posted entry moves
from the cache to the end of the posted tasks, in front of what stays cached. -/
theorem ended_pipeline {before after : BluetoothSwitchModule Tag} (effect : Ended before after) :
    (pipeline after).Sublist (pipeline before) := by
  rw [pipeline]
  rw [effect.log]
  refine List.Sublist.append_left (List.Sublist.map _ ?_) _
  cases effect.drained with
  | cleared cache replays =>
    rw [cache, replays]
    exact List.Sublist.append_left (List.nil_sublist _) _
  | posted dropped entry cache replays =>
    rw [cache, replays, List.append_assoc]
    exact List.Sublist.append_left (List.sublist_append_right dropped _) _

/-- Without the flag nothing is in progress. -/
theorem idle_inProgress {module : BluetoothSwitchModule Tag}
    (idle : module.isBtSwitchProcessing = false) : module.inProgress = none := by
  simp [inProgress, idle]

/-- An action in progress keeps the flag set. -/
theorem inProgress_busy {module : BluetoothSwitchModule Tag} {action : Invocation Tag}
    (current : module.inProgress = some action) : module.isBtSwitchProcessing = true := by
  by_contra idle
  simp [inProgress, idle] at current

/-- A started action is in progress exactly when its call succeeded. -/
theorem started_inProgress {before after : BluetoothSwitchModule Tag} {event : BluetoothSwitchEvent}
    {tag : Tag} {outcome : Outcome} (effect : Started before after event tag outcome) :
    ∃ action : Invocation Tag, action.tag = tag ∧ action.ret = outcome.ret ∧
      after.invocations = before.invocations ++ [action] ∧
      after.inProgress = if outcome.ret = btNoError then some action else none := by
  obtain ⟨call, _, log⟩ := effect.log
  refine ⟨_, rfl, rfl, log, ?_⟩
  simp [inProgress, effect.flag, log]

/-- Posted and cached entries are requests, so replaying one is never an event of
another kind. -/
def HoldsRequests (module : BluetoothSwitchModule Tag) : Prop :=
  ∀ entry ∈ module.ffrtQueue.replays ++ module.cachedEventVec, entry.event.IsRequest

/-- Draining moves entries from the cache to the posted tasks or drops them. -/
theorem drained_subset {before after : BluetoothSwitchModule Tag} (drained : Drained before after) :
    ∀ entry ∈ after.ffrtQueue.replays ++ after.cachedEventVec,
      entry ∈ before.ffrtQueue.replays ++ before.cachedEventVec := by
  intro entry member
  cases drained with
  | cleared cache replays =>
    rw [cache, replays] at member
    simp only [List.append_nil] at member
    exact List.mem_append_left _ member
  | posted dropped posted cache replays =>
    rw [replays] at member
    rw [cache]
    simp only [List.mem_append, List.mem_cons, List.not_mem_nil, or_false] at member ⊢
    tauto

/-- What an event leaves in the cache and the posted tasks was there or is the request it
makes. -/
theorem event_entries (event : BluetoothSwitchEvent) (callingName : String)
    (isAsync isBleOwnerMode : Bool) (tag : Tag) (outcome : Outcome)
    {module after : BluetoothSwitchModule Tag}
    (ran : (module.processBluetoothSwitchEvent event callingName isAsync isBleOwnerMode tag outcome).2 =
      after) :
    ∀ entry ∈ after.ffrtQueue.replays ++ after.cachedEventVec,
      entry ∈ module.ffrtQueue.replays ++ module.cachedEventVec ∨
        (event.IsRequest ∧ entry = ⟨event, callingName, tag⟩) := by
  intro entry member
  have cases := event_cases event callingName isAsync isBleOwnerMode tag outcome module
  rw [ran] at cases
  rcases cases with ⟨requested, cached | started⟩ | ⟨_, ended | ⟨_, same⟩⟩
  · rw [cached.effect] at member
    simp only [← List.append_assoc, List.mem_append, List.mem_singleton] at member
    rcases member with earlier | new
    · exact .inl (List.mem_append.mpr earlier)
    · exact .inr ⟨requested, new⟩
  · rw [started.replays, started.cache] at member
    exact .inl member
  · exact .inl (drained_subset ended.drained entry member)
  · rw [same] at member
    exact .inl member

/-- An event leaves only requests in the module. -/
theorem event_holds_requests (event : BluetoothSwitchEvent) (callingName : String)
    (isAsync isBleOwnerMode : Bool) (tag : Tag) (outcome : Outcome)
    (module : BluetoothSwitchModule Tag) (requests : HoldsRequests module) :
    HoldsRequests (module.processBluetoothSwitchEvent event callingName isAsync isBleOwnerMode
      tag outcome).2 := by
  intro entry member
  rcases event_entries event callingName isAsync isBleOwnerMode tag outcome rfl entry member with
    earlier | ⟨requested, same⟩
  · exact requests entry earlier
  · rw [same]
    exact requested

/-- A replay runs the first task posted, taken off the queue. -/
theorem replay_taken {module next : BluetoothSwitchModule Tag} {outcome : Outcome}
    (taken : module.step (.replay outcome) = some next) :
    ∃ task rest, module.ffrtQueue.replays = task :: rest ∧
      ((module.withReplays rest).runReplay task outcome).2 = next := by
  cases posted : module.ffrtQueue.replays with
  | nil => simp [step, posted] at taken
  | cons task rest => exact ⟨task, rest, rfl, by simpa only [step, posted, Option.some.injEq] using taken⟩

/-- Running a replay task is a request event with the task taken off the queue. -/
theorem replay_cases (module next : BluetoothSwitchModule Tag) (outcome : Outcome)
    (requests : HoldsRequests module) (taken : module.step (.replay outcome) = some next) :
    ∃ task rest, module.ffrtQueue.replays = task :: rest ∧
      (Cached (module.withReplays rest) next task ∨
        Started (module.withReplays rest) next task.event task.tag outcome) := by
  obtain ⟨task, rest, posted, effect⟩ := replay_taken taken
  have requested : task.event.IsRequest := requests task (by simp [posted])
  exact ⟨task, rest, posted, effect ▸ request_cases task.event requested task.callingName false false
    task.tag outcome (module.withReplays rest)⟩

/-- Only a request adds to the cache and the posted tasks; a replay that finds the flag set
caches the entry it took. -/
theorem step_entries {module next : BluetoothSwitchModule Tag} {label : Label Tag}
    (taken : module.step label = some next) :
    ∀ entry ∈ next.ffrtQueue.replays ++ next.cachedEventVec,
      entry ∈ module.ffrtQueue.replays ++ module.cachedEventVec ∨
        ∃ event callingName isAsync isBleOwnerMode tag outcome,
          label = .event event callingName isAsync isBleOwnerMode tag outcome ∧
            event.IsRequest ∧ entry = ⟨event, callingName, tag⟩ := by
  intro entry member
  cases label with
  | event event callingName isAsync isBleOwnerMode tag outcome =>
    rw [← Option.some.inj taken] at member
    rcases event_entries event callingName isAsync isBleOwnerMode tag outcome rfl entry member with
      earlier | new
    · exact .inl earlier
    · exact .inr ⟨event, callingName, isAsync, isBleOwnerMode, tag, outcome, rfl, new⟩
  | replay outcome =>
    obtain ⟨task, rest, posted, effect⟩ := replay_taken taken
    refine .inl ?_
    rw [posted]
    rcases event_entries task.event task.callingName false false task.tag outcome effect entry member with
      earlier | ⟨_, same⟩
    · exact List.mem_cons_of_mem task earlier
    · rw [same]
      exact List.mem_cons_self
  | timeoutStarts handle =>
    simp only [step, Option.ite_none_right_eq_some, Option.some.injEq] at taken
    rw [← taken.2] at member
    exact .inl member
  | timeoutRuns handle =>
    simp only [step, Option.ite_none_right_eq_some, Option.some.injEq] at taken
    rw [← taken.2] at member
    refine .inl (List.mem_append_left _ ?_)
    simpa [onTaskTimeout] using member
  | setNoAutoConnect noAutoConnect =>
    rw [← Option.some.inj taken] at member
    exact .inl member

/-- No step puts anything but requests into the module. -/
theorem step_holds_requests (module : BluetoothSwitchModule Tag) (label : Label Tag)
    (next : BluetoothSwitchModule Tag) (requests : HoldsRequests module)
    (taken : module.step label = some next) :
    HoldsRequests next := by
  intro entry member
  rcases step_entries taken entry member with earlier | ⟨event, _, _, _, _, _, _, requested, same⟩
  · exact requests entry earlier
  · rw [same]
    exact requested

end BluetoothFramework.Switch
