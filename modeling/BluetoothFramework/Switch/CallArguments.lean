import BluetoothFramework.Switch.System

/-!
# With which arguments a request is executed

A request passes the caller's name and two flags. Executed at once, it hands them to the
method of `switchAction_`; cached, it keeps only the event and the name, and the replay
task calls `ProcessBluetoothSwitchEvent` with both flags at their defaults.

Entries and calls are tagged here with what the caller passed, so a call can be compared
with its own request. `received_iff` covers all interleavings of requests, completion
events, replays and timeouts: every call has received what its caller passed exactly when
every replay task that starts an action belongs to a request whose flag was the default.
-/

namespace BluetoothFramework.Switch.CallArguments

open BluetoothSwitchModule Runs

/-- The arguments of one call of `ProcessBluetoothSwitchEvent`. -/
structure Passed where
  event : BluetoothSwitchEvent
  callingName : String
  isAsync : Bool := false
  isBleOwnerMode : Bool := false
deriving DecidableEq

/-- The call executes the event and has the name and the flag that were passed. ENABLE and
DISABLE take `isAsync`, the restrict mode takes `isBleOwnerMode`. -/
def Received (passed : Passed) : SwitchCall → Prop
  | .enableBluetooth _ callingName isAsync =>
      passed.event = .enableBluetooth ∧ callingName = passed.callingName ∧ isAsync = passed.isAsync
  | .disableBluetooth callingName isAsync =>
      passed.event = .disableBluetooth ∧ callingName = passed.callingName ∧ isAsync = passed.isAsync
  | .enableBluetoothToRestrictMode callingName isBleOwnerMode =>
      passed.event = .enableBluetoothToRestriceMode ∧ callingName = passed.callingName ∧
        isBleOwnerMode = passed.isBleOwnerMode

instance (passed : Passed) (call : SwitchCall) : Decidable (Received passed call) :=
  match call with
  | .enableBluetooth _ _ _ => inferInstanceAs (Decidable (_ ∧ _ ∧ _))
  | .disableBluetooth _ _ => inferInstanceAs (Decidable (_ ∧ _ ∧ _))
  | .enableBluetoothToRestrictMode _ _ => inferInstanceAs (Decidable (_ ∧ _ ∧ _))

/-- The flag that the method of the event takes. -/
def Passed.flag (passed : Passed) : Bool :=
  match passed.event with
  | .enableBluetooth | .disableBluetooth => passed.isAsync
  | .enableBluetoothToRestriceMode => passed.isBleOwnerMode
  | .none | .bluetoothOn | .bluetoothOff | .bluetoothHalf => false

/-- What happens to the module: an event is passed, or one of the tasks or the host acts. -/
inductive Label where
  | passes (passed : Passed) (outcome : Outcome)
  | replay (outcome : Outcome)
  | timeoutStarts (handle : Nat)
  | timeoutRuns (handle : Nat)
  | setNoAutoConnect (noAutoConnect : Bool)
deriving DecidableEq

/-- The step that the module takes, tagged with what was passed. -/
def Label.toModule : Label → BluetoothSwitchModule.Label Passed
  | .passes passed outcome =>
      .event passed.event passed.callingName passed.isAsync passed.isBleOwnerMode passed outcome
  | .replay outcome => .replay outcome
  | .timeoutStarts handle => .timeoutStarts handle
  | .timeoutRuns handle => .timeoutRuns handle
  | .setNoAutoConnect noAutoConnect => .setNoAutoConnect noAutoConnect

/-- One step of the module. -/
def step (module : BluetoothSwitchModule Passed) (label : Label) :
    Option (BluetoothSwitchModule Passed) :=
  module.step label.toModule

/-- Every call has received what the caller of its request passed. -/
def AllReceived (module : BluetoothSwitchModule Passed) : Prop :=
  ∀ invocation ∈ module.invocations, Received invocation.tag invocation.call

instance (module : BluetoothSwitchModule Passed) : Decidable (AllReceived module) :=
  inferInstanceAs (Decidable (∀ invocation ∈ module.invocations, _))

/-- A replay task that starts an action stands for a request whose flag was not set. -/
def ReplaysDefault (module : BluetoothSwitchModule Passed) : Label → Prop
  | .replay _ => module.isBtSwitchProcessing = false →
      ∀ task ∈ module.ffrtQueue.replays.head?, task.tag.flag = false
  | _ => True

instance (module : BluetoothSwitchModule Passed) (label : Label) :
    Decidable (ReplaysDefault module label) :=
  match label with
  | .replay _ => inferInstanceAs (Decidable (_ → _))
  | .passes .. | .timeoutStarts _ | .timeoutRuns _ | .setNoAutoConnect _ => isTrue trivial

/-- The event and the name of an entry are those that its caller passed. -/
def EntriesKeep (module : BluetoothSwitchModule Passed) : Prop :=
  ∀ entry ∈ module.ffrtQueue.replays ++ module.cachedEventVec,
    entry.event.IsRequest ∧ entry.event = entry.tag.event ∧ entry.callingName = entry.tag.callingName

/-- The call that an event makes on `switchAction_` when no action is in progress. -/
def callOf (noAutoConnect : Bool) (event : BluetoothSwitchEvent) (callingName : String)
    (isAsync isBleOwnerMode : Bool) : Option SwitchCall :=
  match event with
  | .enableBluetooth => some (.enableBluetooth noAutoConnect callingName isAsync)
  | .disableBluetooth => some (.disableBluetooth callingName isAsync)
  | .enableBluetoothToRestriceMode => some (.enableBluetoothToRestrictMode callingName isBleOwnerMode)
  | .none | .bluetoothOn | .bluetoothOff | .bluetoothHalf => none

/-! ## The calls of one step -/

section
variable {Tag : Type}

/-- The calls that an event adds: none while an action is in progress, otherwise its own. -/
def eventCalls (module : BluetoothSwitchModule Tag) (event : BluetoothSwitchEvent)
    (callingName : String) (isAsync isBleOwnerMode : Bool) : Option SwitchCall :=
  if module.isBtSwitchProcessing then none
  else callOf module.noAutoConnect event callingName isAsync isBleOwnerMode

/-- An action started on an idle module records one call, the one its closure makes. The
arguments of the call depend on the mark alone, which is still what it was. -/
theorem start_action_invocations (action : BluetoothSwitchModule Tag →
    SwitchCall × BluetoothSwitchModule Tag)
    (tag : Tag) (outcome : Outcome) (module : BluetoothSwitchModule Tag) (call : SwitchCall)
    (calls : ∀ armed : BluetoothSwitchModule Tag, armed.noAutoConnect = module.noAutoConnect →
      (action armed).1 = call)
    (frame : ∀ armed, (action armed).2.invocations = armed.invocations) :
    ∃ timeout, (module.startAction action tag outcome).2.invocations =
      module.invocations ++ [⟨tag, call, timeout, outcome.ret⟩] := by
  refine ⟨module.ffrtQueue.nextHandle, ?_⟩
  rw [startAction]
  generalize armedEq : ({ module with
    ffrtQueue := module.ffrtQueue.submitTimeout
    taskTimeoutHandle := some module.ffrtQueue.nextHandle
    isBtSwitchProcessing := true } : BluetoothSwitchModule Tag) = armed
  have mark : armed.noAutoConnect = module.noAutoConnect := by rw [← armedEq]
  have log : armed.invocations = module.invocations := by rw [← armedEq]
  have made := calls armed mark
  have kept := frame armed
  rcases actionEq : action armed with ⟨own, consumed⟩
  rw [actionEq] at made kept
  have own : own = call := made
  have recorded : consumed.invocations = module.invocations := kept.trans log
  by_cases failed : outcome.ret = btNoError <;> simp [failed, own, recorded]

/-- An action is invoked at most once, under the tag of its entry, and only if no action is in
progress. The two actions of the module differ in the call alone. -/
theorem switch_action_invocations (action : BluetoothSwitchModule Tag →
    SwitchCall × BluetoothSwitchModule Tag)
    (entry : BluetoothSwitchCacheEvent Tag) (outcome : Outcome) (module : BluetoothSwitchModule Tag)
    (call : SwitchCall)
    (calls : ∀ armed : BluetoothSwitchModule Tag, armed.noAutoConnect = module.noAutoConnect →
      (action armed).1 = call)
    (frame : ∀ armed, (action armed).2.invocations = armed.invocations) :
    ∃ timeout, (module.processBluetoothSwitchAction action entry outcome).2.invocations =
      module.invocations ++ ((if module.isBtSwitchProcessing then none else some call).map
        (⟨entry.tag, ·, timeout, outcome.ret⟩)).toList := by
  rw [processBluetoothSwitchAction]
  cases module.isBtSwitchProcessing with
  | true => exact ⟨0, (List.append_nil _).symm⟩
  | false => exact start_action_invocations action entry.tag outcome module call calls frame

/-- Only a request calls. -/
theorem eventCalls_none (module : BluetoothSwitchModule Tag) {event : BluetoothSwitchEvent}
    (other : ¬ event.IsRequest) (callingName : String) (isAsync isBleOwnerMode : Bool) :
    eventCalls module event callingName isAsync isBleOwnerMode = none := by
  rw [eventCalls]
  cases event with
  | enableBluetooth | disableBluetooth | enableBluetoothToRestriceMode => exact absurd trivial other
  | none | bluetoothOn | bluetoothOff | bluetoothHalf => exact ite_self none

/-- An event records the call that `eventCalls` says, and nothing else. One case for each event
that asks for something; the events that report something invoke nothing. -/
theorem event_invocations (event : BluetoothSwitchEvent) (callingName : String)
    (isAsync isBleOwnerMode : Bool)
    (tag : Tag) (outcome : Outcome) (module : BluetoothSwitchModule Tag) :
    ∃ timeout, (module.processBluetoothSwitchEvent event callingName isAsync isBleOwnerMode tag
        outcome).2.invocations =
      module.invocations ++ ((eventCalls module event callingName isAsync isBleOwnerMode).map
        (⟨tag, ·, timeout, outcome.ret⟩)).toList := by
  by_cases requested : event.IsRequest
  · cases event with
    | enableBluetooth =>
      refine switch_action_invocations _ ⟨.enableBluetooth, callingName, tag⟩ outcome module _ ?_ ?_
      · intro armed mark
        rw [enableBluetoothAction, mark]
      · intro armed
        rw [enableBluetoothAction]
        cases armed.noAutoConnect <;> rfl
    | disableBluetooth =>
      exact switch_action_invocations _ ⟨.disableBluetooth, callingName, tag⟩ outcome module _
        (fun _ _ => rfl) (fun _ => rfl)
    | enableBluetoothToRestriceMode =>
      exact switch_action_invocations _ ⟨.enableBluetoothToRestriceMode, callingName, tag⟩ outcome module _
        (fun _ _ => rfl) (fun _ => rfl)
    | none | bluetoothOn | bluetoothOff | bluetoothHalf => exact absurd requested id
  · refine ⟨0, ?_⟩
    rw [eventCalls_none module requested, Option.map_none, Option.toList_none, List.append_nil]
    rcases event_cases event callingName isAsync isBleOwnerMode tag outcome module with
      ⟨request, _⟩ | ⟨_, ended | ⟨_, same⟩⟩
    · exact absurd request requested
    · exact ended.log
    · rw [same]

end

/-! ## Runs -/

/-- Every request calls a method. -/
theorem callOf_request {event : BluetoothSwitchEvent} (requested : event.IsRequest)
    (noAutoConnect : Bool) (callingName : String) (isAsync isBleOwnerMode : Bool) :
    ∃ call, callOf noAutoConnect event callingName isAsync isBleOwnerMode = some call := by
  cases event with
  | enableBluetooth | disableBluetooth | enableBluetoothToRestriceMode => exact ⟨_, rfl⟩
  | none | bluetoothOn | bluetoothOff | bluetoothHalf => exact absurd requested id

/-- With both flags at their defaults every method takes the default. -/
theorem flag_default (passed : Passed) :
    ({ passed with isAsync := false, isBleOwnerMode := false } : Passed).flag = false := by
  obtain ⟨event, callingName, isAsync, isBleOwnerMode⟩ := passed
  cases event <;> rfl

/-- What a call made by a step has received is decided by whose entry it executes. -/
theorem received_callOf (noAutoConnect : Bool) (passed : Passed) (isAsync isBleOwnerMode : Bool)
    (call : SwitchCall)
    (made : callOf noAutoConnect passed.event passed.callingName isAsync isBleOwnerMode = some call) :
    Received passed call ↔
      passed.flag = ({ passed with isAsync := isAsync, isBleOwnerMode := isBleOwnerMode } : Passed).flag := by
  obtain ⟨event, callingName, ownAsync, ownMode⟩ := passed
  cases event <;> simp only [callOf, Option.some.injEq, reduceCtorEq] at made <;> subst made <;>
    simp only [Received, Passed.flag, true_and] <;> exact eq_comm

/-- A step leaves in the cache and the posted tasks what its callers passed. Entries are moved
from the one to the other, and never changed on the way. -/
theorem step_entries_keep (module : BluetoothSwitchModule Passed) (label : Label)
    (next : BluetoothSwitchModule Passed) (keep : EntriesKeep module)
    (taken : step module label = some next) :
    EntriesKeep next := by
  intro entry member
  rcases step_entries taken entry member with earlier | ⟨event, name, _, _, tag, _, made, requested, same⟩
  · exact keep entry earlier
  · cases label with
    | passes passed outcome =>
      injection made with ownEvent ownName _ _ ownTag _
      subst same ownEvent ownName ownTag
      exact ⟨requested, rfl, rfl⟩
    | replay outcome => cases made
    | timeoutStarts handle => cases made
    | timeoutRuns handle => cases made
    | setNoAutoConnect noAutoConnect => cases made

/-- One more call keeps the property exactly if it has received what was passed. -/
theorem all_received_append {module next : BluetoothSwitchModule Passed} {passed : Passed}
    {timeout : Nat} {ret : Int} {called : Option SwitchCall} (received : AllReceived module)
    (log : next.invocations = module.invocations ++ (called.map (⟨passed, ·, timeout, ret⟩)).toList) :
    AllReceived next ↔ ∀ call ∈ called, Received passed call := by
  rw [AllReceived, log]
  constructor
  · intro all call made
    refine all ⟨passed, call, timeout, ret⟩ (List.mem_append_right _ ?_)
    rw [Option.mem_def.mp made]
    exact List.mem_singleton_self _
  · intro own invocation member
    rcases List.mem_append.mp member with earlier | now
    · exact received invocation earlier
    · obtain ⟨call, made, rfl⟩ := Option.map_eq_some_iff.mp (Option.mem_toList.mp now)
      exact own call made

/-- A step keeps the property exactly if it replays no request whose flag was set. The replay is
given the event and the name of the caller only, so the flags it passes on are the defaults. -/
theorem step_received_iff (module : BluetoothSwitchModule Passed) (label : Label)
    (next : BluetoothSwitchModule Passed) (keep : EntriesKeep module)
    (received : AllReceived module)
    (taken : step module label = some next) : AllReceived next ↔ ReplaysDefault module label := by
  cases label with
  | passes passed outcome =>
    obtain ⟨timeout, log⟩ := event_invocations passed.event passed.callingName passed.isAsync
      passed.isBleOwnerMode passed outcome module
    rw [Option.some.inj taken] at log
    refine iff_of_true ((all_received_append received log).mpr ?_) trivial
    intro call made
    simp only [eventCalls, Option.mem_def, Option.ite_none_left_eq_some] at made
    exact (received_callOf _ passed _ _ call made.2).mpr rfl
  | replay outcome =>
    cases posted : module.ffrtQueue.replays with
    | nil => simp [step, Label.toModule, BluetoothSwitchModule.step, posted] at taken
    | cons task rest =>
      simp only [step, Label.toModule, BluetoothSwitchModule.step, posted, Option.some.injEq] at taken
      obtain ⟨requested, sameEvent, sameName⟩ := keep task (by simp [posted])
      obtain ⟨timeout, log⟩ := event_invocations task.event task.callingName false false task.tag outcome
        (module.withReplays rest)
      rw [← runReplay, taken] at log
      rw [all_received_append received log]
      obtain ⟨call, made⟩ : ∃ call, callOf module.noAutoConnect task.event task.callingName false false =
          some call := callOf_request requested _ _ _ _
      have exactly : Received task.tag call ↔ task.tag.flag = false := by
        rw [sameEvent, sameName] at made
        exact (received_callOf _ task.tag false false call made).trans (by rw [flag_default])
      simp only [ReplaysDefault, posted, List.head?_cons, Option.mem_def, Option.some.injEq, forall_eq',
        eventCalls, Option.ite_none_left_eq_some, Bool.not_eq_true, and_imp]
      rw [← exactly]
      constructor
      · intro all idle
        exact all call idle made
      · intro own other idle again
        rw [Option.some.inj (again.symm.trans made)]
        exact own idle
  | timeoutStarts handle =>
    simp only [step, Label.toModule, BluetoothSwitchModule.step, Option.ite_none_right_eq_some,
      Option.some.injEq] at taken
    exact iff_of_true (taken.2 ▸ received) trivial
  | timeoutRuns handle =>
    simp only [step, Label.toModule, BluetoothSwitchModule.step, Option.ite_none_right_eq_some,
      Option.some.injEq] at taken
    exact iff_of_true (taken.2 ▸ received) trivial
  | setNoAutoConnect noAutoConnect => exact iff_of_true (Option.some.inj taken ▸ received) trivial

/-- **Every call receives what its caller passed as long as no replay stands for a request
with a flag.** In every run the calls on `switchAction_` have all received the name and the
flag of their own request exactly if each replay task that started an action belonged to a
request made with the default flag. -/
theorem received_iff (labels : List Label) :
    Always step AllReceived {} labels ↔ Meets step ReplaysDefault {} labels := by
  apply @always_iff_meets _ _ step AllReceived EntriesKeep ReplaysDefault
  · exact step_entries_keep
  · exact step_received_iff
  · intro entry member
    cases member
  · intro invocation member
    cases member

/-- A DISABLE made with `isAsync` while an ENABLE is in progress is replayed without it. -/
theorem cached_disable_loses_async :
    ¬ Always step AllReceived {}
      [.passes ⟨.enableBluetooth, "launcher", false, false⟩ {},
        .passes ⟨.disableBluetooth, "settings", true, false⟩ {},
        .passes ⟨.bluetoothOn, "", false, false⟩ {}, .replay {}] ∧
    (run step {}
      [.passes ⟨.enableBluetooth, "launcher", false, false⟩ {},
        .passes ⟨.disableBluetooth, "settings", true, false⟩ {},
        .passes ⟨.bluetoothOn, "", false, false⟩ {}, .replay {}]).map
      (fun module => module.invocations.map (fun i => (i.tag.isAsync, i.call))) =
      some [(false, .enableBluetooth false "launcher" false), (true, .disableBluetooth "settings" false)] := by
  constructor <;> decide

end BluetoothFramework.Switch.CallArguments
