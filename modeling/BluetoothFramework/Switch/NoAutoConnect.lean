import BluetoothFramework.Switch.System

/-!
# Whose mark an ENABLE consumes

`EnableBluetoothNoAutoConnect` sets the mark and then makes an ENABLE request. The mark
is one flag of the module, set without the mutex, while the request may be cached, and a
cached entry keeps nothing of the mark: whichever ENABLE action starts next consumes it.

A request is tagged with whether `EnableBluetoothNoAutoConnect` made it, so a call can be
compared with the request it executes. `mark_belongs_iff` covers all interleavings of
callers, completion events, replays and timeouts: every call carries the right mark
exactly when each ENABLE action that starts for a marked request, and no other, follows a
caller that has set the mark since the last ENABLE action started.

Loading and clearing the flag are two accesses under the mutex. A caller that sets it
between them found it set, so the order is the same as if it had come before both.
-/

namespace BluetoothFramework.Switch.NoAutoConnect

open BluetoothSwitchModule Runs

variable {Tag : Type}

/-- The mark that a call carries, if it turns Bluetooth on. -/
def mark : SwitchCall → Option Bool
  | .enableBluetooth noAutoConnect _ _ => some noAutoConnect
  | .disableBluetooth _ _ | .enableBluetoothToRestrictMode _ _ => none

/-- The request whose ENABLE action a step of the module starts. -/
def enableStart (module : BluetoothSwitchModule Tag) : BluetoothSwitchModule.Label Tag → Option Tag
  | .event .enableBluetooth _ _ _ tag _ => if module.isBtSwitchProcessing then none else some tag
  | .replay _ =>
      match module.ffrtQueue.replays with
      | [] => none
      | task :: _ =>
          if task.event = .enableBluetooth ∧ module.isBtSwitchProcessing = false then some task.tag
          else none
  | _ => none

/-- The module, whose entries are tagged with whether `EnableBluetoothNoAutoConnect` made the
request; its callers between their two statements; and how many callers have set the mark
since the last ENABLE action started. -/
structure State where
  module : BluetoothSwitchModule Bool := {}
  entered : List String := []
  marks : Nat := 0
deriving DecidableEq

/-- `EnableBluetoothNoAutoConnect` sets the mark and later makes its request; any other
request is made in one step. -/
inductive Label where
  | setNoAutoConnect (name : String)
  | enableMarked (name : String) (outcome : Outcome)
  | request (made : SwitchRequest) (callingName : String) (isAsync isBleOwnerMode : Bool)
      (outcome : Outcome)
  | completion (call : SwitchCall)
  | replay (outcome : Outcome)
  | timeoutStarts (handle : Nat)
  | timeoutRuns (handle : Nat)
deriving DecidableEq

/-- The step that the module takes. -/
def Label.toModule : Label → BluetoothSwitchModule.Label Bool
  | .setNoAutoConnect _ => .setNoAutoConnect true
  | .enableMarked name outcome => .event .enableBluetooth name false false true outcome
  | .request made callingName isAsync isBleOwnerMode outcome =>
      .event made.event callingName isAsync isBleOwnerMode false outcome
  | .completion call => .event call.completion "" false false false {}
  | .replay outcome => .replay outcome
  | .timeoutStarts handle => .timeoutStarts handle
  | .timeoutRuns handle => .timeoutRuns handle

/-- The callers that have set the mark and not made their request yet. -/
def Label.enter (entered : List String) : Label → Option (List String)
  | .setNoAutoConnect name => some (entered ++ [name])
  | .enableMarked name _ => if name ∈ entered then some (entered.erase name) else none
  | _ => some entered

/-- The callers since the last start of an ENABLE action, after a step that starts none. -/
def Label.marks (marks : Nat) : Label → Nat
  | .setNoAutoConnect _ => marks + 1
  | _ => marks

/-- A caller that has set the mark goes on to make its request. -/
def step (state : State) (label : Label) : Option State :=
  match label.enter state.entered, state.module.step label.toModule with
  | some entered, some module =>
      some ⟨module, entered,
        if enableStart state.module label.toModule = none then label.marks state.marks else 0⟩
  | _, _ => none

/-- Every ENABLE that was executed carried the mark exactly if its request was made with it. -/
def MarkBelongs (state : State) : Prop :=
  ∀ invocation ∈ state.module.invocations, ∀ noAutoConnect ∈ mark invocation.call,
    noAutoConnect = invocation.tag

/-- An ENABLE action starts for a marked request exactly if a caller has set the mark since
the last ENABLE action started. -/
def StartsAfterMark (state : State) (label : Label) : Prop :=
  ∀ marked ∈ enableStart state.module label.toModule, marked = true ↔ 0 < state.marks

instance (state : State) (label : Label) : Decidable (StartsAfterMark state label) :=
  inferInstanceAs (Decidable (∀ marked ∈ enableStart state.module label.toModule, _))

/-- The mark is set exactly if a caller has set it since the last ENABLE action started. -/
def Counted (state : State) : Prop :=
  state.module.noAutoConnect = decide (0 < state.marks)

/-! ## What an event does to the mark -/

/-- An ENABLE action carries the mark and clears it. -/
theorem enable_consumes (callingName : String) (isAsync isBleOwnerMode : Bool) (tag : Tag)
    (outcome : Outcome) {module : BluetoothSwitchModule Tag}
    (idle : module.isBtSwitchProcessing = false) :
    let after := (module.processBluetoothSwitchEvent .enableBluetooth callingName isAsync isBleOwnerMode
      tag outcome).2
    after.noAutoConnect = false ∧
      after.invocations = module.invocations ++
        [⟨tag, .enableBluetooth module.noAutoConnect callingName isAsync,
        module.ffrtQueue.nextHandle, outcome.ret⟩] := by
  simp only [processBluetoothSwitchEvent, processEnableBluetoothEvent, processBluetoothSwitchAction, idle,
    startAction, enableBluetoothAction]
  cases set : module.noAutoConnect with
  | true => by_cases failed : outcome.ret = btNoError <;> simp [failed, setNoAutoConnect]
  | false => by_cases failed : outcome.ret = btNoError <;> simp [failed]

/-- Any other event leaves the mark alone. Only an ENABLE that starts at once reads and clears
it; one that is cached does so when it is replayed. -/
theorem event_noAutoConnect {event : BluetoothSwitchEvent} (callingName : String)
    (isAsync isBleOwnerMode : Bool) (tag : Tag) (outcome : Outcome)
    (module : BluetoothSwitchModule Tag)
    (other : event = .enableBluetooth → module.isBtSwitchProcessing = true) :
    (module.processBluetoothSwitchEvent event callingName isAsync isBleOwnerMode tag outcome).2.noAutoConnect =
      module.noAutoConnect := by
  have ended (curEvent : BluetoothSwitchEvent) (expected : List BluetoothSwitchEvent) :
      (module.processBluetoothSwitchActionEnd curEvent expected).2.noAutoConnect =
        module.noAutoConnect := by
    rw [processBluetoothSwitchActionEnd]
    simp only
    split <;> rfl
  have unmarked (call : SwitchCall) (entry : BluetoothSwitchCacheEvent Tag) :
      (module.processBluetoothSwitchAction (fun armed => (call, armed)) entry outcome).2.noAutoConnect =
        module.noAutoConnect := by
    rw [processBluetoothSwitchAction, startAction]
    split
    · rfl
    · by_cases failed : outcome.ret = btNoError <;> simp [failed]
  cases event with
  | none => rfl
  | enableBluetooth =>
    simp only [processBluetoothSwitchEvent, processEnableBluetoothEvent, processBluetoothSwitchAction,
      other rfl, ↓reduceIte]
  | disableBluetooth => exact unmarked _ _
  | enableBluetoothToRestriceMode => exact unmarked _ _
  | bluetoothOn => exact ended _ _
  | bluetoothOff => exact ended _ _
  | bluetoothHalf => exact ended _ _

/-- And it calls nothing that turns Bluetooth on, so no invocation carries a mark from such an
event. Together with the lemma above this covers every step that is no start of ENABLE. -/
theorem event_invocations {event : BluetoothSwitchEvent} (callingName : String)
    (isAsync isBleOwnerMode : Bool) (tag : Tag) (outcome : Outcome)
    (module : BluetoothSwitchModule Tag)
    (other : event = .enableBluetooth → module.isBtSwitchProcessing = true) :
    ∃ more, (module.processBluetoothSwitchEvent event callingName isAsync isBleOwnerMode tag
      outcome).2.invocations =
      module.invocations ++ more ∧ ∀ invocation ∈ more, mark invocation.call = none := by
  have nothing : module.invocations = module.invocations ++ [] := (List.append_nil _).symm
  rcases event_cases event callingName isAsync isBleOwnerMode tag outcome module with
    ⟨_, cached | started⟩ | ⟨_, ended | ⟨_, same⟩⟩
  · refine ⟨[], ?_, by simp⟩
    rw [cached.effect]
    exact nothing
  · obtain ⟨call, kind, log⟩ := started.log
    refine ⟨_, log, ?_⟩
    intro invocation member
    rw [List.mem_singleton.mp member]
    cases call with
    | enableBluetooth noAutoConnect callingName isAsync =>
      have busy := other kind.symm
      rw [started.idle] at busy
      cases busy
    | disableBluetooth callingName isAsync => rfl
    | enableBluetoothToRestrictMode callingName isBleOwnerMode => rfl
  · exact ⟨[], ended.log.trans nothing, by simp⟩
  · exact ⟨[], (congrArg invocations same).trans nothing, by simp⟩

/-- A step that starts an ENABLE action calls with the mark and clears it. It is the same for an
event that starts at once and for a replay, which is what the run lemma needs. -/
theorem starts_enable {module next : BluetoothSwitchModule Tag}
    {label : BluetoothSwitchModule.Label Tag} {tag : Tag} (taken : module.step label = some next)
    (starts : enableStart module label = some tag) :
    next.noAutoConnect = false ∧
      ∃ invocation : Invocation Tag, invocation.tag = tag ∧
        mark invocation.call = some module.noAutoConnect ∧
        next.invocations = module.invocations ++ [invocation] := by
  cases label with
  | event event callingName isAsync isBleOwnerMode own outcome =>
    cases event with
    | enableBluetooth =>
      simp only [enableStart, Option.ite_none_left_eq_some, Option.some.injEq, Bool.not_eq_true] at starts
      obtain ⟨idle, rfl⟩ := starts
      obtain ⟨cleared, log⟩ := enable_consumes callingName isAsync isBleOwnerMode own outcome idle
      rw [← Option.some.inj taken]
      exact ⟨cleared, _, rfl, rfl, log⟩
    | _ => cases starts
  | replay outcome =>
    cases posted : module.ffrtQueue.replays with
    | nil => simp [enableStart, posted] at starts
    | cons task rest =>
      simp only [enableStart, posted, Option.ite_none_right_eq_some, Option.some.injEq] at starts
      obtain ⟨⟨enables, idle⟩, rfl⟩ := starts
      simp only [BluetoothSwitchModule.step, posted, Option.some.injEq, runReplay, enables] at taken
      obtain ⟨cleared, log⟩ := @enable_consumes _ task.callingName false false task.tag outcome
        (module.withReplays rest) idle
      rw [← taken]
      exact ⟨cleared, _, rfl, rfl, log⟩
  | timeoutStarts handle => cases starts
  | timeoutRuns handle => cases starts
  | setNoAutoConnect noAutoConnect => cases starts

/-- Any other step calls nothing that turns Bluetooth on, and leaves the mark to
`SetNoAutoConnect`. -/
theorem starts_nothing {module next : BluetoothSwitchModule Tag}
    {label : BluetoothSwitchModule.Label Tag}
    (taken : module.step label = some next) (starts : enableStart module label = none) :
    (∃ more, next.invocations = module.invocations ++ more ∧
      ∀ invocation ∈ more, mark invocation.call = none) ∧
      ((∀ noAutoConnect, label ≠ .setNoAutoConnect noAutoConnect) →
        next.noAutoConnect = module.noAutoConnect) := by
  have nothing : module.invocations = module.invocations ++ [] := (List.append_nil _).symm
  cases label with
  | event event callingName isAsync isBleOwnerMode own outcome =>
    rw [← Option.some.inj taken]
    have busy : event = .enableBluetooth → module.isBtSwitchProcessing = true := by
      rintro rfl
      simpa [enableStart] using starts
    exact ⟨event_invocations _ _ _ _ _ _ busy, fun _ => event_noAutoConnect _ _ _ _ _ _ busy⟩
  | replay outcome =>
    obtain ⟨task, rest, posted, effect⟩ := replay_taken taken
    rw [← effect]
    have busy : task.event = .enableBluetooth → (module.withReplays rest).isBtSwitchProcessing = true := by
      intro enables
      have processing : module.isBtSwitchProcessing = true := by
        simpa [enableStart, posted, enables] using starts
      exact processing
    exact ⟨event_invocations _ _ _ _ _ _ busy, fun _ => event_noAutoConnect _ _ _ _ _ _ busy⟩
  | timeoutStarts handle =>
    simp only [BluetoothSwitchModule.step, Option.ite_none_right_eq_some, Option.some.injEq] at taken
    rw [← taken.2]
    exact ⟨⟨[], nothing, by simp⟩, fun _ => rfl⟩
  | timeoutRuns handle =>
    simp only [BluetoothSwitchModule.step, Option.ite_none_right_eq_some, Option.some.injEq] at taken
    rw [← taken.2]
    exact ⟨⟨[], nothing, by simp⟩, fun _ => rfl⟩
  | setNoAutoConnect noAutoConnect =>
    exact ⟨⟨[], Option.some.inj taken ▸ nothing, by simp⟩, fun other => absurd rfl (other noAutoConnect)⟩

/-! ## Runs -/

/-- What a step does to the module and to the count. -/
theorem step_inv {state next : State} {label : Label}
    (taken : NoAutoConnect.step state label = some next) :
    state.module.step label.toModule = some next.module ∧
      next.marks = if enableStart state.module label.toModule =
        none then label.marks state.marks else 0 := by
  rw [NoAutoConnect.step] at taken
  split at taken
  · rename_i entered module _ stepped
    rw [← Option.some.inj taken]
    exact ⟨stepped, rfl⟩
  · cases taken

/-- Every step keeps the mark equal to what the history of the calls and starts says. One case
for each label, and only a start of ENABLE takes the mark away. -/
theorem step_counted (state : State) (label : Label) (next : State) (counted : Counted state)
    (taken : NoAutoConnect.step state label = some next) : Counted next := by
  obtain ⟨stepped, marks⟩ := step_inv taken
  rw [Counted, marks]
  cases starts : enableStart state.module label.toModule with
  | some marked =>
    rw [(starts_enable stepped starts).1]
    simp
  | none =>
    rw [if_pos rfl]
    cases label with
    | setNoAutoConnect name =>
      rw [← Option.some.inj stepped]
      simp [setNoAutoConnect, Label.marks]
    | _ =>
      rw [(starts_nothing stepped starts).2 (by simp [Label.toModule]), counted]
      rfl

/-- A step keeps the marks right exactly if the ENABLE action it may start belongs to a
marked request just when the mark is set. -/
theorem step_belongs_iff (state : State) (label : Label) (next : State) (counted : Counted state)
    (belongs : MarkBelongs state) (taken : NoAutoConnect.step state label = some next) :
    MarkBelongs next ↔ StartsAfterMark state label := by
  obtain ⟨stepped, -⟩ := step_inv taken
  rw [StartsAfterMark]
  cases starts : enableStart state.module label.toModule with
  | none =>
    obtain ⟨⟨more, log, others⟩, -⟩ := starts_nothing stepped starts
    refine iff_of_true ?_ (by simp)
    intro invocation member noAutoConnect carries
    rw [log, List.mem_append] at member
    obtain earlier | now := member
    · exact belongs invocation earlier noAutoConnect carries
    · rw [others invocation now] at carries
      cases carries
  | some marked =>
    obtain ⟨-, call, own, carried, log⟩ := starts_enable stepped starts
    rw [counted] at carried
    have exactly : MarkBelongs next ↔ decide (0 < state.marks) = marked := by
      constructor
      · intro right
        rw [← own]
        exact right call (by rw [log]; simp) _ carried
      · intro same invocation member noAutoConnect carries
        rw [log, List.mem_append, List.mem_singleton] at member
        obtain earlier | rfl := member
        · exact belongs invocation earlier noAutoConnect carries
        · rw [carried] at carries
          rw [← Option.some.inj carries, own, same]
    rw [exactly]
    cases marked <;> simp

/-- **A call carries the mark of its own request as long as no ENABLE action starts with a
mark that is not its own.** In every run, all calls that turned Bluetooth on carried the mark
exactly if `EnableBluetoothNoAutoConnect` made their request, just when every ENABLE action
started for such a request if and only if one of its callers had set the mark since the
ENABLE action before. -/
theorem mark_belongs_iff (labels : List Label) :
    Always NoAutoConnect.step MarkBelongs {} labels ↔
      Meets NoAutoConnect.step StartsAfterMark {} labels := by
  apply @always_iff_meets _ _ NoAutoConnect.step MarkBelongs Counted StartsAfterMark
  · exact step_counted
  · exact step_belongs_iff
  · rfl
  · intro invocation member
    cases member

/-- Between the two statements of `EnableBluetoothNoAutoConnect` somebody else's `EnableBle`
consumes the mark; then the marked request is executed without it. -/
theorem plain_enable_consumes_mark :
    ¬ Always NoAutoConnect.step MarkBelongs {}
      [.setNoAutoConnect "settings", .request .enable "launcher" false false ⟨btErrInternalError, false⟩,
        .enableMarked "settings" {}] ∧
    (run NoAutoConnect.step {}
      [.setNoAutoConnect "settings", .request .enable "launcher" false false ⟨btErrInternalError, false⟩,
        .enableMarked "settings" {}]).map (fun state => state.module.invocations.map (fun i =>
          (i.tag, i.call))) =
      some [(false, .enableBluetooth true "launcher" false),
        (true, .enableBluetooth false "settings" false)] := by
  have executed : (run NoAutoConnect.step {}
      [.setNoAutoConnect "settings", .request .enable "launcher" false false ⟨btErrInternalError, false⟩,
        .enableMarked "settings" {}]).map (fun state => state.module.invocations.map (fun i =>
          (i.tag, i.call))) =
      some [(false, .enableBluetooth true "launcher" false),
        (true, .enableBluetooth false "settings" false)] := by
    decide
  refine ⟨?_, executed⟩
  intro always
  obtain ⟨last, reached, calls⟩ := Option.map_eq_some_iff.mp executed
  have belongs := always_last _ last _ always reached
  have member : (true, SwitchCall.enableBluetooth false "settings" false) ∈
      last.module.invocations.map (fun i => (i.tag, i.call)) := by
    rw [calls]
    simp
  obtain ⟨invocation, executedLast, same⟩ := List.mem_map.mp member
  obtain ⟨own, call⟩ := Prod.mk.inj same
  have wrong := belongs invocation executedLast false (by rw [call]; rfl)
  rw [own] at wrong
  cases wrong

end BluetoothFramework.Switch.NoAutoConnect
