import BluetoothFramework.Switch.System

/-!
# The order in which requests reach the switch action

Requests are numbered as they are accepted, whether they start their action or are
cached. In this system every call on `switchAction_` succeeds, no timeout fires and
a completion event arrives only for the action in progress.

`isBtSwitchProcessing_` is already clear while a posted replay task waits for its
turn. A request accepted in that window starts at once; the replay then finds the
flag set or the other action finished, and the older request is executed after the
younger one. `no_overtaking` proves the order for all runs without such a request.
The pipeline of executed, posted and cached requests is then sorted at all times;
`overtaken_in_window` shows that every request in the window can be the one that
overtakes.
-/

namespace BluetoothFramework.Switch.RequestOrder

open BluetoothSwitchModule

/-- The module with its requests numbered in the order of acceptance. -/
structure State where
  module : BluetoothSwitchModule Nat := {}
  accepted : Nat := 0
deriving DecidableEq

/-- A user request, the completion event of the action in progress, the execution of
the oldest replay task, or a change of the no-auto-connect mark. -/
inductive Label where
  | request (request : SwitchRequest) (callingName : String) (isAsync isBleOwnerMode : Bool)
  | completion
  | replay
  | setNoAutoConnect (noAutoConnect : Bool)
deriving DecidableEq

/-- All calls succeed, and completion is enabled only with an action in progress. -/
def step (state : State) : Label → Option State
  | .request request callingName isAsync isBleOwnerMode =>
      (state.module.step (.event request.event callingName isAsync isBleOwnerMode
        state.accepted {})).map (fun next => ⟨next, state.accepted + 1⟩)
  | .completion =>
      match state.module.inProgress with
      | none => none
      | some action =>
          (state.module.step (.event action.call.completion "" false false state.accepted {})).map
            (fun next => { state with module := next })
  | .replay => (state.module.step (.replay {})).map (fun next => { state with module := next })
  | .setNoAutoConnect noAutoConnect =>
      (state.module.step (.setNoAutoConnect noAutoConnect)).map
        (fun next => { state with module := next })

/-- No action is invoked for a request accepted earlier than one whose action has
already been invoked. -/
def InOrder (state : State) : Prop :=
  state.module.invocations.Pairwise (fun earlier later => earlier.tag ≤ later.tag)

instance (state : State) : Decidable (InOrder state) :=
  inferInstanceAs (Decidable (List.Pairwise _ _))

/-- A request is not accepted while the flag is clear and a replay task is pending. -/
def OutsideWindow (state : State) : Label → Prop
  | .request .. => state.module.isBtSwitchProcessing = true ∨ state.module.ffrtQueue.replays = []
  | _ => True

instance (state : State) (label : Label) : Decidable (OutsideWindow state label) :=
  match label with
  | .request .. => inferInstanceAs (Decidable (_ ∨ _))
  | .completion | .replay | .setNoAutoConnect _ => isTrue trivial

/-- The pipeline is sorted and below the counter. While an action is in progress no
replay is pending, and a cache that nothing will drain is empty. -/
structure Ordered (state : State) : Prop where
  sorted : (pipeline state.module).Pairwise (· < ·)
  bounded : ∀ number ∈ pipeline state.module, number < state.accepted
  pending : state.module.isBtSwitchProcessing = true → state.module.ffrtQueue.replays = []
  single : state.module.ffrtQueue.replays.length ≤ 1
  settled : state.module.isBtSwitchProcessing = false → state.module.ffrtQueue.replays = [] →
    state.module.cachedEventVec = []

/-- A request joins the end of the pipeline: at the end of the cache behind an action
in progress, or as the next call when nothing is pending or cached. -/
theorem request_ordered (state : State) (request : SwitchRequest) (callingName : String)
    (isAsync isBleOwnerMode : Bool) (ordered : Ordered state)
    (outside : state.module.isBtSwitchProcessing = true ∨ state.module.ffrtQueue.replays = []) :
    Ordered ⟨(state.module.processBluetoothSwitchEvent request.event callingName isAsync
      isBleOwnerMode state.accepted {}).2, state.accepted + 1⟩ := by
  have appended : (pipeline state.module ++ [state.accepted]).Pairwise (· < ·) :=
    List.pairwise_append.mpr ⟨ordered.sorted, List.pairwise_singleton _ _, by
      simpa using ordered.bounded⟩
  have below : ∀ number ∈ pipeline state.module ++ [state.accepted],
      number < state.accepted + 1 := by
    intro number member
    rcases List.mem_append.mp member with earlier | new
    · exact Nat.lt_succ_of_lt (ordered.bounded number earlier)
    · exact List.mem_singleton.mp new ▸ Nat.lt_succ_self _
  rcases request_cases request.event request.event_isRequest callingName isAsync isBleOwnerMode
      state.accepted {} state.module with cached | started
  · have joined := cached_pipeline cached
    refine ⟨joined ▸ appended, joined ▸ below, ?_, ?_, ?_⟩
    · intro _
      rw [cached.effect]
      exact ordered.pending cached.busy
    · rw [cached.effect]
      exact ordered.single
    · intro idle
      have busy := cached.busy
      rw [cached.effect] at idle
      simp [busy] at idle
  · have nothingPending : state.module.ffrtQueue.replays = [] := by
      rcases outside with busy | none
      · exact absurd busy (by simp [started.idle])
      · exact none
    have nothingCached := ordered.settled started.idle nothingPending
    have joined : pipeline (state.module.processBluetoothSwitchEvent request.event callingName
        isAsync isBleOwnerMode state.accepted {}).2 = pipeline state.module ++ [state.accepted] := by
      rw [started_pipeline started]
      simp [pipeline, nothingPending, nothingCached]
    refine ⟨joined ▸ appended, joined ▸ below, ?_, ?_, ?_⟩
    · intro _
      exact started.replays.trans nothingPending
    · simp [started.replays, nothingPending]
    · intro _ _
      exact started.cache.trans nothingCached

/-- A completion event only drops requests from the pipeline, and posts at most one
replay task when none was pending. -/
theorem completion_ordered (state : State) (after : BluetoothSwitchModule Nat)
    (ordered : Ordered state) (busy : state.module.isBtSwitchProcessing = true)
    (ended : Ended state.module after) : Ordered { state with module := after } := by
  have nothingPending := ordered.pending busy
  have shorter := ended_pipeline ended
  refine ⟨ordered.sorted.sublist shorter, fun number member =>
    ordered.bounded number (shorter.subset member), ?_, ?_, ?_⟩
  · intro set
    exact absurd set (by simp [ended.flag])
  · cases ended.drained with
    | cleared _ replays => simp [replays, nothingPending]
    | posted _ _ _ replays => simp [replays, nothingPending]
  · intro _ none
    cases ended.drained with
    | cleared cache _ => exact cache
    | posted _ entry _ replays =>
      have impossible : state.module.ffrtQueue.replays ++ [entry] = [] := replays.symm.trans none
      simp at impossible

/-- The replay task runs in an idle module, so its request starts and stays first
among the requests not yet executed. -/
theorem replay_ordered (state : State) (after : BluetoothSwitchModule Nat)
    (ordered : Ordered state) (requests : HoldsRequests state.module)
    (taken : state.module.step (.replay {}) = some after) :
      Ordered { state with module := after } := by
  obtain ⟨task, rest, posted, effect⟩ := replay_cases state.module after {} requests taken
  have last : rest = [] := by
    have bound := ordered.single
    simp only [posted, List.length_cons] at bound
    exact List.eq_nil_of_length_eq_zero (by omega)
  subst last
  rcases effect with cached | started
  · have none := ordered.pending cached.busy
    simp [posted] at none
  · have same : pipeline after = pipeline state.module := by
      rw [started_pipeline started]
      simp [pipeline, posted, withReplays]
    refine ⟨same ▸ ordered.sorted, same ▸ ordered.bounded, fun _ => started.replays, ?_, ?_⟩
    · simp [started.replays, withReplays]
    · intro (idle : after.isBtSwitchProcessing = false)
      have set := started.flag
      simp [idle] at set

/-- The invariant of the runs outside the window. -/
def Invariant (state : State) : Prop := Ordered state ∧ HoldsRequests state.module

/-- One step outside the window keeps the pipeline sorted. A request either starts in an idle
module whose cache nobody will drain, or it is put at the end of the cache; a replay takes the
oldest entry. -/
theorem step_invariant (state : State) (label : Label) (next : State) (invariant : Invariant state)
    (outside : OutsideWindow state label) (taken : step state label = some next) :
    Invariant next := by
  obtain ⟨ordered, requests⟩ := invariant
  cases label with
  | request request callingName isAsync isBleOwnerMode =>
    have effect := Option.some.inj taken
    exact effect ▸ ⟨request_ordered state request callingName isAsync isBleOwnerMode ordered outside,
      event_holds_requests _ _ _ _ _ _ _ requests⟩
  | completion =>
    cases current : state.module.inProgress with
    | none => simp [step, current] at taken
    | some action =>
      have effect : { state with module := (state.module.processBluetoothSwitchEvent
          action.call.completion "" false false state.accepted {}).2 } = next := by
        simpa only [step, current, BluetoothSwitchModule.step, Option.map_some,
          Option.some.injEq] using taken
      subst effect
      exact ⟨completion_ordered state _ ordered (inProgress_busy current) (completion_ended _ _ _ _ _ _ _),
        event_holds_requests _ _ _ _ _ _ _ requests⟩
  | replay =>
    obtain ⟨after, ran, effect⟩ := Option.map_eq_some_iff.mp taken
    exact effect ▸ ⟨replay_ordered state after ordered requests ran,
      step_holds_requests state.module (.replay {}) after requests ran⟩
  | setNoAutoConnect noAutoConnect =>
    have effect := Option.some.inj taken
    subst effect
    exact ⟨⟨ordered.sorted, ordered.bounded, ordered.pending, ordered.single, ordered.settled⟩,
      requests⟩

/-- At the start nothing has been asked for. -/
theorem initial_invariant : Invariant {} := by
  refine ⟨⟨List.Pairwise.nil, ?_, ?_, ?_, ?_⟩, ?_⟩ <;> simp [pipeline, HoldsRequests]

/-- The calls are the front of the pipeline. -/
theorem ordered_in_order (state : State) (invariant : Invariant state) : InOrder state := by
  have sorted := (List.pairwise_append.mp invariant.1.sorted).1
  have tags := List.pairwise_map.mp sorted
  exact tags.imp Nat.le_of_lt

/-- In every run in which no request is accepted while the flag is clear and a replay is pending,
actions are invoked in the order of acceptance in every state reached. The window of the
condition is the only place where a younger request can start at once; everywhere else it is
cached behind the older ones, so the pipeline stays sorted. -/
theorem no_overtaking (labels : List Label)
    (outside : Runs.Meets step OutsideWindow {} labels) : Runs.Always step InOrder {} labels :=
  Runs.guarded_always step_invariant ordered_in_order {} labels initial_invariant outside

/-- A run with a cached request, its replay and a request behind it. -/
theorem no_overtaking_replayed :
    Runs.Always step InOrder {}
    [.request .enable "a" false false, .request .disable "b" false false,
      .completion, .replay, .request .enable "c" false false, .completion, .replay] :=
  no_overtaking _ (by decide)

/-- DISABLE is cached behind ENABLE and posted; a second ENABLE starts before the
replay runs and completes, and DISABLE is executed after it. -/
theorem enable_overtakes_disable :
    ¬ ∀ (labels : List Label) (last : State), Runs.run step {} labels = some last →
      InOrder last := by
  intro claimed
  have late := claimed [.request .enable "a" false false, .request .disable "b" false false,
    .completion, .request .enable "c" false false, .replay, .completion, .replay] _ rfl
  exact absurd late (by decide)

/-- The window is exact: from every state of a run outside it in which a replay is
pending, any request followed by its completion and the replay is out of order. -/
theorem overtaken_in_window (state : State) (invariant : Invariant state)
    (pending : state.module.ffrtQueue.replays ≠ []) (request : SwitchRequest) (callingName : String)
    (isAsync isBleOwnerMode : Bool) :
    ∃ last, Runs.run step state [.request request callingName isAsync isBleOwnerMode, .completion,
      .replay] = some last ∧ ¬ InOrder last := by
  obtain ⟨ordered, requests⟩ := invariant
  have idle : state.module.isBtSwitchProcessing = false := by
    by_contra busy
    exact pending (ordered.pending (by simpa using busy))
  obtain ⟨task, more, posted⟩ := List.exists_cons_of_ne_nil pending
  have older : task.tag < state.accepted := ordered.bounded _ (by simp [pipeline, posted])
  -- the request starts its action although the older one is posted
  have started : Started state.module (state.module.processBluetoothSwitchEvent request.event
      callingName isAsync isBleOwnerMode state.accepted {}).2 request.event state.accepted {} := by
    rcases request_cases request.event request.event_isRequest callingName isAsync isBleOwnerMode
        state.accepted {} state.module with cached | started
    · exact absurd cached.busy (by simp [idle])
    · exact started
  have first := event_holds_requests request.event callingName isAsync isBleOwnerMode
    state.accepted {} state.module requests
  generalize running : (state.module.processBluetoothSwitchEvent request.event callingName isAsync
    isBleOwnerMode state.accepted {}).2 = busyModule at started first
  obtain ⟨call, _, log⟩ := started.log
  have current : busyModule.inProgress =
      some ⟨state.accepted, call, state.module.ffrtQueue.nextHandle, btNoError⟩ := by
    have flag : busyModule.isBtSwitchProcessing = true := started.flag
    simp [inProgress, flag, log]
  -- its completion leaves the older task at the head of the posted ones
  have ended := completion_ended call "" false false (state.accepted + 1) {} busyModule
  have second := event_holds_requests call.completion "" false false (state.accepted + 1) {}
    busyModule first
  generalize completed : (busyModule.processBluetoothSwitchEvent call.completion "" false false
    (state.accepted + 1) {}).2 = idleModule at ended second
  obtain ⟨others, waiting⟩ : ∃ others, idleModule.ffrtQueue.replays = task :: others := by
    cases ended.drained with
    | cleared _ replays => exact ⟨more, by rw [replays, started.replays, posted]⟩
    | posted _ entry _ replays =>
      exact ⟨more ++ [entry], by rw [replays, started.replays, posted, List.cons_append]⟩
  have ran : idleModule.step (.replay {}) =
      some ((idleModule.withReplays others).runReplay task {}).2 := by
    simp [BluetoothSwitchModule.step, waiting]
  obtain ⟨replayed, rest, same, effect⟩ := replay_cases idleModule _ {} second ran
  obtain ⟨sameTask, sameRest⟩ := List.cons.inj (same.symm.trans waiting)
  subst sameTask sameRest
  obtain ⟨replayCall, _, replayLog⟩ : ∃ replayCall : SwitchCall, replayCall.event = replayed.event ∧
      ((idleModule.withReplays rest).runReplay replayed {}).2.invocations = idleModule.invocations ++
        [⟨replayed.tag, replayCall, idleModule.ffrtQueue.nextHandle, btNoError⟩] := by
    rcases effect with cached | started
    · exact absurd cached.busy (by simp [withReplays, ended.flag])
    · exact started.log
  refine ⟨⟨((idleModule.withReplays rest).runReplay replayed {}).2, state.accepted + 1⟩, ?_, ?_⟩
  · simp only [Runs.run, step, BluetoothSwitchModule.step, Option.map_some, running, current,
      completed, waiting]
  · intro inOrder
    have pairs : ([state.accepted, replayed.tag] : List Nat).Pairwise (· ≤ ·) := by
      have tags := List.pairwise_map.mpr inOrder
      simp only [replayLog, ended.log, log, List.map_append, List.append_assoc] at tags
      exact (List.pairwise_append.mp tags).2.1
    have wrong : state.accepted ≤ replayed.tag := by simpa using pairs
    omega

end BluetoothFramework.Switch.RequestOrder
