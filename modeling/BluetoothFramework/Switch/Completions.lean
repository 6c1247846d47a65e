import BluetoothFramework.Switch.System

/-!
# Which action a completion event ends

A successful action is reported once by `OnBluetoothStateChanged`. A successful
DISABLE may be reported a second time: the service process it stopped is removed, and
`OnRemoveBluetoothSystemAbility` passes BLUETOOTH_OFF again, before or after the state
change and at any distance from it. The events name no action, and
`ProcessBluetoothSwitchActionEnd` ends whatever is in progress.

Here every notification carries the number of the request whose action it stems from,
so an event that ends somebody else's action can be told. `completion_ends_own_action`
covers all interleavings of requests, replays and notifications, failing calls
included, in which a second BLUETOOTH_OFF finds no action in progress: every
notification then finds its own action in progress or none. That ON, HALF and the
first OFF are never late is a consequence, not a premise.
-/

namespace BluetoothFramework.Switch.Completions

open BluetoothSwitchModule

/-- Who reports the end of an action. -/
inductive Source where
  | stateChanged
  | serviceRemoved
deriving DecidableEq, Repr

/-- Every call is reported by a state change, a DISABLE possibly also by the removal
of the service process that ran it. -/
def Source.Reports : Source → SwitchCall → Prop
  | .stateChanged, _ => True
  | .serviceRemoved, .disableBluetooth .. => True
  | .serviceRemoved, _ => False

instance (source : Source) (call : SwitchCall) : Decidable (source.Reports call) :=
  match source, call with
  | .stateChanged, _ => isTrue trivial
  | .serviceRemoved, .disableBluetooth .. => isTrue trivial
  | .serviceRemoved, .enableBluetooth .. | .serviceRemoved, .enableBluetoothToRestrictMode .. => isFalse id

/-- The module, the number of requests accepted, and the notifications delivered. -/
structure State where
  module : BluetoothSwitchModule Nat := {}
  accepted : Nat := 0
  delivered : List (Source × Nat) := []
deriving DecidableEq

/-- A user request with the outcome of the call it may make, the oldest replay task,
or the notification that an action has ended. -/
inductive Label where
  | request (request : SwitchRequest) (callingName : String) (isAsync isBleOwnerMode : Bool)
      (outcome : Outcome)
  | replay (outcome : Outcome)
  | notify (source : Source) (action : Invocation Nat)
deriving DecidableEq

/-- A notification stems from a call that succeeded, and each source reports a call
at most once. -/
def Outstanding (state : State) (source : Source) (action : Invocation Nat) : Prop :=
  action ∈ state.module.invocations ∧ action.ret = btNoError ∧ source.Reports action.call ∧
    (source, action.tag) ∉ state.delivered

instance (state : State) (source : Source) (action : Invocation Nat) :
    Decidable (Outstanding state source action) :=
  inferInstanceAs (Decidable (_ ∧ _))

/-- Requests are numbered as they are accepted. A notification passes the completion
event of the call it stems from. -/
def step (state : State) : Label → Option State
  | .request request callingName isAsync isBleOwnerMode outcome =>
      (state.module.step (.event request.event callingName isAsync isBleOwnerMode
        state.accepted outcome)).map
          (fun next => { state with module := next, accepted := state.accepted + 1 })
  | .replay outcome =>
      (state.module.step (.replay outcome)).map (fun next => { state with module := next })
  | .notify source action =>
      if Outstanding state source action then
        (state.module.step (.event action.call.completion "" false false state.accepted {})).map
          (fun next => { state with
            module := next
            delivered := (source, action.tag) :: state.delivered })
      else none

/-- A notification that finds an action in progress stems from that action. Then no
later action is ended, no timeout of it cancelled and none of its cached requests
dropped or replayed. -/
def EndsOwnAction (state : State) : Label → Prop
  | .notify _ action => ∀ current ∈ state.module.inProgress, current.tag = action.tag
  | _ => True

/-- The second BLUETOOTH_OFF of a DISABLE finds no action in progress. -/
def SecondOffIdle (state : State) : Label → Prop
  | .notify source action =>
      (∃ other ∈ [Source.stateChanged, Source.serviceRemoved], other ≠ source ∧
        (other, action.tag) ∈ state.delivered) → state.module.isBtSwitchProcessing = false
  | _ => True

instance (state : State) (label : Label) : Decidable (EndsOwnAction state label) :=
  match label with
  | .notify .. => inferInstanceAs (Decidable (∀ current ∈ state.module.inProgress, _))
  | .request .. | .replay _ => isTrue trivial

instance (state : State) (label : Label) : Decidable (SecondOffIdle state label) :=
  match label with
  | .notify .. => inferInstanceAs (Decidable ((∃ other ∈ _, _) → _))
  | .request .. | .replay _ => isTrue trivial

/-- Every successful call is in progress or has been reported, and a reported call is
no longer in progress. Requests keep distinct numbers, so a later action never carries
the number of a reported one. -/
structure Accounted (state : State) : Prop where
  requests : HoldsRequests state.module
  distinct : (pipeline state.module).Nodup
  bounded : ∀ number ∈ pipeline state.module, number < state.accepted
  current : state.module.isBtSwitchProcessing = true → state.module.inProgress ≠ none
  reported : ∀ action ∈ state.module.invocations, action.ret = btNoError →
    state.module.inProgress = some action ∨ ∃ source, (source, action.tag) ∈ state.delivered
  executed : ∀ report ∈ state.delivered, report.2 ∈ state.module.invocations.map Invocation.tag
  past : ∀ report ∈ state.delivered, ∀ current ∈ state.module.inProgress, current.tag ≠ report.2

/-- A request with a new number is accounted for whether it is cached or starts its
action: only an idle module starts one, so every earlier success was reported. -/
theorem request_accounted (state : State) (after : BluetoothSwitchModule Nat) (accepted : Nat)
    (entry : BluetoothSwitchCacheEvent Nat) (outcome : Outcome) (accounted : Accounted state)
    (new : entry.tag ∉ pipeline state.module) (below : entry.tag < accepted)
    (grown : state.accepted ≤ accepted) (requests : HoldsRequests after)
    (effect : Cached state.module after entry ∨
      Started state.module after entry.event entry.tag outcome) :
    Accounted ⟨after, accepted, state.delivered⟩ := by
  have joined := joined_pipeline effect
  have distinct : (pipeline after).Nodup :=
    joined.nodup_iff.mpr (List.nodup_cons.mpr ⟨new, accounted.distinct⟩)
  have bounded : ∀ number ∈ pipeline after, number < accepted := by
    intro number member
    rcases List.mem_cons.mp (joined.mem_iff.mp member) with rfl | earlier
    · exact below
    · exact Nat.lt_of_lt_of_le (accounted.bounded number earlier) grown
  rcases effect with cached | started
  · have log : after.invocations = state.module.invocations := by rw [cached.effect]
    have flag : after.isBtSwitchProcessing = state.module.isBtSwitchProcessing := by
      rw [cached.effect]
    have same : after.inProgress = state.module.inProgress := by rw [inProgress, inProgress, flag, log]
    refine ⟨requests, distinct, bounded, ?_, ?_, ?_, ?_⟩
    · simpa only [same, flag] using accounted.current
    · simpa only [same, log] using accounted.reported
    · simpa only [log] using accounted.executed
    · simpa only [same] using accounted.past
  · obtain ⟨action, ownTag, ownRet, log, same⟩ := started_inProgress started
    have unreported : ∀ report ∈ state.delivered, report.2 ≠ entry.tag := by
      intro report member equal
      exact new (List.mem_append_left _ (equal ▸ accounted.executed report member))
    refine ⟨requests, distinct, bounded, ?_, ?_, ?_, ?_⟩
    · intro (busy : after.isBtSwitchProcessing = true)
      have success : outcome.ret = btNoError := by simpa [started.flag] using busy
      simp [same, success]
    · intro called member success
      simp only [log, List.mem_append, List.mem_singleton] at member
      rcases member with earlier | rfl
      · rcases accounted.reported called earlier success with running | report
        · simp [idle_inProgress started.idle] at running
        · exact .inr report
      · exact .inl (by simp [same, ← ownRet, success])
    · intro report member
      simp only [log, List.map_append]
      exact List.mem_append_left _ (accounted.executed report member)
    · intro report member current running
      have own : current = action := by
        simp only [same, Option.mem_def, Option.ite_none_right_eq_some, Option.some.injEq] at running
        exact running.2.symm
      rw [own, ownTag]
      exact (unreported report member).symm

/-- A notification that finds only its own action ends it and reports it. The numbers of the
requests are distinct, so no later action can be reported under this one again. -/
theorem notify_accounted (state : State) (after : BluetoothSwitchModule Nat) (source : Source)
    (action : Invocation Nat) (accounted : Accounted state)
    (outstanding : Outstanding state source action)
    (own : EndsOwnAction state (.notify source action)) (requests : HoldsRequests after)
    (effect : Ended state.module after) :
    Accounted ⟨after, state.accepted, (source, action.tag) :: state.delivered⟩ := by
  have shorter := ended_pipeline effect
  have idle := idle_inProgress effect.flag
  refine ⟨requests, accounted.distinct.sublist shorter, ?_, ?_, ?_, ?_, ?_⟩
  · intro number member
    exact accounted.bounded number (shorter.subset member)
  · intro (busy : after.isBtSwitchProcessing = true)
    simp [effect.flag] at busy
  · intro called member success
    rw [effect.log] at member
    rcases accounted.reported called member success with running | ⟨reporter, report⟩
    · have same : called.tag = action.tag := own called running
      exact .inr ⟨source, by simp [same]⟩
    · exact .inr ⟨reporter, List.mem_cons_of_mem _ report⟩
  · intro report member
    rw [effect.log]
    rcases List.mem_cons.mp member with rfl | earlier
    · exact List.mem_map_of_mem outstanding.1
    · exact accounted.executed report earlier
  · intro report _ current running
    simp [idle] at running

/-- For an outstanding notification, finding its own action or none is the same as
finding none if it is the second one. -/
theorem own_iff_second_off_idle (state : State) (source : Source) (action : Invocation Nat)
    (accounted : Accounted state) (outstanding : Outstanding state source action) :
    EndsOwnAction state (.notify source action) ↔ SecondOffIdle state (.notify source action) := by
  obtain ⟨called, success, _, undelivered⟩ := outstanding
  constructor
  · rintro own ⟨other, _, _, report⟩
    by_contra busy
    obtain ⟨current, running⟩ := Option.ne_none_iff_exists'.mp
      (accounted.current (by simpa using busy))
    exact accounted.past _ report current running (own current running)
  · intro second current running
    rcases accounted.reported action called success with ownRunning | ⟨other, report⟩
    · exact congrArg Invocation.tag (Option.some.inj (running.symm.trans ownRunning))
    · have different : other ≠ source := by
        intro same
        exact undelivered (same ▸ report)
      have idle := second ⟨other, by cases other <;> simp, different, report⟩
      simp [idle_inProgress idle] at running

/-- Taking the oldest replay task off the queue keeps the account. Its number is in use nowhere
else, so the action that it may start is not reported yet. -/
theorem withReplays_accounted (state : State) (task : BluetoothSwitchCacheEvent Nat)
    (rest : List (BluetoothSwitchCacheEvent Nat)) (accounted : Accounted state)
    (posted : state.module.ffrtQueue.replays = task :: rest) :
    Accounted { state with module := state.module.withReplays rest } ∧
      task.tag ∉ pipeline (state.module.withReplays rest) ∧ task.tag < state.accepted := by
  have split : (pipeline state.module).Perm (task.tag :: pipeline (state.module.withReplays rest)) := by
    simp only [pipeline, posted, withReplays, List.cons_append, List.map_cons]
    exact List.perm_middle
  obtain ⟨absent, distinct⟩ := List.nodup_cons.mp (split.nodup_iff.mp accounted.distinct)
  refine ⟨⟨?_, distinct, ?_, accounted.current, accounted.reported, accounted.executed,
    accounted.past⟩, absent, accounted.bounded _ (split.mem_iff.mpr List.mem_cons_self)⟩
  · intro entry member
    refine accounted.requests entry ?_
    rw [posted]
    exact List.mem_cons_of_mem task member
  · intro number member
    exact accounted.bounded number (split.mem_iff.mpr (List.mem_cons_of_mem _ member))

/-- One step in which a second BLUETOOTH_OFF finds no action keeps the account. The other
notifications end the action that asked for them, which is where the condition on the second one
is used. -/
theorem step_accounted (state : State) (label : Label) (next : State) (accounted : Accounted state)
    (second : SecondOffIdle state label) (taken : step state label = some next) :
      Accounted next := by
  cases label with
  | request request callingName isAsync isBleOwnerMode outcome =>
    have effect := Option.some.inj taken
    subst effect
    have fresh : state.accepted ∉ pipeline state.module := fun member =>
      Nat.lt_irrefl _ (accounted.bounded _ member)
    exact request_accounted state _ (state.accepted + 1)
      ⟨request.event, callingName, state.accepted⟩ outcome accounted fresh (Nat.lt_succ_self _)
      (Nat.le_succ _) (event_holds_requests _ _ _ _ _ _ _ accounted.requests)
      (request_cases request.event request.event_isRequest callingName isAsync isBleOwnerMode
        state.accepted outcome state.module)
  | replay outcome =>
    obtain ⟨after, ran, effect⟩ := Option.map_eq_some_iff.mp taken
    subst effect
    obtain ⟨task, rest, posted, cases⟩ := replay_cases state.module after outcome
      accounted.requests ran
    obtain ⟨kept, absent, below⟩ := withReplays_accounted state task rest accounted posted
    exact request_accounted { state with module := state.module.withReplays rest } after
      state.accepted task outcome kept absent below (Nat.le_refl _)
      (step_holds_requests state.module (.replay outcome) after accounted.requests ran) cases
  | notify source action =>
    simp only [step, Option.ite_none_right_eq_some] at taken
    obtain ⟨outstanding, effect⟩ := taken
    have own := (own_iff_second_off_idle state source action accounted outstanding).mpr second
    have delivered := Option.some.inj effect
    subst delivered
    exact notify_accounted state _ source action accounted outstanding own
      (event_holds_requests _ _ _ _ _ _ _ accounted.requests) (completion_ended _ _ _ _ _ _ _)

/-- At the start no call has been made, so every one is accounted for. -/
theorem initial_accounted : Accounted {} := by
  refine ⟨?_, ?_, ?_, ?_, ?_, ?_, ?_⟩ <;> simp [HoldsRequests, pipeline]

/-- In every run of requests, replays and notifications, every notification that finds
an action in progress stems from that action if and only if no second BLUETOOTH_OFF
finds an action in progress. -/
theorem completion_ends_own_action_iff (labels : List Label) :
    Runs.Meets step EndsOwnAction {} labels ↔ Runs.Meets step SecondOffIdle {} labels := by
  apply Runs.meets_iff_meets step_accounted _ {} labels initial_accounted
  intro state label next accounted taken
  cases label with
  | notify source action =>
    simp only [step, Option.ite_none_right_eq_some] at taken
    exact own_iff_second_off_idle state source action accounted taken.1
  | _ => exact Iff.rfl

/-- DISABLE is reported by the state change, ENABLE starts, and the removal of the old
service process ends it. -/
theorem service_removal_ends_enable :
    ¬ ∀ labels : List Label, Runs.Meets step EndsOwnAction {} labels := by
  intro claimed
  have ended := claimed [
    .request .disable "a" false false {},
    .notify .stateChanged ⟨0, .disableBluetooth "a" false, 0, btNoError⟩,
    .request .enable "b" false false {},
    .notify .serviceRemoved ⟨0, .disableBluetooth "a" false, 0, btNoError⟩]
  exact absurd ended (by decide)

end BluetoothFramework.Switch.Completions
