import BluetoothFramework.Host.Observers

/-!
# Callbacks and the mutexes of the host

The list is walked with its mutex held, and `OnBluetoothStateChanged` walks it inside the
host's mutex. A callback that registers or deregisters an observer therefore asks for a
mutex of its own thread, and so does a request for a switch action made in
`OnBluetoothStateChanged`. `never_own_iff_leave` says that there is no other way: a run has
a thread that asks for its own mutex exactly when a callback makes one of these calls.
-/

namespace BluetoothFramework.Host

open Runs Mutexes Switch

variable {Thread Observer : Type}

/-- The walk of this callback has the host's mutex as well. -/
def Callback.isOnBluetoothStateChanged : Callback → Bool
  | .onBluetoothStateChanged _ => true
  | _ => false

/-- A call that a callback may make: it does not change the list, and it asks for no switch
action inside `OnBluetoothStateChanged`. -/
def HostCall.HasLeave (callback : Callback) : HostCall Observer → Prop
  | .registerObserver observer => observer = none
  | .deregisterObserver _ => False
  | .enableBle .. | .disableBt .. | .restrictBluetooth _ | .enableBluetoothToRestrictMode .. =>
      callback.isOnBluetoothStateChanged = false

/-- Only calls that callbacks make need leave. -/
def Call.HasLeave : Call Observer → Prop
  | .host (some callback) call => call.HasLeave callback
  | _ => True

/-- The mutexes during a walk of the list, innermost first. -/
def Callback.held (callback : Callback) : List HostMutex :=
  if callback.isOnBluetoothStateChanged then [.lock, .switchModuleMutex] else [.lock]

/-- The mutexes of a thread that makes the call, innermost first. An application that asks
for a switch action in a callback has the list's mutex below the host's. -/
def Call.placed (call : Call Observer) (held : List HostMutex) : Bool :=
  match call with
  | .host (some callback) _ => held = callback.held
  | .forEach callback => held = callback.held
  | .register _ | .deregister _ => held = [.lock]
  | .requestEvent .. | .restrictEvent _ => held = [.switchModuleMutex] || held = [.switchModuleMutex, .lock]
  | .completionEvent _ | .actionEvent .. | .removalEvent | .clearModule => held = [.switchModuleMutex]
  | .processEvent .. => held = [.bluetoothSwitchEventMutex, .switchModuleMutex] ||
      held = [.bluetoothSwitchEventMutex, .switchModuleMutex, .lock]
  | .runReplay | .runTimeout _ => held = [.bluetoothSwitchEventMutex]
  | _ => held = []

/-- An event passed on inside the host's mutex. -/
theorem leaves_process (event : BluetoothSwitchEvent) (callingName : String)
    (isAsync isBleOwnerMode : Bool)
    (held : List HostMutex) (place : held = [.switchModuleMutex] ∨ held = [.switchModuleMutex, .lock]) :
    leaves Call.placed held
      (processBluetoothSwitchEvent event callingName isAsync isBleOwnerMode : Actions Observer) =
      some held := by
  rcases place with rfl | rfl <;>
    simp [processBluetoothSwitchEvent, guarded, leaves, Call.placed]

/-- A walk of the list. -/
theorem leaves_observersForEach (callback : Callback) (held : List HostMutex)
    (inside : callback.held = .lock :: held) (fresh : .lock ∉ held) :
    leaves Call.placed held (observersForEach callback : Actions Observer) = some held := by
  apply leaves_guarded _ _ _ _ fresh
  simp [leaves, Call.placed, inside]

/-- Actions made or left out. -/
theorem leaves_if (held : List HostMutex) (condition : Prop) [Decidable condition]
    (actions : Actions Observer) (closed : leaves Call.placed held actions = some held) :
    leaves Call.placed held (if condition then actions else []) = some held := by
  split
  · exact closed
  · rfl

/-- A conditional event of the switch module under its mutex alone. -/
theorem leaves_processIf (event : BluetoothSwitchEvent) (callingName : String)
    (isAsync isBleOwnerMode : Bool) (condition : Prop) [Decidable condition] :
    leaves Call.placed [.switchModuleMutex]
      (if condition then processBluetoothSwitchEvent event callingName isAsync isBleOwnerMode
        else [] : Actions Observer) = some [.switchModuleMutex] :=
  leaves_if _ _ _ (leaves_process event callingName isAsync isBleOwnerMode _ (.inl rfl))

/-- Closed actions one after the other. -/
theorem leaves_both (held : List HostMutex) (first second : Actions Observer)
    (closed : leaves Call.placed held first = some held)
    (closedToo : leaves Call.placed held second = some held) :
    leaves Call.placed held (first ++ second) = some held := by
  rw [leaves_append, closed]
  exact closedToo

/-- Every observer's program is made where the walk stands. -/
theorem leaves_forEach (programs : Observer → Callback → List (HostCall Observer))
    (callback : Callback) (list : BluetoothObserverList Observer) :
    leaves Call.placed callback.held (forEach programs callback list) = some callback.held := by
  have calls : forEach programs callback list =
      ((list.observers.filterMap id).flatMap fun observer =>
        (programs observer callback).map (Call.host (some callback))).map .call := by
    simp only [forEach, List.map_flatMap, List.map_map]
    rfl
  rw [calls]
  apply leaves_calls
  intro call member
  obtain ⟨observer, _, listed⟩ := List.mem_flatMap.mp member
  obtain ⟨made, _, same⟩ := List.mem_map.mp listed
  simp [← same, Call.placed]

/-- The mutex that a host call asks for first. -/
def HostCall.first : HostCall Observer → Option HostMutex
  | .registerObserver observer => if observer.isNone then none else some .lock
  | .deregisterObserver _ => some .lock
  | .enableBle .. | .disableBt .. | .restrictBluetooth _ | .enableBluetoothToRestrictMode .. =>
      some .switchModuleMutex

/-- A callback's call has leave exactly when its first mutex is none of the walk's. -/
theorem hasLeave_iff_first (callback : Callback) (call : HostCall Observer) :
    call.HasLeave callback ↔ ∀ mutex ∈ call.first, mutex ∉ callback.held := by
  cases call <;> cases callback <;>
    simp [HostCall.HasLeave, HostCall.first, Callback.held, Callback.isOnBluetoothStateChanged]

/-- What a host call asks for first is its first action. -/
theorem actions_head (call : HostCall Observer) : call.actions.head? = call.first.map .lock := by
  cases call with
  | registerObserver observer => cases observer <;> rfl
  | _ => rfl

/-- The places at which host calls are made. -/
def HostPlace (held : List HostMutex) : Prop :=
  held = [] ∨ held = [.lock] ∨ held = [.lock, .switchModuleMutex]

/-- The mutexes that a walk holds are one of the places a call of the host may begin in. -/
theorem hostPlace_held (callback : Callback) : HostPlace callback.held := by
  rw [HostPlace, Callback.held]
  split <;> simp

/-- A change of the list where its mutex is free. -/
theorem leaves_list (call : Call Observer) (held : List HostMutex) (place : HostPlace held)
    (fresh : .lock ∉ held) (listed : call.placed [.lock]) :
    leaves Call.placed held (guarded .lock [.call call]) = some held := by
  have nothing : held = [] := by
    rcases place with rfl | rfl | rfl <;> simp at fresh ⊢
  subst nothing
  simp [guarded, leaves, listed]

/-- A request for a switch action where the host's mutex is free. -/
theorem leaves_requests (calls : List (Call Observer)) (held : List HostMutex)
    (place : HostPlace held) (fresh : .switchModuleMutex ∉ held)
    (outside : ∀ call ∈ calls, call.placed [.switchModuleMutex])
    (walking : ∀ call ∈ calls, call.placed [.switchModuleMutex, .lock]) :
    leaves Call.placed held (guarded .switchModuleMutex (calls.map .call)) = some held := by
  apply leaves_guarded _ _ _ _ fresh
  apply leaves_calls
  rcases place with rfl | rfl | rfl
  · exact outside
  · exact walking
  · simp at fresh

/-- A host call whose first mutex is free closes its brackets. The calls about a list and the
requests for a switch have lemmas of their own, and a call is one of these or two in turn. -/
theorem leaves_host (call : HostCall Observer) (held : List HostMutex) (place : HostPlace held)
    (fresh : ∀ mutex ∈ call.first, mutex ∉ held) :
    leaves Call.placed held call.actions = some held := by
  cases call with
  | registerObserver observer =>
    cases observer with
    | none => rfl
    | some observer => exact leaves_list _ held place (fresh .lock rfl) (by simp [Call.placed])
  | deregisterObserver observer => exact leaves_list _ held place (fresh .lock rfl) (by simp [Call.placed])
  | enableBle name isAsync =>
    exact leaves_requests [_] held place (fresh _ rfl) (by simp [Call.placed]) (by simp [Call.placed])
  | disableBt name isAsync =>
    exact leaves_requests [_] held place (fresh _ rfl) (by simp [Call.placed]) (by simp [Call.placed])
  | restrictBluetooth name =>
    exact leaves_requests [_, _] held place (fresh _ rfl) (by simp [Call.placed]) (by simp [Call.placed])
  | enableBluetoothToRestrictMode name isBleOwnerMode =>
    exact leaves_requests [_] held place (fresh _ rfl) (by simp [Call.placed]) (by simp [Call.placed])

section Discipline

variable [DecidableEq Thread] [DecidableEq Observer]
  (programs : Observer → Callback → List (HostCall Observer))

/-- A call with leave closes the brackets that it opens. The brackets of the list it walks
through stay open while the observers run, so their calls must not ask for the same mutex. -/
theorem body_kept (thread : Thread) (answer : Answer) (call : Call Observer)
    (state : HostState Thread Observer) (held : List HostMutex) (place : call.placed held)
    (leave : call.HasLeave) :
      leaves Call.placed held (body programs thread answer call state).1 = some held := by
  cases call with
  | host inside call =>
    cases inside with
    | none =>
      have nothing : held = [] := by simpa [Call.placed] using place
      exact leaves_host call held (.inl nothing) (by simp [nothing])
    | some callback =>
      have here : held = callback.held := by simpa [Call.placed] using place
      subst here
      exact leaves_host call callback.held (hostPlace_held callback)
        ((hasLeave_iff_first callback call).mp leave)
  | forEach callback =>
    have here : held = callback.held := by simpa [Call.placed] using place
    exact here ▸ leaves_forEach programs callback state.observers
  | requestEvent event callingName isAsync isBleOwnerMode =>
    have here : held = [.switchModuleMutex] ∨ held = [.switchModuleMutex, .lock] := by
      simpa [Call.placed] using place
    simp only [body]
    split
    · rfl
    · exact leaves_process event callingName isAsync isBleOwnerMode held here
  | restrictEvent callingName =>
    have here : held = [.switchModuleMutex] ∨ held = [.switchModuleMutex, .lock] := by
      simpa [Call.placed] using place
    simp only [body]
    split
    · rfl
    · exact leaves_process _ callingName false false held here
  | completionEvent new =>
    have here : held = [.switchModuleMutex] := by simpa [Call.placed] using place
    subst here
    simp only [body]
    split
    · rfl
    · apply leaves_both
      · apply leaves_both
        · apply leaves_both
          · exact leaves_processIf _ _ _ _ _
          · exact leaves_processIf _ _ _ _ _
        · exact leaves_processIf _ _ _ _ _
      · exact leaves_observersForEach _ _ rfl (by simp)
  | actionEvent action callingName =>
    have here : held = [.switchModuleMutex] := by simpa [Call.placed] using place
    subst here
    simp only [body]
    split
    · rfl
    · apply leaves_both
      · apply leaves_both
        · exact leaves_processIf _ _ _ _ _
        · exact leaves_processIf _ _ _ _ _
      · exact leaves_processIf _ _ _ _ _
  | removalEvent =>
    have here : held = [.switchModuleMutex] := by simpa [Call.placed] using place
    subst here
    simp only [body]
    split
    · rfl
    · exact leaves_process _ _ _ _ _ (.inl rfl)
  | onStateChanged imp transport status =>
    have nothing : held = [] := by simpa [Call.placed] using place
    subst nothing
    cases imp <;> simp only [body, onStateChanged] <;> split
    · rfl
    · exact leaves_observersForEach _ _ rfl (by simp)
    · rfl
    · exact leaves_observersForEach _ _ rfl (by simp)
  | onRemoveBluetoothSystemAbility =>
    have nothing : held = [] := by simpa [Call.placed] using place
    subst nothing
    simp only [body, onRemoveBluetoothSystemAbility]
    cases answer.isBluetoothSystemAbilityOn <;> simp [guarded, leaves, Call.placed]
  | replayTask =>
    have nothing : held = [] := by simpa [Call.placed] using place
    subst nothing
    simp only [body]
    split <;> simp [guarded, leaves, Call.placed]
  | timeoutTask handle =>
    have nothing : held = [] := by simpa [Call.placed] using place
    subst nothing
    simp only [body]
    split <;> simp [guarded, leaves, Call.placed]
  | register _ | deregister _ | clearModule | processEvent _ _ _ _ | runReplay | runTimeout _ => rfl
  | onBluetoothStateChanged _ | onBluetoothSwitchAction _ _ | close =>
    have nothing : held = [] := by simpa [Call.placed] using place
    subst nothing
    simp [body, guarded, leaves, Call.placed]
  | _ =>
    have nothing : held = [] := by simpa [Call.placed] using place
    subst nothing
    exact leaves_observersForEach _ _ rfl (by simp)

/-- A call without leave asks at once for a mutex that its walk holds. -/
theorem body_broken (thread : Thread) (answer : Answer) (call : Call Observer)
    (state : HostState Thread Observer) (held : List HostMutex) (place : call.placed held)
    (refused : ¬ call.HasLeave) :
    ∃ mutex ∈ held, (body programs thread answer call state).1.head? = some (.lock mutex) := by
  cases call with
  | host inside call =>
    cases inside with
    | none => exact absurd trivial refused
    | some callback =>
      have here : held = callback.held := by simpa [Call.placed] using place
      simp only [Call.HasLeave, hasLeave_iff_first, not_forall, not_not] at refused
      obtain ⟨mutex, first, inside⟩ := refused
      refine ⟨mutex, here ▸ inside, ?_⟩
      rw [body, actions_head, first, Option.map_some]
  | _ => exact absurd trivial refused

/-- The host's functions respect their mutexes wherever callbacks have leave. -/
def hostDiscipline : Discipline (bluetoothHostCode programs : Code Thread _ _ _ _) where
  placed := Call.placed
  allowed := Call.HasLeave
  entry := by
    intro call entry
    cases call with
    | host inside call => cases inside <;> simp_all [bluetoothHostCode, Call.isEntry, Call.placed]
    | _ => simp_all [bluetoothHostCode, Call.isEntry, Call.placed]
  kept := body_kept programs
  broken := body_broken programs

/-- In a run of the host under any programs of its observers, no thread ever asks for a mutex
that it owns exactly when every call made in a callback has leave. Who has leave is read off the
place of the callback: which mutexes the host holds while it calls. -/
theorem never_own_iff_leave (shared : HostState Thread Observer)
    (labels : List (Mutexes.Label Thread (Call Observer) Answer)) :
    Always (Mutexes.step (bluetoothHostCode programs)) NeverOwn (idle shared) labels ↔
      Meets (Mutexes.step (bluetoothHostCode programs)) (Makes Call.HasLeave) (idle shared) labels :=
  never_own_iff (hostDiscipline programs) shared labels

end Discipline

/-- An observer that deregisters itself when the state of a transport changes. -/
def leavesOnStateChanged : Unit → Callback → List (HostCall Unit)
  | (), .onStateChanged _ _ => [.deregisterObserver (some ())]
  | (), _ => []

/-- An observer that asks for Bluetooth again when it is reported off. -/
def enablesWhenOff : Unit → Callback → List (HostCall Unit)
  | (), .onBluetoothStateChanged state => if state =
      switchStateOff then [.enableBle "app" false] else []
  | (), _ => []

/-- An observer registers on thread 0 and is called back on thread 1, where it asks for the
mutex of the walk: the list's, or the host's. -/
theorem callbacks_ask_again :
    ¬ Always (Mutexes.step (bluetoothHostCode leavesOnStateChanged)) NeverOwn (idle {})
      ([.start 0 (.host none (.registerObserver (some ()))), .advance 0 {}, .advance 0 {}, .advance 0 {},
        .advance 0 {}, .start 1 (.onStateChanged .bleObserverImp btTransportBle stateTurnOff),
        .advance 1 {},
        .advance 1 {}, .advance 1 {}, .advance 1 {}] :
          List (Mutexes.Label Nat (Call Unit) Answer)) ∧
    ¬ Always (Mutexes.step (bluetoothHostCode enablesWhenOff)) NeverOwn (idle {})
      ([.start 0 (.host none (.registerObserver (some ()))), .advance 0 {}, .advance 0 {}, .advance 0 {},
        .advance 0 {}, .start 1 (.onBluetoothStateChanged switchStateOff), .advance 1 {},
        .advance 1 {},
        .advance 1 {}, .advance 1 {}, .advance 1 {}, .advance 1 {}, .advance 1 {}, .advance 1 {},
        .advance 1 {}] : List (Mutexes.Label Nat (Call Unit) Answer)) := by
  constructor
  · intro always
    exact always_last _ _ _ always rfl 1 ⟨.lock, rfl, rfl⟩
  · intro always
    exact always_last _ _ _ always rfl 1 ⟨.switchModuleMutex, rfl, rfl⟩

section Programs

variable [DecidableEq Thread] [DecidableEq Observer]
  (programs : Observer → Callback → List (HostCall Observer))

/-- What is called in a callback belongs to a program of an observer. The host itself makes no
call of this kind, so the condition on the programs is enough. -/
theorem body_programs (thread : Thread) (answer : Answer) (call : Call Observer)
    (state : HostState Thread Observer) (callback : Callback) (made : HostCall Observer)
    (member : .call (.host (some callback) made) ∈ (body programs thread answer call state).1) :
    ∃ observer, made ∈ programs observer callback := by
  cases call with
  | forEach walked =>
    simp only [body, forEach, List.mem_flatMap, List.mem_map, Action.call.injEq, Call.host.injEq] at member
    obtain ⟨observer, _, call, listed, same, rfl⟩ := member
    cases same
    exact ⟨observer, listed⟩
  | host inside call =>
    cases call with
    | registerObserver observer => cases observer <;> simp [body, HostCall.actions, guarded] at member
    | _ => simp [body, HostCall.actions, guarded] at member
  | onStateChanged imp transport status =>
    cases imp <;> simp only [body, onStateChanged] at member <;> split at member <;>
      simp [observersForEach, guarded] at member
  | onRemoveBluetoothSystemAbility =>
    simp [body, onRemoveBluetoothSystemAbility, guarded] at member
  | completionEvent new =>
    simp only [body] at member
    split at member <;>
      simp [completionEvents, processBluetoothSwitchEvent, observersForEach, guarded] at member
  | actionEvent action callingName =>
    simp only [body] at member
    split at member <;> simp [actionEvents, processBluetoothSwitchEvent, guarded] at member
  | replayTask | timeoutTask _ | requestEvent _ _ _ _ | restrictEvent _ | removalEvent =>
    simp only [body] at member
    split at member <;> simp [processBluetoothSwitchEvent, guarded] at member
  | _ => simp [body, observersForEach, guarded] at member

/-- Observers whose programs have leave never make a thread ask for a mutex of its own. The
condition on the programs is turned into the condition on every step of a run. -/
theorem leave_never_own (leave : ∀ observer callback, ∀ call ∈ programs observer callback,
      HostCall.HasLeave callback call)
    (shared : HostState Thread Observer)
    (labels : List (Mutexes.Label Thread (Call Observer) Answer)) :
    Always (Mutexes.step (bluetoothHostCode programs)) NeverOwn (idle shared) labels := by
  apply (never_own_iff (hostDiscipline programs) shared labels).mpr
  apply makes_of_bodies
  · intro call entry
    cases call with
    | host inside call =>
      cases inside with
      | none => trivial
      | some callback => cases entry
    | _ => trivial
  · intro thread answer call state _ inner member
    cases inner with
    | host inside made =>
      cases inside with
      | none => trivial
      | some callback =>
        obtain ⟨observer, listed⟩ :=
          body_programs programs thread answer call state callback made member
        exact leave observer callback made listed
    | _ => trivial

end Programs

end BluetoothFramework.Host
