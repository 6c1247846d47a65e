import BluetoothFramework.Advertisement.ObserverMap
import BluetoothFramework.Library.Runs

/-!
# Callbacks and their advertising handles

`BleAdvertiser` keeps a callback for each advertising handle. A call of it makes several
steps: each use of the observer map is one, under the map's lock, and between two of them
other threads make theirs. A call under way is kept in the state with what it has looked
up, so the steps of any number of threads interleave in any order.

`StartAdvertising` registers a callback that it has looked for and not found, and `Close`
and `OnAutoStopAdvEvent` deregister an observer that they have looked up by a handle. The
callback has one handle, and nothing is done to the registration of another handle,
exactly as long as what was looked up still holds when it is used.
-/

namespace BluetoothFramework.BleAdvertiserCallbacks

open BluetoothObserverMap

universe u
variable {T : Type u}

/-- A call that has made some of its steps. -/
inductive Pending (T : Type u) where
  /-- `StartAdvertising`, which has found no registration of its callback. -/
  | starting (callback : T)
  /-- `StartAdvertising`, which has got a handle to register. -/
  | registering (callback : T) (advHandle : Int)
  /-- `Close`, which has found the handle of its callback, or none. -/
  | closing (handle : Int)
  /-- `Close` or `OnAutoStopAdvEvent` for a handle, which has found its observer. -/
  | deregistering (handle : Int) (observer : T)
deriving DecidableEq

/-- The registrations, the calls under way, the handles the service has given out, and a
record of each time an event or `Close` for a handle reached or removed a registration:
the handle it was for, then the handle of the registration. -/
structure State (T : Type u) where
  callbacks : BluetoothObserverMap T := {}
  pending : List (Pending T) := []
  allocated : List Int := []
  touched : List (Int × Int) := []

/-- One step of a call, of an event or of the service. -/
inductive Label (T : Type u) where
  /-- `StartAdvertising`, either overload, up to `IsExistAdvertiserCallback`. -/
  | startAdvertising (callback : T)
  /-- Its `GetAdvertiserHandle`, which returns a handle or fails. -/
  | getAdvertiserHandle (callback : T) (result : Option Int)
  /-- Its `Register`. -/
  | register (callback : T) (advHandle : Int)
  /-- `StopAdvertising`, which only looks up the handle it sends. -/
  | stopAdvertising (callback : T)
  /-- `Close` up to `GetAdvertiserHandle`. -/
  | close (callback : T)
  /-- Its `GetAdvertiserObserver`. -/
  | closeObserver (handle : Int)
  /-- `Deregister` in `Close` or `OnAutoStopAdvEvent`. -/
  | deregister (handle : Int) (observer : T)
  | onStartResultEvent (advHandle : Int) (opcode : Int)
  | onStopResultEvent (advHandle : Int)
  /-- `OnAutoStopAdvEvent` up to `GetAdvertiserObserver`. -/
  | onAutoStopAdvEvent (advHandle : Int)
  /-- The service takes a handle back. -/
  | release (advHandle : Int)

/-- `BLE_ADV_START_FAILED_OP_CODE` -/
def bleAdvStartFailedOpCode : Int := 0x02

namespace State

/-- Something for a handle gets to the registration of a handle, if there is one. -/
def touch (state : State T) (handle : Int) (registered : Option Int) : State T :=
  { state with touched := (registered.toList.map fun key => (handle, key)) ++ state.touched }

/-- What a lookup of the observer of a handle gets to. -/
def reached (state : State T) (handle : Int) : Option Int :=
  (state.callbacks.getAdvertiserObserver (toUint8 handle)).map fun _ => toUint8 handle

variable [DecidableEq T]

/-- A call goes on: it is no longer where it was. -/
def goOn (state : State T) (call : Pending T) (next : List (Pending T)) : State T :=
  { state with pending := next ++ state.pending.erase call }

/-- What follows `GetAdvertiserObserver` of a handle in `Close` and `OnAutoStopAdvEvent`. -/
def afterLookup (state : State T) (handle : Int) : List (Pending T) :=
  (state.callbacks.getAdvertiserObserver (toUint8 handle)).toList.map (.deregistering handle)

/-- One step; a step of a call needs the call to be there, and the service gives out
handles that it has not given out already. -/
def step (state : State T) : Label T → Option (State T)
  | .startAdvertising callback =>
      match state.callbacks.isExistAdvertiserCallback callback with
      | some _ => some state
      | none => some { state with pending := .starting callback :: state.pending }
  | .getAdvertiserHandle callback result =>
      if .starting callback ∉ state.pending then none
      else
        match result with
        | none => some (state.goOn (.starting callback) [])
        | some advHandle =>
            if advHandle = bleInvalidAdvertisingHandle then some (state.goOn (.starting callback) [])
            else if advHandle ∈ state.allocated then none
            else some { state.goOn (.starting callback) [.registering callback advHandle] with
              allocated := advHandle :: state.allocated }
  | .register callback advHandle =>
      if .registering callback advHandle ∉ state.pending then none
      else some { state.goOn (.registering callback advHandle) [] with
        callbacks := state.callbacks.register advHandle callback }
  | .stopAdvertising _ => some state
  | .close callback =>
      some { state with
        pending := .closing ((state.callbacks.isExistAdvertiserCallback callback).getD
          bleInvalidAdvertisingHandle) :: state.pending }
  | .closeObserver handle =>
      if .closing handle ∉ state.pending then none
      else some ((state.goOn (.closing handle) (state.afterLookup handle)).touch handle
        (state.reached handle))
  | .deregister handle observer =>
      if .deregistering handle observer ∉ state.pending then none
      else some { (state.goOn (.deregistering handle observer) []).touch handle
          (state.callbacks.isExistAdvertiserCallback observer) with
        callbacks := state.callbacks.deregister observer }
  | .onStartResultEvent advHandle opcode =>
      if opcode = bleAdvStartFailedOpCode then
        some { state.touch advHandle (state.reached advHandle) with
          callbacks := state.callbacks.popAdvertiserObserver (toUint8 advHandle) }
      else some (state.touch advHandle (state.reached advHandle))
  | .onStopResultEvent advHandle =>
      some { state.touch advHandle (state.reached advHandle) with
        callbacks := state.callbacks.popAdvertiserObserver (toUint8 advHandle) }
  | .onAutoStopAdvEvent advHandle =>
      some { state.touch advHandle (state.reached advHandle) with
        pending := state.afterLookup advHandle ++ state.pending }
  | .release advHandle => some { state with allocated := state.allocated.erase advHandle }

omit [DecidableEq T] in
/-- No callback is registered under two handles, and nothing done for a handle got to the
registration of another. -/
structure OneHandle (state : State T) : Prop where
  unique : ∀ first ∈ state.callbacks.observers, ∀ second ∈ state.callbacks.observers,
    first.2 = second.2 → first.1 = second.1
  own : ∀ touch ∈ state.touched, touch.1 = touch.2

omit [DecidableEq T] in
/-- The callback is registered under no handle but this one. -/
def OnlyUnder (state : State T) (callback : T) (handle : Int) : Prop :=
  ∀ entry ∈ state.callbacks.observers, entry.2 = callback → entry.1 = handle

omit [DecidableEq T] in
/-- If the handle as a `uint8_t` is registered, it has lost nothing. -/
def Whole (state : State T) (handle : Int) : Prop :=
  state.callbacks.getAdvertiserObserver (toUint8 handle) ≠ none → toUint8 handle = handle

omit [DecidableEq T] in
/-- What was looked up earlier still holds where a step uses it. -/
def LookupHolds (state : State T) : Label T → Prop
  | .register callback advHandle => state.OnlyUnder callback advHandle
  | .deregister handle observer => state.OnlyUnder observer handle
  | .closeObserver handle => state.Whole handle
  | .onStartResultEvent advHandle _ => state.Whole advHandle
  | .onStopResultEvent advHandle => state.Whole advHandle
  | .onAutoStopAdvEvent advHandle => state.Whole advHandle
  | _ => True

omit [DecidableEq T] in
/-- A touch is of one's own handle exactly if no other key is registered for it. The touches
before it are their own by assumption, so only the new one is in question. -/
theorem own_touch_iff {state : State T} (own : ∀ touch ∈ state.touched, touch.1 = touch.2)
    (handle : Int) (registered : Option Int) :
    (∀ touch ∈ (state.touch handle registered).touched, touch.1 = touch.2) ↔
      ∀ key, registered = some key → handle = key := by
  rw [touch]
  cases registered with
  | none => exact iff_of_true own (by rintro key ⟨⟩)
  | some key => simpa using fun _ => own

omit [DecidableEq T] in
/-- A lookup gets to the registration of its own handle exactly if the handle is whole. -/
theorem own_reached_iff {state : State T} (own : ∀ touch ∈ state.touched, touch.1 = touch.2)
    (handle : Int) :
    (∀ touch ∈ (state.touch handle (state.reached handle)).touched, touch.1 = touch.2) ↔
      state.Whole handle := by
  rw [own_touch_iff own, reached, Whole]
  cases state.callbacks.getAdvertiserObserver (toUint8 handle) with
  | none => simp
  | some observer => simpa using eq_comm

omit [DecidableEq T] in
/-- Entries of which some are removed still have one handle for each observer. Both ways of
removing entries give a sublist, so one lemma serves them. -/
theorem unique_sublist {entries fewer : List (Int × T)} (sublist : fewer.Sublist entries)
    (unique : ∀ first ∈ entries, ∀ second ∈ entries, first.2 = second.2 → first.1 = second.1) :
    ∀ first ∈ fewer, ∀ second ∈ fewer, first.2 = second.2 → first.1 = second.1 :=
  fun first firstMember second secondMember =>
    unique first (sublist.subset firstMember) second (sublist.subset secondMember)

omit [DecidableEq T] in
/-- Registering a callback leaves it one handle exactly if it had no other. The entry of the
handle itself is replaced, so a callback that was under it does not count. -/
theorem unique_register_iff {state : State T} (oneHandle : state.OneHandle) (callback : T)
    (advHandle : Int) :
    (∀ first ∈ (state.callbacks.register advHandle callback).observers,
      ∀ second ∈ (state.callbacks.register advHandle callback).observers,
        first.2 = second.2 → first.1 = second.1) ↔ state.OnlyUnder callback advHandle := by
  simp only [mem_register]
  constructor
  · intro unique entry member same
    by_contra other
    exact other (unique entry (Or.inr ⟨member, other⟩) (advHandle, callback) (Or.inl rfl) same)
  · intro only first firstMember second secondMember same
    rcases firstMember with rfl | ⟨firstMember, _⟩
    · rcases secondMember with rfl | ⟨secondMember, _⟩
      · rfl
      · exact (only second secondMember same.symm).symm
    · rcases secondMember with rfl | ⟨secondMember, _⟩
      · exact only first firstMember same
      · exact oneHandle.unique first firstMember second secondMember same

/-- Deregistering an observer removes an entry of the handle it is done for exactly if the
observer is under no other. -/
theorem deregistered_iff {state : State T} (oneHandle : state.OneHandle) (handle : Int)
    (observer : T) :
    (∀ key, state.callbacks.isExistAdvertiserCallback observer = some key → handle = key) ↔
      state.OnlyUnder observer handle := by
  rw [isExistAdvertiserCallback]
  cases found : state.callbacks.firstEntry observer with
  | none =>
    apply iff_of_true
    · rintro key ⟨⟩
    · intro entry member same
      subst same
      exact absurd member (firstEntry_eq_none found entry.1)
  | some first =>
    obtain ⟨firstMember, firstSame⟩ := firstEntry_mem found
    constructor
    · intro own entry member same
      rw [own first.1 rfl]
      exact oneHandle.unique entry member first firstMember (same.trans firstSame.symm)
    · rintro only key ⟨⟩
      exact (only first firstMember firstSame).symm

/-- A step keeps the property exactly if what it uses still holds. A step that registers under a
handle uses a lookup made in an earlier step, and between the two another thread may have
registered as well. -/
theorem oneHandle_step_iff (state : State T) (label : Label T) (next : State T)
    (oneHandle : state.OneHandle) (stepped : state.step label = some next) :
    next.OneHandle ↔ state.LookupHolds label := by
  have oneHandle_iff (changed : State T) : changed.OneHandle ↔
      (∀ first ∈ changed.callbacks.observers, ∀ second ∈ changed.callbacks.observers,
        first.2 = second.2 → first.1 = second.1) ∧ ∀ touch ∈ changed.touched, touch.1 = touch.2 :=
    ⟨fun ⟨unique, own⟩ => ⟨unique, own⟩, fun ⟨unique, own⟩ => ⟨unique, own⟩⟩
  have same (changed : State T) (callbacks : changed.callbacks = state.callbacks)
      (touched : changed.touched = state.touched) : changed.OneHandle := by
    rw [oneHandle_iff, callbacks, touched]
    exact ⟨oneHandle.unique, oneHandle.own⟩
  have looked (changed : State T) (handle : Int)
      (callbacks : changed.callbacks.observers.Sublist state.callbacks.observers)
      (touched : changed.touched = (state.touch handle (state.reached handle)).touched) :
      changed.OneHandle ↔ state.Whole handle := by
    rw [oneHandle_iff, touched, own_reached_iff oneHandle.own, and_iff_right]
    exact unique_sublist callbacks oneHandle.unique
  cases label with
  | startAdvertising callback =>
    rw [step] at stepped
    split at stepped <;> cases stepped
    · exact iff_of_true oneHandle trivial
    · exact iff_of_true (same _ rfl rfl) trivial
  | getAdvertiserHandle callback result =>
    rw [step.eq_def] at stepped
    dsimp only at stepped
    split at stepped
    · cases stepped
    · cases result with
      | none =>
        cases stepped
        exact iff_of_true (same _ rfl rfl) trivial
      | some advHandle =>
        dsimp only at stepped
        split at stepped
        · cases stepped
          exact iff_of_true (same _ rfl rfl) trivial
        · split at stepped <;> cases stepped
          exact iff_of_true (same _ rfl rfl) trivial
  | register callback advHandle =>
    rw [step] at stepped
    split at stepped <;> cases stepped
    rw [oneHandle_iff]
    dsimp only
    rw [unique_register_iff oneHandle]
    exact and_iff_left oneHandle.own
  | stopAdvertising callback =>
    cases stepped
    exact iff_of_true oneHandle trivial
  | close callback =>
    cases stepped
    exact iff_of_true (same _ rfl rfl) trivial
  | closeObserver handle =>
    rw [step] at stepped
    split at stepped <;> cases stepped
    exact looked _ handle (List.Sublist.refl _) rfl
  | deregister handle observer =>
    rw [step] at stepped
    split at stepped <;> cases stepped
    rw [oneHandle_iff]
    dsimp only
    have unique := unique_sublist (state.callbacks.deregister_sublist observer) oneHandle.unique
    have own := own_touch_iff oneHandle.own handle (state.callbacks.isExistAdvertiserCallback observer)
    rw [and_iff_right unique]
    exact own.trans (deregistered_iff oneHandle handle observer)
  | onStartResultEvent advHandle opcode =>
    rw [step] at stepped
    split at stepped <;> cases stepped
    · exact looked _ advHandle (state.callbacks.popAdvertiserObserver_sublist _) rfl
    · exact looked _ advHandle (List.Sublist.refl _) rfl
  | onStopResultEvent advHandle =>
    cases stepped
    exact looked _ advHandle (state.callbacks.popAdvertiserObserver_sublist _) rfl
  | onAutoStopAdvEvent advHandle =>
    cases stepped
    exact looked _ advHandle (List.Sublist.refl _) rfl
  | release advHandle =>
    cases stepped
    exact iff_of_true (same _ rfl rfl) trivial

/-- In every interleaving a callback has one handle, and nothing done for a handle gets to
the registration of another, exactly if whatever a step uses of an earlier lookup still
holds. -/
theorem one_handle_iff (labels : List (Label T)) :
    Runs.Always step OneHandle ({} : State T) labels ↔
      Runs.Meets step LookupHolds ({} : State T) labels := by
  have preserved : ∀ (state : State T) (label : Label T) (next : State T), True →
      state.step label = some next → True := fun _ _ _ _ _ => trivial
  apply Runs.always_iff_meets preserved fun state label next _ => oneHandle_step_iff state label next
  · trivial
  · exact ⟨by rintro first ⟨⟩, by rintro touch ⟨⟩⟩

/-- Two threads start advertising with one callback. -/
def startedTwice : List (Label Nat) :=
  [.startAdvertising 7, .startAdvertising 7, .getAdvertiserHandle 7 (some 1),
    .getAdvertiserHandle 7 (some 2), .register 7 1, .register 7 2]

/-- The callback is registered under both handles. -/
theorem started_twice_two_handles : ¬ Runs.Always step OneHandle ({} : State Nat) startedTwice := by
  intro always
  obtain ⟨last, reached⟩ : ∃ last, Runs.run step ({} : State Nat) startedTwice = some last ∧
      last.callbacks.observers = [(1, 7), (2, 7)] := ⟨_, rfl, rfl⟩
  have oneHandle := Runs.always_last _ last startedTwice always reached.1
  have unique := oneHandle.unique
  rw [reached.2] at unique
  exact absurd unique (by decide)

end State
end BluetoothFramework.BleAdvertiserCallbacks
