import BluetoothFramework.Library.Runs
import BluetoothFramework.Library.Tenants
import BluetoothFramework.CAdapter.Advertising

/-!
# Who acts on an advertising slot

What is still to be done for an advertisement goes by the index of its slot, so it is done to
whatever holds the slot by then. `slots_owned` gives a condition under which that is always the
advertisement it stems from: an advertisement that gives up its slot leaves nothing behind it
that is still to be done, and no slot is given to an advertisement with a timer while a stop
event has yet to look for the timer of the one before.

The invariant is `Tenanted`: everyone for whom something is outstanding holds the slot.
-/

namespace BluetoothFramework.CAdapter.Advertising

open Runs Tenants

/-! ## What the property says -/

/-- The advertisement that a step is taken for, where it is a task, a timer or a stop event. -/
def stemsFrom (state : Advertising) : AdvLabel → Option BleAdvCallback
  | .runTask _ => state.startAdvQueue.head?.map AdvTask.origin
  | .timerStops timer => some timer.origin
  | .onStopResultEvent observer => some observer
  | .clearSlot observer => some observer
  | .clearTimer observer => some observer
  | _ => none

/-- A slot or the timer of a slot is changed, or `StopAdvertising` is called. -/
def Acts (before after : Advertising) : Prop :=
  after.bleAdvCallbacks ≠ before.bleAdvCallbacks ∨ after.advAddrTimerIds ≠ before.advAddrTimerIds ∨
    after.stopped ≠ before.stopped

/-- A step for an advertisement acts only while the advertisement holds its slot. -/
def ActsOwned (state : Advertising) (label : AdvLabel) : Prop :=
  ∀ origin next, state.stemsFrom label = some origin → state.step label = some next →
    Acts state next → state.bleAdvCallbacks origin.advId = some origin

/-- A start task runs with an advertiser, and with the callback of no other advertisement. -/
def StartsOwned (state : Advertising) : AdvLabel → Prop
  | .runTask _ =>
      match state.startAdvQueue with
      | .start origin _ _ :: _ =>
          state.bleAdvertiser = true ∧ ∀ held, state.bleAdvCallbacks origin.advId = some held →
            held = origin
      | _ => True
  | _ => True

/-- The rule of the slots. -/
def Owned (state : Advertising) (label : AdvLabel) : Prop :=
  state.ActsOwned label ∧ state.StartsOwned label

/-! ## The condition -/

/-- The advertisement whose slot a stop event has yet to clear. -/
def waiting : StopEvent → Option BleAdvCallback
  | .popped observer => some observer
  | .cleared _ => none

/-- The slot in which a stop event has yet to look for a timer. -/
def clearing : StopEvent → Option AdvId
  | .popped _ => none
  | .cleared observer => some observer.advId

/-- The advertisements for which something is still to be done: a task in the queue, a timer,
or a stop event that may come or has yet to clear the slot. -/
def outstanding (state : Advertising) : List BleAdvCallback :=
  state.startAdvQueue.map AdvTask.origin ++ (state.timers ++ state.expired).map AdvAddrTimer.origin ++
    state.observers ++ state.events.filterMap waiting

/-- `CheckAdvIdInUse` takes the slot away: all slots are taken, and the application names
fewer, and not this one. -/
def Reclaims (state : Advertising) (inUse : Option AdvIdsInUse) (i : AdvId) : Prop :=
  state.freeSlot = none ∧ ∃ answer ∈ inUse, 0 ≤ answer.advNum ∧ answer.advNum.toInt < maxBleAdvNum ∧
    answer.contains i = false

instance (state : Advertising) (inUse : Option AdvIdsInUse) (i : AdvId) :
    Decidable (state.Reclaims inUse i) :=
  inferInstanceAs (Decidable (_ ∧ ∃ answer ∈ inUse, _))

/-- Nothing is outstanding for an advertisement whose slot is reclaimed. -/
def ReclaimsSettled (state : Advertising) (inUse : Option AdvIdsInUse) : Prop :=
  ∀ i, state.Reclaims inUse i → ∀ held ∈ state.bleAdvCallbacks i, held ∉ state.outstanding

instance (state : Advertising) (inUse : Option AdvIdsInUse) :
    Decidable (state.ReclaimsSettled inUse) :=
  inferInstanceAs (Decidable (∀ i, _ → ∀ held ∈ state.bleAdvCallbacks i, _))

/-- The slot that is given out is not one in which a stop event has yet to look for a timer. -/
def SparesCleared (state : Advertising) (inUse : Option AdvIdsInUse) : Prop :=
  ∀ callback ∈ (state.checkAndAllocateAdvHandle inUse).1, ∀ event ∈ state.events,
    clearing event ≠ some callback.advId

instance (state : Advertising) (inUse : Option AdvIdsInUse) :
    Decidable (state.SparesCleared inUse) :=
  inferInstanceAs (Decidable (∀ callback ∈ (state.checkAndAllocateAdvHandle inUse).1, _))

/-- A start task that fails leaves nothing outstanding: the advertiser has not come to know
the callback, and the rest of the queue has no task for the advertisement. -/
def FailsSettled (state : Advertising) (result : StartResult) : List AdvTask → Prop
  | .start origin withAddr _ :: rest =>
      result.ret ≠ btNoError → result.registers = false ∧
        origin ∉ { state with
          startAdvQueue := rest
          timers := if withAddr then [] else state.timers }.outstanding
  | _ => True

instance (state : Advertising) (result : StartResult) :
    (tasks : List AdvTask) → Decidable (state.FailsSettled result tasks)
  | [] => isTrue trivial
  | .start _ _ _ :: _ => inferInstanceAs (Decidable (_ → _ ∧ _))
  | .stop _ :: _ => isTrue trivial

/-- The call gets as far as `CheckAndAllocateAdvHandle`. -/
def allocates (call : StartWithAddr) : Bool :=
  call.rawData.isSome && call.advParam.isSome && isRpa call.ownAddrParams && call.bleEnabled

/-- An advertisement that gives up its slot is settled: nothing else is outstanding for it,
but for the timer that a start task unregisters when it fails. And an advertisement with an
address is not given a slot in which a stop event has yet to look for a timer. -/
def Settles (state : Advertising) : AdvLabel → Prop
  | .startAdvWithAddr call =>
      allocates call = true → state.ReclaimsSettled call.inUse ∧ state.SparesCleared call.inUse
  | .startAdvEx call => call.bleEnabled = true → state.ReclaimsSettled call.inUse
  | .runTask result => state.FailsSettled result state.startAdvQueue
  | .clearSlot observer =>
      observer ∉ { state with events := state.events.erase (.popped observer) }.outstanding
  | _ => True

instance : (state : Advertising) → (label : AdvLabel) → Decidable (state.Settles label)
  | _, .startAdvWithAddr _ => inferInstanceAs (Decidable (_ → _ ∧ _))
  | _, .startAdvEx _ => inferInstanceAs (Decidable (_ → _))
  | state, .runTask result => inferInstanceAs (Decidable (state.FailsSettled result _))
  | _, .clearSlot _ => inferInstanceAs (Decidable (_ ∉ _))
  | _, .stopAdv _ => isTrue trivial
  | _, .timerExpires _ => isTrue trivial
  | _, .timerStops _ => isTrue trivial
  | _, .observerGone _ => isTrue trivial
  | _, .onStopResultEvent _ => isTrue trivial
  | _, .clearTimer _ => isTrue trivial

/-! ## Timers -/

/-- The timer ids of the slots and the timers belong together: a slot with an id has the timer
of that id, still registered or run out, and a registered timer is that of its slot. -/
structure Timed (ids : AdvId → UInt32) (timers expired : List AdvAddrTimer) : Prop where
  armed : ∀ i, ids i ≠ 0 → ∃ timer ∈ timers ++ expired, timer.origin.advId = i ∧ timer.id = ids i
  registered : ∀ timer ∈ timers, timer.id ≠ 0 ∧ ids timer.origin.advId = timer.id
  distinct : ∀ i j, ids i = ids j → ids i ≠ 0 → i = j

namespace Timed

variable {ids : AdvId → UInt32} {timers expired : List AdvAddrTimer}

/-- A timer runs out. -/
theorem expire (timed : Timed ids timers expired) (timer : AdvAddrTimer) :
    Timed ids (timers.erase timer) (expired ++ [timer]) := by
  refine ⟨?_, ?_, timed.distinct⟩
  · intro i set
    obtain ⟨found, listed, belongs⟩ := timed.armed i set
    refine ⟨found, ?_, belongs⟩
    rw [List.mem_append, List.mem_append, List.mem_singleton]
    by_cases same : found = timer
    · exact .inr (.inr same)
    · rcases List.mem_append.mp listed with inTimers | inExpired
      · exact .inl ((List.mem_erase_of_ne same).mpr inTimers)
      · exact .inr (.inl inExpired)
  · intro other listed
    exact timed.registered other (List.mem_of_mem_erase listed)

/-- The timer of a slot is unregistered; of those that have run out at most timers of the slot
are dropped. -/
theorem unRegister (timed : Timed ids timers expired) (i : AdvId) {left : List AdvAddrTimer}
    (kept : ∀ timer ∈ expired, timer.origin.advId ≠ i → timer ∈ left) :
    Timed (Function.update ids i 0) (if ids i = 0 then timers else timers.filter fun timer => timer.id ≠ ids i)
      left := by
  constructor
  · intro j set
    have other : j ≠ i := by
      rintro rfl
      rw [Function.update_self] at set
      exact set rfl
    rw [Function.update_of_ne other] at set ⊢
    obtain ⟨timer, listed, place, id⟩ := timed.armed j set
    refine ⟨timer, ?_, place, id⟩
    rcases List.mem_append.mp listed with inTimers | inExpired
    · refine List.mem_append_left _ ?_
      split
      · exact inTimers
      · refine List.mem_filter.mpr ⟨inTimers, decide_eq_true ?_⟩
        rw [id]
        exact fun same => other (timed.distinct j i same set)
    · exact List.mem_append_right _ (kept timer inExpired (place ▸ other))
  · intro timer listed
    have before : timer ∈ timers ∧ timer.id ≠ ids i := by
      split at listed
      · rename_i zero
        refine ⟨listed, ?_⟩
        rw [zero]
        exact (timed.registered timer listed).1
      · obtain ⟨inTimers, differs⟩ := List.mem_filter.mp listed
        exact ⟨inTimers, of_decide_eq_true differs⟩
    obtain ⟨set, own⟩ := timed.registered timer before.1
    refine ⟨set, ?_⟩
    rw [Function.update_of_ne]
    · exact own
    · rintro rfl
      exact before.2 own.symm
  · intro j k same set
    have other : j ≠ i := by
      rintro rfl
      rw [Function.update_self] at set
      exact set rfl
    rw [Function.update_of_ne other] at same set
    by_cases here : k = i
    · subst here
      rw [Function.update_self] at same
      exact absurd same set
    · rw [Function.update_of_ne here] at same
      exact timed.distinct j k same set

/-- A timer is registered for a slot without one. It gets an id that no slot and no timer has, or
none at all where the system refuses it. -/
theorem register (timed : Timed ids timers expired) (callback : BleAdvCallback) {id : UInt32}
    (new : id = 0 ∨ (∀ timer ∈ timers, timer.id ≠ id) ∧ ∀ i, ids i ≠ id)
    (unset : ids callback.advId = 0)
    (unused : ∀ timer ∈ timers, timer.origin.advId ≠ callback.advId) :
    Timed (Function.update ids callback.advId id)
      (if id = 0 then timers else timers ++ [{ id := id, origin := callback }]) expired := by
  by_cases zero : id = 0
  · rw [if_pos zero, zero, ← unset, Function.update_eq_self]
    exact timed
  · rw [if_neg zero]
    obtain ⟨-, unlike⟩ := new.resolve_left zero
    constructor
    · intro i set
      by_cases here : i = callback.advId
      · subst here
        rw [Function.update_self]
        exact ⟨{ id := id, origin := callback }, by simp, rfl, rfl⟩
      · rw [Function.update_of_ne here] at set ⊢
        obtain ⟨timer, listed, belongs⟩ := timed.armed i set
        refine ⟨timer, ?_, belongs⟩
        rcases List.mem_append.mp listed with inTimers | inExpired
        · exact List.mem_append_left _ (List.mem_append_left _ inTimers)
        · exact List.mem_append_right _ inExpired
    · intro timer listed
      rcases List.mem_append.mp listed with inTimers | isNew
      · rw [Function.update_of_ne (unused timer inTimers)]
        exact timed.registered timer inTimers
      · cases List.mem_singleton.mp isNew
        exact ⟨zero, Function.update_self _ _ _⟩
    · intro i j same set
      by_cases here : i = callback.advId
      · by_cases there : j = callback.advId
        · exact here.trans there.symm
        · rw [here, Function.update_self, Function.update_of_ne there] at same
          exact absurd same.symm (unlike j)
      · rw [Function.update_of_ne here] at same set
        by_cases there : j = callback.advId
        · rw [there, Function.update_self] at same
          exact absurd same (unlike i)
        · rw [Function.update_of_ne there] at same
          exact timed.distinct i j same set

end Timed

/-! ## The invariant -/

/-- Everyone for whom something is outstanding holds the slot, the timers are in order, and
where a stop event has yet to look for a timer there is none. -/
structure Tenanted (state : Advertising) : Prop where
  held : AllHold state.bleAdvCallbacks BleAdvCallback.advId state.outstanding
  placed : ∀ i callback, state.bleAdvCallbacks i = some callback → callback.advId = i
  timed : Timed state.advAddrTimerIds state.timers state.expired
  cleared : ∀ event ∈ state.events, ∀ i, clearing event = some i → state.advAddrTimerIds i = 0

/-- There is an advertiser as long as a slot is taken. -/
def Advertised (state : Advertising) : Prop :=
  ∀ i callback, state.bleAdvCallbacks i = some callback → state.bleAdvertiser = true

/-- A callback is outstanding exactly if a task, a timer, an observer or a stop event holds it.
-/
theorem mem_outstanding (state : Advertising) (callback : BleAdvCallback) :
    callback ∈ state.outstanding ↔ (∃ task ∈ state.startAdvQueue, task.origin = callback) ∨
      (∃ timer ∈ state.timers ++ state.expired, timer.origin = callback) ∨
        callback ∈ state.observers ∨
      .popped callback ∈ state.events := by
  have popped : callback ∈ state.events.filterMap waiting ↔ .popped callback ∈ state.events := by
    rw [List.mem_filterMap]
    constructor
    · rintro ⟨event, listed, waits⟩
      cases event with
      | popped observer =>
        cases waits
        exact listed
      | cleared observer => cases waits
    · intro listed
      exact ⟨_, listed, rfl⟩
  rw [outstanding, List.mem_append, List.mem_append, List.mem_append, List.mem_map, List.mem_map, popped,
    or_assoc, or_assoc]

/-- Nobody has come to be waited for, apart from the one given. -/
structure Awaits (before after : Advertising) (callback : Option BleAdvCallback) : Prop where
  tasks : ∀ task ∈ after.startAdvQueue, task ∈ before.startAdvQueue ∨ callback = some task.origin
  timers : ∀ timer ∈ after.timers ++ after.expired,
    timer ∈ before.timers ++ before.expired ∨ callback = some timer.origin
  observers : ∀ observer ∈ after.observers, observer ∈ before.observers ∨ callback = some observer
  events : ∀ observer, .popped observer ∈ after.events →
    .popped observer ∈ before.events ∨ observer ∈ before.observers

/-- A call that awaits a callback makes no other outstanding. What was outstanding before may be
gone, but nothing else is added. -/
theorem Awaits.subset {before after : Advertising} {callback : Option BleAdvCallback}
    (awaits : Awaits before after callback) :
      after.outstanding ⊆ callback.toList ++ before.outstanding := by
  intro other outstanding
  rw [List.mem_append, Option.mem_toList, mem_outstanding]
  rcases (mem_outstanding after other).mp outstanding with
    ⟨task, listed, rfl⟩ | ⟨timer, listed, rfl⟩ | listed | popped
  · rcases awaits.tasks task listed with known | new
    · exact .inr (.inl ⟨task, known, rfl⟩)
    · exact .inl new
  · rcases awaits.timers timer listed with known | new
    · exact .inr (.inr (.inl ⟨timer, known, rfl⟩))
    · exact .inl new
  · rcases awaits.observers other listed with known | new
    · exact .inr (.inr (.inr (.inl known)))
    · exact .inl new
  · rcases awaits.events other popped with known | observed
    · exact .inr (.inr (.inr (.inr known)))
    · exact .inr (.inr (.inr (.inl observed)))

namespace Tenanted

variable {state : Advertising}

/-- The invariant goes on to a state with the same slots, where at most one more is waited for,
which holds its slot. -/
theorem awaits {next : Advertising} (tenanted : Tenanted state) (callback : Option BleAdvCallback)
    (slots : next.bleAdvCallbacks = state.bleAdvCallbacks) (awaits : Awaits state next callback)
    (holds : ∀ new ∈ callback, state.bleAdvCallbacks new.advId = some new)
    (timed : Timed next.advAddrTimerIds next.timers next.expired)
    (cleared : ∀ event ∈ next.events, ∀ i, clearing event = some i → next.advAddrTimerIds i = 0) :
    Tenanted next := by
  refine ⟨?_, ?_, timed, cleared⟩
  · rw [slots]
    refine AllHold.subset awaits.subset ?_
    cases callback with
    | none => exact tenanted.held
    | some new => exact AllHold.cons (holds new rfl) tenanted.held
  · rw [slots]
    exact tenanted.placed

/-- Slots are given up by those for whom nothing is outstanding. -/
theorem withdraw (tenanted : Tenanted state) {slots : AdvId → Option BleAdvCallback}
    (spared : ∀ i, slots i = state.bleAdvCallbacks i ∨
      slots i = none ∧ ∀ held, state.bleAdvCallbacks i = some held → held ∉ state.outstanding) :
    Tenanted { state with bleAdvCallbacks := slots } := by
  refine ⟨?_, ?_, tenanted.timed, tenanted.cleared⟩
  · refine AllHold.change ?_ tenanted.held
    intro i
    exact (spared i).imp_right And.right
  · intro i callback taken
    rcases spared i with same | ⟨empty, -⟩
    · exact tenanted.placed i callback (same.symm.trans taken)
    · rw [show slots i = some callback from taken] at empty
      cases empty

/-- Nothing is outstanding in a slot that is free. -/
theorem free (tenanted : Tenanted state) {i : AdvId} (empty : state.bleAdvCallbacks i = none)
    {callback : BleAdvCallback} (place : callback.advId = i) : callback ∉ state.outstanding := by
  intro outstanding
  have holds := tenanted.held callback outstanding
  rw [place, empty] at holds
  cases holds

/-- No timer belongs to a free slot. -/
theorem untimed (tenanted : Tenanted state) {i : AdvId} (empty : state.bleAdvCallbacks i = none) :
    state.advAddrTimerIds i = 0 ∧ ∀ timer ∈ state.timers, timer.origin.advId ≠ i := by
  constructor
  · by_contra set
    obtain ⟨timer, listed, place, -⟩ := tenanted.timed.armed i set
    exact tenanted.free empty place ((mem_outstanding _ _).mpr (.inr (.inl ⟨timer, listed, rfl⟩)))
  · intro timer listed place
    exact tenanted.free empty place
      ((mem_outstanding _ _).mpr (.inr (.inl ⟨timer, List.mem_append_left _ listed, rfl⟩)))

/-- A free slot is let. Nothing is outstanding for a free slot, so nothing that comes late can
meet the new tenant. -/
theorem give (tenanted : Tenanted state) {callback : BleAdvCallback}
    (empty : state.bleAdvCallbacks callback.advId = none) (made : Nat) :
    Tenanted { state.setCallback callback.advId (some callback) with made := made } := by
  refine ⟨?_, ?_, tenanted.timed, tenanted.cleared⟩
  · refine AllHold.change ?_ tenanted.held
    intro i
    by_cases here : i = callback.advId
    · subst here
      refine .inr ?_
      intro held taken
      rw [empty] at taken
      cases taken
    · exact .inl (Function.update_of_ne here _ _)
  · intro i other taken
    by_cases here : i = callback.advId
    · subst here
      rw [show other = callback from (Option.some.inj (taken.symm.trans (Function.update_self _ _ _)))]
    · exact tenanted.placed i other ((Function.update_of_ne here _ _).symm.trans taken)

end Tenanted

/-! ## Slots are let -/

/-- A slot that is given out was empty before. -/
theorem freeSlot_empty {state : Advertising} {i : AdvId} (free : state.freeSlot = some i) :
    state.bleAdvCallbacks i = none := by
  have empty := List.find?_some free
  exact Option.isNone_iff_eq_none.mp empty

/-- What `AllocateAdvHandle` does. -/
inductive Allocates (state : Advertising) : Option BleAdvCallback × Advertising → Prop where
  | full : Allocates state (none, state)
  | new (callback : BleAdvCallback) (empty : state.bleAdvCallbacks callback.advId = none) (made : Nat) :
      Allocates state (some callback, { state.setCallback callback.advId (some callback) with made := made })

/-- Allocation takes an empty slot or, where there is none, leaves all as they are. -/
theorem allocates_allocateAdvHandle (state : Advertising) :
    Allocates state state.allocateAdvHandle := by
  rw [allocateAdvHandle]
  split
  · exact .full
  · rename_i i free
    exact .new { number := state.made, advId := i } (freeSlot_empty free) _

/-- The loop only takes away slots of indices that are not in use. The induction is on the
indices that are left, each of which is visited once. -/
theorem reclaim_cases (state : Advertising) (inUse : AdvIdsInUse) (ids : List AdvId) :
    ∃ slots, state.reclaim inUse ids = { state with bleAdvCallbacks := slots } ∧
      ∀ i, slots i = state.bleAdvCallbacks i ∨ slots i = none ∧ inUse.contains i = false := by
  induction ids generalizing state with
  | nil => exact ⟨state.bleAdvCallbacks, rfl, fun _ => .inl rfl⟩
  | cons first rest inductionHypothesis =>
    rw [reclaim]
    split
    · exact ⟨state.bleAdvCallbacks, rfl, fun _ => .inl rfl⟩
    · split
      · exact inductionHypothesis state
      · rename_i unused
        obtain ⟨slots, same, changed⟩ := inductionHypothesis (state.setCallback first none)
        refine ⟨slots, same, ?_⟩
        intro i
        rcases changed i with kept | taken
        · by_cases here : i = first
          · subst here
            refine .inr ⟨kept.trans (Function.update_self _ _ _), ?_⟩
            exact Bool.eq_false_iff.mpr unused
          · exact .inl (kept.trans (Function.update_of_ne here _ _))
        · exact .inr taken

/-- What `CheckAndAllocateAdvHandle` allocates from: some slots may have been reclaimed. A slot
is reclaimed only if all of them are taken and the answer names fewer, and not this one. -/
theorem checkAndAllocate_cases (state : Advertising) (inUse : Option AdvIdsInUse) :
    ∃ slots, state.checkAndAllocateAdvHandle inUse =
      { state with bleAdvCallbacks := slots }.allocateAdvHandle ∧
      ∀ i, slots i = state.bleAdvCallbacks i ∨ slots i = none ∧ state.Reclaims inUse i := by
  have unchanged : ∀ i, state.bleAdvCallbacks i = state.bleAdvCallbacks i ∨
      state.bleAdvCallbacks i = none ∧ state.Reclaims inUse i := fun _ => .inl rfl
  rw [checkAndAllocateAdvHandle]
  split
  · exact ⟨state.bleAdvCallbacks, rfl, unchanged⟩
  · rename_i full
    cases inUse with
    | none => exact ⟨state.bleAdvCallbacks, rfl, unchanged⟩
    | some answer =>
      rw [checkAdvIdInUse]
      split
      · exact ⟨state.bleAdvCallbacks, rfl, unchanged⟩
      · rename_i valid
        split
        · exact ⟨state.bleAdvCallbacks, rfl, unchanged⟩
        · rename_i fewer
          obtain ⟨slots, same, changed⟩ := reclaim_cases state answer (List.finRange maxBleAdvNum)
          refine ⟨slots, congrArg allocateAdvHandle same, ?_⟩
          intro i
          refine (changed i).imp_right ?_
          rintro ⟨empty, unused⟩
          have below : answer.advNum.toInt < maxBleAdvNum :=
            lt_of_le_of_ne (not_lt.mp fun above => valid (.inr above)) fewer
          exact ⟨empty, full, answer, rfl, Int32.not_lt.mp fun negative => valid (.inl negative), below, unused⟩

/-- Reclaiming keeps the invariant where everyone it concerns is settled. -/
theorem Tenanted.reclaimed {state : Advertising} (tenanted : Tenanted state)
    {inUse : Option AdvIdsInUse}
    (settled : state.ReclaimsSettled inUse) {slots : AdvId → Option BleAdvCallback}
    (changed : ∀ i, slots i = state.bleAdvCallbacks i ∨ slots i = none ∧ state.Reclaims inUse i) :
    Tenanted { state with bleAdvCallbacks := slots } := by
  apply tenanted.withdraw
  intro i
  refine (changed i).imp_right ?_
  rintro ⟨empty, reclaims⟩
  exact ⟨empty, fun held taken => settled i reclaims held taken⟩

/-- A task is submitted for an advertisement that holds its slot. The task is outstanding from
then on, and keeps the slot from being given up. -/
theorem Tenanted.submit {state : Advertising} (tenanted : Tenanted state) (task : AdvTask)
    (holds : state.bleAdvCallbacks task.origin.advId = some task.origin)
    (advertiser : Bool) (appTypes : AdvId → Option BleApplicationType)
    (restored : List BleApplicationType) :
    Tenanted { state with
      bleAdvertiser := advertiser
      startAdvQueue := state.startAdvQueue ++ [task]
      advIdAppTypeMap := appTypes
      restored := restored } := by
  refine tenanted.awaits (some task.origin) rfl ?_ ?_ tenanted.timed tenanted.cleared
  · refine ⟨?_, fun _ listed => .inl listed, fun _ listed => .inl listed, fun _ listed => .inl listed⟩
    intro other listed
    rcases List.mem_append.mp listed with before | new
    · exact .inl before
    · cases List.mem_singleton.mp new
      exact .inr rfl
  · rintro new ⟨⟩
    exact holds

/-! ## Starting -/

/-- Submitting a start task keeps the invariant. -/
theorem Tenanted.submitStart {state : Advertising} (tenanted : Tenanted state)
    {callback : BleAdvCallback}
    (holds : state.bleAdvCallbacks callback.advId = some callback) (withAddr : Bool)
    (request : AdvRequest) (appType : BleApplicationType) :
      Tenanted (state.submitStart callback withAddr request appType) :=
  tenanted.submit (.start callback withAddr request) holds true _ _

/-- What `StartAdvAddrTimer` does. -/
inductive TimesAddr (state : Advertising) (callback : BleAdvCallback) (timerId : UInt32) :
    Bool × Advertising → Prop where
  | refused (addresses : AdvAddresses) : TimesAddr state callback timerId
      (false, { state with addresses := addresses }.setCallback callback.advId none)
  | timed (addresses : AdvAddresses) : TimesAddr state callback timerId
      (true, { state with
        addresses := addresses
        timers := if timerId = 0 then state.timers
          else state.timers ++ [{ id := timerId, origin := callback }]
        advAddrTimerIds := Function.update state.advAddrTimerIds callback.advId timerId })

/-- Starting the timer of an address adds at most one timer, and for the callback it was called
with. -/
theorem timesAddr_startAdvAddrTimer (state : Advertising) (callback : BleAdvCallback)
    (ownAddrParams : AdvOwnAddrParams) (removed started : Timespec) (timerId : UInt32) :
    TimesAddr state callback timerId
      (state.startAdvAddrTimer callback ownAddrParams removed started timerId) := by
  rw [startAdvAddrTimer]
  dsimp only
  split
  · exact .refused _
  · exact .timed _

/-- The invariant, and an advertiser for every slot that is taken. -/
structure Sound (state : Advertising) : Prop where
  tenanted : Tenanted state
  advertised : Advertised state

/-- The advertiser stays, and no slot is let. -/
theorem Advertised.fewer {before after : Advertising} (advertised : Advertised before)
    (kept : after.bleAdvertiser = before.bleAdvertiser)
    (fewer : ∀ i callback, after.bleAdvCallbacks i = some callback →
      before.bleAdvCallbacks i = some callback) :
    Advertised after := by
  intro i callback taken
  rw [kept]
  exact advertised i callback (fewer i callback taken)

/-- No slot is let where one is given up. -/
theorem setCallback_fewer {state : Advertising} {place i : AdvId} {callback : BleAdvCallback}
    (taken : (state.setCallback place none).bleAdvCallbacks i = some callback) :
    state.bleAdvCallbacks i = some callback := by
  by_cases here : i = place
  · subst here
    cases (Function.update_self _ _ _).symm.trans taken
  · exact (Function.update_of_ne here _ _).symm.trans taken

/-- Reclaimed slots are not let. -/
theorem reclaimed_fewer {state : Advertising} {inUse : Option AdvIdsInUse}
    {slots : AdvId → Option BleAdvCallback}
    (changed : ∀ i, slots i = state.bleAdvCallbacks i ∨ slots i = none ∧ state.Reclaims inUse i)
    (i : AdvId) (callback : BleAdvCallback) (taken : slots i = some callback) :
    state.bleAdvCallbacks i = some callback := by
  rcases changed i with kept | ⟨empty, -⟩
  · exact kept.symm.trans taken
  · rw [taken] at empty
    cases empty

/-- The timer of a new advertisement keeps the invariant where no stop event looks for one. A
stop event of an earlier advertisement would find the new timer under the same slot. -/
theorem Tenanted.timed_new {state : Advertising} (tenanted : Tenanted state)
    {callback : BleAdvCallback}
    (empty : state.bleAdvCallbacks callback.advId = none) (made : Nat) (addresses : AdvAddresses)
    {timerId : UInt32} (new : state.IsNewTimer timerId)
    (spares : ∀ event ∈ state.events, clearing event ≠ some callback.advId) :
    Tenanted { state.setCallback callback.advId (some callback) with
      made := made
      addresses := addresses
      timers := if timerId = 0 then state.timers else state.timers ++
        [{ id := timerId, origin := callback }]
      advAddrTimerIds := Function.update state.advAddrTimerIds callback.advId timerId } := by
  obtain ⟨unset, unused⟩ := tenanted.untimed empty
  have given := tenanted.give empty made
  refine given.awaits (some callback) rfl ?_ ?_ (given.timed.register callback new unset unused) ?_
  · refine ⟨fun _ listed => .inl listed, ?_, fun _ listed => .inl listed, fun _ listed => .inl listed⟩
    intro timer listed
    rcases List.mem_append.mp listed with inTimers | inExpired
    · dsimp only at inTimers
      split at inTimers
      · exact .inl (List.mem_append_left _ inTimers)
      · rcases List.mem_append.mp inTimers with before | new
        · exact .inl (List.mem_append_left _ before)
        · cases List.mem_singleton.mp new
          exact .inr rfl
    · exact .inl (List.mem_append_right _ inExpired)
  · rintro new ⟨⟩
    exact Function.update_self _ _ _
  · intro event listed i clears
    have other : i ≠ callback.advId := by
      rintro rfl
      exact spares event listed clears
    exact (Function.update_of_ne other _ _).trans (tenanted.cleared event listed i clears)

/-- The slots are as before when one that has just been let is given up again. -/
theorem given_back {state : Advertising} {callback : BleAdvCallback}
    (empty : state.bleAdvCallbacks callback.advId = none) (made : Nat) (addresses : AdvAddresses) :
    (({ state.setCallback callback.advId (some callback) with
      made := made
      addresses := addresses }.setCallback callback.advId none).setCallback callback.advId
        none).bleAdvCallbacks =
      state.bleAdvCallbacks := by
  simp only [setCallback, Function.update_idem]
  rw [← empty, Function.update_eq_self]

/-- A slot that has just been let is given up again. -/
theorem Tenanted.give_back {state : Advertising} (tenanted : Tenanted state)
    {callback : BleAdvCallback}
    (empty : state.bleAdvCallbacks callback.advId = none) (made : Nat) (addresses : AdvAddresses) :
    Tenanted (({ state.setCallback callback.advId (some callback) with
      made := made
      addresses := addresses }.setCallback callback.advId none).setCallback callback.advId none) := by
  apply tenanted.awaits none
  · exact given_back empty made addresses
  · exact ⟨fun _ listed => .inl listed, fun _ listed => .inl listed, fun _ listed => .inl listed,
      fun _ listed => .inl listed⟩
  · exact nofun
  · exact tenanted.timed
  · exact tenanted.cleared

/-- A start with an address of its own keeps the slots sound. It is a start followed by the
timer, so both lemmas are used in turn. -/
theorem Sound.startAdvWithAddr {state : Advertising} (sound : Sound state) (call : StartWithAddr)
    (new : state.IsNewTimer call.timerId) (settles : state.Settles (.startAdvWithAddr call)) :
    Sound (state.bleStartAdvWithAddr call).state := by
  rw [bleStartAdvWithAddr]
  split
  · rename_i rawData advParam ownAddrParams hasRaw hasParam hasAddr
    split
    · exact sound
    · rename_i rpa
      split
      · exact sound
      · rename_i enabled
        have reaches : allocates call = true := by
          simp only [allocates, hasRaw, hasParam, hasAddr, Option.isSome_some, Bool.true_and, Bool.and_eq_true]
          exact ⟨by simpa using rpa, by simpa using enabled⟩
        obtain ⟨settled, spares⟩ := settles reaches
        obtain ⟨slots, checks, changed⟩ := state.checkAndAllocate_cases call.inUse
        have tenanted := sound.tenanted.reclaimed settled changed
        have advertised : Advertised { state with bleAdvCallbacks := slots } :=
          sound.advertised.fewer rfl (reclaimed_fewer changed)
        rw [SparesCleared, checks] at spares
        rw [checks]
        have allocates := allocates_allocateAdvHandle { state with bleAdvCallbacks := slots }
        generalize allocateAdvHandle { state with bleAdvCallbacks := slots } = allocated at allocates spares
        cases allocates with
        | full => exact ⟨tenanted, advertised⟩
        | new callback empty made =>
          have times := timesAddr_startAdvAddrTimer
            { setCallback { state with bleAdvCallbacks := slots } callback.advId (some callback)
              with made := made }
            callback ownAddrParams call.removed call.started call.timerId
          dsimp only
          generalize startAdvAddrTimer _ callback ownAddrParams call.removed call.started
            call.timerId = timing at times
          cases times with
          | refused addresses =>
            refine ⟨tenanted.give_back empty made addresses, ?_⟩
            refine advertised.fewer rfl ?_
            intro i other taken
            exact (congrFun (given_back empty made addresses) i).symm.trans taken
          | timed addresses =>
            refine ⟨?_, fun _ _ _ => rfl⟩
            refine (tenanted.timed_new empty made addresses new (spares callback rfl)).submitStart ?_ _ _ _
            exact Function.update_self _ _ _
  · exact sound

/-- A start keeps the slots sound: it takes an empty slot, or it fails and gives the slot back.
-/
theorem Sound.startAdvEx {state : Advertising} (sound : Sound state) (call : StartEx)
    (settles : state.Settles (.startAdvEx call)) : Sound (state.bleStartAdvEx call).state := by
  rw [bleStartAdvEx]
  split
  · exact sound
  · rename_i enabled
    have settled : ReclaimsSettled { state with bleAdvertiser := true } call.inUse :=
      settles (by simpa using enabled)
    obtain ⟨slots, checks, changed⟩ :=
      checkAndAllocate_cases { state with bleAdvertiser := true } call.inUse
    have advertiser : Tenanted { state with bleAdvertiser := true } :=
      ⟨sound.tenanted.held, sound.tenanted.placed, sound.tenanted.timed, sound.tenanted.cleared⟩
    have tenanted := advertiser.reclaimed settled changed
    dsimp only
    rw [checks]
    have allocates := allocates_allocateAdvHandle
      { state with bleAdvertiser := true, bleAdvCallbacks := slots }
    generalize allocateAdvHandle _ = allocated at allocates
    cases allocates with
    | full => exact ⟨tenanted, fun _ _ _ => rfl⟩
    | new callback empty made =>
      refine ⟨(tenanted.give empty made).submitStart ?_ _ _ _, fun _ _ _ => rfl⟩
      exact Function.update_self _ _ _

/-! ## Stopping -/

/-- `BleStopAdv` for a slot that is taken. -/
theorem bleStopAdv_taken {state : Advertising} (advertiser : state.bleAdvertiser = true) {i : AdvId}
    {held : BleAdvCallback} (taken : state.bleAdvCallbacks i = some held)
    (timer : Option BleAdvCallback) :
    (state.bleStopAdv i.val timer).state = { (state.unRegister i).restoreRanging i with
      startAdvQueue := state.startAdvQueue ++ [.stop (timer.getD held)] } := by
  have inside : ¬ ((i.val : Int) < 0 ∨ (maxBleAdvNum : Int) ≤ i.val) := by omega
  have index : Fin.ofNat maxBleAdvNum (i.val : Int).toNat = i := by
    rw [Int.toNat_natCast]
    exact Fin.ext (Nat.mod_eq_of_lt i.isLt)
  rw [bleStopAdv, if_neg inside]
  simp only [index, advertiser, taken]
  rfl

/-- `BleStopAdv` does nothing, or is for a slot that is taken. -/
theorem bleStopAdv_cases (state : Advertising) (advId : Int) (timer : Option BleAdvCallback) :
    (state.bleStopAdv advId timer).state = state ∨ ∃ (i : AdvId) (held : BleAdvCallback),
      advId = i.val ∧ state.bleAdvertiser = true ∧ state.bleAdvCallbacks i = some held := by
  rw [bleStopAdv]
  split
  · exact .inl rfl
  · rename_i inside
    dsimp only
    split
    · rename_i held advertiser taken
      refine .inr ⟨_, held, ?_, advertiser, taken⟩
      rw [Fin.val_ofNat, Nat.mod_eq_of_lt (by omega)]
      omega
    · exact .inl rfl

/-- The timer of a slot is unregistered; of those that have run out at most timers of the slot
are dropped. -/
theorem Tenanted.unregistered {state : Advertising} (tenanted : Tenanted state) (i : AdvId)
    {left : List AdvAddrTimer} (subset : left ⊆ state.expired)
    (kept : ∀ timer ∈ state.expired, timer.origin.advId ≠ i → timer ∈ left) :
    Tenanted ({ state with expired := left }.unRegister i) := by
  refine tenanted.awaits none rfl ?_ nofun (tenanted.timed.unRegister i kept) ?_
  · refine ⟨fun _ listed => .inl listed, ?_, fun _ listed => .inl listed, fun _ listed => .inl listed⟩
    intro timer listed
    rcases List.mem_append.mp listed with inTimers | inExpired
    · refine .inl (List.mem_append_left _ ?_)
      simp only [unRegister] at inTimers
      split at inTimers
      · exact inTimers
      · exact List.mem_of_mem_filter inTimers
    · exact .inl (List.mem_append_right _ (subset inExpired))
  · intro event listed j clears
    have before := tenanted.cleared event listed j clears
    simp only [unRegister, Function.update_apply]
    split
    · rfl
    · exact before

/-- A stop task is submitted for an advertisement that holds its slot, and the timer of a slot
is unregistered. -/
theorem Tenanted.stopping {state : Advertising} (tenanted : Tenanted state)
    {origin : BleAdvCallback} (holds : state.bleAdvCallbacks origin.advId = some origin) (i : AdvId)
    {left : List AdvAddrTimer} (subset : left ⊆ state.expired)
    (kept : ∀ timer ∈ state.expired, timer.origin.advId ≠ i → timer ∈ left) :
    Tenanted { (unRegister { state with expired := left } i).restoreRanging i with
      startAdvQueue := state.startAdvQueue ++ [.stop origin] } :=
  (tenanted.unregistered i subset kept).submit (.stop origin) holds _ _ _

/-- A stop keeps the slots sound, since it touches the slot of its own id only. -/
theorem Sound.stopAdv {state : Advertising} (sound : Sound state) (advId : Int) :
    Sound (state.bleStopAdv advId none).state := by
  rcases state.bleStopAdv_cases advId none with same | ⟨i, held, rfl, advertiser, taken⟩
  · rw [same]
    exact sound
  · have place := sound.tenanted.placed i held taken
    have stopping := sound.tenanted.stopping (place.symm ▸ taken) i (List.Subset.refl _)
      fun _ listed _ => listed
    rw [bleStopAdv_taken advertiser taken]
    exact ⟨stopping, sound.advertised⟩

/-- Whoever has a timer that has run out holds the slot. -/
theorem Tenanted.expired_holds {state : Advertising} (tenanted : Tenanted state)
    {timer : AdvAddrTimer} (listed : timer ∈ state.expired) :
      state.bleAdvCallbacks timer.origin.advId = some timer.origin :=
  tenanted.held _ ((mem_outstanding _ _).mpr (.inr (.inl ⟨timer, List.mem_append_right _ listed, rfl⟩)))

/-- A stop by a timer keeps the slots sound. The timer has been taken off the list before the
stop is made. -/
theorem Sound.timerStops {state : Advertising} (sound : Sound state) {timer : AdvAddrTimer}
    (listed : timer ∈ state.expired) :
    Sound ({ state with expired := state.expired.erase timer }.bleStopAdv timer.origin.advId.val
      (some timer.origin)).state := by
  have holds := sound.tenanted.expired_holds listed
  have advertiser := sound.advertised _ _ holds
  have kept : ∀ other ∈ state.expired, other.origin.advId ≠ timer.origin.advId →
      other ∈ state.expired.erase timer := by
    intro other member differs
    refine (List.mem_erase_of_ne ?_).mpr member
    rintro rfl
    exact differs rfl
  have stopping := sound.tenanted.stopping holds timer.origin.advId List.erase_subset kept
  have taken := @bleStopAdv_taken { state with expired := state.expired.erase timer } advertiser _ _ holds
    (some timer.origin)
  rw [taken]
  exact ⟨stopping, sound.advertised⟩

/-! ## Tasks -/

/-- Whoever has a task in the queue holds the slot. -/
theorem Tenanted.task_holds {state : Advertising} (tenanted : Tenanted state) {task : AdvTask}
    (listed : task ∈ state.startAdvQueue) :
      state.bleAdvCallbacks task.origin.advId = some task.origin :=
  tenanted.held _ ((mem_outstanding _ _).mpr (.inl ⟨task, listed, rfl⟩))

/-- A start task that runs with its own callback. -/
theorem startAdvFunc_own {state : Advertising} (advertiser : state.bleAdvertiser = true)
    {origin : BleAdvCallback}
    (holds : state.bleAdvCallbacks origin.advId = some origin) (withAddr : Bool)
    (request : AdvRequest) (result : StartResult) :
    state.startAdvFunc origin withAddr request result =
      let known : Advertising := { state with
        started := state.started ++ [⟨true, some origin, request⟩]
        observers := if result.registers then [origin] ∪ state.observers else state.observers }
      if result.ret ≠ btNoError then
        if withAddr then (known.setCallback origin.advId none).unRegister origin.advId
        else known.setCallback origin.advId none
      else known := by
  rw [startAdvFunc]
  simp only [advertiser, holds, Bool.not_true, Bool.false_eq_true, if_false, Option.isNone_some,
    Option.toList_some]

/-- A stop task that runs with its own callback. -/
theorem stopAdvFunc_own {state : Advertising} (advertiser : state.bleAdvertiser = true)
    {origin : BleAdvCallback} (holds : state.bleAdvCallbacks origin.advId = some origin) :
    state.stopAdvFunc origin = { state with stopped := state.stopped ++ [origin] } := by
  rw [stopAdvFunc]
  split
  · rename_i held _ taken
    rw [holds] at taken
    cases taken
    rfl
  · rename_i vacant
    exact absurd holds (vacant origin advertiser)

/-- The front of the queue is taken off. -/
theorem Tenanted.dequeue {state : Advertising} (tenanted : Tenanted state) {task : AdvTask}
    {rest : List AdvTask} (queue : state.startAdvQueue = task :: rest) (started : List StartedAdv)
    (stopped : List BleAdvCallback) :
    Tenanted { state with startAdvQueue := rest, started := started, stopped := stopped } := by
  refine tenanted.awaits none rfl ?_ nofun tenanted.timed tenanted.cleared
  refine ⟨?_, fun _ listed => .inl listed, fun _ listed => .inl listed, fun _ listed => .inl listed⟩
  intro other listed
  refine .inl ?_
  rw [queue]
  exact List.mem_cons_of_mem _ listed

/-- A settled advertisement gives up its slot. -/
theorem Tenanted.giveUp {state : Advertising} (tenanted : Tenanted state) {origin : BleAdvCallback}
    (holds : state.bleAdvCallbacks origin.advId = some origin)
    (settled : origin ∉ state.outstanding) :
    Tenanted (state.setCallback origin.advId none) := by
  apply tenanted.withdraw
  intro i
  by_cases here : i = origin.advId
  · subst here
    refine .inr ⟨Function.update_self _ _ _, ?_⟩
    intro held taken
    rw [holds] at taken
    cases taken
    exact settled
  · exact .inl (Function.update_of_ne here _ _)

/-- A start task that is refused leaves the invariant if it leaves nothing outstanding. The slot
is given up together with the timer, and anything that still spoke of it would later meet another
advertisement. -/
theorem Tenanted.failStart {state : Advertising} (tenanted : Tenanted state)
    {origin : BleAdvCallback}
    (holds : state.bleAdvCallbacks origin.advId = some origin) (withAddr : Bool)
    (settled : origin ∉ { state with timers := if withAddr then [] else state.timers }.outstanding) :
    Tenanted (if withAddr then (state.setCallback origin.advId none).unRegister origin.advId
      else state.setCallback origin.advId none) := by
  cases withAddr with
  | false => exact tenanted.giveUp holds settled
  | true =>
    have unRegistered : Tenanted (state.unRegister origin.advId) :=
      tenanted.unregistered origin.advId (List.Subset.refl _) fun _ listed _ => listed
    refine unRegistered.giveUp holds ?_
    intro outstanding
    apply settled
    -- The registered timer of the advertisement has just gone.
    rw [mem_outstanding] at outstanding ⊢
    refine outstanding.imp_right (Or.imp_left ?_)
    rintro ⟨timer, listed, own⟩
    refine ⟨timer, ?_, own⟩
    rcases List.mem_append.mp listed with inTimers | inExpired
    · exfalso
      simp only [unRegister] at inTimers
      split at inTimers
      · rename_i unset
        obtain ⟨set, registered⟩ := tenanted.timed.registered timer inTimers
        rw [own, unset] at registered
        exact set registered.symm
      · obtain ⟨before, differs⟩ := List.mem_filter.mp inTimers
        obtain ⟨-, registered⟩ := tenanted.timed.registered timer before
        rw [own] at registered
        exact of_decide_eq_true differs registered.symm
    · exact List.mem_append_right _ inExpired

/-- The task at the front of the queue keeps the invariant. A start task gives the slot up if the
service refuses it, and a stop task leaves it to the event that will come. -/
theorem Sound.runTask {state : Advertising} (sound : Sound state) {task : AdvTask}
    {rest : List AdvTask} (queue : state.startAdvQueue = task :: rest) (result : StartResult)
    (settles : state.FailsSettled result state.startAdvQueue) :
    Sound ({ state with startAdvQueue := rest }.runTask result task) := by
  have listed : task ∈ state.startAdvQueue := by
    rw [queue]
    exact List.mem_cons_self
  have holds := sound.tenanted.task_holds listed
  have advertiser := sound.advertised _ _ holds
  rw [queue] at settles
  cases task with
  | start origin withAddr request =>
    rw [AdvTask.origin] at holds
    rw [Advertising.runTask, @startAdvFunc_own { state with startAdvQueue := rest } advertiser _ holds]
    have started := sound.tenanted.dequeue queue (state.started ++ [⟨true, some origin, request⟩]) state.stopped
    dsimp only
    split
    · rename_i refused
      obtain ⟨unknown, settled⟩ := settles refused
      rw [unknown]
      refine ⟨started.failStart holds withAddr settled, sound.advertised.fewer ?_ ?_⟩
      · split <;> rfl
      · intro i callback taken
        have emptied : (state.setCallback origin.advId none).bleAdvCallbacks i = some callback := by
          split at taken <;> exact taken
        exact setCallback_fewer emptied
    · refine ⟨?_, sound.advertised⟩
      refine started.awaits (some origin) rfl ?_ ?_ started.timed started.cleared
      · refine ⟨fun _ listed => .inl listed, fun _ listed => .inl listed, ?_, fun _ listed => .inl listed⟩
        intro observer listed
        dsimp only at listed
        split at listed
        · rcases List.mem_union_iff.mp listed with new | before
          · cases List.mem_singleton.mp new
            exact .inr rfl
          · exact .inl before
        · exact .inl listed
      · rintro new ⟨⟩
        exact holds
  | stop origin =>
    rw [AdvTask.origin] at holds
    rw [Advertising.runTask, @stopAdvFunc_own { state with startAdvQueue := rest } advertiser _ holds]
    exact ⟨sound.tenanted.dequeue queue _ _, sound.advertised⟩

/-! ## Events -/

/-- Whoever is waited for by a stop event holds the slot. -/
theorem Tenanted.popped_holds {state : Advertising} (tenanted : Tenanted state)
    {observer : BleAdvCallback} (listed : .popped observer ∈ state.events) :
      state.bleAdvCallbacks observer.advId = some observer :=
  tenanted.held _ ((mem_outstanding _ _).mpr (.inr (.inr (.inr listed))))

/-- Other timers, callbacks and events, of which none is new, keep the invariant. -/
theorem Tenanted.forget {state : Advertising} (tenanted : Tenanted state)
    {timers expired : List AdvAddrTimer} {observers : List BleAdvCallback} {events : List StopEvent}
    (sameTimers : timers ++ expired ⊆ state.timers ++ state.expired)
    (fewerObservers : observers ⊆ state.observers)
    (fewerEvents : ∀ observer, .popped observer ∈ events →
      .popped observer ∈ state.events ∨ observer ∈ state.observers)
    (timed : Timed state.advAddrTimerIds timers expired)
    (cleared : ∀ event ∈ events, ∀ i, clearing event = some i → state.advAddrTimerIds i = 0) :
    Tenanted { state with timers := timers, expired := expired, observers := observers, events := events } := by
  refine tenanted.awaits none rfl ?_ nofun timed cleared
  exact ⟨fun _ listed => .inl listed, fun _ listed => .inl (sameTimers listed),
    fun _ listed => .inl (fewerObservers listed), fewerEvents⟩

/-- A timer that expires moves from one list to the other, and the callback it holds keeps its
slot. -/
theorem Tenanted.timerExpires {state : Advertising} (tenanted : Tenanted state)
    {timer : AdvAddrTimer} (listed : timer ∈ state.timers) :
    Tenanted { state with timers := state.timers.erase timer, expired := state.expired ++ [timer] } := by
  refine tenanted.forget ?_ (List.Subset.refl _) (fun _ before => .inl before) (tenanted.timed.expire timer)
    tenanted.cleared
  intro other member
  rcases List.mem_append.mp member with inTimers | inExpired
  · exact List.mem_append_left _ (List.mem_of_mem_erase inTimers)
  · rcases List.mem_append.mp inExpired with before | new
    · exact List.mem_append_right _ before
    · cases List.mem_singleton.mp new
      exact List.mem_append_left _ listed

/-- A stop result gives the slot of its observer free, and takes the observer along. The event
still has to clear the slot, so it takes the place of the observer among what is outstanding. -/
theorem Tenanted.onStopResultEvent {state : Advertising} (tenanted : Tenanted state)
    {observer : BleAdvCallback} (listed : observer ∈ state.observers) :
    Tenanted { state with
      observers := state.observers.erase observer
      events := state.events ++ [.popped observer] } := by
  refine tenanted.forget (List.Subset.refl _) List.erase_subset ?_ tenanted.timed ?_
  · intro other member
    rcases List.mem_append.mp member with before | new
    · exact .inl before
    · cases List.mem_singleton.mp new
      exact .inr listed
  · intro event member i clears
    rcases List.mem_append.mp member with before | new
    · exact tenanted.cleared event before i clears
    · cases List.mem_singleton.mp new
      cases clears

/-- An observer that is gone holds nothing, which takes no slot from the others. -/
theorem Tenanted.observerGone {state : Advertising} (tenanted : Tenanted state)
    (observer : BleAdvCallback) :
    Tenanted { state with observers := state.observers.erase observer } :=
  tenanted.forget (List.Subset.refl _) List.erase_subset (fun _ before => .inl before) tenanted.timed
    tenanted.cleared

/-- An event under way is done with. -/
theorem Tenanted.eraseEvent {state : Advertising} (tenanted : Tenanted state) (event : StopEvent) :
    Tenanted { state with events := state.events.erase event } :=
  tenanted.forget (List.Subset.refl _) (List.Subset.refl _)
    (fun _ before => .inl (List.mem_of_mem_erase before))
    tenanted.timed fun other member => tenanted.cleared other (List.mem_of_mem_erase member)

/-- A stop event clears the slot of a settled advertisement. Nothing else is outstanding for it,
so the slot can be given to another one. -/
theorem Sound.clearSlot {state : Advertising} (sound : Sound state) {observer : BleAdvCallback}
    (listed : .popped observer ∈ state.events)
    (settled : observer ∉ { state with events := state.events.erase (.popped observer) }.outstanding) :
    Sound ({ state with events := state.events.erase (.popped observer) ++ [StopEvent.cleared observer]
      }.clearAdvertisingResource observer.advId) := by
  have holds := sound.tenanted.popped_holds listed
  have emptied := (sound.tenanted.eraseEvent (.popped observer)).giveUp holds settled
  obtain ⟨unset, -⟩ := emptied.untimed (Function.update_self _ _ _)
  -- With the slot its timer is gone, so that the event will find none.
  have cleared := @Tenanted.forget _ emptied _ _ _ (state.events.erase (.popped observer) ++
    [.cleared observer]) (List.Subset.refl _) (List.Subset.refl _) ?_ emptied.timed ?_
  · rw [clearAdvertisingResource]
    split
    · rename_i allEmpty
      refine ⟨⟨cleared.held, cleared.placed, cleared.timed, cleared.cleared⟩, ?_⟩
      intro i callback taken
      have empty := List.all_eq_true.mp allEmpty i (List.mem_finRange i)
      rw [taken] at empty
      cases empty
    · exact ⟨cleared, sound.advertised.fewer rfl fun _ _ => setCallback_fewer⟩
  · intro other member
    rcases List.mem_append.mp member with before | new
    · exact .inl before
    · cases List.mem_singleton.mp new
  · intro event member i clears
    rcases List.mem_append.mp member with before | new
    · exact emptied.cleared event before i clears
    · cases List.mem_singleton.mp new
      cases clears
      exact unset

/-- A stop event that has cleared the slot finds no timer. -/
theorem clearTimer_same {state : Advertising} (tenanted : Tenanted state)
    {observer : BleAdvCallback}
    (listed : .cleared observer ∈ state.events) : state.step (.clearTimer observer) =
      some { state with events := state.events.erase (.cleared observer) } := by
  have unset := tenanted.cleared _ listed observer.advId rfl
  simp only [step, if_pos listed, unset, ne_eq, not_true_eq_false, if_false]

/-! ## Runs -/

/-- A step in which slots are given up by settled advertisements only keeps the invariant. One
case for each label; the condition is used where a slot is cleared, reclaimed or given up after a
failure. -/
theorem sound_step (state : Advertising) (label : AdvLabel) (next : Advertising)
    (sound : Sound state)
    (settles : state.Settles label) (taken : state.step label = some next) : Sound next := by
  cases label with
  | startAdvWithAddr call =>
    obtain ⟨new, same⟩ := Option.ite_none_right_eq_some.mp taken
    cases same
    exact sound.startAdvWithAddr call new settles
  | startAdvEx call =>
    cases taken
    exact sound.startAdvEx call settles
  | stopAdv advId =>
    cases taken
    exact sound.stopAdv advId
  | runTask result =>
    cases queue : state.startAdvQueue with
    | nil => simp only [step, queue, reduceCtorEq] at taken
    | cons task rest =>
      simp only [step, queue, Option.some.injEq] at taken
      cases taken
      exact sound.runTask queue result settles
  | timerExpires timer =>
    obtain ⟨listed, same⟩ := Option.ite_none_right_eq_some.mp taken
    cases same
    exact ⟨sound.tenanted.timerExpires listed, sound.advertised⟩
  | timerStops timer =>
    obtain ⟨listed, same⟩ := Option.ite_none_right_eq_some.mp taken
    cases same
    exact sound.timerStops listed
  | observerGone observer =>
    obtain ⟨-, same⟩ := Option.ite_none_right_eq_some.mp taken
    cases same
    exact ⟨sound.tenanted.observerGone observer, sound.advertised⟩
  | onStopResultEvent observer =>
    obtain ⟨listed, same⟩ := Option.ite_none_right_eq_some.mp taken
    cases same
    exact ⟨sound.tenanted.onStopResultEvent listed, sound.advertised⟩
  | clearSlot observer =>
    obtain ⟨listed, same⟩ := Option.ite_none_right_eq_some.mp taken
    cases same
    exact sound.clearSlot listed settles
  | clearTimer observer =>
    have listed := (Option.ite_none_right_eq_some.mp taken).1
    rw [clearTimer_same sound.tenanted listed] at taken
    cases taken
    exact ⟨sound.tenanted.eraseEvent _, sound.advertised⟩

/-- Under the invariant a step acts for the advertisement that holds the slot. This is read off
for tasks, timers and stop events, each of which carries the advertisement it stems from. -/
theorem owned_of_sound {state : Advertising} (sound : Sound state) (label : AdvLabel) :
    state.Owned label := by
  constructor
  · intro origin next stems taken acts
    cases label with
    | runTask result =>
      obtain ⟨task, front, rfl⟩ := Option.map_eq_some_iff.mp stems
      exact sound.tenanted.task_holds (List.mem_of_mem_head? front)
    | timerStops timer =>
      cases stems
      exact sound.tenanted.expired_holds (Option.ite_none_right_eq_some.mp taken).1
    | onStopResultEvent observer =>
      obtain ⟨-, same⟩ := Option.ite_none_right_eq_some.mp taken
      cases same
      rcases acts with differs | differs | differs <;> exact absurd rfl differs
    | clearSlot observer =>
      cases stems
      exact sound.tenanted.popped_holds (Option.ite_none_right_eq_some.mp taken).1
    | clearTimer observer =>
      have listed := (Option.ite_none_right_eq_some.mp taken).1
      rw [clearTimer_same sound.tenanted listed] at taken
      cases taken
      rcases acts with differs | differs | differs <;> exact absurd rfl differs
    | startAdvWithAddr call => cases stems
    | startAdvEx call => cases stems
    | stopAdv advId => cases stems
    | timerExpires timer => cases stems
    | observerGone observer => cases stems
  · cases label with
    | runTask result =>
      rw [StartsOwned]
      split
      · rename_i origin withAddr request rest queue
        have listed : AdvTask.start origin withAddr request ∈ state.startAdvQueue := by
          rw [queue]
          exact List.mem_cons_self
        have holds := sound.tenanted.task_holds listed
        refine ⟨sound.advertised _ _ holds, ?_⟩
        intro held taken
        rw [AdvTask.origin, taken] at holds
        exact Option.some.inj holds
      · trivial
    | _ => trivial

/-- In every run in which slots are given up by settled advertisements only, every task, timer
and stop event acts only while its advertisement holds the slot, and every start task runs
with an advertiser and its own callback. -/
theorem slots_owned (labels : List AdvLabel) (settles : Meets step Settles {} labels) :
    Meets step Owned {} labels := by
  refine guarded_steps sound_step
    (fun state label _ sound _ _ => owned_of_sound sound label) _ labels ?_ settles
  refine ⟨⟨nofun, nofun, ⟨?_, nofun, ?_⟩, nofun⟩, nofun⟩
  · intro i set
    exact absurd rfl set
  · intro i j _ set
    exact absurd rfl set

/-- `BleStartAdvWithAddr` with the address `"40:40:40:40:40:40"`, just after the boot. -/
def startPrivately (timerId : UInt32) : AdvLabel :=
  .startAdvWithAddr
    { ownAddrParams := some { addr := Vector.replicate 6 0x40, addrType := bleAddrRandom }
      removed := (AdvAddresses.checkAt [] 0).removed
      started := (AdvAddresses.checkAt [] 0).started
      timerId := timerId }

/-- There is a slot to be had at all. -/
theorem maxBleAdvNum_pos : 0 < maxBleAdvNum := by
  decide

/-- The `BleAdvCallback` that is made as the first, in the first slot. -/
def firstCallback : BleAdvCallback where
  number := 0
  advId := ⟨0, maxBleAdvNum_pos⟩

/-- An advertisement with an address is stopped by its timer, another fails to start, and a
third gets the slot of the first before the stop event of that is done. -/
def threeInTurn : List AdvLabel :=
  [startPrivately 1, .runTask {}, .startAdvEx {}, .runTask { ret := btErrInternalError, registers := false },
    .timerExpires ⟨1, firstCallback⟩, .timerStops ⟨1, firstCallback⟩, .runTask {},
    .onStopResultEvent firstCallback, .clearSlot firstCallback, .startAdvEx {}, .clearTimer firstCallback,
    .runTask {}]

/-- Three starts and stops in turn: the run is taken, meets the condition, and has every slot
owned. -/
theorem slots_owned_threeInTurn :
    Meets step Settles {} threeInTurn ∧ (run step {} threeInTurn).isSome = true ∧
      Meets step Owned {} threeInTurn :=
  ⟨by decide +kernel, by decide +kernel, slots_owned threeInTurn (by decide +kernel)⟩

/-- An advertisement is stopped, and another with an address gets its slot while the stop event
has yet to look for a timer. -/
def lateTimer : List AdvLabel :=
  [.startAdvEx {}, .runTask {}, .stopAdv 0, .runTask {}, .onStopResultEvent firstCallback,
    .clearSlot firstCallback, startPrivately 7, .clearTimer firstCallback]

/-- An advertisement fails to start after the advertiser has come to know its callback, and its
stop event comes when another has got the slot and is about to start. -/
def lateStop : List AdvLabel :=
  [.startAdvEx {}, .runTask { ret := btErrInternalError }, .startAdvEx {}, .onStopResultEvent firstCallback,
    .clearSlot firstCallback, .runTask {}]

/-- A stop event unregisters the timer of another advertisement, and a stop event leaves the
start task of another without an advertiser. -/
theorem slot_of_another :
    (¬ ∀ labels : List AdvLabel, Meets step ActsOwned {} labels) ∧
      ¬ ∀ labels : List AdvLabel, Meets step StartsOwned {} labels := by
  constructor
  · intro owned
    have last := (owned lateTimer).2.2.2.2.2.2.2.1
    have holds := last firstCallback _ rfl rfl
      (.inr (.inl fun same => absurd (congrFun same 0) (by decide +kernel)))
    exact absurd holds (by decide +kernel)
  · intro owned
    have last := (owned lateStop).2.2.2.2.2.1
    exact absurd last.1 (by decide +kernel)

end BluetoothFramework.CAdapter.Advertising
