import BluetoothFramework.Library.Runs

/-!
# The registrations of the profile manager

A profile registers functions with the profile manager under a new id. When the service
starts, `OnAddSystemAbility` sets the flag `isBluetoothServiceOn_` and then calls the
`bluetoothLoadedfunc` of every registration in `profileIdFuncMap_`, holding the map during
the whole loop. `RegisterFunc` inserts its registration, tests the flag and calls the
function itself if the flag is set. `OnRemoveSystemAbility` clears the flag.

Each step below is one access to the map or the flag, or one call of a function with the
remote object of the service that is live then. Incarnations of the service are numbered
from one. Besides the members of the manager a state keeps what has happened: which loops
have begun, which registrations were inserted behind the beginning of a loop, which
registrations a service has met in the map, and every call.

`registrations_hear_once` says when every registration hears of every service exactly once.
The flag alone does not tell a new registration whether the loop will come to it.
-/

namespace BluetoothFramework.Host.ProfileRegistrations

open Runs

/-- The service; the members of the manager; the ids registered with a `bluetoothLoadedfunc`;
the calls of `RegisterFunc` that have yet to test the flag, and those that have found it set
and have yet to call; the calls of `DeregisterFunc` that have found their id; the calls of
`OnAddSystemAbility` whose loop is to come, and the loop under way with its incarnation and
the ids to come; and what has happened. -/
structure State where
  live : Option Nat := none
  started : Nat := 0
  isBluetoothServiceOn : Bool := false
  registerValidId : Nat := 0
  profileIdFuncMap : List Nat := []
  loaded : List Nat := []
  testing : List Nat := []
  calling : List Nat := []
  erasing : List Nat := []
  adding : List Nat := []
  loop : Option (Nat × List Nat) := none
  begun : List Nat := []
  behind : List (Nat × Nat) := []
  present : List (Nat × Nat) := []
  calls : List (Nat × Nat) := []
  deregistered : List Nat := []
  lateCalls : List Nat := []
deriving DecidableEq

/-- What can happen, named after the function it belongs to. -/
inductive Label where
  | serviceStarts
  | serviceDies
  | addSets (incarnation : Nat)
  | loopBegins (incarnation : Nat)
  | visits (id : Nat)
  | loopEnds
  | removeClears
  | inserts (loaded : Bool)
  | tests (id : Nat)
  | calls (id : Nat)
  | finds (id : Nat)
  | erases (id : Nat)
deriving DecidableEq

namespace State

/-- The ids a loop has yet to come to. -/
def remaining (state : State) : List Nat :=
  match state.loop with
  | some (_, ids) => ids
  | none => []

/-- The map is held by a loop. -/
def isHeld (state : State) : Bool :=
  state.loop.isSome

/-- `bluetoothLoadedfunc` of the registration is called with a remote object of the
incarnation. -/
def call (state : State) (id incarnation : Nat) : State :=
  if id ∈ state.loaded then
    { state with
      calls := state.calls ++ [(id, incarnation)]
      lateCalls := if id ∈ state.deregistered then state.lateCalls ++ [id] else state.lateCalls }
  else state

/-- The service starts and meets the registrations in the map. -/
def serviceStarts (state : State) : State :=
  let incarnation := state.started + 1
  { state with
    live := some incarnation
    started := incarnation
    present := state.present ++
      (state.profileIdFuncMap.filter (· ∈ state.loaded)).map fun id => (id, incarnation) }

/-- `GetValidId` and `Insert` of `RegisterFunc`. -/
def insert (state : State) (loaded : Bool) : State :=
  let id := state.registerValidId + 1
  { state with
    registerValidId := id
    profileIdFuncMap := state.profileIdFuncMap ++ [id]
    loaded := if loaded then state.loaded ++ [id] else state.loaded
    testing := state.testing ++ [id]
    behind := state.behind ++ state.begun.map fun incarnation => (id, incarnation)
    present := state.present ++
      if loaded then state.live.toList.map fun incarnation => (id, incarnation) else [] }

end State

/-- One step. A call needs a live service, because `GetProfileRemote` is to succeed; what
needs the map waits for the end of a loop. -/
def step (state : State) : Label → Option State
  | .serviceStarts => if state.live.isNone then some state.serviceStarts else none
  | .serviceDies => if state.live.isSome then some { state with live := none } else none
  | .addSets incarnation =>
      if 0 < incarnation ∧ incarnation ≤ state.started then
        some { state with isBluetoothServiceOn := true, adding := state.adding ++ [incarnation] }
      else none
  | .loopBegins incarnation =>
      if incarnation ∈ state.adding ∧ !state.isHeld then
        some { state with
          adding := state.adding.erase incarnation
          loop := some (incarnation, state.profileIdFuncMap)
          begun := state.begun ++ [incarnation] }
      else none
  | .visits id =>
      match state.loop, state.live with
      | some (incarnation, ids), some live =>
          if id ∈ ids then
            some ({ state with loop := some (incarnation, ids.filter (· ≠ id)) }.call id live)
          else none
      | _, _ => none
  | .loopEnds =>
      match state.loop with
      | some (_, []) => some { state with loop := none }
      | _ => none
  | .removeClears => some { state with isBluetoothServiceOn := false }
  | .inserts loaded => if state.isHeld then none else some (state.insert loaded)
  | .tests id =>
      if id ∈ state.testing then
        some { state with
          testing := state.testing.filter (· ≠ id)
          calling := if state.isBluetoothServiceOn then state.calling ++ [id] else state.calling }
      else none
  | .calls id =>
      match state.live with
      | none => none
      | some live =>
          if id ∈ state.calling then
            some ({ state with calling := state.calling.filter (· ≠ id) }.call id live)
          else none
  | .finds id =>
      if !state.isHeld ∧ id ∈ state.profileIdFuncMap
        then some { state with erasing := state.erasing ++ [id] }
      else none
  | .erases id =>
      if !state.isHeld ∧ id ∈ state.erasing then
        some { state with
          erasing := state.erasing.erase id
          profileIdFuncMap := state.profileIdFuncMap.filter (· ≠ id)
          deregistered := state.deregistered ++ [id] }
      else none

/-- Who is to call a registration for an incarnation has not come to it: its `RegisterFunc`
if it was inserted behind the beginning of the loop, else the loop. -/
def Awaits (state : State) (id incarnation : Nat) : Prop :=
  (id, incarnation) ∈ state.behind ∧ (id ∈ state.testing ∨ id ∈ state.calling) ∨
    (id, incarnation) ∉ state.behind ∧ (incarnation ∉ state.begun ∨ id ∈ state.remaining)

/-- A registration in the map has yet to get the call for the live incarnation. -/
def Pending (state : State) (id incarnation : Nat) : Prop :=
  state.live = some incarnation ∧ id ∈ state.profileIdFuncMap ∧ Awaits state id incarnation

instance (state : State) (id incarnation : Nat) : Decidable (Awaits state id incarnation) :=
  inferInstanceAs (Decidable (_ ∧ _ ∨ _ ∧ _))

instance (state : State) (id incarnation : Nat) : Decidable (Pending state id incarnation) :=
  inferInstanceAs (Decidable (_ ∧ _ ∧ _))

/-- Every registration that a service has met in the map has heard of it, or the call is
still pending; none hears of a service twice; none is called after it was deregistered. -/
structure HeardOnce (state : State) : Prop where
  atLeast : ∀ entry ∈ state.present, entry ∈ state.calls ∨ Pending state entry.1 entry.2
  atMost : state.calls.Nodup
  notLate : state.lateCalls = []

instance (state : State) : Decidable (HeardOnce state) :=
  decidable_of_iff ((∀ entry ∈ state.present, entry ∈ state.calls ∨ Pending state entry.1 entry.2) ∧
    state.calls.Nodup ∧ state.lateCalls = [])
    ⟨fun ⟨atLeast, atMost, notLate⟩ => ⟨atLeast, atMost, notLate⟩,
      fun heard => ⟨heard.atLeast, heard.atMost, heard.notLate⟩⟩

/-- The flag tells a new registration the truth: it is set exactly when the loop of the live
service began before the registration was inserted. -/
def FlagTells (state : State) (id : Nat) : Prop :=
  state.isBluetoothServiceOn = true ↔ ∃ incarnation ∈ state.live, (id, incarnation) ∈ state.behind

instance (state : State) (id : Nat) : Decidable (FlagTells state id) :=
  inferInstanceAs (Decidable (_ ↔ _))

/-- The condition on a step. A loop over registrations runs once for an incarnation, while it
is live; `RegisterFunc` finds a flag that tells the truth; the service dies, and a
registration is erased, when no call is pending. -/
def Timely (state : State) : Label → Prop
  | .loopBegins incarnation => (∃ id ∈ state.profileIdFuncMap, id ∈ state.loaded) →
      state.live = some incarnation ∧ incarnation ∉ state.begun
  | .tests id => id ∈ state.loaded → FlagTells state id
  | .serviceDies => ∀ incarnation ∈ state.live, ∀ id ∈ state.profileIdFuncMap, id ∈ state.loaded →
      ¬ Pending state id incarnation
  | .erases id => ∀ incarnation ∈ state.live, id ∈ state.loaded → ¬ Pending state id incarnation
  | _ => True

instance (state : State) (label : Label) : Decidable (Timely state label) :=
  match label with
  | .loopBegins _ => inferInstanceAs (Decidable (_ → _))
  | .tests _ => inferInstanceAs (Decidable (_ → _))
  | .serviceDies => inferInstanceAs (Decidable (∀ incarnation ∈ state.live, _))
  | .erases _ => inferInstanceAs (Decidable (∀ incarnation ∈ state.live, _))
  | .serviceStarts | .addSets _ | .visits _ | .loopEnds | .removeClears | .inserts _ | .calls _
  | .finds _ => isTrue trivial

/-- What holds in a run of timely steps, about the registrations with a `bluetoothLoadedfunc`. -/
structure Invariant (state : State) : Prop where
  mapIds : ∀ id ∈ state.profileIdFuncMap, id ≤ state.registerValidId
  otherIds : ∀ id, id ∈ state.loaded ∨ id ∈ state.testing ∨ id ∈ state.calling ∨ id ∈ state.erasing ∨
    id ∈ state.deregistered → id ≤ state.registerValidId
  calledIds : ∀ id n, (id, n) ∈ state.calls → id ≤ state.registerValidId ∧ n ≤ state.started
  behindIds : ∀ id n, (id, n) ∈ state.behind → id ≤ state.registerValidId ∧ n ∈ state.begun
  incarnations : ∀ n, state.live = some n ∨ n ∈ state.adding ∨ n ∈ state.begun → n ≤ state.started
  visiting : ∀ n ids, state.loop = some (n, ids) → ∀ id ∈ ids, id ∈ state.profileIdFuncMap ∧
    (id ∈ state.loaded → state.live = some n ∧ n ∈ state.begun ∧ (id, n) ∉ state.behind)
  phases : ∀ id ∈ state.testing, id ∉ state.calling
  tested : ∀ id n, id ∈ state.testing → id ∈ state.loaded → state.live = some n →
    (id, n) ∈ state.behind → id ∈ state.profileIdFuncMap
  called : ∀ id ∈ state.calling, id ∈ state.loaded → ∃ n, state.live = some n ∧ (id, n) ∈ state.behind ∧
    id ∈ state.profileIdFuncMap
  heard : ∀ id n, id ∈ state.profileIdFuncMap → id ∈ state.loaded → state.live = some n →
    ((id, n) ∈ state.calls ↔ ¬ Awaits state id n)
  met : ∀ id n, (id, n) ∈ state.present → id ∈ state.loaded
  erased : ∀ id ∈ state.deregistered, id ∉ state.profileIdFuncMap
  atLeast : ∀ entry ∈ state.present, entry ∈ state.calls ∨ Pending state entry.1 entry.2
  atMost : state.calls.Nodup
  notLate : state.lateCalls = []

/-- The invariant holds before the first start. -/
theorem invariant_start : Invariant {} := by
  constructor <;> simp

namespace Invariant

variable {state : State} (invariant : Invariant state)
include invariant

/-- A start of the service keeps the invariant, since the one before is dead and nobody is
registered with the new one. -/
theorem serviceStarts (dead : state.live = none) : Invariant state.serviceStarts := by
  have notBegun : state.started + 1 ∉ state.begun := fun begun => by
    have bound := invariant.incarnations _ (.inr (.inr begun))
    omega
  have notBehind : ∀ id, (id, state.started + 1) ∉ state.behind := fun id behind =>
    notBegun (invariant.behindIds id _ behind).2
  have notCalled : ∀ id, (id, state.started + 1) ∉ state.calls := fun id called => by
    have bound := (invariant.calledIds id _ called).2
    omega
  have awaits : ∀ id, Awaits state.serviceStarts id (state.started + 1) := fun id =>
    .inr ⟨notBehind id, .inl notBegun⟩
  exact { invariant with
    calledIds := fun id n called => ⟨(invariant.calledIds id n called).1,
      Nat.le_succ_of_le (invariant.calledIds id n called).2⟩
    incarnations := by
      rintro n (lives | known)
      · cases lives
        exact Nat.le_refl _
      · exact Nat.le_succ_of_le (invariant.incarnations n (.inr known))
    visiting := by
      intro n ids loop id member
      obtain ⟨inMap, loadedLive⟩ := invariant.visiting n ids loop id member
      refine ⟨inMap, fun loaded => ?_⟩
      have lives := (loadedLive loaded).1
      rw [dead] at lives
      cases lives
    tested := by
      intro id n _ _ lives behind
      cases lives
      exact absurd behind (notBehind id)
    called := by
      intro id calling loaded
      obtain ⟨n, lives, _⟩ := invariant.called id calling loaded
      rw [dead] at lives
      cases lives
    heard := by
      intro id n _ _ lives
      cases lives
      exact iff_of_false (notCalled id) (not_not.mpr (awaits id))
    met := by
      intro id n present
      simp only [State.serviceStarts, List.mem_append, List.mem_map, List.mem_filter, Prod.mk.injEq,
        decide_eq_true_eq] at present
      rcases present with before | ⟨_, ⟨_, loaded⟩, rfl, _⟩
      · exact invariant.met id n before
      · exact loaded
    atLeast := by
      intro entry present
      simp only [State.serviceStarts, List.mem_append, List.mem_map, List.mem_filter] at present
      rcases present with before | ⟨id, ⟨inMap, _⟩, rfl⟩
      · rcases invariant.atLeast entry before with heard | ⟨lives, _⟩
        · exact .inl heard
        · rw [dead] at lives
          cases lives
      · exact .inr ⟨rfl, inMap, awaits id⟩ }

omit invariant in
/-- With no call pending, no loop and no `RegisterFunc` has a registration before it. -/
theorem quiet (timely : Timely state .serviceDies) (id n : Nat)
    (inMap : id ∈ state.profileIdFuncMap)
    (loaded : id ∈ state.loaded) (lives : state.live = some n) : ¬ Awaits state id n := by
  intro awaits
  exact timely n lives id inMap loaded ⟨lives, inMap, awaits⟩

/-- The end of the service keeps the invariant, where it comes in time: no loading callback is
between its test and its visit. -/
theorem serviceDies (timely : Timely state .serviceDies) : Invariant { state with live := none } :=
  have quiet := quiet timely
  { invariant with
    incarnations := by
      rintro n (lives | known)
      · cases lives
      · exact invariant.incarnations n (.inr known)
    visiting := by
      intro n ids loop id member
      obtain ⟨inMap, loadedLive⟩ := invariant.visiting n ids loop id member
      refine ⟨inMap, fun loaded => ?_⟩
      obtain ⟨lives, _, ahead⟩ := loadedLive loaded
      have remains : id ∈ state.remaining := by
        rw [State.remaining, loop]
        exact member
      exact absurd (.inr ⟨ahead, .inr remains⟩) (quiet id n inMap loaded lives)
    tested := by
      intro id n _ _ lives
      cases lives
    called := by
      intro id calling loaded
      obtain ⟨n, lives, behind, inMap⟩ := invariant.called id calling loaded
      exact absurd (.inl ⟨behind, .inr calling⟩) (quiet id n inMap loaded lives)
    heard := by
      intro id n _ _ lives
      cases lives
    atLeast := by
      intro entry present
      rcases invariant.atLeast entry present with heard | ⟨lives, inMap, awaits⟩
      · exact .inl heard
      · exact absurd awaits (quiet entry.1 entry.2 inMap (invariant.met entry.1 entry.2 present) lives) }

/-- A registration that notes that the service is on keeps the invariant. What it adds is still
to be put into the map. -/
theorem addSets (n : Nat) (known : n ≤ state.started) :
    Invariant { state with isBluetoothServiceOn := true, adding := state.adding ++ [n] } :=
  { invariant with
    incarnations := by
      rintro m (lives | adding | begun)
      · exact invariant.incarnations m (.inl lives)
      · rcases List.mem_append.mp adding with before | new
        · exact invariant.incarnations m (.inr (.inl before))
        · exact List.mem_singleton.mp new ▸ known
      · exact invariant.incarnations m (.inr (.inr begun)) }

omit invariant in
/-- The ids a loop has yet to come to. -/
theorem mem_remaining {n : Nat} {ids : List Nat} (loop : state.loop = some (n, ids)) (id : Nat) :
    id ∈ state.remaining ↔ id ∈ ids := by
  rw [State.remaining, loop]

/-- A timely loop begins before anybody in the map has heard of its incarnation. From here on
everybody in its copy of the map awaits the call from it. -/
theorem loopBegins (n : Nat) (listed : n ∈ state.adding)
    (timely : Timely state (.loopBegins n)) :
    Invariant { state with
      adding := state.adding.erase n
      loop := some (n, state.profileIdFuncMap)
      begun := state.begun ++ [n] } := by
  have ahead : ∀ id ∈ state.profileIdFuncMap, id ∈ state.loaded → state.live = some n ∧
      (id, n) ∉ state.behind :=
    fun id inMap loaded => by
      obtain ⟨lives, notBegun⟩ := timely ⟨id, inMap, loaded⟩
      exact ⟨lives, fun behind => notBegun (invariant.behindIds id n behind).2⟩
  exact { invariant with
    behindIds := fun id m behind => ⟨(invariant.behindIds id m behind).1,
      List.mem_append_left _ (invariant.behindIds id m behind).2⟩
    incarnations := by
      rintro m (lives | adding | begun)
      · exact invariant.incarnations m (.inl lives)
      · exact invariant.incarnations m (.inr (.inl (List.mem_of_mem_erase adding)))
      · rcases List.mem_append.mp begun with before | new
        · exact invariant.incarnations m (.inr (.inr before))
        · exact List.mem_singleton.mp new ▸ invariant.incarnations n (.inr (.inl listed))
    visiting := by
      intro m ids loop id member
      cases loop
      exact ⟨member, fun loaded => ⟨(ahead id member loaded).1,
        List.mem_append_right _ (List.mem_singleton.mpr rfl),
        (ahead id member loaded).2⟩⟩
    heard := by
      intro id m inMap loaded lives
      obtain ⟨same, notBehind⟩ := ahead id inMap loaded
      have incarnation : m = n := Option.some.inj (lives.symm.trans same)
      subst incarnation
      have before : Awaits state id m := .inr ⟨notBehind, .inl (timely ⟨id, inMap, loaded⟩).2⟩
      have after : (id, m) ∉ state.calls :=
        fun heard => (invariant.heard id m inMap loaded lives).mp heard before
      exact iff_of_false after (not_not.mpr (.inr ⟨notBehind, .inr inMap⟩))
    atLeast := by
      intro entry present
      rcases invariant.atLeast entry present with heard | ⟨lives, inMap, _⟩
      · exact .inl heard
      · obtain ⟨same, notBehind⟩ := ahead entry.1 inMap (invariant.met entry.1 entry.2 present)
        have incarnation : entry.2 = n := Option.some.inj (lives.symm.trans same)
        exact .inr ⟨lives, inMap, .inr ⟨incarnation ▸ notBehind, .inr inMap⟩⟩ }

/-- What has been heard goes on to match what is awaited where neither the calls change nor
what the registrations with a function await. -/
theorem heard_same {after : State}
    (awaits : ∀ id n, id ∈ state.loaded → state.live = some n → (Awaits after id n ↔ Awaits state id n))
    (same : after.calls = state.calls ∧ after.present = state.present ∧
      after.profileIdFuncMap = state.profileIdFuncMap ∧ after.loaded = state.loaded ∧
        after.live = state.live) :
    (∀ id n, id ∈ after.profileIdFuncMap → id ∈ after.loaded → after.live = some n →
      ((id, n) ∈ after.calls ↔ ¬ Awaits after id n)) ∧
      ∀ entry ∈ after.present, entry ∈ after.calls ∨ Pending after entry.1 entry.2 := by
  obtain ⟨calls, present, map, loadedSame, live⟩ := same
  rw [calls, present, map, loadedSame, live]
  constructor
  · intro id n inMap loaded lives
    rw [awaits id n loaded lives]
    exact invariant.heard id n inMap loaded lives
  · intro entry present
    rcases invariant.atLeast entry present with heard | ⟨lives, inMap, awaited⟩
    · exact .inl heard
    · have loaded := invariant.met entry.1 entry.2 present
      refine .inr ⟨live.trans lives, map ▸ inMap, ?_⟩
      exact (awaits entry.1 entry.2 loaded lives).mpr awaited

/-- Nothing changes when a loop ends that has come to everybody. -/
theorem loopEnds (n : Nat) (loop : state.loop = some (n, [])) :
    Invariant { state with loop := none } := by
  have awaits : ∀ id m, Awaits { state with loop := none } id m ↔ Awaits state id m := fun id m => by
    simp only [Awaits, State.remaining, loop]
  have reports := invariant.heard_same (fun id m _ _ => awaits id m) ⟨rfl, rfl, rfl, rfl, rfl⟩
  exact { invariant with
    visiting := by
      intro m ids none
      cases none
    heard := reports.1
    atLeast := reports.2 }

/-- Taking back the note that the service is on keeps the invariant. Nothing is registered by
it. -/
theorem removeClears : Invariant { state with isBluetoothServiceOn := false } :=
  { invariant with }

/-- A registration that awaited the call gets it: from a loop, or from its `RegisterFunc`.
Whoever makes the call, nobody else is left to make it, and nothing changes for the other
registrations. -/
theorem serve (id n : Nat) (lives : state.live = some n) (inMap : id ∈ state.profileIdFuncMap)
    (loaded : id ∈ state.loaded) (awaits : Awaits state id n) (loop : Option (Nat × List Nat))
    (calling : List Nat)
    (others : ∀ other m, other ≠ id →
      (Awaits { state with loop := loop, calling := calling } other m ↔ Awaits state other m))
    (served : ¬ Awaits { state with loop := loop, calling := calling } id n)
    (visiting : ∀ m ids, loop = some (m, ids) → ∀ id ∈ ids, id ∈ state.profileIdFuncMap ∧
      (id ∈ state.loaded → state.live = some m ∧ m ∈ state.begun ∧ (id, m) ∉ state.behind))
    (fewer : ∀ other ∈ calling, other ∈ state.calling) :
    Invariant ({ state with loop := loop, calling := calling }.call id n) := by
  have unheard : (id, n) ∉ state.calls :=
    fun heard => (invariant.heard id n inMap loaded lives).mp heard awaits
  have known : id ∉ state.deregistered := fun gone => invariant.erased id gone inMap
  have called : { state with loop := loop, calling := calling }.call id n =
      { state with loop := loop, calling := calling, calls := state.calls ++ [(id, n)] } := by
    rw [State.call, if_pos loaded, if_neg known]
  rw [called]
  exact { invariant with
    otherIds := by
      rintro other (known | testing | calls | erasing | gone)
      · exact invariant.otherIds other (.inl known)
      · exact invariant.otherIds other (.inr (.inl testing))
      · exact invariant.otherIds other (.inr (.inr (.inl (fewer other calls))))
      · exact invariant.otherIds other (.inr (.inr (.inr (.inl erasing))))
      · exact invariant.otherIds other (.inr (.inr (.inr (.inr gone))))
    calledIds := by
      intro other m called
      rcases List.mem_append.mp called with before | new
      · exact invariant.calledIds other m before
      · cases List.mem_singleton.mp new
        exact ⟨invariant.mapIds id inMap, invariant.incarnations n (.inl lives)⟩
    visiting := visiting
    phases := fun other testing called => invariant.phases other testing (fewer other called)
    called := fun other called => invariant.called other (fewer other called)
    heard := by
      intro other m otherInMap otherLoaded otherLives
      have incarnation : n = m := Option.some.inj (lives.symm.trans otherLives)
      subst incarnation
      by_cases same : other = id
      · subst same
        exact iff_of_true (List.mem_append_right _ (List.mem_singleton.mpr rfl)) served
      · have before := invariant.heard other n otherInMap otherLoaded lives
        have unchanged : (other, n) ∈ state.calls ++ [(id, n)] ↔ (other, n) ∈ state.calls := by simp [same]
        exact unchanged.trans (before.trans (not_congr (others other n same).symm))
    atLeast := by
      intro entry present
      rcases invariant.atLeast entry present with heard | ⟨otherLives, otherInMap, otherAwaits⟩
      · exact .inl (List.mem_append_left _ heard)
      · by_cases same : entry.1 = id
        · have incarnation : entry.2 = n := Option.some.inj (otherLives.symm.trans lives)
          exact .inl (List.mem_append_right _ (List.mem_singleton.mpr (Prod.ext same incarnation)))
        · exact .inr ⟨otherLives, otherInMap, (others entry.1 entry.2 same).mpr otherAwaits⟩
    atMost := by
      rw [List.nodup_append]
      refine ⟨invariant.atMost, by simp, ?_⟩
      intro before member new added same
      rw [List.mem_singleton.mp added] at same
      exact unheard (same ▸ member) }

/-- A loop comes to a registration of its copy. The registration awaited the call of this loop,
and the loop will not come to it again. -/
theorem visits (id n live : Nat) (ids : List Nat) (loop : state.loop = some (n, ids))
    (lives : state.live = some live) (member : id ∈ ids) :
    Invariant ({ state with loop := some (n, ids.filter (· ≠ id)) }.call id live) := by
  have visiting : ∀ m rest, some (n, ids.filter (· ≠ id)) = some (m, rest) → ∀ id ∈ rest,
      id ∈ state.profileIdFuncMap ∧
        (id ∈ state.loaded → state.live = some m ∧ m ∈ state.begun ∧ (id, m) ∉ state.behind) := by
    intro m rest same other later
    cases same
    exact invariant.visiting n ids loop other (List.mem_filter.mp later).1
  have others : ∀ other m, other ≠ id →
      (Awaits { state with loop := some (n, ids.filter (· ≠ id)) } other m ↔ Awaits state other m) := by
    intro other m different
    simp [Awaits, State.remaining, loop, different]
  obtain ⟨inMap, loadedLive⟩ := invariant.visiting n ids loop id member
  by_cases loaded : id ∈ state.loaded
  · obtain ⟨same, begun, ahead⟩ := loadedLive loaded
    have incarnation : live = n := Option.some.inj (lives.symm.trans same)
    subst incarnation
    have awaits : Awaits state id live := .inr ⟨ahead, .inr ((mem_remaining loop id).mpr member)⟩
    refine invariant.serve id live lives inMap loaded awaits _ state.calling others ?_ visiting
      (fun _ listed => listed)
    simp [Awaits, State.remaining, ahead, begun]
  · rw [State.call, if_neg loaded]
    have elsewhere : ∀ other ∈ state.loaded, other ≠ id := fun other otherLoaded same =>
      loaded (same ▸ otherLoaded)
    have reports := invariant.heard_same
      (fun other m otherLoaded _ => others other m (elsewhere other otherLoaded)) ⟨rfl, rfl, rfl, rfl, rfl⟩
    exact { invariant with
      visiting := visiting
      heard := reports.1
      atLeast := reports.2 }

/-- `RegisterFunc` calls a registration that it has found to be due. The registration awaited the
call from here and not from a loop, so it is served once. -/
theorem calls (id live : Nat) (lives : state.live = some live) (listed : id ∈ state.calling) :
    Invariant ({ state with calling := state.calling.filter (· ≠ id) }.call id live) := by
  have fewer : ∀ other ∈ state.calling.filter (· ≠ id), other ∈ state.calling :=
    fun other listed => (List.mem_filter.mp listed).1
  have others : ∀ other m, other ≠ id →
      (Awaits { state with calling := state.calling.filter (· ≠ id) } other m ↔ Awaits state other m) := by
    intro other m different
    simp [Awaits, State.remaining, different]
  have notTesting : id ∉ state.testing := fun testing => invariant.phases id testing listed
  by_cases loaded : id ∈ state.loaded
  · obtain ⟨n, same, behind, inMap⟩ := invariant.called id listed loaded
    have incarnation : live = n := Option.some.inj (lives.symm.trans same)
    subst incarnation
    have awaits : Awaits state id live := .inl ⟨behind, .inr listed⟩
    refine invariant.serve id live lives inMap loaded awaits state.loop _ others ?_ invariant.visiting fewer
    simp [Awaits, behind, notTesting]
  · rw [State.call, if_neg loaded]
    have elsewhere : ∀ other ∈ state.loaded, other ≠ id := fun other otherLoaded same =>
      loaded (same ▸ otherLoaded)
    have reports := invariant.heard_same
      (fun other m otherLoaded _ => others other m (elsewhere other otherLoaded)) ⟨rfl, rfl, rfl, rfl, rfl⟩
    exact { invariant with
      otherIds := by
        rintro other (known | testing | calling | rest)
        · exact invariant.otherIds other (.inl known)
        · exact invariant.otherIds other (.inr (.inl testing))
        · exact invariant.otherIds other (.inr (.inr (.inl (fewer other calling))))
        · exact invariant.otherIds other (.inr (.inr (.inr rest)))
      phases := fun other testing called => invariant.phases other testing (fewer other called)
      called := fun other called => invariant.called other (fewer other called)
      heard := reports.1
      atLeast := reports.2 }

/-- A new registration has heard of nothing and awaits the call for the live incarnation: from
itself, since no loop can be under way while it is inserted. Its number is new, so nothing said
of the other registrations is touched. -/
theorem inserts (loaded : Bool) (free : state.loop = none) : Invariant (state.insert loaded) := by
  have newInMap : state.registerValidId + 1 ∉ state.profileIdFuncMap := fun inMap => by
    have bound := invariant.mapIds _ inMap
    omega
  have newElsewhere : ∀ id,
    (id ∈ state.loaded ∨ id ∈ state.testing ∨ id ∈ state.calling ∨ id ∈ state.erasing ∨
      id ∈ state.deregistered) → id ≠ state.registerValidId + 1 := fun id known => by
    have bound := invariant.otherIds id known
    omega
  have newCalled : ∀ n, (state.registerValidId + 1, n) ∉ state.calls := fun n called => by
    have bound := (invariant.calledIds _ n called).1
    omega
  have newBehind : ∀ n, (state.registerValidId + 1, n) ∉ state.behind := fun n behind => by
    have bound := (invariant.behindIds _ n behind).1
    omega
  have behind : ∀ id n, (id, n) ∈ (state.insert loaded).behind ↔
      (id, n) ∈ state.behind ∨ (id = state.registerValidId + 1 ∧ n ∈ state.begun) := by
    intro id n
    simp [State.insert, eq_comm, and_comm]
  have testing : ∀ id, id ∈ (state.insert loaded).testing ↔
      id ∈ state.testing ∨ id = state.registerValidId + 1 := by
    intro id
    simp [State.insert]
  have awaitsNew : ∀ n, Awaits (state.insert loaded) (state.registerValidId + 1) n := by
    intro n
    by_cases begun : n ∈ state.begun
    · exact .inl ⟨(behind _ n).mpr (.inr ⟨rfl, begun⟩), .inl ((testing _).mpr (.inr rfl))⟩
    · refine .inr ⟨fun inserted => ?_, .inl begun⟩
      rcases (behind _ n).mp inserted with before | ⟨_, after⟩
      · exact newBehind n before
      · exact begun after
  have others : ∀ id n, id ≠ state.registerValidId + 1 →
      (Awaits (state.insert loaded) id n ↔ Awaits state id n) := by
    intro id n old
    simp only [Awaits, behind, testing, old, false_and, or_false]
    rfl
  have inMap : ∀ id, id ∈ (state.insert loaded).profileIdFuncMap ↔
      id ∈ state.profileIdFuncMap ∨ id = state.registerValidId + 1 := by
    intro id
    simp [State.insert]
  have isLoaded : ∀ id, id ∈ (state.insert loaded).loaded ↔
      id ∈ state.loaded ∨ loaded = true ∧ id = state.registerValidId + 1 := by
    intro id
    cases loaded <;> simp [State.insert]
  have present : ∀ entry, entry ∈ (state.insert loaded).present ↔ entry ∈ state.present ∨
      loaded = true ∧ ∃ n, state.live = some n ∧ entry = (state.registerValidId + 1, n) := by
    intro entry
    cases loaded <;> cases live : state.live <;> simp [State.insert, live]
  constructor
  case mapIds =>
    intro id member
    rcases (inMap id).mp member with before | rfl
    · exact Nat.le_succ_of_le (invariant.mapIds id before)
    · exact Nat.le_refl _
  case otherIds =>
    rintro id (known | tests | rest)
    · rcases (isLoaded id).mp known with before | ⟨_, rfl⟩
      · exact Nat.le_succ_of_le (invariant.otherIds id (.inl before))
      · exact Nat.le_refl _
    · rcases (testing id).mp tests with before | rfl
      · exact Nat.le_succ_of_le (invariant.otherIds id (.inr (.inl before)))
      · exact Nat.le_refl _
    · exact Nat.le_succ_of_le (invariant.otherIds id (.inr (.inr rest)))
  case calledIds =>
    intro id n called
    exact ⟨Nat.le_succ_of_le (invariant.calledIds id n called).1, (invariant.calledIds id n called).2⟩
  case behindIds =>
    intro id n inserted
    rcases (behind id n).mp inserted with before | ⟨rfl, begun⟩
    · exact ⟨Nat.le_succ_of_le (invariant.behindIds id n before).1, (invariant.behindIds id n before).2⟩
    · exact ⟨Nat.le_refl _, begun⟩
  case incarnations => exact invariant.incarnations
  case visiting =>
    intro n ids loop
    have free : some (n, ids) = none := loop.symm.trans free
    cases free
  case phases =>
    intro id tests
    rcases (testing id).mp tests with before | rfl
    · exact invariant.phases id before
    · exact fun calling => newElsewhere _ (.inr (.inr (.inl calling))) rfl
  case tested =>
    intro id n tests known lives inserted
    by_cases new : id = state.registerValidId + 1
    · exact (inMap id).mpr (.inr new)
    · have before : id ∈ state.testing := ((testing id).mp tests).resolve_right new
      have loadedBefore : id ∈ state.loaded :=
        ((isLoaded id).mp known).resolve_right (fun both => new both.2)
      have behindBefore : (id, n) ∈ state.behind :=
        ((behind id n).mp inserted).resolve_right (fun both => new both.1)
      exact (inMap id).mpr (.inl (invariant.tested id n before loadedBefore lives behindBefore))
  case called =>
    intro id calling known
    have old : id ≠ state.registerValidId + 1 := newElsewhere id (.inr (.inr (.inl calling)))
    have loadedBefore : id ∈ state.loaded := ((isLoaded id).mp known).resolve_right (fun both => old both.2)
    obtain ⟨n, lives, behindBefore, inMapBefore⟩ := invariant.called id calling loadedBefore
    exact ⟨n, lives, (behind id n).mpr (.inl behindBefore), (inMap id).mpr (.inl inMapBefore)⟩
  case heard =>
    intro id n member known lives
    by_cases new : id = state.registerValidId + 1
    · subst new
      exact iff_of_false (newCalled n) (not_not.mpr (awaitsNew n))
    · have inMapBefore := ((inMap id).mp member).resolve_right new
      have loadedBefore : id ∈ state.loaded :=
        ((isLoaded id).mp known).resolve_right (fun both => new both.2)
      rw [others id n new]
      exact invariant.heard id n inMapBefore loadedBefore lives
  case met =>
    intro id n met
    rcases (present (id, n)).mp met with before | ⟨isTrue, m, _, same⟩
    · exact (isLoaded id).mpr (.inl (invariant.met id n before))
    · exact (isLoaded id).mpr (.inr ⟨isTrue, congrArg Prod.fst same⟩)
  case erased =>
    intro id gone member
    rcases (inMap id).mp member with before | new
    · exact invariant.erased id gone before
    · exact newElsewhere id (.inr (.inr (.inr (.inr gone)))) new
  case atLeast =>
    intro entry met
    rcases (present entry).mp met with before | ⟨_, n, lives, rfl⟩
    · rcases invariant.atLeast entry before with heard | ⟨lives, inMapBefore, awaits⟩
      · exact .inl heard
      · have old : entry.1 ≠ state.registerValidId + 1 := fun same => newInMap (same ▸ inMapBefore)
        exact .inr ⟨lives, (inMap _).mpr (.inl inMapBefore), (others _ _ old).mpr awaits⟩
    · exact .inr ⟨lives, (inMap _).mpr (.inr rfl), awaitsNew n⟩
  case atMost => exact invariant.atMost
  case notLate => exact invariant.notLate

/-- `RegisterFunc` tests the flag: a flag that tells the truth is set exactly for those who
await the call from it. -/
theorem tests (id : Nat) (listed : id ∈ state.testing) (timely : Timely state (.tests id)) :
    Invariant { state with
      testing := state.testing.filter (· ≠ id)
      calling := if state.isBluetoothServiceOn then state.calling ++ [id] else state.calling } := by
  have notCalling : id ∉ state.calling := invariant.phases id listed
  have calling : ∀ other,
      (other ∈ if state.isBluetoothServiceOn then state.calling ++ [id] else state.calling) ↔
      other ∈ state.calling ∨ state.isBluetoothServiceOn = true ∧ other = id := by
    intro other
    cases state.isBluetoothServiceOn <;> simp
  have awaits : ∀ other n, other ∈ state.loaded → state.live = some n →
      (Awaits { state with
        testing := state.testing.filter (· ≠ id)
        calling := if state.isBluetoothServiceOn then state.calling ++ [id] else state.calling } other n ↔
      Awaits state other n) := by
    intro other n loaded lives
    by_cases same : other = id
    · subst same
      have tells : state.isBluetoothServiceOn = true ↔ (other, n) ∈ state.behind := by
        simpa [FlagTells, lives] using timely loaded
      by_cases behind : (other, n) ∈ state.behind
      · simp [Awaits, State.remaining, behind, listed, tells.mpr behind]
      · simp [Awaits, State.remaining, behind]
    · simp [Awaits, State.remaining, same, calling]
  have reports := invariant.heard_same awaits ⟨rfl, rfl, rfl, rfl, rfl⟩
  exact { invariant with
    otherIds := by
      rintro other (known | testing | calls | rest)
      · exact invariant.otherIds other (.inl known)
      · exact invariant.otherIds other (.inr (.inl (List.mem_filter.mp testing).1))
      · rcases (calling other).mp calls with before | ⟨_, rfl⟩
        · exact invariant.otherIds other (.inr (.inr (.inl before)))
        · exact invariant.otherIds other (.inr (.inl listed))
      · exact invariant.otherIds other (.inr (.inr (.inr rest)))
    phases := by
      intro other testing calls
      obtain ⟨before, different⟩ := List.mem_filter.mp testing
      rcases (calling other).mp calls with earlier | ⟨_, same⟩
      · exact invariant.phases other before earlier
      · simp [same] at different
    tested := fun other n testing => invariant.tested other n (List.mem_filter.mp testing).1
    called := by
      intro other calls loaded
      rcases (calling other).mp calls with before | ⟨isOn, rfl⟩
      · exact invariant.called other before loaded
      · obtain ⟨n, lives, behind⟩ := (timely loaded).mp isOn
        exact ⟨n, lives, behind, invariant.tested other n listed loaded lives behind⟩
    heard := reports.1
    atLeast := reports.2 }

/-- A deregistration that has found its entry keeps the invariant, and has still to erase it. -/
theorem finds (id : Nat) (inMap : id ∈ state.profileIdFuncMap) :
    Invariant { state with erasing := state.erasing ++ [id] } :=
  { invariant with
    otherIds := by
      rintro other (known | testing | calling | erasing | gone)
      · exact invariant.otherIds other (.inl known)
      · exact invariant.otherIds other (.inr (.inl testing))
      · exact invariant.otherIds other (.inr (.inr (.inl calling)))
      · rcases List.mem_append.mp erasing with before | new
        · exact invariant.otherIds other (.inr (.inr (.inr (.inl before))))
        · exact List.mem_singleton.mp new ▸ invariant.mapIds id inMap
      · exact invariant.otherIds other (.inr (.inr (.inr (.inr gone)))) }

/-- A registration that awaits nothing leaves the map. Where it still awaited a call it would
never hear of the incarnation, and the condition excludes that. -/
theorem erases (id : Nat) (listed : id ∈ state.erasing) (free : state.loop = none)
    (timely : Timely state (.erases id)) :
    Invariant { state with
      erasing := state.erasing.erase id
      profileIdFuncMap := state.profileIdFuncMap.filter (· ≠ id)
      deregistered := state.deregistered ++ [id] } := by
  have stays : ∀ other n, other ∈ state.profileIdFuncMap → other ∈ state.loaded → state.live = some n →
      Awaits state other n → other ∈ state.profileIdFuncMap.filter (· ≠ id) := by
    intro other n inMap loaded lives awaits
    refine List.mem_filter.mpr ⟨inMap, decide_eq_true ?_⟩
    rintro rfl
    exact timely n lives loaded ⟨lives, inMap, awaits⟩
  exact { invariant with
    mapIds := fun other inMap => invariant.mapIds other (List.mem_filter.mp inMap).1
    otherIds := by
      rintro other (known | testing | calling | erasing | gone)
      · exact invariant.otherIds other (.inl known)
      · exact invariant.otherIds other (.inr (.inl testing))
      · exact invariant.otherIds other (.inr (.inr (.inl calling)))
      · exact invariant.otherIds other (.inr (.inr (.inr (.inl (List.mem_of_mem_erase erasing)))))
      · rcases List.mem_append.mp gone with before | new
        · exact invariant.otherIds other (.inr (.inr (.inr (.inr before))))
        · exact List.mem_singleton.mp new ▸ invariant.otherIds id (.inr (.inr (.inr (.inl listed))))
    visiting := by
      intro n ids loop
      have free : some (n, ids) = none := loop.symm.trans free
      cases free
    tested := by
      intro other n testing loaded lives behind
      have inMap := invariant.tested other n testing loaded lives behind
      exact stays other n inMap loaded lives (.inl ⟨behind, .inl testing⟩)
    called := by
      intro other calling loaded
      obtain ⟨n, lives, behind, inMap⟩ := invariant.called other calling loaded
      exact ⟨n, lives, behind, stays other n inMap loaded lives (.inl ⟨behind, .inr calling⟩)⟩
    heard := fun other n inMap => invariant.heard other n (List.mem_filter.mp inMap).1
    erased := by
      intro other gone inMap
      obtain ⟨before, different⟩ := List.mem_filter.mp inMap
      rcases List.mem_append.mp gone with earlier | new
      · exact invariant.erased other earlier before
      · simp [List.mem_singleton.mp new] at different
    atLeast := by
      intro entry present
      rcases invariant.atLeast entry present with heard | ⟨lives, inMap, awaits⟩
      · exact .inl heard
      · have loaded := invariant.met entry.1 entry.2 present
        exact .inr ⟨lives, stays entry.1 entry.2 inMap loaded lives awaits, awaits⟩ }

end Invariant

/-- A timely step keeps the invariant. One case for each label: the service starting and dying,
the loops of the adding and removing, and the parts of a registration between which others may
run. -/
theorem step_invariant (state : State) (label : Label) (next : State) (invariant : Invariant state)
    (timely : Timely state label) (taken : step state label = some next) : Invariant next := by
  cases label with
  | serviceStarts =>
    rw [step] at taken
    split at taken
    · rename_i dead
      cases taken
      exact invariant.serviceStarts (Option.isNone_iff_eq_none.mp dead)
    · cases taken
  | serviceDies =>
    rw [step] at taken
    split at taken
    · cases taken
      exact invariant.serviceDies timely
    · cases taken
  | addSets incarnation =>
    rw [step] at taken
    split at taken
    · rename_i known
      cases taken
      exact invariant.addSets incarnation known.2
    · cases taken
  | loopBegins incarnation =>
    rw [step] at taken
    split at taken
    · rename_i enabled
      cases taken
      exact invariant.loopBegins incarnation enabled.1 timely
    · cases taken
  | visits id =>
    rw [step] at taken
    split at taken
    · rename_i incarnation ids live loop lives
      split at taken
      · rename_i member
        cases taken
        exact invariant.visits id incarnation live ids loop lives member
      · cases taken
    · cases taken
  | loopEnds =>
    rw [step] at taken
    split at taken
    · rename_i incarnation loop
      cases taken
      exact invariant.loopEnds incarnation loop
    · cases taken
  | removeClears =>
    cases taken
    exact invariant.removeClears
  | inserts loaded =>
    rw [step] at taken
    split at taken
    · cases taken
    · rename_i free
      cases taken
      exact invariant.inserts loaded (by simpa [State.isHeld] using free)
  | tests id =>
    rw [step] at taken
    split at taken
    · rename_i listed
      cases taken
      exact invariant.tests id listed timely
    · cases taken
  | calls id =>
    rw [step] at taken
    split at taken
    · cases taken
    · rename_i live lives
      split at taken
      · rename_i listed
        cases taken
        exact invariant.calls id live lives listed
      · cases taken
  | finds id =>
    rw [step] at taken
    split at taken
    · rename_i enabled
      cases taken
      exact invariant.finds id enabled.2
    · cases taken
  | erases id =>
    rw [step] at taken
    split at taken
    · rename_i enabled
      cases taken
      exact invariant.erases id enabled.2 (by simpa [State.isHeld] using enabled.1) timely
    · cases taken

/-- In every run whose steps are all timely, every registration hears of every service exactly
once. A registration is called by the loop of the service or by itself, and the condition keeps
both from doing it, or neither. -/
theorem registrations_hear_once (labels : List Label) (timely : Meets step Timely {} labels) :
    Always step HeardOnce {} labels :=
  guarded_always step_invariant
    (fun _ invariant => ⟨invariant.atLeast, invariant.atMost, invariant.notLate⟩) {} labels
      invariant_start timely

/-- A registration made before the start of the service, one behind the loop, the death of
the service, and its next incarnation. -/
theorem registrations_hear_once_run :
    Always step HeardOnce {}
      [.inserts true, .tests 1, .serviceStarts, .addSets 1, .loopBegins 1, .visits 1, .loopEnds, .inserts true,
        .tests 2, .calls 2, .serviceDies, .removeClears, .finds 1, .erases 1,
        .serviceStarts, .addSets 2,
        .loopBegins 2, .visits 2, .loopEnds] :=
  registrations_hear_once _ (by decide)

/-- A registration inserted before the loop tests the flag behind it and is called twice. One
inserted behind the loop tests a flag that the removal of the last incarnation has cleared
and is not called. -/
theorem flag_misleads :
    ¬ Always step HeardOnce {}
      [.inserts true, .serviceStarts, .addSets 1, .loopBegins 1, .visits 1, .loopEnds, .tests 1, .calls 1] ∧
    ¬ Always step HeardOnce {}
      [.serviceStarts, .addSets 1, .loopBegins 1, .loopEnds, .serviceDies, .serviceStarts, .addSets 2,
        .loopBegins 2, .loopEnds, .removeClears, .inserts true, .tests 1] := by
  decide

end BluetoothFramework.Host.ProfileRegistrations
