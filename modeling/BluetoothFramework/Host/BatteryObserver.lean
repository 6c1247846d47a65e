import BluetoothFramework.Library.Runs
import BluetoothFramework.Common.Types
import Mathlib.Data.List.AList

/-!
# Registering a battery observer

`RegisterBatteryObserver` takes a snapshot of the battery levels, gives them to the observer
one by one, and then adds the observer to the list. The list is what `OnBatteryLevelChanged`
gives the changes to, so a change that is handled after the snapshot and before the observer
is added reaches nobody, and the observer may keep a level that is out of date.

`current_iff` says that nothing else can go wrong: when the observer is added, each device has
to have a change that is still to be handled, or the level it had in the snapshot.
-/

namespace BluetoothFramework.Host.BatteryObserver

open Runs

/-- The address of a device and its level. -/
abbrev Level := Σ _ : ByteString, Int32

/-- `maxBatteryLevel` -/
def maxBatteryLevel : Int32 := 100

/-- The loop over the snapshot does not pass over the device. -/
def isReported (info : Level) : Bool :=
  !(info.2 < 0 || info.2 > maxBatteryLevel || !isValidBluetoothAddr info.1)

/-- The level that was said last of a device. -/
def lastLevel (said : List Level) (device : ByteString) : Option Int32 :=
  said.reverse.dlookup device

/-- How far `RegisterBatteryObserver` has come: it has begun; it has what is left of the
snapshot; it has added the observer. -/
inductive Phase where
  | begun
  | delivering (batteryInfos : List Level)
  | returned
deriving DecidableEq

/-- The levels of the connected devices that the service has, the changes it has sent that are
not handled, the registration with its snapshot if that has succeeded, whether
`remoteBatteryObservers_` has the observer, and what the observer was told. -/
structure State where
  levels : AList fun _ : ByteString => Int32
  pending : List Level := []
  phase : Phase := .begun
  snapshot : Option (List Level) := none
  registered : Bool
  received : List Level := []

/-- What can happen. Changes are handled in the order they were sent in. -/
inductive Label where
  | changes (device : ByteString) (batteryLevel : Int32)
  | handles
  | snapshots (ret : Int32) (batteryInfos : List Level)
  | delivers
  | adds
deriving DecidableEq

namespace State

/-- One step. A snapshot that succeeds has the devices in some order. -/
def step (state : State) : Label → Option State
  | .changes device batteryLevel =>
      if 0 ≤ batteryLevel ∧ batteryLevel ≤ maxBatteryLevel then
        some { state with
          levels := state.levels.insert device batteryLevel
          pending := state.pending ++ [⟨device, batteryLevel⟩] }
      else none
  | .handles =>
      match state.pending with
      | [] => none
      | event :: rest => some { state with
          pending := rest
          received := if state.registered then state.received ++ [event] else state.received }
  | .snapshots ret batteryInfos =>
      if state.phase = .begun then
        if ret ≠ btNoError then some { state with phase := .delivering batteryInfos }
        else if batteryInfos.isPerm state.levels.entries then
          some { state with phase := .delivering batteryInfos, snapshot := some batteryInfos }
        else none
      else none
  | .delivers =>
      match state.phase with
      | .delivering (info :: rest) => some { state with
          phase := .delivering rest
          received := if isReported info then state.received ++ [info] else state.received }
      | _ => none
  | .adds =>
      if state.phase = .delivering []
        then some { state with phase := .returned, registered := true } else none

/-- The observer was told last what the level of each device is. -/
def IsCurrent (state : State) : Prop :=
  ∀ info ∈ state.levels.entries, isReported info = true → lastLevel state.received info.1 = some info.2

/-- Once the registration has returned and all changes are handled, the observer has the
current levels, if the snapshot has succeeded. -/
def Current (state : State) : Prop :=
  state.phase = .returned → state.snapshot.isSome = true → state.pending = [] → state.IsCurrent

/-- Once the registration has returned, the observer has the current levels as soon as the
changes that are sent are handled. -/
def CurrentOnceHandled (state : State) : Prop :=
  state.phase = .returned →
    ∀ after, run step state (List.replicate state.pending.length .handles) = some after → after.Current

/-- When the observer is added, each device has a change that is still to be handled, or the
level it had in the snapshot; if the observer was in the list already, the level it was told
last. -/
def AddsInTime (state : State) : Label → Prop
  | .adds => ∀ snapshot ∈ state.snapshot, ∀ info ∈ state.levels.entries, isReported info = true →
      info.1 ∈ state.pending.keys ∨
        if state.registered then lastLevel state.received info.1 = some info.2 else info ∈ snapshot
  | _ => True

/-- `RegisterBatteryObserver` is called. -/
def start (levels : AList fun _ : ByteString => Int32) (registered : Bool) : State where
  levels := levels
  registered := registered

/-! ## What was said last -/

/-- The last level said in two parts is that of the later part, if that says one. -/
theorem lastLevel_append (earlier later : List Level) (device : ByteString) :
    lastLevel (earlier ++ later) device =
      (lastLevel later device).or (lastLevel earlier device) := by
  rw [lastLevel, List.reverse_append, List.dlookup_append, ← lastLevel, ← lastLevel]

/-- There is no last level of a device exactly if nothing was said about it. -/
theorem lastLevel_eq_none_iff (said : List Level) (device : ByteString) :
    lastLevel said device = none ↔ device ∉ said.keys := by
  rw [lastLevel, List.dlookup_eq_none, List.keys, List.map_reverse, List.mem_reverse]

/-- What is said once of a device is said last. -/
theorem lastLevel_eq_some_iff {said : List Level} (distinct : said.NodupKeys) (info : Level) :
    lastLevel said info.1 = some info.2 ↔ info ∈ said := by
  have reversed : said.reverse.NodupKeys := (List.perm_nodupKeys said.reverse_perm.symm).mp distinct
  rw [lastLevel, ← Option.mem_def, List.mem_dlookup_iff reversed, List.mem_reverse]

/-- A change that is sent is the level from then on. -/
theorem level_insert (levels : AList fun _ : ByteString => Int32) (device other : ByteString)
    (batteryLevel : Int32) :
    (levels.insert device batteryLevel).lookup other =
      (lastLevel [⟨device, batteryLevel⟩] other).or (levels.lookup other) := by
  by_cases same : other = device
  · subst same
    rw [AList.lookup_insert, lastLevel, List.reverse_singleton, List.dlookup_cons_eq, Option.some_or]
  · rw [AList.lookup_insert_ne same, lastLevel, List.reverse_singleton, List.dlookup_cons_ne _ _ same,
      List.dlookup_nil, Option.none_or]

/-! ## What holds while changes come and go -/

/-- The changes to be handled end with the levels, and an observer that is not in the list has
been told what has been taken from the snapshot. -/
structure Coherent (state : State) : Prop where
  pending (device : ByteString) (batteryLevel : Int32) :
    lastLevel state.pending device = some batteryLevel →
    state.levels.lookup device = some batteryLevel
  begun : state.phase = .begun → state.registered = false → state.received = []
  delivering (rest : List Level) : state.phase = .delivering rest → state.registered = false →
    ∀ snapshot ∈ state.snapshot, snapshot.NodupKeys ∧
      state.received ++ rest.filter isReported = snapshot.filter isReported
  returned : state.phase = .returned → state.registered = true
  early : state.phase = .begun → state.snapshot = none

/-- Before anything has happened the observer has been told what there was to tell. -/
theorem coherent_start (levels : AList fun _ : ByteString => Int32) (registered : Bool) :
    Coherent (start levels registered) where
  pending _ _ last := nomatch last
  begun _ _ := rfl
  delivering _ delivering := nomatch delivering
  returned returned := nomatch returned
  early _ := rfl

/-- Every step keeps it. A change of a level is put at the end of those to be handled, and the
phase of the registration tells how much of the snapshot the observer has been told. -/
theorem coherent_step (state : State) (label : Label) (next : State) (coherent : state.Coherent)
    (enabled : state.step label = some next) : next.Coherent := by
  cases label with
  | changes device batteryLevel =>
    rw [step] at enabled
    split at enabled
    · obtain rfl := Option.some.inj enabled
      refine { coherent with pending := fun other level last => ?_ }
      dsimp only at last ⊢
      rw [lastLevel_append] at last
      rw [level_insert]
      cases changed : lastLevel [⟨device, batteryLevel⟩] other with
      | some new =>
        rw [changed] at last
        exact last
      | none =>
        rw [changed, Option.none_or] at last
        exact coherent.pending other level last
    · cases enabled
  | handles =>
    rw [step] at enabled
    split at enabled
    · cases enabled
    · rename_i event rest sent
      obtain rfl := Option.some.inj enabled
      refine ⟨fun device level last => coherent.pending device level ?_, fun begun out => ?_,
        fun remaining delivering out => ?_, coherent.returned, coherent.early⟩
      · have later : lastLevel rest device = some level := last
        rw [sent, ← List.singleton_append, lastLevel_append, later, Option.some_or]
      · have out : state.registered = false := out
        dsimp only
        rw [out]
        exact coherent.begun begun out
      · have out : state.registered = false := out
        dsimp only
        rw [out]
        exact coherent.delivering remaining delivering out
  | snapshots ret batteryInfos =>
    rw [step] at enabled
    split at enabled
    · rename_i begun
      split at enabled
      · obtain rfl := Option.some.inj enabled
        refine ⟨coherent.pending, nofun, fun rest delivering out snapshot taken => ?_, nofun, nofun⟩
        rw [Option.mem_def, coherent.early begun] at taken
        cases taken
      · split at enabled
        · rename_i listed
          obtain rfl := Option.some.inj enabled
          refine ⟨coherent.pending, nofun, fun rest delivering out snapshot taken => ?_, nofun, nofun⟩
          obtain rfl := Phase.delivering.inj delivering
          obtain rfl := Option.some.inj taken
          have perm : batteryInfos.Perm state.levels.entries := List.isPerm_iff.mp listed
          refine ⟨(List.perm_nodupKeys perm).mpr state.levels.nodupKeys, ?_⟩
          have nothing : state.received = [] := coherent.begun begun out
          dsimp only
          rw [nothing, List.nil_append]
        · cases enabled
    · cases enabled
  | delivers =>
    rw [step] at enabled
    split at enabled
    · rename_i info rest delivering
      obtain rfl := Option.some.inj enabled
      refine ⟨coherent.pending, nofun, fun remaining left out snapshot taken => ?_, nofun, nofun⟩
      obtain rfl := Phase.delivering.inj left
      obtain ⟨distinct, told⟩ := coherent.delivering _ delivering out snapshot taken
      refine ⟨distinct, ?_⟩
      rw [List.filter_cons] at told
      dsimp only
      split
      · rename_i reported
        rw [if_pos reported] at told
        rw [List.append_assoc, List.singleton_append, told]
      · rename_i passedOver
        rw [if_neg passedOver] at told
        exact told
    · cases enabled
  | adds =>
    rw [step] at enabled
    split at enabled
    · obtain rfl := Option.some.inj enabled
      exact ⟨coherent.pending, nofun, nofun, fun _ => rfl, nofun⟩
    · cases enabled

/-- An observer in the list is told all changes that are handled. -/
theorem run_handles (state : State) (registered : state.registered = true) :
    run step state (List.replicate state.pending.length .handles) =
      some { state with pending := [], received := state.received ++ state.pending } := by
  obtain ⟨levels, pending, phase, snapshot, inList, received⟩ := state
  obtain rfl : inList = true := registered
  induction pending generalizing received with
  | nil => simp [run]
  | cons event rest inductionHypothesis =>
    have handled : step ⟨levels, event :: rest, phase, snapshot, true, received⟩ .handles =
        some ⟨levels, rest, phase, snapshot, true, received ++ [event]⟩ := rfl
    rw [List.length_cons, List.replicate_succ, run_cons handled, inductionHypothesis]
    simp

/-- What the observer will have been told last. -/
theorem currentOnceHandled_iff {state : State} (coherent : state.Coherent) :
    state.CurrentOnceHandled ↔ (state.phase = .returned → state.snapshot.isSome = true →
      ∀ info ∈ state.levels.entries, isReported info = true →
        lastLevel (state.received ++ state.pending) info.1 = some info.2) := by
  refine imp_congr_right fun returned => ?_
  rw [run_handles state (coherent.returned returned)]
  constructor
  · exact fun current succeeded => current _ rfl returned succeeded rfl
  · rintro told _ ⟨⟩ _ succeeded _
    exact told succeeded

/-- Where all changes are handled it is what the observer has been told last. -/
theorem current_of_currentOnceHandled (state : State) (current : state.CurrentOnceHandled) :
    state.Current := by
  intro returned succeeded handled
  refine current returned state ?_ returned succeeded handled
  rw [handled]
  rfl

/-! ## Adding the observer decides -/

/-- A change that is to be handled says the level. -/
theorem lastLevel_pending {state : State} (coherent : state.Coherent) {info : Level}
    (listed : info ∈ state.levels.entries) (sent : info.1 ∈ state.pending.keys) :
    lastLevel state.pending info.1 = some info.2 := by
  cases last : lastLevel state.pending info.1 with
  | none => exact absurd sent ((lastLevel_eq_none_iff ..).mp last)
  | some batteryLevel =>
    have level : state.levels.lookup info.1 = some info.2 := AList.mem_lookup_iff.mpr listed
    rw [← coherent.pending info.1 batteryLevel last, level]

/-- Adding the observer leaves it with the current levels exactly when it comes in time. Each
device must have a change that is still to be handled, or the level that it had in the snapshot.
-/
theorem currentOnceHandled_adds_iff {state : State} (coherent : state.Coherent)
    (delivered : state.phase = .delivering []) :
    CurrentOnceHandled { state with phase := .returned, registered := true } ↔
      state.AddsInTime .adds := by
  have after : Coherent { state with phase := .returned, registered := true } :=
    ⟨coherent.pending, nofun, nofun, fun _ => rfl, nofun⟩
  have told (snapshot : List Level) (taken : snapshot ∈ state.snapshot) (info : Level)
      (reported : isReported info = true) : lastLevel state.received info.1 = some info.2 ↔
        if state.registered then lastLevel state.received info.1 = some info.2 else info ∈ snapshot := by
    cases registered : state.registered with
    | true => rfl
    | false =>
      obtain ⟨distinct, received⟩ := coherent.delivering [] delivered registered snapshot taken
      rw [List.filter_nil, List.append_nil] at received
      rw [received, lastLevel_eq_some_iff (distinct.sublist List.filter_sublist), List.mem_filter,
        and_iff_left reported]
      rfl
  rw [currentOnceHandled_iff after, forall_prop_of_true rfl, AddsInTime]
  constructor
  · intro current snapshot taken info listed reported
    have last := current (Option.isSome_of_mem taken) info listed reported
    by_cases sent : info.1 ∈ state.pending.keys
    · exact .inl sent
    · rw [lastLevel_append, (lastLevel_eq_none_iff ..).mpr sent, Option.none_or] at last
      exact .inr ((told snapshot taken info reported).mp last)
  · intro inTime succeeded info listed reported
    obtain ⟨snapshot, taken⟩ := Option.isSome_iff_exists.mp succeeded
    rw [lastLevel_append]
    by_cases sent : info.1 ∈ state.pending.keys
    · rw [lastLevel_pending coherent listed sent, Option.some_or]
    · rw [(lastLevel_eq_none_iff ..).mpr sent, Option.none_or]
      exact (told snapshot taken info reported).mpr
        ((inTime snapshot taken info listed reported).resolve_left sent)

/-- A step keeps the observer up to date exactly when it adds it in time. All other steps keep
it, for a change is either still to be handled or was told to the observer. -/
theorem currentOnceHandled_step_iff (state : State) (label : Label) (next : State)
    (coherent : state.Coherent)
    (current : state.CurrentOnceHandled) (enabled : state.step label = some next) :
    next.CurrentOnceHandled ↔ state.AddsInTime label := by
  have nextCoherent := coherent_step state label next coherent enabled
  cases label with
  | changes device batteryLevel =>
    refine iff_of_true ((currentOnceHandled_iff nextCoherent).mpr
      fun returned succeeded info listed reported => ?_)
      trivial
    rw [step] at enabled
    split at enabled
    · obtain rfl := Option.some.inj enabled
      have level := AList.mem_lookup_iff.mpr listed
      dsimp only at level ⊢
      rw [Option.mem_def, level_insert] at level
      rw [← List.append_assoc, lastLevel_append]
      cases changed : lastLevel [⟨device, batteryLevel⟩] info.1 with
      | some new =>
        rw [changed] at level
        exact level
      | none =>
        rw [changed, Option.none_or] at level
        rw [Option.none_or]
        exact (currentOnceHandled_iff coherent).mp current returned succeeded info
          (AList.mem_lookup_iff.mp level) reported
    · cases enabled
  | handles =>
    refine iff_of_true ((currentOnceHandled_iff nextCoherent).mpr
      fun returned succeeded info listed reported => ?_)
      trivial
    rw [step] at enabled
    split at enabled
    · cases enabled
    · rename_i event rest sent
      obtain rfl := Option.some.inj enabled
      have told := (currentOnceHandled_iff coherent).mp current returned succeeded info listed reported
      have registered : state.registered = true := coherent.returned returned
      dsimp only
      rw [registered, if_pos rfl, List.append_assoc, List.singleton_append, ← sent]
      exact told
  | snapshots ret batteryInfos =>
    refine iff_of_true (fun returned => ?_) trivial
    rw [step] at enabled
    split at enabled
    · split at enabled
      · obtain rfl := Option.some.inj enabled
        cases returned
      · split at enabled
        · obtain rfl := Option.some.inj enabled
          cases returned
        · cases enabled
    · cases enabled
  | delivers =>
    refine iff_of_true (fun returned => ?_) trivial
    rw [step] at enabled
    split at enabled
    · obtain rfl := Option.some.inj enabled
      cases returned
    · cases enabled
  | adds =>
    rw [step] at enabled
    split at enabled
    · rename_i delivered
      obtain rfl := Option.some.inj enabled
      exact currentOnceHandled_adds_iff coherent delivered
    · cases enabled

/-- **When a battery observer has the current levels.** In every run, the observer has them as
soon as the changes are handled, if and only if it is added in time: when each device has a
change that is still to be handled, or the level of the snapshot. So it has them then in
every state in which the registration has returned and all changes are handled. -/
theorem current_iff (levels : AList fun _ : ByteString => Int32) (registered : Bool)
    (labels : List Label) :
    (Always step CurrentOnceHandled (start levels registered) labels ↔
        Meets step AddsInTime (start levels registered) labels) ∧
      (Always step CurrentOnceHandled (start levels registered) labels →
        Always step Current (start levels registered) labels) := by
  refine ⟨always_iff_meets coherent_step currentOnceHandled_step_iff _ labels (coherent_start levels registered)
    nofun, always_imp current_of_currentOnceHandled⟩

/-- `11:22:33:44:55:66` -/
def device : ByteString :=
  [0x31, 0x31, 0x3A, 0x32, 0x32, 0x3A, 0x33, 0x33, 0x3A, 0x34, 0x34, 0x3A, 0x35, 0x35, 0x3A, 0x36, 0x36]

/-- The level falls from 50 to 40 after the snapshot, and the observer keeps 50. -/
theorem change_missed : ¬ ∀ (levels : AList fun _ : ByteString => Int32) (registered : Bool)
    (labels : List Label),
    Always step Current (start levels registered) labels := by
  intro always
  have current := always_last _ _ _ (always (AList.singleton device 50) false
    [.snapshots btNoError [⟨device, 50⟩], .changes device 40, .handles, .delivers, .adds]) rfl
  have told := current rfl rfl rfl ⟨device, 40⟩ (by decide) (by decide)
  exact absurd told (by decide)

end State
end BluetoothFramework.Host.BatteryObserver
