import BluetoothFramework.Switch.System

/-!
# Cached requests and what will drain them

A cached request waits for the completion of the action in progress, or stays behind
a posted replay task. A cache with neither is stale: the next unrelated action would
replay from it. `OnTaskTimeout` clears the cache when it resets the flag; the failing
call in `ProcessBluetoothSwitchAction` resets the flag and leaves the cache.

The only step that can make the cache stale is therefore a replayed action that
fails while entries are cached and no other replay is posted.
`never_stale_iff` says that exactly: over all runs with arbitrary events, outcomes
and timeouts, the cache is never stale if and only if no step is such a failure.
-/

namespace BluetoothFramework.Switch.CachedRequests

open BluetoothSwitchModule

variable {Tag : Type}

/-- A non-empty cache has an action in progress or a pending replay task. -/
def NotStale (module : BluetoothSwitchModule Tag) : Prop :=
  module.cachedEventVec ≠ [] →
    module.isBtSwitchProcessing = true ∨ module.ffrtQueue.replays ≠ []

instance [DecidableEq Tag] (module : BluetoothSwitchModule Tag) : Decidable (NotStale module) :=
  inferInstanceAs (Decidable (_ → _ ∨ _))

/-- A replayed action may fail only with an empty cache or another replay posted.
The replay task of a busy module is cached again and makes no call. -/
def NoStrandingFailure (module : BluetoothSwitchModule Tag) : Label Tag → Prop
  | .replay outcome => module.isBtSwitchProcessing = false → outcome.ret ≠ btNoError →
      module.cachedEventVec = [] ∨ 2 ≤ module.ffrtQueue.replays.length
  | _ => True

instance [DecidableEq Tag] (module : BluetoothSwitchModule Tag) (label : Label Tag) :
    Decidable (NoStrandingFailure module label) :=
  match label with
  | .replay _ => inferInstanceAs (Decidable (_ → _ → _ ∨ _))
  | .event .. | .timeoutStarts _ | .timeoutRuns _ | .setNoAutoConnect _ => isTrue trivial

/-- Nothing cached can be replayed behind an action that starts when nothing is in
progress or pending: the cache is empty then. -/
theorem fresh_start_empty (module : BluetoothSwitchModule Tag) (notStale : NotStale module)
    (idle : module.isBtSwitchProcessing = false) (none : module.ffrtQueue.replays = []) :
    module.cachedEventVec = [] := by
  by_contra cached
  rcases notStale cached with busy | pending
  · simp [idle] at busy
  · exact pending none

/-- An event never strands a cached request, even when its own call fails: entries
cached in an idle module still have their replay task. -/
theorem event_not_stale (event : BluetoothSwitchEvent) (callingName : String)
    (isAsync isBleOwnerMode : Bool) (tag : Tag) (outcome : Outcome)
    (module : BluetoothSwitchModule Tag) (notStale : NotStale module) :
    NotStale (module.processBluetoothSwitchEvent event callingName isAsync isBleOwnerMode
      tag outcome).2 := by
  intro cached
  rcases event_cases event callingName isAsync isBleOwnerMode tag outcome module with
    ⟨_, busy | started⟩ | ⟨_, ended | ⟨_, same⟩⟩
  · rw [busy.effect]
    exact .inl busy.busy
  · rw [started.cache] at cached
    rcases notStale cached with busy | pending
    · exact absurd busy (by simp [started.idle])
    · exact .inr (started.replays.symm ▸ pending)
  · cases ended.drained with
    | cleared cache _ => exact absurd cache cached
    | posted _ entry _ replays => exact .inr (by simp [replays])
  · rw [same] at cached ⊢
    exact notStale cached

/-- A replay keeps the cache from going stale exactly when it meets the guard. A replay whose
action fails leaves no task behind, and the cache is stranded if anything is in it. -/
theorem replay_not_stale (module next : BluetoothSwitchModule Tag) (outcome : Outcome)
    (requests : HoldsRequests module) (taken : module.step (.replay outcome) = some next) :
    NotStale next ↔ NoStrandingFailure module (.replay outcome) := by
  obtain ⟨task, rest, posted, effect⟩ := replay_cases module next outcome requests taken
  rcases effect with cached | started
  · have busy : module.isBtSwitchProcessing = true := cached.busy
    have next_busy : next.isBtSwitchProcessing = true := by
      rw [cached.effect]
      exact busy
    simp [NotStale, NoStrandingFailure, busy, next_busy]
  · have idle : module.isBtSwitchProcessing = false := started.idle
    have cache : next.cachedEventVec = module.cachedEventVec := started.cache
    have replays : next.ffrtQueue.replays = rest := started.replays
    have others : rest ≠ [] ↔ 2 ≤ module.ffrtQueue.replays.length := by
      rw [posted, ← List.length_pos_iff, List.length_cons]
      omega
    simp only [NotStale, NoStrandingFailure, cache, replays, idle, started.flag, others,
      decide_eq_true_eq, forall_const, ne_eq]
    tauto

/-- One step from a cache that is not stale. Everything but the start of an action that fails
keeps somebody who will drain the cache. -/
theorem step_not_stale (module : BluetoothSwitchModule Tag) (label : Label Tag)
    (next : BluetoothSwitchModule Tag) (requests : HoldsRequests module)
    (notStale : NotStale module)
    (taken : module.step label = some next) : NotStale next ↔ NoStrandingFailure module label := by
  cases label with
  | event event callingName isAsync isBleOwnerMode tag outcome =>
    have kept := event_not_stale event callingName isAsync isBleOwnerMode tag outcome module notStale
    exact ⟨fun _ => trivial, fun _ => Option.some.inj taken ▸ kept⟩
  | replay outcome => exact replay_not_stale module next outcome requests taken
  | timeoutStarts handle =>
    simp only [step, Option.ite_none_right_eq_some, Option.some.injEq] at taken
    exact ⟨fun _ => trivial, fun _ => taken.2 ▸ notStale⟩
  | timeoutRuns handle =>
    simp only [step, Option.ite_none_right_eq_some, Option.some.injEq] at taken
    refine ⟨fun _ => trivial, fun _ cached => absurd ?_ cached⟩
    exact taken.2 ▸ rfl
  | setNoAutoConnect noAutoConnect =>
    exact ⟨fun _ => trivial, fun _ => Option.some.inj taken ▸ notStale⟩

/-- In every run of the module, whatever events, outcomes and timeouts occur, the
cache is never stale exactly when no replayed action fails while entries are cached
and no other replay is posted. -/
theorem never_stale_iff (labels : List (Label Tag)) :
    Runs.Always step NotStale {} labels ↔ Runs.Meets step NoStrandingFailure {} labels := by
  refine Runs.always_iff_meets (fun module label next => step_holds_requests module label next)
    step_not_stale {} labels ?_ ?_
  · simp [HoldsRequests]
  · simp [NotStale]

/-- DISABLE and ENABLE_TO_RESTRICE are cached behind ENABLE. The replayed DISABLE
fails, and the last request stays in a cache that nothing will drain. -/
theorem failed_replay_strands :
    ¬ ∀ labels : List (Label Unit), Runs.Always step NotStale {} labels := by
  intro claimed
  have stranded := claimed [
    .event .enableBluetooth "a" false false () {},
    .event .disableBluetooth "b" false false () {},
    .event .enableBluetoothToRestriceMode "b" false false () {},
    .event .bluetoothOn "" false false () {},
    .replay { ret := btErrInternalError }]
  have reached := Runs.always_last _ _ _ stranded rfl
  exact absurd reached (by decide)

end BluetoothFramework.Switch.CachedRequests
