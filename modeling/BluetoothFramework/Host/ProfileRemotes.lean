import BluetoothFramework.Library.Runs

/-!
# The proxies of the profile manager

`GetProfileRemote` keeps the remote objects it obtains in a map, and `OnRemoveSystemAbility`
clears the map when the service has died. Lookups exclude each other by a mutex, and so do
the check of the service and the two callbacks that allow it again, but nothing keeps a
lookup and the clearing apart.

Here a remote object is the incarnation of the service that it belongs to. A lookup is split
at every access to the map and every call it makes, and what the callbacks and the service
do may come in between. `never_serves_dead_iff` says when the map is clean of every
incarnation it has been cleared for: as long as no lookup inserts an object for which it was
cleared while the lookup was under way. The check needs no condition: it never leaves its
flag false across a later `OnAddSystemAbility`.
-/

namespace BluetoothFramework.Host

open Runs

/-- `BLUETOOTH_HOST` -/
def bluetoothHost : String := "BluetoothHost"

/-- How far a lookup has come: it has its mutex; it has not found its name; it has not found
the host either; it has the mutex of the check, with the number of additions at that time; it
has the remote object of the host; it has its own. -/
inductive Phase where
  | begun
  | missed
  | uncached
  | checking (adds : Nat)
  | holding (hostRemote : Nat)
  | obtained (remote : Nat)
deriving DecidableEq

/-- The incarnation whose object a lookup has in hand. -/
def Phase.held : Phase → Option Nat
  | .holding hostRemote => some hostRemote
  | .obtained remote => some remote
  | .begun | .missed | .uncached | .checking _ => none

/-- The lookup that is under way, and the incarnations for which the map has been cleared
since it began. -/
structure Lookup where
  objectName : String
  phase : Phase := .begun
  cleared : List Nat := []
deriving DecidableEq

/-- The service, the members of `BluetoothProfileManager`, and what the callbacks have done:
the incarnations for which `OnRemoveSystemAbility` has cleared the map and has returned, the
number of times `OnAddSystemAbility` has allowed the check, and that number when the check
began that came back empty last. -/
structure State where
  live : Option Nat := none
  started : Nat := 0
  profileRemoteMap : List (String × Nat) := []
  isNeedCheckBluetoothServiceOn : Bool := true
  lookup : Option Lookup := none
  cleared : List Nat := []
  removed : List Nat := []
  adds : Nat := 0
  emptyCheck : Option Nat := none
deriving DecidableEq

/-- What can happen. The check is answered by no service manager, by nothing, or by an
object. -/
inductive Label where
  | serviceStarts
  | serviceDies
  | addAllows (incarnation : Nat)
  | removeClears (incarnation : Nat)
  | removeAllows (incarnation : Nat)
  | lookupBegins (objectName : String)
  | findsProfile
  | findsHost
  | locks
  | checks (answer : Option (Option Nat))
  | calls (answered : Bool)
  | inserts
deriving DecidableEq

namespace State

/-- `profileRemoteMap_.Find` -/
def find (state : State) (objectName : String) : Option Nat :=
  (state.profileRemoteMap.find? fun entry => entry.1 = objectName).map Prod.snd

/-- `profileRemoteMap_.Insert`, which keeps an entry that is there. -/
def insert (state : State) (objectName : String) (remote : Nat) : State :=
  match state.find objectName with
  | some _ => state
  | none => { state with profileRemoteMap := state.profileRemoteMap ++ [(objectName, remote)] }

/-- The lookup has the mutex of the check. -/
def locked (state : State) : Bool :=
  match state.lookup with
  | some ⟨_, .checking _, _⟩ => true
  | _ => false

/-- The lookup goes on to a phase. -/
def proceed (state : State) (lookup : Lookup) (phase : Phase) : State :=
  { state with lookup := some { lookup with phase := phase } }

/-- The lookup returns. -/
def finish (state : State) : State :=
  { state with lookup := none }

/-- `GetProfileRemote` and the part of `GetHostRemote` in front of the mutex. -/
def search (state : State) (lookup : Lookup) : Label → Option State
  | .findsProfile =>
      if lookup.phase = .begun then
        match state.find lookup.objectName with
        | some _ => some state.finish
        | none => some (state.proceed lookup .missed)
      else none
  | .findsHost =>
      if lookup.phase = .missed then
        match state.find bluetoothHost with
        | some value => some (state.proceed lookup (.holding value))
        | none => some (state.proceed lookup .uncached)
      else none
  | .locks =>
      if lookup.phase = .uncached then
        if state.isNeedCheckBluetoothServiceOn
          then some (state.proceed lookup (.checking state.adds))
        else some state.finish
      else none
  | .checks answer =>
      match lookup.phase, answer with
      | .checking _, none => some state.finish
      | .checking adds, some none =>
          some { state.finish with isNeedCheckBluetoothServiceOn := false, emptyCheck := some adds }
      | .checking _, some (some object) =>
          if state.live = some object then some (state.proceed lookup (.holding object)) else none
      | _, _ => none
  | .calls answered =>
      match lookup.phase with
      | .holding hostRemote =>
          if lookup.objectName = bluetoothHost then some (state.proceed lookup (.obtained hostRemote))
          else if answered then
            if state.live = some hostRemote
              then some (state.proceed lookup (.obtained hostRemote)) else none
          else some state.finish
      | _ => none
  | .inserts =>
      match lookup.phase with
      | .obtained remote => some (state.insert lookup.objectName remote).finish
      | _ => none
  | _ => none

/-- One step. An object comes from the incarnation that is alive when it is asked for. -/
def step (state : State) : Label → Option State
  | .serviceStarts =>
      if state.live = none then
        some { state with live := some state.started, started := state.started + 1 }
      else none
  | .serviceDies => if state.live ≠ none then some { state with live := none } else none
  | .addAllows incarnation =>
      if incarnation < state.started ∧ state.locked = false then
        some { state with isNeedCheckBluetoothServiceOn := true, adds := state.adds + 1 }
      else none
  | .removeClears incarnation =>
      if incarnation < state.started ∧ state.live ≠ some incarnation then
        some
          { state with
            profileRemoteMap := []
            cleared := incarnation :: state.cleared
            lookup := state.lookup.map fun lookup => { lookup with cleared := incarnation :: lookup.cleared } }
      else none
  | .removeAllows incarnation =>
      if incarnation ∈ state.cleared ∧ state.locked = false then
        some
          { state with
            isNeedCheckBluetoothServiceOn := true
            removed := incarnation :: state.removed }
      else none
  | .lookupBegins objectName =>
      if state.lookup = none then some { state with lookup := some { objectName := objectName } } else none
  | label =>
      match state.lookup with
      | some lookup => state.search lookup label
      | none => none

/-- No object of an incarnation is in the map once `OnRemoveSystemAbility` has returned. -/
def NoDeadProxy (state : State) : Prop :=
  ∀ incarnation ∈ state.removed, ∀ entry ∈ state.profileRemoteMap, entry.2 ≠ incarnation

/-- No object of an incarnation is in the map once it has been cleared for it. -/
def Clean (state : State) : Prop :=
  ∀ incarnation ∈ state.cleared, ∀ entry ∈ state.profileRemoteMap, entry.2 ≠ incarnation

/-- A check that left the flag false began after the last `OnAddSystemAbility`. -/
def NotBlocked (state : State) : Prop :=
  state.isNeedCheckBluetoothServiceOn = false → state.emptyCheck = some state.adds

/-- A lookup inserts no object for whose incarnation the map has been cleared since it
began. -/
def InsertsInTime (state : State) (label : Label) : Prop :=
  label = .inserts → ∀ lookup ∈ state.lookup, ∀ remote ∈ lookup.phase.held, remote ∉ lookup.cleared

instance (state : State) (label : Label) : Decidable (InsertsInTime state label) :=
  inferInstanceAs (Decidable (_ → _))

/-- What every step preserves: an incarnation is dead when the map is cleared for it; a lookup
that holds one of its objects was under way then; `OnRemoveSystemAbility` clears before it
returns; the mutex keeps additions out of a check; and the name of a lookup that has not
found it is not inserted by another. -/
structure Consistent (state : State) : Prop where
  dead : ∀ incarnation ∈ state.cleared, incarnation < state.started ∧ state.live ≠ some incarnation
  alive : ∀ incarnation ∈ state.live, incarnation < state.started
  underWay : ∀ lookup ∈ state.lookup, ∀ held ∈ lookup.phase.held,
    held ∈ state.cleared → held ∈ lookup.cleared
  sinceBegun : ∀ lookup ∈ state.lookup, lookup.cleared ⊆ state.cleared
  returned : state.removed ⊆ state.cleared
  excluded : ∀ lookup ∈ state.lookup, ∀ adds, lookup.phase = .checking adds → adds = state.adds
  absent : ∀ lookup ∈ state.lookup, lookup.phase ≠ .begun → state.find lookup.objectName = none
  notBlocked : state.NotBlocked

/-! ## Steps -/

/-- What a step of a lookup can do. An object that it gets in hand is in the map or comes from
the service that is alive. -/
inductive Searched (state : State) (lookup : Lookup) : Label → State → Prop where
  | returned (label : Label) (other : label ≠ .inserts) : Searched state lookup label state.finish
  | proceeded (label : Label) (phase : Phase) (other : label ≠ .inserts)
      (held : ∀ object ∈ phase.held, (∃ entry ∈ state.profileRemoteMap, entry.2 = object) ∨
        state.live = some object ∨ lookup.phase.held = some object)
      (excluded : ∀ adds, phase = .checking adds → adds = state.adds)
      (absent : lookup.phase ≠ .begun ∨ state.find lookup.objectName = none) :
      Searched state lookup label (state.proceed lookup phase)
  | cameEmpty (label : Label) (adds : Nat) (other : label ≠ .inserts)
    (checking : lookup.phase = .checking adds) :
      Searched state lookup label
        { state.finish with isNeedCheckBluetoothServiceOn := false, emptyCheck := some adds }
  | inserted (remote : Nat) (obtained : lookup.phase = .obtained remote) :
      Searched state lookup .inserts (state.insert lookup.objectName remote).finish

/-- What is found under a name is in the map. -/
theorem find_mem {state : State} {objectName : String} {remote : Nat}
    (found : state.find objectName = some remote) :
    ∃ entry ∈ state.profileRemoteMap, entry.2 = remote := by
  obtain ⟨entry, first, same⟩ := Option.map_eq_some_iff.mp found
  exact ⟨entry, List.mem_of_find?_eq_some first, same⟩

/-- A step of a search is one of those a search can make: it finds, it misses and asks, it
inserts, or it gives up. -/
theorem search_cases {state next : State} {lookup : Lookup} {label : Label}
    (searched : state.search lookup label = some next) : Searched state lookup label next := by
  cases label with
  | findsProfile =>
    simp only [search, Option.ite_none_right_eq_some] at searched
    obtain ⟨-, searched⟩ := searched
    cases found : state.find lookup.objectName with
    | some remote =>
      obtain rfl : state.finish = next := by simpa [found] using searched
      exact .returned _ (by simp)
    | none =>
      obtain rfl : state.proceed lookup .missed = next := by simpa [found] using searched
      exact .proceeded _ _ (by simp) (by simp [Phase.held]) (by simp) (Or.inr found)
  | findsHost =>
    simp only [search, Option.ite_none_right_eq_some] at searched
    obtain ⟨phase, searched⟩ := searched
    have absent : lookup.phase ≠ .begun ∨ state.find lookup.objectName = none := by simp [phase]
    cases found : state.find bluetoothHost with
    | some value =>
      obtain rfl : state.proceed lookup (.holding value) = next := by simpa [found] using searched
      refine .proceeded _ _ (by simp) ?_ (by simp) absent
      rintro _ ⟨⟩
      exact Or.inl (find_mem found)
    | none =>
      obtain rfl : state.proceed lookup .uncached = next := by simpa [found] using searched
      exact .proceeded _ _ (by simp) (by simp [Phase.held]) (by simp) absent
  | locks =>
    simp only [search, Option.ite_none_right_eq_some] at searched
    obtain ⟨phase, searched⟩ := searched
    cases needed : state.isNeedCheckBluetoothServiceOn with
    | true =>
      obtain rfl : state.proceed lookup (.checking state.adds) = next := by simpa [needed] using searched
      refine .proceeded _ _ (by simp) (by simp [Phase.held]) ?_ (by simp [phase])
      intro adds same
      exact (Phase.checking.inj same).symm
    | false =>
      obtain rfl : state.finish = next := by simpa [needed] using searched
      exact .returned _ (by simp)
  | checks answer =>
    cases phase : lookup.phase with
    | checking adds =>
      obtain none | none | object := answer
      · obtain rfl : state.finish = next := by simpa [search, phase] using searched
        exact .returned _ (by simp)
      · simp only [search, phase, Option.some.injEq] at searched
        exact searched ▸ .cameEmpty _ adds (by simp) phase
      · simp only [search, phase, Option.ite_none_right_eq_some, Option.some.injEq] at searched
        obtain ⟨alive, rfl⟩ := searched
        refine .proceeded _ _ (by simp) ?_ (by simp) (by simp [phase])
        rintro _ ⟨⟩
        exact Or.inr (Or.inl alive)
    | _ => simp [search, phase] at searched
  | calls answered =>
    cases phase : lookup.phase with
    | holding hostRemote =>
      have obtains : Searched state lookup (.calls answered) (state.proceed lookup (.obtained hostRemote)) := by
        refine .proceeded _ _ (by simp) ?_ (by simp) (by simp [phase])
        rintro _ ⟨⟩
        exact Or.inr (Or.inr (by simp [phase, Phase.held]))
      simp only [search, phase] at searched
      split at searched
      · exact Option.some.inj searched ▸ obtains
      · split at searched
        · simp only [Option.ite_none_right_eq_some, Option.some.injEq] at searched
          exact searched.2 ▸ obtains
        · exact Option.some.inj searched ▸ .returned _ (by simp)
    | _ => simp [search, phase] at searched
  | inserts =>
    cases phase : lookup.phase with
    | obtained remote =>
      simp only [search, phase, Option.some.injEq] at searched
      exact searched ▸ .inserted remote phase
    | _ => simp [search, phase] at searched
  | _ => cases searched

/-- The map after an insertion. -/
theorem mem_insert {state : State} {objectName : String} {remote : Nat} {entry : String × Nat}
    (member : entry ∈ (state.insert objectName remote).profileRemoteMap) :
    entry ∈ state.profileRemoteMap ∨ entry.2 = remote := by
  unfold insert at member
  split at member
  · exact Or.inl member
  · obtain before | last := List.mem_append.mp member
    · exact Or.inl before
    · exact Or.inr (congrArg Prod.snd (List.mem_singleton.mp last))

/-- A lookup keeps what every step preserves, in a clean state. It only reads the maps, except
where it inserts what it has found and where it is finished. -/
theorem searched_consistent {state next : State} {lookup : Lookup} {label : Label}
    (current : state.lookup = some lookup) (clean : state.Clean) (consistent : Consistent state)
    (searched : Searched state lookup label next) : Consistent next := by
  obtain ⟨dead, alive, underWay, sinceBegun, returned, excluded, absent, notBlocked⟩ := consistent
  have finished : Consistent state.finish :=
    ⟨dead, alive, by simp [finish], by simp [finish], returned,
      by simp [finish], by simp [finish], notBlocked⟩
  cases searched with
  | returned => exact finished
  | proceeded _ phase _ held epoch missing =>
    refine ⟨dead, alive, ?_, ?_, returned, ?_, ?_, notBlocked⟩
    · rintro _ ⟨⟩ object holds isCleared
      obtain ⟨entry, member, rfl⟩ | lives | holding := held object holds
      · exact absurd rfl (clean _ isCleared entry member)
      · exact absurd lives (dead object isCleared).2
      · exact underWay lookup current object holding isCleared
    · rintro _ ⟨⟩
      exact sinceBegun lookup current
    · rintro _ ⟨⟩ adds checking
      exact epoch adds checking
    · rintro _ ⟨⟩ -
      exact missing.elim (absent lookup current) id
  | cameEmpty _ adds _ checking =>
    refine ⟨dead, alive, by simp [finish], by simp [finish], returned,
      by simp [finish], by simp [finish], ?_⟩
    intro _
    exact congrArg some (excluded lookup current adds checking)
  | inserted remote _ =>
    have same : (state.insert lookup.objectName remote).finish =
        { state.finish with
          profileRemoteMap := (state.insert lookup.objectName remote).profileRemoteMap } := by
      unfold insert
      split <;> rfl
    exact same ▸
      ⟨dead, alive, by simp [finish], by simp [finish], returned,
        by simp [finish], by simp [finish], notBlocked⟩

/-- Every step keeps the map consistent, as long as nothing dead was inserted. The steps of the
service clear the map or fill it anew, and those of a lookup are taken from the lemma above. -/
theorem step_consistent (state : State) (label : Label) (next : State) (clean : state.Clean)
    (consistent : Consistent state) (stepped : state.step label = some next) : Consistent next := by
  have ofSearch (search : (match state.lookup with
      | some lookup => state.search lookup label
      | none => none) = some next) : Consistent next := by
    cases current : state.lookup with
    | none => simp [current] at search
    | some lookup =>
      exact searched_consistent current clean consistent (search_cases (by simpa [current] using search))
  obtain ⟨dead, alive, underWay, sinceBegun, returned, excluded, absent, notBlocked⟩ := consistent
  cases label with
  | serviceStarts =>
    simp only [step, Option.ite_none_right_eq_some, Option.some.injEq] at stepped
    obtain ⟨-, rfl⟩ := stepped
    refine ⟨?_, ?_, underWay, sinceBegun, returned, excluded, absent, notBlocked⟩
    · intro incarnation isCleared
      have earlier := (dead incarnation isCleared).1
      refine ⟨Nat.lt_succ_of_lt earlier, ?_⟩
      intro same
      exact absurd (Option.some.inj same) (Nat.ne_of_gt earlier)
    · rintro _ ⟨⟩
      exact Nat.lt_succ_self _
  | serviceDies =>
    simp only [step, Option.ite_none_right_eq_some, Option.some.injEq] at stepped
    obtain ⟨-, rfl⟩ := stepped
    refine ⟨?_, by simp, underWay, sinceBegun, returned, excluded, absent, notBlocked⟩
    intro incarnation isCleared
    exact ⟨(dead incarnation isCleared).1, by simp⟩
  | addAllows incarnation =>
    simp only [step, Option.ite_none_right_eq_some, Option.some.injEq] at stepped
    obtain ⟨⟨-, unlocked⟩, rfl⟩ := stepped
    refine ⟨dead, alive, underWay, sinceBegun, returned, ?_, absent, by simp [NotBlocked]⟩
    intro lookup current adds checking
    obtain ⟨objectName, phase, cleared⟩ := lookup
    subst checking
    have now : state.lookup = some ⟨objectName, .checking adds, cleared⟩ := current
    simp [locked, now] at unlocked
  | removeClears incarnation =>
    simp only [step, Option.ite_none_right_eq_some, Option.some.injEq] at stepped
    obtain ⟨⟨started, isDead⟩, rfl⟩ := stepped
    refine ⟨?_, alive, ?_, ?_, fun _ member => List.mem_cons_of_mem _ (returned member), ?_, ?_, notBlocked⟩
    · intro other isCleared
      obtain rfl | earlier := List.mem_cons.mp isCleared
      · exact ⟨started, isDead⟩
      · exact dead other earlier
    · intro lookup current held holds isCleared
      obtain ⟨before, currentBefore, rfl⟩ := Option.map_eq_some_iff.mp current
      obtain rfl | earlier := List.mem_cons.mp isCleared
      · exact List.mem_cons_self ..
      · exact List.mem_cons_of_mem _ (underWay before currentBefore held holds earlier)
    · intro lookup current
      obtain ⟨before, currentBefore, rfl⟩ := Option.map_eq_some_iff.mp current
      exact List.cons_subset_cons _ (sinceBegun before currentBefore)
    · intro lookup current adds checking
      obtain ⟨before, currentBefore, rfl⟩ := Option.map_eq_some_iff.mp current
      exact excluded before currentBefore adds checking
    · intro lookup _ _
      rfl
  | removeAllows incarnation =>
    simp only [step, Option.ite_none_right_eq_some, Option.some.injEq] at stepped
    obtain ⟨⟨isCleared, -⟩, rfl⟩ := stepped
    exact ⟨dead, alive, underWay, sinceBegun, List.cons_subset.mpr ⟨isCleared, returned⟩, excluded, absent,
      by simp [NotBlocked]⟩
  | lookupBegins objectName =>
    simp only [step, Option.ite_none_right_eq_some, Option.some.injEq] at stepped
    obtain ⟨-, rfl⟩ := stepped
    refine ⟨dead, alive, ?_, ?_, returned, ?_, ?_, notBlocked⟩
    · rintro _ ⟨⟩
      simp [Phase.held]
    · rintro _ ⟨⟩
      simp
    · rintro _ ⟨⟩
      simp
    · rintro _ ⟨⟩
      simp
  | _ => exact ofSearch stepped

/-- Only an insertion can put an object of a cleared incarnation into the map. It does so exactly
if the map was cleared for that incarnation since the lookup began. -/
theorem searched_clean_iff {state next : State} {lookup : Lookup} {label : Label}
    (current : state.lookup = some lookup) (clean : state.Clean) (consistent : Consistent state)
    (searched : Searched state lookup label next) : next.Clean ↔ state.InsertsInTime label := by
  cases searched with
  | returned _ other => exact iff_of_true clean fun inserts => absurd inserts other
  | proceeded _ _ other => exact iff_of_true clean fun inserts => absurd inserts other
  | cameEmpty _ _ other => exact iff_of_true clean fun inserts => absurd inserts other
  | inserted remote obtained =>
    have begun : lookup.phase ≠ .begun := by simp [obtained]
    have listed : (lookup.objectName, remote) ∈ (state.insert lookup.objectName remote).profileRemoteMap := by
      simp [insert, consistent.absent lookup current begun]
    have kept : (state.insert lookup.objectName remote).cleared = state.cleared := by
      unfold insert
      split <;> rfl
    constructor
    · intro cleanNext _ other currentOther held holds isCleared
      obtain rfl : lookup = other := Option.some.inj (current.symm.trans currentOther)
      obtain rfl : remote = held := by simpa [obtained, Phase.held] using holds
      exact cleanNext remote (kept ▸ consistent.sinceBegun lookup current isCleared) _ listed rfl
    · intro inTime incarnation isCleared entry member same
      have earlier : incarnation ∈ state.cleared := kept ▸ isCleared
      obtain before | new := mem_insert member
      · exact clean incarnation earlier entry before same
      · have holds : remote ∈ lookup.phase.held := by simp [obtained, Phase.held]
        have since := consistent.underWay lookup current remote holds (new ▸ same ▸ earlier)
        exact inTime rfl lookup current remote holds since

/-- A step leaves the map without dead proxies exactly if it inserts none that has died since it
was asked for. -/
theorem step_clean_iff (state : State) (label : Label) (next : State) (clean : state.Clean)
    (consistent : Consistent state) (stepped : state.step label = some next) :
    next.Clean ↔ state.InsertsInTime label := by
  have ofSearch (search : (match state.lookup with
      | some lookup => state.search lookup label
      | none => none) = some next) : next.Clean ↔ state.InsertsInTime label := by
    cases current : state.lookup with
    | none => simp [current] at search
    | some lookup =>
      exact searched_clean_iff current clean consistent (search_cases (by simpa [current] using search))
  cases label with
  | removeClears incarnation =>
    simp only [step, Option.ite_none_right_eq_some, Option.some.injEq] at stepped
    obtain ⟨-, rfl⟩ := stepped
    refine iff_of_true ?_ (by simp [InsertsInTime])
    intro _ _ entry member
    cases member
  | serviceStarts | serviceDies | addAllows | removeAllows | lookupBegins =>
    simp only [step, Option.ite_none_right_eq_some, Option.some.injEq] at stepped
    exact iff_of_true (stepped.2 ▸ clean) (by simp [InsertsInTime])
  | _ => exact ofSearch stepped

/-- An empty map is consistent. -/
theorem consistent_start : Consistent {} where
  dead := by simp
  alive := by simp
  underWay := by simp
  sinceBegun := by simp
  returned := by simp
  excluded := by simp
  absent := by simp
  notBlocked := by simp [NotBlocked]

/-- **No object of a dead service stays in the map, as long as lookups insert in time.** In
every run, the map is clean of the incarnations it has been cleared for throughout, exactly if
no lookup inserts an object for whose incarnation the map has been cleared since the lookup
began. Then it holds no object of an incarnation whose `OnRemoveSystemAbility` has returned,
and the flag of the check is never left false by a check from before the last
`OnAddSystemAbility`. -/
theorem never_serves_dead_iff (labels : List Label) :
    (Always step Clean {} labels ↔ Meets step InsertsInTime {} labels) ∧
      (Meets step InsertsInTime {} labels →
        Always step (fun state => state.NoDeadProxy ∧ state.NotBlocked) {} labels) := by
  have both : Always step (fun state => state.Clean ∧ Consistent state) {} labels ↔
      Meets step InsertsInTime {} labels := by
    apply @always_iff_meets _ _ step (fun state => state.Clean ∧ Consistent state) (fun _ => True) InsertsInTime
    · intro _ _ _ _ _
      trivial
    · rintro state label next - ⟨clean, consistent⟩ stepped
      have kept := step_consistent state label next clean consistent stepped
      exact (and_iff_left kept).trans (step_clean_iff state label next clean consistent stepped)
    · trivial
    · exact ⟨by simp [Clean], consistent_start⟩
  refine ⟨⟨?_, ?_⟩, ?_⟩
  · intro always
    exact both.mp (always_with step_consistent consistent_start always)
  · intro inTime
    exact always_imp (fun _ holds => holds.1) (both.mpr inTime)
  · intro inTime
    apply always_imp _ (both.mpr inTime)
    rintro state ⟨clean, consistent⟩
    exact ⟨fun incarnation isRemoved => clean incarnation (consistent.returned isRemoved),
      consistent.notBlocked⟩

/-- A lookup obtains its object, the service dies and the map is cleared, and the lookup
inserts. -/
def lateInsert : List Label :=
  [.serviceStarts, .lookupBegins "BluetoothGattClient", .findsProfile, .findsHost, .locks,
    .checks (some (some 0)),
    .calls true, .serviceDies, .removeClears 0, .inserts, .removeAllows 0]

/-- The object of the dead service is in the map when `OnRemoveSystemAbility` has returned. -/
theorem late_insert_stays :
    ¬ Always step (fun state => state.NoDeadProxy ∧ state.NotBlocked) {} lateInsert := by
  intro always
  have ended : (run step {} lateInsert).map (fun state => (state.removed, state.profileRemoteMap)) =
      some ([0], [("BluetoothGattClient", 0)]) := by decide
  obtain ⟨last, reached, values⟩ := Option.map_eq_some_iff.mp ended
  obtain ⟨removed, remotes⟩ := Prod.mk.inj values
  have noDead := (always_last _ last _ always reached).1
  exact noDead 0 (by simp [removed]) ("BluetoothGattClient", 0) (by simp [remotes]) rfl

end State
end BluetoothFramework.Host
