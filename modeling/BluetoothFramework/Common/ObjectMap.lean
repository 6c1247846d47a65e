import BluetoothFramework.Library.Runs
import Mathlib.Tactic.Ring

/-!
# The object map of the C adapter

`BluetoothObjectMap` hands out a number for each object it stores. It has two ways to
choose the number, a counter that starts again at one when it has passed `maxSize`, and
the first number below `maxSize` that is free, and the insertion that follows never
replaces an object already stored.

What a caller relies on is stated over a record of the numbers it holds: each number
still gives its object, and no number was handed out twice. A run keeps that promise
exactly when no object is added while the number chosen for it is taken.
-/

namespace BluetoothFramework

universe u
variable {T : Type u}

/-- `BluetoothObjectMap`, with the map as a partial function. -/
structure BluetoothObjectMap (T : Type u) where
  objectsMap : Int → Option T := fun _ => none
  objectIncrease : Int := 1

namespace BluetoothObjectMap

/-- `std::map::insert`, which leaves an entry that exists. -/
def insert (map : BluetoothObjectMap T) (objectId : Int) (object : T) : BluetoothObjectMap T :=
  { map with
    objectsMap := fun id => if id = objectId then (map.objectsMap id).or (some object)
      else map.objectsMap id }

/-- The counter as `AddObject` uses it: one when it has passed the size. -/
def counter (maxSize : Int) (map : BluetoothObjectMap T) : Int :=
  if map.objectIncrease > maxSize then 1 else map.objectIncrease

/-- `AddObject`. The counter never passes `maxSize + 1`, which is an `int` for every size in use. -/
def addObject (maxSize : Int) (map : BluetoothObjectMap T) (object : T) :
    Int × BluetoothObjectMap T :=
  let objectIncrease := map.counter maxSize
  (objectIncrease, { map.insert objectIncrease object with objectIncrease := objectIncrease + 1 })

/-- `RemoveObject` -/
def removeObject (map : BluetoothObjectMap T) (objectId : Int) : BluetoothObjectMap T :=
  { map with objectsMap := fun id => if id = objectId then none else map.objectsMap id }

/-- `RemoveAllObject` -/
def removeAllObject (map : BluetoothObjectMap T) : BluetoothObjectMap T :=
  { map with objectsMap := fun _ => none }

/-- `GetObject` of an id. -/
def getObject (map : BluetoothObjectMap T) (objectId : Int) : Option T :=
  map.objectsMap objectId

/-- The loop of `AddLimitedObject`: the first free id from `i` on, or where it stops. -/
def firstFree (map : BluetoothObjectMap T) (i : Int) : Nat → Int
  | 0 => i
  | left + 1 => if (map.objectsMap i).isNone then i else map.firstFree (i + 1) left

/-- `AddLimitedObject` -/
def addLimitedObject (maxSize : Int) (map : BluetoothObjectMap T) (object : T) :
    Int × BluetoothObjectMap T :=
  let i := map.firstFree 1 (maxSize - 1).toNat
  if i = maxSize then (-1, map) else (i, map.insert i object)

/-- One call on the map. -/
inductive Call (T : Type u) where
  | addObject (object : T)
  | addLimitedObject (object : T)
  | removeObject (objectId : Int)
  | removeAllObject

/-- The map together with the numbers its callers hold and the objects they stand for. -/
structure Session (T : Type u) where
  map : BluetoothObjectMap T := {}
  held : List (Int × T) := []

namespace Session

/-- An object was added: the caller holds the number returned, unless it is -1. -/
def added (session : Session T) (object : T) (result : Int × BluetoothObjectMap T) : Session T where
  map := result.2
  held := if result.1 = -1 then session.held else (result.1, object) :: session.held

/-- One call. A number is held until it or all are removed. -/
def step (maxSize : Int) (session : Session T) : Call T → Option (Session T)
  | .addObject object => some (session.added object (session.map.addObject maxSize object))
  | .addLimitedObject object =>
      some (session.added object (session.map.addLimitedObject maxSize object))
  | .removeObject objectId => some {
      map := session.map.removeObject objectId
      held := session.held.filter fun entry => entry.1 ≠ objectId }
  | .removeAllObject => some { map := session.map.removeAllObject, held := [] }

/-- Every number held gives its own object, and no two objects share a number. -/
structure Faithful (session : Session T) : Prop where
  gives : ∀ entry ∈ session.held, session.map.getObject entry.1 = some entry.2
  distinct : (session.held.map Prod.fst).Nodup

/-- The counter is a number to give, and a number that names an object is held. -/
structure Known (session : Session T) : Prop where
  counts : 1 ≤ session.map.objectIncrease
  held : ∀ id, session.map.getObject id ≠ none → id ∈ session.held.map Prod.fst

/-- The number a call is about to give its object names none yet. -/
def ChoosesFree (maxSize : Int) (session : Session T) : Call T → Prop
  | .addObject _ => session.map.getObject (session.map.counter maxSize) = none
  | .addLimitedObject _ => 1 ≤ maxSize ∨ session.map.getObject 1 = none
  | _ => True

end Session

/-- An object that is inserted is found under its id, unless the id had one. All other ids are
as before. -/
theorem getObject_insert (map : BluetoothObjectMap T) (objectId : Int) (object : T) (id : Int) :
    (map.insert objectId object).getObject id =
      if id = objectId then (map.getObject id).or (some object) else map.getObject id :=
  rfl

/-- An id that is removed has no object, and all others are as before. -/
theorem getObject_removeObject (map : BluetoothObjectMap T) (objectId id : Int) :
    (map.removeObject objectId).getObject id = if id = objectId then none else map.getObject id :=
  rfl

/-- The counter in use is at least one if the stored one is. -/
theorem one_le_counter (maxSize : Int) (map : BluetoothObjectMap T)
    (counts : 1 ≤ map.objectIncrease) :
    1 ≤ map.counter maxSize := by
  rw [counter]
  split
  · exact Int.le_refl 1
  · exact counts

/-- The search stops at a free number or at its end. It starts at the number that it is given and
goes up one by one, so the bounds come with it. -/
theorem firstFree_spec (map : BluetoothObjectMap T) (left : Nat) (i : Int) :
    i ≤ map.firstFree i left ∧ map.firstFree i left ≤ i + left ∧
      (map.firstFree i left = i + left ∨ map.getObject (map.firstFree i left) = none) := by
  induction left generalizing i with
  | zero => simp [firstFree]
  | succ left inductionHypothesis =>
    obtain ⟨least, most, stops⟩ := inductionHypothesis (i + 1)
    rw [firstFree]
    split
    · rename_i free
      refine ⟨Int.le_refl i, by omega, Or.inr ?_⟩
      exact Option.isNone_iff_eq_none.mp free
    · refine ⟨by omega, by omega, ?_⟩
      rcases stops with last | free
      · exact Or.inl (by omega)
      · exact Or.inr free

/-- Where the search may start at all, it ends at the size or at a free number. The case of a
size below one is separate, since the loop then ends where it starts. -/
theorem firstFree_one (maxSize : Int) (map : BluetoothObjectMap T) :
    1 ≤ map.firstFree 1 (maxSize - 1).toNat ∧
      (map.firstFree 1 (maxSize - 1).toNat ≠ maxSize →
        (map.getObject (map.firstFree 1 (maxSize - 1).toNat) = none ↔
          1 ≤ maxSize ∨ map.getObject 1 = none)) := by
  obtain ⟨least, most, stops⟩ := map.firstFree_spec (maxSize - 1).toNat 1
  refine ⟨least, ?_⟩
  intro notFull
  by_cases room : 1 ≤ maxSize
  · have free : map.getObject (map.firstFree 1 (maxSize - 1).toNat) = none := by
      rcases stops with last | free
      · omega
      · exact free
    exact iff_of_true free (Or.inl room)
  · have none : (maxSize - 1).toNat = 0 := by omega
    rw [none, firstFree, or_iff_right room]

namespace Session

/-- Storing under a number keeps the promise exactly if the number was free. An object that is
stored under a number in use is not inserted, and its holder is led to the other one. -/
theorem faithful_insert_iff {session : Session T} (known : session.Known)
    (faithful : session.Faithful) (objectId : Int) (object : T) {map : BluetoothObjectMap T}
    (stored : map.objectsMap = (session.map.insert objectId object).objectsMap) :
    Faithful ⟨map, (objectId, object) :: session.held⟩ ↔ session.map.getObject objectId = none := by
  have lookup (id : Int) : map.getObject id =
      if id = objectId then (session.map.getObject id).or (some object) else session.map.getObject id := by
    rw [getObject, stored]
    rfl
  constructor
  · intro kept
    by_contra taken
    have twice : objectId ∈ session.held.map Prod.fst := known.held objectId taken
    exact (List.nodup_cons.mp kept.distinct).1 twice
  · intro free
    have fresh : objectId ∉ session.held.map Prod.fst := by
      intro held
      obtain ⟨entry, member, same⟩ := List.mem_map.mp held
      have gives := faithful.gives entry member
      rw [same, free] at gives
      cases gives
    constructor
    · intro entry member
      rw [lookup]
      rcases List.mem_cons.mp member with rfl | earlier
      · rw [if_pos rfl, free, Option.none_or]
      · have other : entry.1 ≠ objectId := by
          rintro rfl
          exact fresh (List.mem_map_of_mem earlier)
        rw [if_neg other]
        exact faithful.gives entry earlier
    · exact List.nodup_cons.mpr ⟨fresh, faithful.distinct⟩

/-- What a session holds is known after an insertion, whatever the counter is set to, as long as
it stays above zero. -/
theorem known_insert {session : Session T} (known : session.Known) (objectId : Int) (object : T)
    {map : BluetoothObjectMap T} (counts : 1 ≤ map.objectIncrease)
    (stored : map.objectsMap = (session.map.insert objectId object).objectsMap) :
    Known ⟨map, (objectId, object) :: session.held⟩ := by
  refine ⟨counts, ?_⟩
  intro id present
  rw [List.map_cons, List.mem_cons]
  by_cases same : id = objectId
  · exact Or.inl same
  · apply Or.inr
    apply known.held
    have lookup : map.getObject id = session.map.getObject id := by
      rw [getObject, stored]
      exact if_neg same
    rwa [← lookup]

/-- What the calls that add do to the session. -/
theorem added_addObject (maxSize : Int) {session : Session T} (known : session.Known) (object : T) :
    session.added object (session.map.addObject maxSize object) =
      ⟨(session.map.addObject maxSize object).2,
        (session.map.counter maxSize, object) :: session.held⟩ := by
  have positive := one_le_counter maxSize session.map known.counts
  have notRefused : ¬ (session.map.addObject maxSize object).1 = -1 := by
    change ¬ session.map.counter maxSize = -1
    omega
  rw [added, if_neg notRefused]
  rfl

/-- A new session holds nothing, so all of it is known. -/
theorem known_new : ({} : Session T).Known :=
  ⟨Int.le_refl 1, fun _ present => absurd rfl present⟩

/-- Every call keeps the session known. An id that wraps to zero or below is never given, which
is why the counter is bounded from below. -/
theorem known_step (maxSize : Int) (session : Session T) (call : Call T) (next : Session T)
    (known : session.Known) (stepped : session.step maxSize call = some next) : next.Known := by
  cases call with
  | addObject object =>
    cases stepped
    rw [added_addObject maxSize known]
    apply known_insert known _ object
    · have positive := one_le_counter maxSize session.map known.counts
      change 1 ≤ session.map.counter maxSize + 1
      omega
    · rfl
  | addLimitedObject object =>
    cases stepped
    rw [added, addLimitedObject]
    have positive := (firstFree_one maxSize session.map).1
    by_cases full : session.map.firstFree 1 (maxSize - 1).toNat = maxSize
    · simp only [if_pos full]
      exact known
    · simp only [if_neg full]
      rw [if_neg (by omega)]
      exact known_insert known _ object known.counts rfl
  | removeObject objectId =>
    cases stepped
    refine ⟨known.counts, ?_⟩
    intro id present
    dsimp only at present ⊢
    rw [getObject_removeObject] at present
    by_cases same : id = objectId
    · rw [if_pos same] at present
      exact absurd rfl present
    · rw [if_neg same] at present
      obtain ⟨entry, member, named⟩ := List.mem_map.mp (known.held id present)
      apply List.mem_map.mpr
      refine ⟨entry, List.mem_filter.mpr ⟨member, ?_⟩, named⟩
      simpa [named] using same
  | removeAllObject =>
    cases stepped
    refine ⟨known.counts, ?_⟩
    intro id present
    exact absurd rfl present

/-- A call keeps the promise exactly if the number it chooses is free. Only adding an object
chooses a number; the lookups and removals can break nothing. -/
theorem faithful_step_iff (maxSize : Int) (session : Session T) (call : Call T) (next : Session T)
    (known : session.Known) (faithful : session.Faithful)
    (stepped : session.step maxSize call = some next) :
    next.Faithful ↔ session.ChoosesFree maxSize call := by
  cases call with
  | addObject object =>
    cases stepped
    rw [added_addObject maxSize known]
    exact faithful_insert_iff known faithful _ object rfl
  | addLimitedObject object =>
    cases stepped
    rw [added, addLimitedObject]
    obtain ⟨positive, free⟩ := firstFree_one maxSize session.map
    by_cases full : session.map.firstFree 1 (maxSize - 1).toNat = maxSize
    · simp only [if_pos full]
      exact iff_of_true faithful (Or.inl (by omega))
    · simp only [if_neg full]
      rw [if_neg (by omega)]
      rw [ChoosesFree, ← free full]
      exact faithful_insert_iff known faithful _ object rfl
  | removeObject objectId =>
    cases stepped
    refine iff_of_true ⟨?_, ?_⟩ trivial
    · intro entry member
      obtain ⟨earlier, different⟩ := List.mem_filter.mp member
      rw [getObject_removeObject, if_neg (by simpa using different)]
      exact faithful.gives entry earlier
    · exact (List.filter_sublist.map Prod.fst).nodup faithful.distinct
  | removeAllObject =>
    cases stepped
    exact iff_of_true ⟨by rintro entry ⟨⟩, List.nodup_nil⟩ trivial

/-- In a run of calls on a new map every number given keeps naming its object until it is
removed, and no two objects share a number, exactly if no object is added while the
number chosen for it is taken. -/
theorem numbers_faithful_iff (maxSize : Int) (calls : List (Call T)) :
    Runs.Always (step maxSize) Faithful ({} : Session T) calls ↔
      Runs.Meets (step maxSize) (ChoosesFree maxSize) ({} : Session T) calls := by
  apply Runs.always_iff_meets (known_step maxSize) (faithful_step_iff maxSize)
  · exact known_new
  · exact ⟨by rintro entry ⟨⟩, List.nodup_nil⟩

/-- An object under the id one stays there when others are added, also when the counter has
wrapped and comes back to one. -/
theorem getObject_addObject_one (maxSize : Int) (map : BluetoothObjectMap T) (object : T)
    (taken : map.getObject 1 ≠ none) : (map.addObject maxSize object).2.getObject 1 ≠ none := by
  change (map.insert (map.counter maxSize) object).getObject 1 ≠ none
  rw [getObject_insert]
  split
  · simp
  · exact taken

/-- Once the first number is taken, adding up to the size and once more breaks the promise. The
counter goes back to the first number there without a look at the map. -/
theorem not_always_faithful (maxSize : Int) (last : T) (objects : List T) (session : Session T)
    (known : session.Known) (taken : session.map.getObject 1 ≠ none)
    (left : session.map.objectIncrease + objects.length = maxSize + 1) :
    ¬ Runs.Always (step maxSize) Faithful session ((objects ++ [last]).map .addObject) := by
  have stepped (session : Session T) (object : T) : session.step maxSize (.addObject object) =
      some (session.added object (session.map.addObject maxSize object)) := rfl
  induction objects generalizing session with
  | nil =>
    intro always
    obtain ⟨faithful, later⟩ := (Runs.always_cons (stepped session last) []).mp always
    have free := (faithful_step_iff maxSize session _ _ known faithful (stepped session last)).mp
      (Runs.always_first later)
    have wrapped : session.map.counter maxSize = 1 := by
      rw [List.length_nil] at left
      rw [counter, if_pos (by omega)]
    rw [ChoosesFree, wrapped] at free
    exact taken free
  | cons object objects inductionHypothesis =>
    intro always
    rw [List.length_cons] at left
    obtain ⟨_, later⟩ := (Runs.always_cons (stepped session object) _).mp always
    have counts : session.map.counter maxSize = session.map.objectIncrease := by
      rw [counter, if_neg (by omega)]
    refine inductionHypothesis _ (known_step maxSize session _ _ known (stepped session object)) ?_ ?_ later
    · exact getObject_addObject_one maxSize session.map object taken
    · change session.map.counter maxSize + 1 + objects.length = maxSize + 1
      omega

/-- One object more than the size, and none removed, and two objects share a number. The numbers
up to the size are taken in turn, and the next one is the first again. -/
theorem not_faithful_past_size (maxSize : Nat) (first last : T) (objects : List T)
    (full : objects.length + 1 = maxSize) :
    ¬ Runs.Always (step maxSize) Faithful ({} : Session T)
      ((first :: objects ++ [last]).map .addObject) := by
  intro always
  have stepped : ({} : Session T).step maxSize (.addObject first) =
      some (Session.added {} first (addObject maxSize {} first)) := rfl
  obtain ⟨_, later⟩ := (Runs.always_cons stepped _).mp always
  have counts : counter maxSize ({} : BluetoothObjectMap T) = 1 := by
    rw [counter, if_neg (by simp only; omega)]
  refine not_always_faithful maxSize last objects _ (known_step _ _ _ _ known_new stepped) ?_ ?_ later
  · change (insert {} (counter maxSize ({} : BluetoothObjectMap T)) first).getObject 1 ≠ none
    rw [counts, getObject_insert, if_pos rfl]
    simp
  · change counter maxSize ({} : BluetoothObjectMap T) + 1 + objects.length = maxSize + 1
    omega

/-- `MAX_OBJECT_NUM` of the socket adapter. -/
def maxObjectNum : Nat := 10000

/-- In the map of the socket adapter the last of 10001 sockets gets the number of the first. -/
theorem sockets_share_number :
    ¬ Runs.Always (step maxObjectNum) Faithful ({} : Session Nat)
      ((0 :: (List.range 9999).map (· + 1) ++ [10000]).map .addObject) :=
  not_faithful_past_size maxObjectNum 0 10000 _ (by rw [List.length_map, List.length_range]; rfl)

end Session
end BluetoothObjectMap
end BluetoothFramework
