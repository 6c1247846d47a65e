import Mathlib.Tactic.Common

/-!
# The observers of advertising sets

`BluetoothObserverMap` maps handles to observers. A handle is kept as an `int`, but the
lookups take and give it as a `uint8_t`. An observer may stand under several handles;
where a function starts from an observer, it uses the first entry with it.
-/

namespace BluetoothFramework

universe u

/-- `BLE_INVALID_ADVERTISING_HANDLE` -/
def bleInvalidAdvertisingHandle : Int := 0xFF

/-- The conversion of an `int` to `uint8_t`. -/
def toUint8 (handle : Int) : Int :=
  handle % 256

/-- `BluetoothObserverMap`, whose `std::map` lists its entries in the order of their handles. -/
structure BluetoothObserverMap (T : Type u) where
  observers : List (Int × T) := []
  sorted : observers.Pairwise (fun first second => first.1 < second.1) := by exact List.Pairwise.nil

namespace BluetoothObserverMap

variable {T : Type u}

/-- Put an entry at its place among entries with other handles. -/
def place (entry : Int × T) : List (Int × T) → List (Int × T)
  | [] => [entry]
  | first :: rest => if entry.1 < first.1 then entry :: first :: rest else first :: place entry rest

/-- Placing an entry in its order adds it and nothing else. -/
theorem mem_place (entry other : Int × T) (entries : List (Int × T)) :
    other ∈ place entry entries ↔ other = entry ∨ other ∈ entries := by
  induction entries with
  | nil => simp [place]
  | cons first rest inductionHypothesis =>
    rw [place]
    split
    · rw [List.mem_cons]
    · rw [List.mem_cons, inductionHypothesis, List.mem_cons]
      tauto

/-- Placing an entry keeps the order of the keys, where its key is new. The old entry of the key
has been removed before. -/
theorem sorted_place (entry : Int × T) (entries : List (Int × T))
    (sorted : entries.Pairwise (fun first second => first.1 < second.1))
    (absent : ∀ other ∈ entries, other.1 ≠ entry.1) :
    (place entry entries).Pairwise (fun first second => first.1 < second.1) := by
  induction entries with
  | nil => exact List.pairwise_singleton _ _
  | cons first rest inductionHypothesis =>
    obtain ⟨least, restSorted⟩ := List.pairwise_cons.mp sorted
    have different : first.1 ≠ entry.1 := absent first (by simp)
    rw [place]
    split
    · rename_i before
      rw [List.pairwise_cons]
      refine ⟨?_, sorted⟩
      intro other member
      rcases List.mem_cons.mp member with rfl | later
      · exact before
      · exact Int.lt_trans before (least other later)
    · rename_i notBefore
      rw [List.pairwise_cons]
      constructor
      · intro other member
        rcases (mem_place entry other rest).mp member with rfl | later
        · omega
        · exact least other later
      · exact inductionHypothesis restSorted fun other later =>
          absent other (List.mem_cons_of_mem first later)

/-- `Register`: an entry with the handle is replaced. -/
def register (map : BluetoothObserverMap T) (handle : Int) (observer : T) :
    BluetoothObserverMap T where
  observers := place (handle, observer) (map.observers.filter fun entry => entry.1 ≠ handle)
  sorted := sorted_place _ _ (map.sorted.filter _) fun other member => by
    simpa using (List.mem_filter.mp member).2

variable [DecidableEq T]

/-- The first entry with the observer. -/
def firstEntry (map : BluetoothObserverMap T) (observer : T) : Option (Int × T) :=
  map.observers.find? fun entry => entry.2 = observer

/-- `Deregister` removes the first entry with the observer. -/
def deregister (map : BluetoothObserverMap T) (observer : T) : BluetoothObserverMap T where
  observers := map.observers.eraseP fun entry => entry.2 = observer
  sorted := map.sorted.sublist List.eraseP_sublist

/-- `GetAdvertiserHandle` -/
def getAdvertiserHandle (map : BluetoothObserverMap T) (observer : T) : Int :=
  match map.firstEntry observer with
  | some entry => toUint8 entry.1
  | none => bleInvalidAdvertisingHandle

/-- `IsExistAdvertiserCallback`, with the handle it finds. -/
def isExistAdvertiserCallback (map : BluetoothObserverMap T) (observer : T) : Option Int :=
  (map.firstEntry observer).map Prod.fst

omit [DecidableEq T] in
/-- `GetAdvertiserObserver` of a `uint8_t`. -/
def getAdvertiserObserver (map : BluetoothObserverMap T) (advHandle : Int) : Option T :=
  (map.observers.find? fun entry => entry.1 = advHandle).map Prod.snd

/-- `PopAdvertiserObserver` of a `uint8_t`; what it returns is what `GetAdvertiserObserver`
finds. -/
def popAdvertiserObserver (map : BluetoothObserverMap T) (advHandle : Int) :
    BluetoothObserverMap T where
  observers := map.observers.eraseP fun entry => entry.1 = advHandle
  sorted := map.sorted.sublist List.eraseP_sublist

omit [DecidableEq T] in
/-- A registration leaves the entries of other handles and puts its own in the place of an older
one. -/
theorem mem_register (map : BluetoothObserverMap T) (handle : Int) (observer : T)
    (entry : Int × T) :
    entry ∈ (map.register handle observer).observers ↔
      entry = (handle, observer) ∨ (entry ∈ map.observers ∧ entry.1 ≠ handle) := by
  rw [register, mem_place, List.mem_filter]
  simp

/-- A deregistration only removes entries. -/
theorem deregister_sublist (map : BluetoothObserverMap T) (observer : T) :
    (map.deregister observer).observers.Sublist map.observers :=
  List.eraseP_sublist

omit [DecidableEq T] in
/-- Popping the observer of a handle only removes entries. -/
theorem popAdvertiserObserver_sublist (map : BluetoothObserverMap T) (advHandle : Int) :
    (map.popAdvertiserObserver advHandle).observers.Sublist map.observers :=
  List.eraseP_sublist

/-- The first entry with an observer is an entry with it. -/
theorem firstEntry_mem {map : BluetoothObserverMap T} {observer : T} {entry : Int × T}
    (found : map.firstEntry observer = some entry) : entry ∈ map.observers ∧ entry.2 = observer :=
  ⟨List.mem_of_find?_eq_some found, by simpa using List.find?_some found⟩

/-- Where no first entry is found for an observer, no entry has it. The search stops at the
first entry that it fits. -/
theorem firstEntry_eq_none {map : BluetoothObserverMap T} {observer : T}
    (absent : map.firstEntry observer = none) (handle : Int) :
      (handle, observer) ∉ map.observers := by
  intro member
  simpa using List.find?_eq_none.mp absent (handle, observer) member

end BluetoothObserverMap
end BluetoothFramework
