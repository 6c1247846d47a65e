import BluetoothFramework.Library.SearchTree

/-!
# Maps over a strict order

A search tree together with the fact that its listing is sorted. Where the comparison
is a strict order on all keys, every operation keeps that fact, so a value of this type
is a map: its keys are distinct and lookup reads back what was inserted first.
-/

namespace SearchTree

universe u v

/-- A comparison that is a strict order on all keys. -/
class StrictOrder {Key : Type u} (lt : Key → Key → Bool) : Prop where
  laws : StrictOrderOn lt (fun _ => True)

/-- A map from keys to values, ordered by the comparison. -/
structure OrderedMap {Key : Type u} (lt : Key → Key → Bool) (Value : Type v) where
  tree : ColorTree Key Value
  sorted : tree.Sorted lt

namespace OrderedMap

variable {Key : Type u} {Value : Type v} {lt : Key → Key → Bool}

/-- Every key lies in the domain, which is all keys here. -/
theorem within (map : OrderedMap lt Value) : map.tree.Within (fun _ => True) :=
  fun _ _ => trivial

/-- The map without entries. -/
def empty : OrderedMap lt Value :=
  ⟨.nil, List.Pairwise.nil⟩

instance : EmptyCollection (OrderedMap lt Value) :=
  ⟨empty⟩

/-- The entries in key order. -/
def toList (map : OrderedMap lt Value) : List (Key × Value) :=
  map.tree.toList

/-- The entry of a key. -/
def find (map : OrderedMap lt Value) (key : Key) : Option (Key × Value) :=
  map.tree.find lt key

/-- Insert unless the key is present. -/
def emplace [order : StrictOrder lt] (map : OrderedMap lt Value) (key : Key) (value : Value) :
    OrderedMap lt Value :=
  ⟨map.tree.emplace lt key value,
    (ColorTree.sorted_emplace order.laws key value trivial map.tree map.within map.sorted).2⟩

/-- Insert entries one after another. -/
def emplaceAll [StrictOrder lt] (map : OrderedMap lt Value) (entries : List (Key × Value)) :
    OrderedMap lt Value :=
  entries.foldl (fun map entry => map.emplace entry.1 entry.2) map

/-- Nothing is found in an empty map. -/
@[simp] theorem find_empty (key : Key) : (∅ : OrderedMap lt Value).find key = none :=
  rfl

/-- Each key occurs once. -/
theorem nodup_keys [order : StrictOrder lt] (map : OrderedMap lt Value) : map.tree.keys.Nodup :=
  ColorTree.nodup_keys order.laws map.tree map.within map.sorted

/-- Lookup after an insertion. -/
theorem find_emplace [DecidableEq Key] [order : StrictOrder lt] (map : OrderedMap lt Value)
    (key : Key) (value : Value) (sought : Key) :
    (map.emplace key value).find sought =
      (map.find sought).or (if key = sought then some (key, value) else none) :=
  ColorTree.find_emplace order.laws key value trivial map.tree map.within map.sorted sought trivial

/-- Insertions one after another go through the tree, so that facts about trees carry over. -/
theorem tree_emplaceAll [StrictOrder lt] (map : OrderedMap lt Value)
    (entries : List (Key × Value)) :
    (map.emplaceAll entries).tree = map.tree.emplaceAll lt entries := by
  induction entries generalizing map with
  | nil => rfl
  | cons entry rest inductionHypothesis => exact inductionHypothesis (map.emplace entry.1 entry.2)

/-- Inserting the entries of a map into an empty one rebuilds it: the same entries arrive,
and there is one order in which a map can list them. -/
theorem rebuild [order : StrictOrder lt] (map : OrderedMap lt Value) :
    ((∅ : OrderedMap lt Value).emplaceAll map.toList).toList = map.toList := by
  have entries : ((∅ : OrderedMap lt Value).emplaceAll map.toList).toList.Perm map.toList := by
    rw [toList]
    rw [tree_emplaceAll]
    refine ColorTree.toList_emplaceAll lt (fun a b => order.laws.separates a b trivial trivial) _ _ ?_
    exact map.nodup_keys
  refine entries.eq_of_pairwise ?_ (OrderedMap.sorted _) map.sorted
  intro first second _ _ less greater
  rw [order.laws.asymmetric first.1 second.1 trivial trivial less] at greater
  cases greater

end OrderedMap
end SearchTree
