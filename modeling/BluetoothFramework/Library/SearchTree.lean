import Mathlib.Tactic.Common

/-!
# Ordered maps as balanced search trees

A red-black tree with unique insertion, written so that the comparison is an arbitrary
Boolean function. The operations follow a C++ `std::map`: insertion descends by
comparing the key with each node on its path and leaves the tree alone when neither
is less; otherwise it attaches a red leaf and repairs two red nodes in a row on the way
up. Lookup descends to the lower bound of the key and compares once more.

The first part asks nothing of the comparison: an insertion changes the listing of the
tree in one place at most. The second part assumes a strict order on a domain that
contains the keys, and shows that the tree then is a map: the listing is sorted, each
key occurs once, and lookup returns the value inserted first.
-/

namespace SearchTree

universe u v

/-- The color of a node. -/
inductive Color where
  | red
  | black
deriving DecidableEq, Repr

/-- A search tree with an entry in each node. -/
inductive ColorTree (Key : Type u) (Value : Type v) where
  | nil
  | node (color : Color) (left : ColorTree Key Value) (key : Key) (value : Value)
      (right : ColorTree Key Value)
deriving DecidableEq, Repr

namespace ColorTree

variable {Key : Type u} {Value : Type v}

/-- The entries in iteration order. -/
def toList : ColorTree Key Value → List (Key × Value)
  | nil => []
  | node _ left key value right => left.toList ++ (key, value) :: right.toList

/-- The keys in iteration order. -/
def keys (tree : ColorTree Key Value) : List Key :=
  tree.toList.map Prod.fst

/-- Repair a black node whose left child and one of its children are both red. A red
uncle is recolored; otherwise the subtree is rotated. -/
def fixLeft : Color → ColorTree Key Value → Key → Value → ColorTree Key Value → ColorTree Key Value
  | .black, node .red (node .red a p pv b) q qv c, r, rv, node .red d s sv e =>
      node .red (node .black (node .red a p pv b) q qv c) r rv (node .black d s sv e)
  | .black, node .red a p pv (node .red b q qv c), r, rv, node .red d s sv e =>
      node .red (node .black a p pv (node .red b q qv c)) r rv (node .black d s sv e)
  | .black, node .red (node .red a p pv b) q qv c, r, rv, right =>
      node .black (node .red a p pv b) q qv (node .red c r rv right)
  | .black, node .red a p pv (node .red b q qv c), r, rv, right =>
      node .black (node .red a p pv b) q qv (node .red c r rv right)
  | color, left, key, value, right => node color left key value right

/-- The mirror image of `fixLeft`. -/
def fixRight : Color → ColorTree Key Value → Key → Value → ColorTree Key Value → ColorTree Key Value
  | .black, node .red a p pv b, q, qv, node .red c r rv (node .red d s sv e) =>
      node .red (node .black a p pv b) q qv (node .black c r rv (node .red d s sv e))
  | .black, node .red a p pv b, q, qv, node .red (node .red c r rv d) s sv e =>
      node .red (node .black a p pv b) q qv (node .black (node .red c r rv d) s sv e)
  | .black, left, q, qv, node .red c r rv (node .red d s sv e) =>
      node .black (node .red left q qv c) r rv (node .red d s sv e)
  | .black, left, q, qv, node .red (node .red c r rv d) s sv e =>
      node .black (node .red left q qv c) r rv (node .red d s sv e)
  | color, left, key, value, right => node color left key value right

/-- The root is always black. -/
def blacken : ColorTree Key Value → ColorTree Key Value
  | nil => nil
  | node _ left key value right => node .black left key value right

/-- Whether the descent of an insertion stops at a node. -/
def meets (lt : Key → Key → Bool) (key : Key) : ColorTree Key Value → Bool
  | nil => false
  | node _ left other _ right =>
      if lt key other then left.meets lt key
      else if lt other key then right.meets lt key
      else true

/-- Attach a leaf where the descent ends and repair the path. -/
def grow (lt : Key → Key → Bool) (key : Key) (value : Value) :
    ColorTree Key Value → ColorTree Key Value
  | nil => node .red nil key value nil
  | node color left other otherValue right =>
      if lt key other then fixLeft color (left.grow lt key value) other otherValue right
      else if lt other key then fixRight color left other otherValue (right.grow lt key value)
      else node color left other otherValue right

/-- Unique insertion: `std::map::insert` and `std::map::emplace`. -/
def emplace (lt : Key → Key → Bool) (key : Key) (value : Value) (tree : ColorTree Key Value) :
    ColorTree Key Value :=
  if tree.meets lt key then tree else (tree.grow lt key value).blacken

/-- The first entry in iteration order that is not less than the key, as far as the
descent can tell. -/
def lowerBound (lt : Key → Key → Bool) (key : Key) : ColorTree Key Value → Option (Key × Value)
  | nil => none
  | node _ left other value right =>
      if lt other key then right.lowerBound lt key
      else (left.lowerBound lt key).or (some (other, value))

/-- Lookup: `std::map::find`. -/
def find (lt : Key → Key → Bool) (key : Key) (tree : ColorTree Key Value) : Option (Key × Value) :=
  match tree.lowerBound lt key with
  | some entry => if lt key entry.1 then none else some entry
  | none => none

/-- Insert entries one after another. -/
def emplaceAll (lt : Key → Key → Bool) (entries : List (Key × Value)) (tree : ColorTree Key Value) :
    ColorTree Key Value :=
  entries.foldl (fun tree entry => tree.emplace lt entry.1 entry.2) tree

/-! ## Any comparison -/

/-- The repair on the left keeps the listing: a rotation or a change of colors moves no entry
past another. -/
@[simp] theorem toList_fixLeft (color : Color) (left : ColorTree Key Value) (key : Key)
    (value : Value) (right : ColorTree Key Value) :
    (fixLeft color left key value right).toList = left.toList ++ (key, value) :: right.toList := by
  unfold fixLeft
  split <;> simp [toList]

/-- The repair on the right keeps the listing. -/
@[simp] theorem toList_fixRight (color : Color) (left : ColorTree Key Value) (key : Key)
    (value : Value) (right : ColorTree Key Value) :
    (fixRight color left key value right).toList = left.toList ++ (key, value) :: right.toList := by
  unfold fixRight
  split <;> simp [toList]

/-- The color of the root plays no part in the listing. -/
@[simp] theorem toList_blacken (tree : ColorTree Key Value) :
    tree.blacken.toList = tree.toList := by
  cases tree <;> rfl

/-- Unless the descent stops at a node, growing adds the entry in one place. The entries before
and behind it stay as they were, whatever the repair rotates. -/
theorem toList_grow (lt : Key → Key → Bool) (key : Key) (value : Value) (tree : ColorTree Key Value)
    (new : tree.meets lt key = false) :
    ∃ before after, tree.toList = before ++ after ∧
      (tree.grow lt key value).toList = before ++ (key, value) :: after := by
  induction tree with
  | nil => exact ⟨[], [], rfl, rfl⟩
  | node color left other otherValue right leftHypothesis rightHypothesis =>
    rw [meets] at new
    unfold grow
    by_cases less : lt key other = true
    · rw [if_pos less] at new ⊢
      obtain ⟨before, after, split, grown⟩ := leftHypothesis new
      refine ⟨before, after ++ (other, otherValue) :: right.toList, ?_, ?_⟩
      · rw [toList, split, List.append_assoc]
      · rw [toList_fixLeft, grown, List.append_assoc, List.cons_append]
    · rw [if_neg less] at new ⊢
      by_cases greater : lt other key = true
      · rw [if_pos greater] at new ⊢
        obtain ⟨before, after, split, grown⟩ := rightHypothesis new
        refine ⟨left.toList ++ (other, otherValue) :: before, after, ?_, ?_⟩
        · rw [toList, split, List.append_assoc, List.cons_append]
        · rw [toList_fixRight, grown, List.append_assoc, List.cons_append]
      · rw [if_neg greater] at new
        cases new

/-- Insertion leaves the entries alone or adds the new one to them. -/
theorem toList_emplace (lt : Key → Key → Bool) (key : Key) (value : Value)
    (tree : ColorTree Key Value) :
    (tree.meets lt key = true ∧ tree.emplace lt key value = tree) ∨
      (tree.meets lt key = false ∧
        ((tree.emplace lt key value).toList.Perm ((key, value) :: tree.toList))) := by
  rw [emplace]
  cases met : tree.meets lt key with
  | true => exact .inl ⟨rfl, rfl⟩
  | false =>
    obtain ⟨before, after, split, grown⟩ := toList_grow lt key value tree met
    refine .inr ⟨rfl, ?_⟩
    rw [if_neg (by simp), toList_blacken, grown, split]
    exact List.perm_middle

/-- A key the descent stops at occurs in the tree, if incomparable keys are equal. No order is
needed for it, as the descent compares with the very node at which it stops. -/
theorem mem_keys_of_meets (lt : Key → Key → Bool) (key : Key) (tree : ColorTree Key Value)
    (separates : ∀ other ∈ tree.keys, lt key other = false → lt other key = false → key = other)
    (met : tree.meets lt key = true) : key ∈ tree.keys := by
  induction tree with
  | nil => cases met
  | node color left other value right leftHypothesis rightHypothesis =>
    simp only [keys, toList, List.map_append, List.map_cons, List.mem_append, List.mem_cons]
      at separates ⊢
    rw [meets] at met
    split at met
    · exact .inl (leftHypothesis (fun candidate member => separates candidate (.inl member)) met)
    · split at met
      · exact .inr (.inr (rightHypothesis
          (fun candidate member => separates candidate (.inr (.inr member))) met))
      · rename_i notLess notGreater
        have same : key = other := separates other (.inr (.inl rfl)) (by simpa using notLess)
          (by simpa using notGreater)
        exact .inr (.inl same)

/-- An entry list with distinct keys, none of them present, is inserted completely. In which
order they are then listed depends on the comparison, so only a permutation is claimed. -/
theorem toList_emplaceAll (lt : Key → Key → Bool)
    (separates : ∀ first second, lt first second = false → lt second first = false → first = second)
    (entries : List (Key × Value)) (tree : ColorTree Key Value)
    (distinct : (tree.keys ++ entries.map Prod.fst).Nodup) :
    (tree.emplaceAll lt entries).toList.Perm (tree.toList ++ entries) := by
  induction entries generalizing tree with
  | nil => rw [List.append_nil]; exact .refl _
  | cons entry rest inductionHypothesis =>
    have absent : entry.1 ∉ tree.keys := by
      intro present
      exact (List.nodup_append.mp distinct).2.2 _ present _ (by simp) rfl
    rcases toList_emplace lt entry.1 entry.2 tree with ⟨met, _⟩ | ⟨_, added⟩
    · exact absurd (mem_keys_of_meets lt entry.1 tree (fun other _ => separates entry.1 other) met) absent
    · have rearranged : (tree.emplace lt entry.1 entry.2).toList.Perm (tree.toList ++ [entry]) :=
        added.trans (List.perm_append_singleton _ _).symm
      have nodup : ((tree.emplace lt entry.1 entry.2).keys ++ rest.map Prod.fst).Nodup := by
        have shuffled := (rearranged.map Prod.fst).append_right (rest.map Prod.fst)
        refine shuffled.nodup_iff.mpr ?_
        simpa [keys] using distinct
      have inserted := inductionHypothesis (tree.emplace lt entry.1 entry.2) nodup
      refine inserted.trans ?_
      simpa using rearranged.append_right rest

/-- Keys only come from the tree and the entries inserted into it. -/
theorem mem_keys_emplaceAll (lt : Key → Key → Bool) (entries : List (Key × Value))
    (tree : ColorTree Key Value) (key : Key) (present : key ∈ (tree.emplaceAll lt entries).keys) :
    key ∈ tree.keys ∨ key ∈ entries.map Prod.fst := by
  induction entries generalizing tree with
  | nil => exact .inl present
  | cons entry rest inductionHypothesis =>
    rcases inductionHypothesis (tree.emplace lt entry.1 entry.2) present with earlier | later
    · rcases toList_emplace lt entry.1 entry.2 tree with ⟨_, same⟩ | ⟨_, added⟩
      · exact .inl (same ▸ earlier)
      · have either := (added.map Prod.fst).mem_iff.mp earlier
        rw [List.map_cons, List.mem_cons] at either
        rcases either with rfl | old
        · exact .inr (by simp)
        · exact .inl old
    · exact .inr (List.mem_cons_of_mem _ later)

/-- Lookup returns entries of the tree. -/
theorem mem_of_lowerBound (lt : Key → Key → Bool) (key : Key) (tree : ColorTree Key Value)
    (entry : Key × Value) (bound : tree.lowerBound lt key = some entry) : entry ∈ tree.toList := by
  induction tree with
  | nil => cases bound
  | node color left other value right leftHypothesis rightHypothesis =>
    rw [toList, List.mem_append, List.mem_cons]
    rw [lowerBound] at bound
    split at bound
    · exact .inr (.inr (rightHypothesis bound))
    · rcases Option.or_eq_some_iff.mp bound with earlier | ⟨_, here⟩
      · exact .inl (leftHypothesis earlier)
      · exact .inr (.inl (Option.some.inj here).symm)

/-- What is found is the lower bound of the key. The last comparison only decides whether it is
given. -/
theorem lowerBound_of_find (lt : Key → Key → Bool) (key : Key) (tree : ColorTree Key Value)
    (entry : Key × Value) (found : tree.find lt key = some entry) :
    tree.lowerBound lt key = some entry := by
  rw [find] at found
  cases bound : tree.lowerBound lt key with
  | none => simp [bound] at found
  | some candidate =>
    simp only [bound, Option.ite_none_left_eq_some] at found
    exact found.2

end ColorTree

/-! ## Strict orders -/

/-- The comparison is a strict order on the domain: irreflexive, asymmetric and
transitive, and incomparable keys are equal. -/
structure StrictOrderOn {Key : Type u} (lt : Key → Key → Bool) (domain : Key → Prop) : Prop where
  irreflexive : ∀ a, domain a → lt a a = false
  asymmetric : ∀ a b, domain a → domain b → lt a b = true → lt b a = false
  transitive : ∀ a b c, domain a → domain b → domain c →
    lt a b = true → lt b c = true → lt a c = true
  separates : ∀ a b, domain a → domain b → lt a b = false → lt b a = false → a = b

namespace ColorTree

variable {Key : Type u} {Value : Type v}

/-- Every key lies in the domain. -/
def Within (domain : Key → Prop) (tree : ColorTree Key Value) : Prop :=
  ∀ entry ∈ tree.toList, domain entry.1

/-- The listing is strictly increasing. -/
def Sorted (lt : Key → Key → Bool) (tree : ColorTree Key Value) : Prop :=
  tree.toList.Pairwise (fun first second => lt first.1 second.1 = true)

variable {lt : Key → Key → Bool} {domain : Key → Prop}

/-- The keys of a node lie in the domain exactly if those of its parts do. -/
theorem within_node {color : Color} {left right : ColorTree Key Value} {key : Key} {value : Value} :
    Within domain (node color left key value right) ↔
      Within domain left ∧ domain key ∧ Within domain right := by
  simp only [Within, toList, List.mem_append, List.mem_cons]
  constructor
  · intro within
    exact ⟨fun entry member => within entry (.inl member), within (key, value) (.inr (.inl rfl)),
      fun entry member => within entry (.inr (.inr member))⟩
  · rintro ⟨leftWithin, here, rightWithin⟩ entry (member | rfl | member)
    · exact leftWithin entry member
    · exact here
    · exact rightWithin entry member

/-- A node is sorted exactly if its parts are, the left one lies below the key, the right one
above it, and the left one below the right. The last part is stated too, since the comparison
need not be transitive outside of the domain. -/
theorem sorted_node (color : Color) {left right : ColorTree Key Value} {key : Key} {value : Value} :
    Sorted lt (node color left key value right) ↔
      Sorted lt left ∧ Sorted lt right ∧ (∀ entry ∈ left.toList, lt entry.1 key = true) ∧
        (∀ entry ∈ right.toList, lt key entry.1 = true) ∧
        ∀ first ∈ left.toList, ∀ second ∈ right.toList, lt first.1 second.1 = true := by
  simp only [Sorted, toList, List.pairwise_append, List.pairwise_cons, List.mem_cons]
  constructor
  · rintro ⟨leftSorted, ⟨above, rightSorted⟩, cross⟩
    exact ⟨leftSorted, rightSorted, fun entry member => cross entry member _ (.inl rfl), above,
      fun first member second other => cross first member second (.inr other)⟩
  · rintro ⟨leftSorted, rightSorted, below, above, cross⟩
    refine ⟨leftSorted, ⟨above, rightSorted⟩, ?_⟩
    rintro first member second (rfl | other)
    · exact below first member
    · exact cross first member second other

/-- In a strict order each key occurs once. -/
theorem nodup_keys (order : StrictOrderOn lt domain) (tree : ColorTree Key Value)
    (within : Within domain tree) (sorted : Sorted lt tree) : tree.keys.Nodup := by
  refine List.pairwise_map.mpr (sorted.imp_of_mem ?_)
  intro first second inside _ less same
  rw [← same, order.irreflexive first.1 (within first inside)] at less
  cases less

/-- What the grown tree lists, in terms of membership. -/
theorem mem_grow (key : Key) (value : Value) (tree : ColorTree Key Value)
    (new : tree.meets lt key = false) (entry : Key × Value) :
    entry ∈ (tree.grow lt key value).toList ↔ entry = (key, value) ∨ entry ∈ tree.toList := by
  obtain ⟨before, after, split, grown⟩ := toList_grow lt key value tree new
  simp only [split, grown, List.mem_append, List.mem_cons]
  tauto

/-- Growing keeps the listing sorted. The descent goes left of the keys above and right of those
below, so the place of the new entry is the right one. -/
theorem sorted_grow (order : StrictOrderOn lt domain) (key : Key) (value : Value)
    (inside : domain key)
    (tree : ColorTree Key Value) (within : Within domain tree) (sorted : Sorted lt tree)
    (new : tree.meets lt key = false) : Sorted lt (tree.grow lt key value) := by
  induction tree with
  | nil => exact List.pairwise_singleton _ _
  | node color left other otherValue right leftHypothesis rightHypothesis =>
    obtain ⟨leftWithin, here, rightWithin⟩ := within_node.mp within
    obtain ⟨leftSorted, rightSorted, below, above, cross⟩ := (sorted_node color).mp sorted
    rw [meets] at new
    unfold grow
    by_cases less : lt key other = true
    · rw [if_pos less] at new ⊢
      have grown := leftHypothesis leftWithin leftSorted new
      rw [Sorted]
      rw [toList_fixLeft]
      refine (sorted_node color).mpr ⟨grown, rightSorted, ?_, above, ?_⟩
      · intro entry member
        rcases (mem_grow key value left new entry).mp member with rfl | old
        · exact less
        · exact below entry old
      · intro first member second memberRight
        rcases (mem_grow key value left new first).mp member with rfl | old
        · exact order.transitive _ _ _ inside here (rightWithin second memberRight) less
            (above second memberRight)
        · exact cross first old second memberRight
    · rw [if_neg less] at new ⊢
      by_cases greater : lt other key = true
      · rw [if_pos greater] at new ⊢
        have grown := rightHypothesis rightWithin rightSorted new
        rw [Sorted]
        rw [toList_fixRight]
        refine (sorted_node color).mpr ⟨leftSorted, grown, below, ?_, ?_⟩
        · intro entry member
          rcases (mem_grow key value right new entry).mp member with rfl | old
          · exact greater
          · exact above entry old
        · intro first memberLeft second member
          rcases (mem_grow key value right new second).mp member with rfl | old
          · exact order.transitive _ _ _ (leftWithin first memberLeft) here inside
              (below first memberLeft) greater
          · exact cross first memberLeft second old
      · rw [if_neg greater] at new
        cases new

/-- On a listing that the key cuts in two, the descent to the lower bound finds the first
entry that is not less than the key. -/
theorem lowerBound_chain (key : Key) (tree : ColorTree Key Value) (sorted : Sorted lt tree)
    (cut : ∀ first ∈ tree.toList, ∀ second ∈ tree.toList, lt first.1 second.1 = true →
      lt second.1 key = true → lt first.1 key = true) :
    tree.lowerBound lt key = tree.toList.find? (fun entry => !lt entry.1 key) := by
  induction tree with
  | nil => rfl
  | node color left other value right leftHypothesis rightHypothesis =>
    obtain ⟨leftSorted, rightSorted, below, above, cross⟩ := (sorted_node color).mp sorted
    have inLeft (entry) (member : entry ∈ left.toList) :
        entry ∈ (node color left other value right).toList := by simp [toList, member]
    have inRight (entry) (member : entry ∈ right.toList) :
        entry ∈ (node color left other value right).toList := by simp [toList, member]
    rw [lowerBound]
    rw [toList, List.find?_append]
    by_cases less : lt other key = true
    · have passed : left.toList.find? (fun entry => !lt entry.1 key) = none := by
        apply List.find?_eq_none.mpr
        intro entry member
        simpa using cut entry (inLeft entry member) (other, value) (by simp [toList])
          (below entry member) less
      rw [if_pos less, passed, Option.none_or, List.find?_cons_of_neg (by simpa using less)]
      exact rightHypothesis rightSorted fun first member second other =>
        cut first (inRight first member) second (inRight second other)
    · rw [if_neg less, List.find?_cons_of_pos (by simpa using less),
        leftHypothesis leftSorted fun first member second other =>
          cut first (inLeft first member) second (inLeft second other)]

/-- In a sorted tree the descent to the lower bound finds the first entry that is not
less than the key. -/
theorem lowerBound_sorted (order : StrictOrderOn lt domain) (key : Key) (inside : domain key)
    (tree : ColorTree Key Value) (within : Within domain tree) (sorted : Sorted lt tree) :
    tree.lowerBound lt key = tree.toList.find? (fun entry => !lt entry.1 key) :=
  lowerBound_chain key tree sorted fun first member second other =>
    order.transitive _ _ _ (within first member) (within second other) inside

/-- Lookup in a sorted tree finds exactly the entries of the key. The order must be strict on the
keys that occur, and nothing is asked of it elsewhere. -/
theorem find_eq_some_iff (order : StrictOrderOn lt domain) (key : Key) (inside : domain key)
    (tree : ColorTree Key Value) (within : Within domain tree) (sorted : Sorted lt tree)
    (entry : Key × Value) :
    tree.find lt key = some entry ↔ entry ∈ tree.toList ∧ entry.1 = key := by
  rw [find]
  rw [lowerBound_sorted order key inside tree within sorted]
  constructor
  · intro found
    cases bound : tree.toList.find? (fun entry => !lt entry.1 key) with
    | none => simp [bound] at found
    | some candidate =>
      have member := List.mem_of_find?_eq_some bound
      have notLess : lt candidate.1 key = false := by simpa using List.find?_some bound
      simp only [bound, Option.ite_none_left_eq_some, Option.some.injEq, Bool.not_eq_true] at found
      obtain ⟨notGreater, rfl⟩ := found
      exact ⟨member, order.separates _ _ (within candidate member) inside notLess notGreater⟩
  · rintro ⟨member, rfl⟩
    have itself : lt entry.1 entry.1 = false := order.irreflexive entry.1 inside
    obtain ⟨before, after, split⟩ := List.append_of_mem member
    have smaller : ∀ earlier ∈ before, lt earlier.1 entry.1 = true := by
      intro earlier inBefore
      rw [Sorted] at sorted
      rw [split] at sorted
      exact (List.pairwise_append.mp sorted).2.2 earlier inBefore entry (by simp)
    have bound : tree.toList.find? (fun candidate => !lt candidate.1 entry.1) = some entry := by
      rw [split, List.find?_append, List.find?_eq_none.mpr (by simpa using smaller), Option.none_or]
      exact List.find?_cons_of_pos (by simpa using itself)
    simp [bound, itself]

/-- Insertion keeps the tree within the domain and sorted. A key that is met changes nothing, and
a new one is put in its place by the descent. -/
theorem sorted_emplace (order : StrictOrderOn lt domain) (key : Key) (value : Value)
    (inside : domain key)
    (tree : ColorTree Key Value) (within : Within domain tree) (sorted : Sorted lt tree) :
    Within domain (tree.emplace lt key value) ∧ Sorted lt (tree.emplace lt key value) := by
  rw [emplace]
  cases met : tree.meets lt key with
  | true => exact ⟨within, sorted⟩
  | false =>
    rw [if_neg (by simp)]
    constructor
    · intro entry member
      rw [toList_blacken] at member
      rcases (mem_grow key value tree met entry).mp member with rfl | old
      · exact inside
      · exact within entry old
    · rw [Sorted]
      rw [toList_blacken]
      exact sorted_grow order key value inside tree within sorted met

/-- Insertion adds a key that is new and keeps the entry of one that is not. It is said of every
key that is looked up afterwards, the others included. -/
theorem find_emplace [DecidableEq Key] (order : StrictOrderOn lt domain) (key : Key) (value : Value)
    (inside : domain key) (tree : ColorTree Key Value) (within : Within domain tree)
    (sorted : Sorted lt tree) (sought : Key) (admitted : domain sought) :
    (tree.emplace lt key value).find lt sought =
      (tree.find lt sought).or (if key = sought then some (key, value) else none) := by
  obtain ⟨newWithin, newSorted⟩ := sorted_emplace order key value inside tree within sorted
  have lookup := find_eq_some_iff order sought admitted tree within sorted
  apply Option.ext
  intro entry
  rw [find_eq_some_iff order sought admitted _ newWithin newSorted, Option.or_eq_some_iff, lookup,
    Option.eq_none_iff_forall_ne_some]
  simp only [ne_eq, lookup]
  rcases toList_emplace lt key value tree with ⟨met, same⟩ | ⟨new, added⟩
  · have present : key ∈ tree.keys := by
      apply mem_keys_of_meets lt key tree _ met
      intro other member
      obtain ⟨entry, listed, rfl⟩ := List.mem_map.mp member
      exact order.separates _ _ inside (within entry listed)
    obtain ⟨first, listed, isKey⟩ := List.mem_map.mp present
    rw [same]
    constructor
    · exact .inl
    · rintro (old | ⟨none, fresh⟩)
      · exact old
      · rw [Option.ite_none_right_eq_some] at fresh
        exact absurd ⟨listed, isKey.trans fresh.1⟩ (none first)
  · have absent (old : Key × Value) (listed : old ∈ tree.toList) : old.1 ≠ key := by
      intro same
      have distinct := nodup_keys order _ newWithin newSorted
      have shuffled := (added.map Prod.fst).nodup_iff.mp distinct
      rw [List.map_cons, List.nodup_cons] at shuffled
      exact shuffled.1 (List.mem_map.mpr ⟨old, listed, same⟩)
    rw [added.mem_iff, List.mem_cons, Option.ite_none_right_eq_some, Option.some.injEq]
    constructor
    · rintro ⟨rfl | old, rfl⟩
      · exact .inr ⟨fun other here => absent other here.1 here.2, rfl, rfl⟩
      · exact .inl ⟨old, rfl⟩
    · rintro (old | ⟨_, rfl, rfl⟩)
      · exact ⟨.inr old.1, old.2⟩
      · exact ⟨.inl rfl, rfl⟩

/-- After a sequence of insertions the tree is sorted, and lookup returns what was there
or else what was inserted first. -/
theorem find_emplaceAll [DecidableEq Key] (order : StrictOrderOn lt domain)
    (entries : List (Key × Value)) (inside : ∀ entry ∈ entries, domain entry.1)
    (tree : ColorTree Key Value) (within : Within domain tree) (sorted : Sorted lt tree) :
    Within domain (tree.emplaceAll lt entries) ∧ Sorted lt (tree.emplaceAll lt entries) ∧
      ∀ sought, domain sought → (tree.emplaceAll lt entries).find lt sought =
        (tree.find lt sought).or (entries.find? (fun entry => entry.1 = sought)) := by
  induction entries generalizing tree with
  | nil => exact ⟨within, sorted, fun sought _ => by simp [emplaceAll]⟩
  | cons entry rest inductionHypothesis =>
    have here : domain entry.1 := inside entry (by simp)
    obtain ⟨nextWithin, nextSorted⟩ := sorted_emplace order entry.1 entry.2 here tree within sorted
    obtain ⟨lastWithin, lastSorted, found⟩ := inductionHypothesis
      (fun other member => inside other (List.mem_cons_of_mem _ member)) _ nextWithin nextSorted
    refine ⟨lastWithin, lastSorted, ?_⟩
    intro sought admitted
    have stepped := find_emplace order entry.1 entry.2 here tree within sorted sought admitted
    refine (found sought admitted).trans ?_
    rw [stepped, Option.or_assoc, List.find?_cons]
    by_cases same : entry.1 = sought
    · rw [if_pos same, decide_eq_true same, Option.some_or]
    · rw [if_neg same, decide_eq_false same, Option.none_or]

end ColorTree
end SearchTree
