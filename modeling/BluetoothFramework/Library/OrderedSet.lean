import BluetoothFramework.Library.SearchTree
import Mathlib.Data.List.Pairwise

/-!
# Sets over a strict partial order

A `std::set` finds its way by one comparison and takes two keys for the same when
neither is less. Where the comparison is a strict partial order that need not be total,
this is not an equivalence. Still the elements of a set form a chain, and every key cuts
a chain in three: the elements less than the key, those it does not compare with, and
those greater than it. So what the operations do can be read off the listing.

The set is its listing. The last section ties it to the search tree: on a tree with the
same listing, the descent finds and inserts what the listing says.
-/

namespace SearchTree

universe u v

/-- A comparison that is a strict partial order. -/
class StrictPartialOrder {Key : Type u} (lt : Key → Key → Bool) : Prop where
  irreflexive : ∀ a, lt a a = false
  transitive : ∀ a b c, lt a b = true → lt b c = true → lt a c = true

/-- Neither key is less than the other. -/
def meetsKey {Key : Type u} (lt : Key → Key → Bool) (key other : Key) : Bool :=
  !lt other key && !lt key other

/-- A set of keys, listed in order. -/
structure OrderedSet {Key : Type u} (lt : Key → Key → Bool) where
  elements : List Key := []
  chain : elements.Pairwise (fun first second => lt first second = true) := by
    exact List.Pairwise.nil

namespace OrderedSet

variable {Key : Type u} {lt : Key → Key → Bool}

/-- Put a key at its place, unless an element is taken for the same. -/
def place (lt : Key → Key → Bool) (key : Key) : List Key → List Key
  | [] => [key]
  | first :: rest =>
      if lt key first then key :: first :: rest
      else if lt first key then first :: place lt key rest
      else first :: rest

/-- Lookup among the elements: `std::set::find`. -/
def find (set : OrderedSet lt) (key : Key) : Option Key :=
  match set.elements.find? (fun element => !lt element key) with
  | some element => if lt key element then none else some element
  | none => none

/-- What is in a list after a key was placed is that key or was there. -/
theorem mem_of_mem_place {key other : Key} {elements : List Key}
    (member : other ∈ place lt key elements) :
    other = key ∨ other ∈ elements := by
  induction elements with
  | nil => exact .inl (List.mem_singleton.mp member)
  | cons first rest inductionHypothesis =>
    rw [place] at member
    split at member
    · exact List.mem_cons.mp member
    · split at member
      · rcases List.mem_cons.mp member with here | later
        · exact .inr (List.mem_cons.mpr (.inl here))
        · exact (inductionHypothesis later).imp_right (List.mem_cons_of_mem first)
      · exact .inr member

/-- Placing a key keeps the list in order. The key goes before the first element that is not
less. -/
theorem chain_place [order : StrictPartialOrder lt] (key : Key) (elements : List Key)
    (chain : elements.Pairwise (fun first second => lt first second = true)) :
    (place lt key elements).Pairwise (fun first second => lt first second = true) := by
  induction elements with
  | nil => exact List.pairwise_singleton _ _
  | cons first rest inductionHypothesis =>
    obtain ⟨least, restChain⟩ := List.pairwise_cons.mp chain
    rw [place]
    split
    · rename_i before
      refine List.pairwise_cons.mpr ⟨?_, chain⟩
      intro other member
      rcases List.mem_cons.mp member with rfl | later
      · exact before
      · exact order.transitive _ _ _ before (least other later)
    · split
      · rename_i after
        refine List.pairwise_cons.mpr ⟨?_, inductionHypothesis restChain⟩
        intro other member
        rcases mem_of_mem_place member with rfl | later
        · exact after
        · exact least other later
      · exact chain

/-- Insertion: `std::set::emplace`. -/
def emplace [StrictPartialOrder lt] (set : OrderedSet lt) (key : Key) : OrderedSet lt where
  elements := place lt key set.elements
  chain := chain_place key set.elements set.chain

/-- Removal of an element that was found: `std::set::erase`. -/
def erase [DecidableEq Key] (set : OrderedSet lt) (element : Key) : OrderedSet lt where
  elements := set.elements.erase element
  chain := set.chain.sublist List.erase_sublist

/-- A key that meets no element is inserted, and nothing else changes. Where it is put depends on
the comparison, but not whether it is there. -/
theorem mem_emplace_new [StrictPartialOrder lt] (set : OrderedSet lt) (key : Key)
    (new : ∀ element ∈ set.elements, meetsKey lt key element = false) (other : Key) :
    other ∈ (set.emplace key).elements ↔ other = key ∨ other ∈ set.elements := by
  constructor
  · exact mem_of_mem_place
  · rw [emplace]
    dsimp only
    generalize set.elements = elements at new ⊢
    induction elements with
    | nil => simp [place]
    | cons first rest inductionHypothesis =>
      have later := inductionHypothesis fun element member => new element (List.mem_cons_of_mem first member)
      have here : meetsKey lt key first = false := new first (by simp)
      rw [place]
      split
      · exact List.mem_cons.mpr
      · rename_i notLess
        have less : lt first key = true := by simpa [meetsKey, notLess] using here
        rw [if_pos less, List.mem_cons, List.mem_cons]
        tauto

/-- An insertion takes no element away, whether the key is inserted or meets one that is there.
-/
theorem mem_emplace_of_mem [StrictPartialOrder lt] (set : OrderedSet lt) (key : Key) {other : Key}
    (member : other ∈ set.elements) : other ∈ (set.emplace key).elements := by
  rw [emplace]
  dsimp only
  generalize set.elements = elements at member ⊢
  induction elements with
  | nil => cases member
  | cons first rest inductionHypothesis =>
    rw [place]
    split
    · exact List.mem_cons_of_mem key member
    · split
      · rcases List.mem_cons.mp member with here | later
        · exact List.mem_cons.mpr (.inl here)
        · exact List.mem_cons_of_mem first (inductionHypothesis later)
      · exact member

/-- A key that meets an element is not inserted. -/
theorem emplace_met [order : StrictPartialOrder lt] (set : OrderedSet lt) (key : Key)
    {element : Key} (member : element ∈ set.elements) (met : meetsKey lt key element = true) :
    (set.emplace key).elements = set.elements := by
  rw [emplace]
  dsimp only
  have chain := set.chain
  generalize set.elements = elements at member chain ⊢
  induction elements with
  | nil => cases member
  | cons first rest inductionHypothesis =>
    obtain ⟨least, restChain⟩ := List.pairwise_cons.mp chain
    simp only [meetsKey, Bool.and_eq_true, Bool.not_eq_true'] at met
    rw [place]
    split
    · -- Then the key would also be less than the element it meets.
      rename_i before
      rcases List.mem_cons.mp member with rfl | later
      · rw [met.2] at before
        cases before
      · have less := order.transitive _ _ _ before (least element later)
        rw [met.2] at less
        cases less
    · split
      · rename_i after
        rcases List.mem_cons.mp member with rfl | later
        · rw [met.1] at after
          cases after
        · rw [inductionHypothesis later restChain]
      · rfl

/-- Lookup finds the first element the key meets. -/
theorem find_eq [order : StrictPartialOrder lt] (set : OrderedSet lt) (key : Key) :
    set.find key = set.elements.find? (meetsKey lt key) := by
  rw [find]
  have chain := set.chain
  generalize set.elements = elements at chain ⊢
  induction elements with
  | nil => rfl
  | cons first rest inductionHypothesis =>
    obtain ⟨least, restChain⟩ := List.pairwise_cons.mp chain
    by_cases before : lt first key = true
    · have unmet : ¬ meetsKey lt key first = true := by simp [meetsKey, before]
      rw [List.find?_cons_of_neg (by simpa using before), List.find?_cons_of_neg unmet]
      exact inductionHypothesis restChain
    · rw [List.find?_cons_of_pos (by simpa using before)]
      by_cases after : lt key first = true
      · have unmet : ∀ element ∈ first :: rest, ¬ meetsKey lt key element = true := by
          intro element member
          have greater : lt key element = true := by
            rcases List.mem_cons.mp member with rfl | later
            · exact after
            · exact order.transitive _ _ _ after (least element later)
          simp [meetsKey, greater]
        rw [List.find?_eq_none.mpr unmet]
        exact if_pos after
      · have met : meetsKey lt key first = true := by simp [meetsKey, before, after]
        rw [List.find?_cons_of_pos met]
        exact if_neg after

/-- What is found is in the set, and the comparison takes it for the key. -/
theorem find_mem [StrictPartialOrder lt] {set : OrderedSet lt} {key element : Key}
    (found : set.find key = some element) :
      element ∈ set.elements ∧ meetsKey lt key element = true := by
  rw [find_eq] at found
  exact ⟨List.mem_of_find?_eq_some found, List.find?_some found⟩

/-- Nothing is found exactly if the comparison takes no element for the key. -/
theorem find_eq_none_iff [StrictPartialOrder lt] (set : OrderedSet lt) (key : Key) :
    set.find key = none ↔ ∀ element ∈ set.elements, meetsKey lt key element = false := by
  rw [find_eq, List.find?_eq_none]
  simp only [Bool.not_eq_true]

/-- Of two elements one is less. -/
theorem less_or_greater (set : OrderedSet lt) {first second : Key} (member : first ∈ set.elements)
    (other : second ∈ set.elements) (different : first ≠ second) :
    lt first second = true ∨ lt second first = true := by
  have symmetric : Std.Symm fun a b => lt a b = true ∨ lt b a = true := ⟨fun _ _ => Or.symm⟩
  have related : set.elements.Pairwise fun a b => lt a b = true ∨ lt b a = true := set.chain.imp Or.inl
  exact related.forall member other different

/-- No element occurs twice. -/
theorem nodup [order : StrictPartialOrder lt] (set : OrderedSet lt) : set.elements.Nodup := by
  refine set.chain.imp ?_
  rintro first _ less rfl
  rw [order.irreflexive] at less
  cases less

/-- Erasing an element takes it away and leaves all others. -/
theorem mem_erase [DecidableEq Key] [StrictPartialOrder lt] (set : OrderedSet lt)
    (element other : Key) :
    other ∈ (set.erase element).elements ↔ other ≠ element ∧ other ∈ set.elements :=
  set.nodup.mem_erase_iff

/-! ## The search tree -/

/-- The place of a key that is less than an element lies before that element. -/
theorem place_before {key other : Key} (before : lt key other = true) (left right : List Key) :
    place lt key (left ++ other :: right) = place lt key left ++ other :: right := by
  induction left with
  | nil => exact if_pos before
  | cons first rest inductionHypothesis =>
    rw [List.cons_append, place, place, inductionHypothesis]
    split
    · rfl
    · split <;> rfl

/-- The place of a key that is greater than an element lies after that element. -/
theorem place_after [order : StrictPartialOrder lt] {key other : Key} (after : lt other key = true)
    (left right : List Key) (below : ∀ element ∈ left, lt element other = true) :
    place lt key (left ++ other :: right) = left ++ other :: place lt key right := by
  have notBefore {element : Key} (less : lt element key = true) : ¬ lt key element = true := by
    intro greater
    have itself := order.transitive _ _ _ less greater
    rw [order.irreflexive] at itself
    cases itself
  induction left with
  | nil => rw [List.nil_append, place, if_neg (notBefore after), if_pos after, List.nil_append]
  | cons first rest inductionHypothesis =>
    have less : lt first key = true := order.transitive _ _ _ (below first (by simp)) after
    rw [List.cons_append, place, if_neg (notBefore less), if_pos less,
      inductionHypothesis fun element member => below element (List.mem_cons_of_mem first member),
      List.cons_append]

/-- A key that meets an element of a chain has no place. -/
theorem place_met [order : StrictPartialOrder lt] {key other : Key}
    (notBefore : ¬ lt key other = true) (notAfter : ¬ lt other key = true) (left right : List Key)
    (below : ∀ element ∈ left, lt element other = true) :
    place lt key (left ++ other :: right) = left ++ other :: right := by
  induction left with
  | nil => rw [List.nil_append, place, if_neg notBefore, if_neg notAfter]
  | cons first rest inductionHypothesis =>
    have notLess : ¬ lt key first = true := fun less =>
      notBefore (order.transitive _ _ _ less (below first (by simp)))
    rw [List.cons_append, place, if_neg notLess,
      inductionHypothesis fun element member => below element (List.mem_cons_of_mem first member)]
    split <;> rfl

/-- A descent stops at a node exactly when the key has no place, and otherwise ends at it. -/
theorem place_keys [StrictPartialOrder lt] {Value : Type v} (key : Key) (value : Value)
    (tree : ColorTree Key Value) (sorted : tree.Sorted lt) :
    place lt key tree.keys =
      if tree.meets lt key then tree.keys else (tree.grow lt key value).keys := by
  induction tree with
  | nil => rfl
  | node color left other otherValue right leftHypothesis rightHypothesis =>
    obtain ⟨leftSorted, rightSorted, below, -, -⟩ := (ColorTree.sorted_node color).mp sorted
    have smaller : ∀ element ∈ left.keys, lt element other = true := by
      intro element member
      obtain ⟨entry, listed, rfl⟩ := List.mem_map.mp member
      exact below entry listed
    have split : (ColorTree.node color left other otherValue right).keys =
        left.keys ++ other :: right.keys := by
      simp only [ColorTree.keys, ColorTree.toList, List.map_append, List.map_cons]
    rw [split, ColorTree.meets]
    unfold ColorTree.grow
    by_cases before : lt key other = true
    · rw [place_before before, leftHypothesis leftSorted, if_pos before, if_pos before]
      split
      · rfl
      · simp only [ColorTree.keys, ColorTree.toList_fixLeft, List.map_append, List.map_cons]
    · by_cases after : lt other key = true
      · rw [place_after after _ _ smaller, rightHypothesis rightSorted, if_neg before, if_pos after,
          if_neg before, if_pos after]
        split
        · rfl
        · simp only [ColorTree.keys, ColorTree.toList_fixRight, List.map_append, List.map_cons]
      · rw [place_met before after _ _ smaller, if_neg before, if_neg after]
        rfl

/-- A tree that lists the elements of a set is sorted. -/
theorem sorted_tree {Value : Type v} {set : OrderedSet lt} {tree : ColorTree Key Value}
    (listed : tree.keys = set.elements) : tree.Sorted lt := by
  have chain := set.chain
  rw [← listed, ColorTree.keys, List.pairwise_map] at chain
  exact chain

/-- Insertion into a search tree with the listing of the set. -/
theorem keys_emplace [StrictPartialOrder lt] {Value : Type v} (set : OrderedSet lt)
    (tree : ColorTree Key Value) (listed : tree.keys = set.elements) (key : Key) (value : Value) :
    (tree.emplace lt key value).keys = (set.emplace key).elements := by
  have placed := place_keys key value tree (sorted_tree listed)
  rw [ColorTree.emplace, emplace]
  dsimp only
  rw [← listed, placed]
  split
  · rfl
  · rw [ColorTree.keys, ColorTree.toList_blacken, ColorTree.keys]

/-- Lookup in a search tree with the listing of the set. -/
theorem find_tree [order : StrictPartialOrder lt] {Value : Type v} (set : OrderedSet lt)
    (tree : ColorTree Key Value) (listed : tree.keys = set.elements) (key : Key) :
    (tree.find lt key).map Prod.fst = set.find key := by
  have bound := ColorTree.lowerBound_chain key tree (sorted_tree listed)
    fun first _ second _ => order.transitive first.1 second.1 key
  have cut : set.elements.find? (fun element => !lt element key) =
      (tree.toList.find? fun entry => !lt entry.1 key).map Prod.fst := by
    rw [← listed, ColorTree.keys, List.find?_map]
    rfl
  rw [find, cut, ColorTree.find, bound]
  cases tree.toList.find? fun entry => !lt entry.1 key with
  | none => rfl
  | some entry =>
    dsimp only [Option.map_some]
    split <;> rfl

end OrderedSet
end SearchTree
