import BluetoothFramework.Uuid.KeyOrder
import Mathlib.Data.List.Palindrome

/-!
# The order in which UUID keys are listed

Under a comparison that says less whenever the keys differ, an insertion goes left at every
node, so a new entry is listed first and a map lists its entries in the reverse of the order
in which they were inserted. A map that is copied by inserting what it lists is turned round.

`relisted_iff` says that such a copy is equal to the map exactly when there is one entry at
most. Turning round could leave a list alone only if it were a palindrome. The descent of an
insertion passes the first two entries listed, so an entry never has the key of one of the
next two, and no longer list of this kind is a palindrome.
-/

namespace BluetoothFramework.KeyOrder

open SearchTree

universe u v
variable {Key : Type u} {Value : Type v}

/-- Where the descent of an insertion does not stop it goes left. At a node with another key the
comparison says less, and at one with the same key it stops. -/
theorem goes_left {lt : Key → Key → Bool} (differs : Differs lt) {color : Color}
    {left right : ColorTree Key Value} {key other : Key} {value : Value}
    (new : (ColorTree.node color left other value right).meets lt key = false) :
    lt key other = true ∧ left.meets lt key = false := by
  rw [ColorTree.meets] at new
  by_cases less : lt key other = true
  · rw [if_pos less] at new
    exact ⟨less, new⟩
  · have same : key = other := by
      by_contra different
      exact less ((differs key other).mpr different)
    have notGreater : ¬ lt other key = true := by
      rw [same]
      exact fun greater => (differs other other).mp greater rfl
    rw [if_neg less, if_neg notGreater] at new
    cases new

/-- A new entry is listed before all others. -/
theorem toList_emplace_first {lt : Key → Key → Bool} (differs : Differs lt) (key : Key)
    (value : Value) (tree : ColorTree Key Value) (new : tree.meets lt key = false) :
    (tree.emplace lt key value).toList = (key, value) :: tree.toList := by
  have grown : (tree.grow lt key value).toList = (key, value) :: tree.toList := by
    induction tree with
    | nil => rfl
    | node color left other otherValue right leftHypothesis rightHypothesis =>
      obtain ⟨less, newLeft⟩ := goes_left differs new
      rw [ColorTree.grow, if_pos less, ColorTree.toList_fixLeft, leftHypothesis newLeft,
        ColorTree.toList, List.cons_append]
  rw [ColorTree.emplace, new, if_neg Bool.false_ne_true, ColorTree.toList_blacken, grown]

/-- Either every entry is inserted, and they are listed in reverse, or the map stays too
small for them. -/
theorem toList_emplaceAll_reverse {lt : Key → Key → Bool} (differs : Differs lt)
    (entries : List (Key × Value)) (tree : ColorTree Key Value) :
    (tree.emplaceAll lt entries).toList = entries.reverse ++ tree.toList ∨
      (tree.emplaceAll lt entries).toList.length < entries.length + tree.toList.length := by
  induction entries generalizing tree with
  | nil => exact .inl rfl
  | cons entry rest inductionHypothesis =>
    rw [ColorTree.emplaceAll, List.foldl_cons, ← ColorTree.emplaceAll]
    have after := inductionHypothesis (tree.emplace lt entry.1 entry.2)
    cases met : tree.meets lt entry.1 with
    | true =>
      -- The entry is dropped, and the others cannot make up for it.
      have unchanged : tree.emplace lt entry.1 entry.2 = tree := by rw [ColorTree.emplace, met, if_pos rfl]
      rw [unchanged] at after ⊢
      refine .inr ?_
      rcases after with listed | fewer
      · rw [listed, List.length_append, List.length_reverse, List.length_cons]
        omega
      · rw [List.length_cons]
        omega
    | false =>
      rw [toList_emplace_first differs entry.1 entry.2 tree met] at after
      rcases after with listed | fewer
      · refine .inl (listed.trans ?_)
        rw [List.reverse_cons, List.append_assoc, List.singleton_append]
      · refine .inr ?_
        rw [List.length_cons] at fewer ⊢
        omega

/-! ## The keys an insertion passes -/

/-- The keys from the leftmost node up to the root. -/
def spine : ColorTree Key Value → List Key
  | .nil => []
  | .node _ left key _ _ => spine left ++ [key]

/-- A red node on the way to the leftmost one has no red node on its right. -/
def Calm : ColorTree Key Value → Prop
  | .nil => True
  | .node color left _ _ right =>
      Calm left ∧ (color = .red → ∀ a key value b, right ≠ .node .red a key value b)

/-- An insertion stops at the keys on the left edge. -/
theorem meets_of_mem_spine {lt : Key → Key → Bool} (differs : Differs lt) {key : Key}
    {tree : ColorTree Key Value} (passed : key ∈ spine tree) : tree.meets lt key = true := by
  induction tree with
  | nil => cases passed
  | node color left other value right leftHypothesis rightHypothesis =>
    by_contra unmet
    obtain ⟨less, newLeft⟩ := goes_left differs (by simpa using unmet)
    rcases List.mem_append.mp passed with below | here
    · rw [leftHypothesis below] at newLeft
      cases newLeft
    · exact (differs key other).mp less (List.mem_singleton.mp here)

/-- Repairing a calm left subtree keeps the two lowest keys of the left edge. A rotation takes
keys off the edge only above these two. -/
theorem fixLeft_calm (color : Color) {left : ColorTree Key Value} (key : Key) (value : Value)
    {right : ColorTree Key Value} (calm : Calm left)
    (quiet : color = .red → ∀ a key value b, right ≠ .node .red a key value b) :
    Calm (ColorTree.fixLeft color left key value right) ∧
      (spine (ColorTree.fixLeft color left key value right)).take 2 =
        (spine left ++ [key]).take 2 := by
  unfold ColorTree.fixLeft
  split
  · -- The uncle is red: the keys stay where they are.
    exact ⟨⟨⟨calm.1, nofun⟩, fun _ => nofun⟩, rfl⟩
  · exact absurd rfl (calm.2 rfl _ _ _ _)
  · -- A rotation takes the root off the edge, which still has two keys below it.
    refine ⟨⟨calm.1, nofun⟩, ?_⟩
    simp only [spine]
    exact (List.take_append_of_le_length (by simp)).symm
  · exact absurd rfl (calm.2 rfl _ _ _ _)
  · exact ⟨⟨calm, quiet⟩, rfl⟩

/-- A last element is taken as long as there are not enough others. -/
theorem take_two_append {lowest edge : List Key} {key : Key}
    (taken : lowest.take 2 = key :: edge.take 1)
    (last : Key) : (lowest ++ [last]).take 2 = key :: (edge ++ [last]).take 1 := by
  match lowest, edge with
  | [], _ => cases taken
  | [_], [] | _ :: _ :: _, _ :: _ => simpa using taken
  | [_], _ :: _ | _ :: _ :: _, [] => simp at taken

/-- The two lowest keys on the left edge after an insertion. -/
theorem grow_calm {lt : Key → Key → Bool} (differs : Differs lt) (key : Key) (value : Value)
    {tree : ColorTree Key Value} (calm : Calm tree) (new : tree.meets lt key = false) :
    Calm (tree.grow lt key value) ∧
      (spine (tree.grow lt key value)).take 2 = key :: (spine tree).take 1 := by
  induction tree with
  | nil => exact ⟨⟨trivial, fun _ => nofun⟩, rfl⟩
  | node color left other otherValue right leftHypothesis rightHypothesis =>
    obtain ⟨less, newLeft⟩ := goes_left differs new
    obtain ⟨grown, lowest⟩ := leftHypothesis calm.1 newLeft
    rw [ColorTree.grow, if_pos less]
    obtain ⟨fixed, kept⟩ := fixLeft_calm color other otherValue grown calm.2
    exact ⟨fixed, kept.trans (take_two_append lowest other)⟩

/-- What insertions keep: the left edge is calm, and its two lowest keys are the two that
are listed first. -/
structure Fronted (tree : ColorTree Key Value) : Prop where
  calm : Calm tree
  first : tree.keys.take 2 = (spine tree).take 2

/-- An insertion keeps the left edge calm and its two lowest keys in front. A key that the
search meets changes nothing, and a new one is listed first. -/
theorem fronted_emplace {lt : Key → Key → Bool} (differs : Differs lt) (key : Key) (value : Value)
    {tree : ColorTree Key Value} (fronted : Fronted tree) :
      Fronted (tree.emplace lt key value) := by
  cases met : tree.meets lt key with
  | true =>
    rw [ColorTree.emplace, met, if_pos rfl]
    exact fronted
  | false =>
    have listed : (tree.emplace lt key value).keys = key :: tree.keys := by
      rw [ColorTree.keys, toList_emplace_first differs key value tree met]
      rfl
    obtain ⟨calm, lowest⟩ := grow_calm differs key value fronted.calm met
    have black : Calm (tree.emplace lt key value) ∧
        spine (tree.emplace lt key value) = spine (tree.grow lt key value) := by
      rw [ColorTree.emplace, met, if_neg Bool.false_ne_true]
      cases grown : tree.grow lt key value with
      | nil => exact ⟨trivial, rfl⟩
      | node color left other otherValue right =>
        rw [grown] at calm
        exact ⟨⟨calm.1, by rintro ⟨⟩⟩, rfl⟩
    refine ⟨black.1, ?_⟩
    rw [listed, black.2, lowest, List.take_succ_cons]
    have one := congrArg (List.take 1) fronted.first
    rw [List.take_take, List.take_take] at one
    exact congrArg (key :: ·) one

/-- No key is one of the next two. -/
def Spread : List Key → Prop
  | [] => True
  | key :: rest => key ∉ rest.take 2 ∧ Spread rest

/-- The keys of a map are spread, since an insertion stops at the two that are listed first. A
new key is listed before all others, so it is different from the next two. -/
theorem spread_emplaceAll {lt : Key → Key → Bool} (differs : Differs lt)
    (entries : List (Key × Value))
    (tree : ColorTree Key Value) (fronted : Fronted tree) (spread : Spread tree.keys) :
    Spread (tree.emplaceAll lt entries).keys := by
  induction entries generalizing tree with
  | nil => exact spread
  | cons entry rest inductionHypothesis =>
    apply inductionHypothesis _ (fronted_emplace differs entry.1 entry.2 fronted)
    cases met : tree.meets lt entry.1 with
    | true =>
      rw [ColorTree.emplace, met, if_pos rfl]
      exact spread
    | false =>
      rw [ColorTree.keys, toList_emplace_first differs entry.1 entry.2 tree met, List.map_cons]
      refine ⟨fun listed => ?_, spread⟩
      rw [← ColorTree.keys, fronted.first] at listed
      rw [meets_of_mem_spine differs (List.mem_of_mem_take listed)] at met
      cases met

/-! ## Copies -/

/-- A list stays spread without its last key. -/
theorem spread_of_append {keys : List Key} {last : Key} (spread : Spread (keys ++ [last])) :
    Spread keys := by
  induction keys with
  | nil => trivial
  | cons key rest inductionHypothesis =>
    obtain ⟨apart, later⟩ := spread
    refine ⟨fun near => apart ?_, inductionHypothesis later⟩
    change key ∈ (rest ++ [last]).take 2
    rw [List.take_append]
    exact List.mem_append_left _ near

/-- A spread list that reads the same in both directions has one key at most: the two
around its middle would be equal. -/
theorem length_of_palindrome {keys : List Key} (palindrome : keys.Palindrome)
    (spread : Spread keys) :
    keys.length ≤ 1 := by
  induction palindrome with
  | nil => exact Nat.zero_le 1
  | singleton => exact Nat.le_refl 1
  | @cons_concat key middle _ inductionHypothesis =>
    obtain ⟨apart, later⟩ := spread
    have short : middle.length ≤ 1 := inductionHypothesis (spread_of_append later)
    have near : key ∈ (middle ++ [key]).take 2 := by
      rw [List.take_of_length_le (by simpa using short)]
      exact List.mem_append_right _ (List.mem_singleton_self key)
    exact absurd near apart

/-- Inserting entries one after another gives a map that lists them in the same order
exactly when there is one entry at most. -/
theorem relisted_iff {lt : Key → Key → Bool} (differs : Differs lt) (entries : List (Key × Value)) :
    ((ColorTree.nil : ColorTree Key Value).emplaceAll lt entries).toList = entries ↔
      entries.length ≤ 1 := by
  constructor
  · intro same
    have spread := spread_emplaceAll differs entries .nil ⟨trivial, rfl⟩ trivial
    have reversed : entries.reverse = entries := by
      rcases toList_emplaceAll_reverse differs entries .nil with listed | fewer
      · rw [ColorTree.toList, List.append_nil] at listed
        exact listed.symm.trans same
      · rw [same] at fewer
        exact absurd fewer (Nat.lt_irrefl _)
    have palindrome := (List.Palindrome.of_reverse_eq reversed).map Prod.fst
    rw [ColorTree.keys, same] at spread
    simpa using length_of_palindrome palindrome spread
  · intro short
    cases entries with
    | nil => rfl
    | cons entry rest =>
      obtain rfl : rest = [] := by simpa using short
      rfl

end BluetoothFramework.KeyOrder
