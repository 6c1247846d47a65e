import Mathlib.Data.List.Nodup

/-!
# Lists with node addresses

An element of a linked list keeps its address for as long as it is in the list, and an
address that was given out is not given out again. A pointer to an element therefore is
its address: it can be followed until the element is erased, and never again after that.
-/

universe u

/-- A list whose elements stand at addresses. -/
structure Nodes (α : Type u) where
  entries : List (Nat × α) := []
  next : Nat := 0
  distinct : (entries.map Prod.fst).Nodup := by simp
  below : ∀ entry ∈ entries, entry.1 < next := by simp

namespace Nodes

variable {α : Type u}

/-- Follow a pointer. -/
def follow (nodes : Nodes α) (address : Nat) : Option α :=
  (nodes.entries.find? fun entry => entry.1 = address).map Prod.snd

/-- Append an element at a fresh address: `emplace` at the end. -/
def append (nodes : Nodes α) (value : α) : Nodes α where
  entries := nodes.entries ++ [(nodes.next, value)]
  next := nodes.next + 1
  distinct := by
    simp only [List.map_append, List.map_cons, List.map_nil, List.nodup_append]
    refine ⟨nodes.distinct, List.nodup_singleton _, ?_⟩
    rintro address inside _ last rfl
    obtain ⟨entry, member, rfl⟩ := List.mem_map.mp inside
    have bound := nodes.below entry member
    simp only [List.mem_singleton] at last
    omega
  below := by
    intro entry member
    rcases List.mem_append.mp member with old | new
    · exact Nat.lt_succ_of_lt (nodes.below entry old)
    · simp only [List.mem_singleton] at new
      exact new ▸ Nat.lt_succ_self _

/-- The first element with a property, with its address. -/
def first (nodes : Nodes α) (property : α → Bool) : Option (Nat × α) :=
  nodes.entries.find? fun entry => property entry.2

/-- Erase the first element with a property. -/
def eraseFirst (nodes : Nodes α) (property : α → Bool) : Nodes α where
  entries := nodes.entries.eraseP fun entry => property entry.2
  next := nodes.next
  distinct := nodes.distinct.sublist (List.eraseP_sublist.map Prod.fst)
  below entry member := nodes.below entry (List.mem_of_mem_eraseP member)

/-- Erase all elements. -/
def clear (nodes : Nodes α) : Nodes α where
  entries := []
  next := nodes.next

/-- Change the element at an address in place. -/
def modify (nodes : Nodes α) (address : Nat) (change : α → α) : Nodes α where
  entries := nodes.entries.map fun entry =>
    (entry.1, if entry.1 = address then change entry.2 else entry.2)
  next := nodes.next
  distinct := by
    simp only [List.map_map, Function.comp_def]
    exact nodes.distinct
  below entry member := by
    obtain ⟨old, inside, rfl⟩ := List.mem_map.mp member
    exact nodes.below old inside

/-- A pointer leads to a value exactly if the entry is there. Addresses are distinct, so there
is one at most. -/
theorem follow_eq_some_iff (nodes : Nodes α) (address : Nat) (value : α) :
    nodes.follow address = some value ↔ (address, value) ∈ nodes.entries := by
  simp only [follow, Option.map_eq_some_iff]
  constructor
  · rintro ⟨entry, found, rfl⟩
    have same : entry.1 = address := by simpa using List.find?_some found
    exact same ▸ List.mem_of_find?_eq_some found
  · intro member
    cases found : nodes.entries.find? fun entry => entry.1 = address with
    | none => simpa using List.find?_eq_none.mp found (address, value) member
    | some entry =>
      have same : entry.1 = address := by simpa using List.find?_some found
      have inside := List.mem_of_find?_eq_some found
      exact ⟨entry, rfl, congrArg Prod.snd (List.inj_on_of_nodup_map nodes.distinct inside member same)⟩

/-- In a list that was cleared no pointer leads anywhere. -/
@[simp] theorem follow_clear (nodes : Nodes α) (address : Nat) :
    nodes.clear.follow address = none :=
  rfl

/-- Appending leaves every pointer that could be followed as it was. -/
theorem follow_append {nodes : Nodes α} {address : Nat} {value : α} (new : α)
    (live : nodes.follow address = some value) :
      (nodes.append new).follow address = some value := by
  simp only [follow_eq_some_iff] at live ⊢
  exact List.mem_append_left _ live

/-- Erasing takes away the pointer to the erased element and leaves the others. -/
theorem follow_eraseFirst (nodes : Nodes α) (property : α → Bool) (address : Nat) (value : α) :
    (nodes.eraseFirst property).follow address = some value ↔
      nodes.follow address = some value ∧
        ∀ erased, nodes.first property = some erased → erased.1 ≠ address := by
  simp only [follow_eq_some_iff, eraseFirst, first]
  cases found : nodes.entries.find? fun entry => property entry.2 with
  | none =>
    have absent := List.find?_eq_none.mp found
    simp [List.eraseP_of_forall_not absent]
  | some erased =>
    obtain ⟨holds, before, after, split, earlier⟩ := List.find?_eq_some_iff_append.mp found
    have notEarlier : ∀ entry ∈ before, ¬ property entry.2 = true := by
      intro entry member
      simpa using earlier entry member
    have removed : nodes.entries.eraseP (fun entry => property entry.2) = before ++ after := by
      simp only [split, List.eraseP_append_right _ notEarlier, List.eraseP_cons_of_pos, holds]
    have distinct := nodes.distinct
    simp only [split, List.map_append, List.map_cons, List.nodup_append, List.nodup_cons, List.mem_cons,
      List.mem_map, Prod.exists, exists_and_right, exists_eq_right] at distinct
    obtain ⟨-, ⟨notAfter, -⟩, notBefore⟩ := distinct
    simp only [removed, Option.some.injEq, forall_eq']
    simp only [split, List.mem_append, List.mem_cons]
    constructor
    · rintro (member | member)
      · exact ⟨.inl member, fun same => notBefore address ⟨value, member⟩ erased.1 (.inl rfl) same.symm⟩
      · exact ⟨.inr (.inr member), fun same => notAfter ⟨value, same ▸ member⟩⟩
    · rintro ⟨member | rfl | member, other⟩
      · exact .inl member
      · exact absurd rfl other
      · exact .inr member

/-- Erasing takes the element that is found first out of the list, and no other. -/
theorem entries_eraseFirst {nodes : Nodes α} {property : α → Bool} {erased : Nat × α}
    (found : nodes.first property = some erased) :
    (nodes.eraseFirst property).entries = nodes.entries.filter fun entry => entry.1 ≠ erased.1 := by
  obtain ⟨holds, before, after, split, earlier⟩ := List.find?_eq_some_iff_append.mp found
  have notEarlier : ∀ entry ∈ before, ¬ property entry.2 = true := by
    intro entry member
    simpa using earlier entry member
  have distinct := nodes.distinct
  simp only [split, List.map_append, List.map_cons, List.nodup_append, List.nodup_cons, List.mem_cons,
    List.mem_map] at distinct
  obtain ⟨-, ⟨notAfter, -⟩, notBefore⟩ := distinct
  have keptBefore : before.filter (fun entry => entry.1 ≠ erased.1) = before := by
    rw [List.filter_eq_self]
    intro entry member
    simpa using notBefore entry.1 ⟨entry, member, rfl⟩ erased.1 (.inl rfl)
  have keptAfter : after.filter (fun entry => entry.1 ≠ erased.1) = after := by
    rw [List.filter_eq_self]
    intro entry member
    simpa using fun same : entry.1 = erased.1 => notAfter ⟨entry, member, same⟩
  have dropped : decide (erased.1 ≠ erased.1) = false := by simp
  have removed : (nodes.eraseFirst property).entries =
      nodes.entries.eraseP fun entry => property entry.2 := rfl
  rw [removed, split, List.eraseP_append_right _ notEarlier, List.eraseP_cons_of_pos (by exact holds),
    List.filter_append, List.filter_cons, dropped, keptBefore, keptAfter]
  rfl

/-- Changing an element in place leaves every pointer where it was. -/
theorem follow_modify (nodes : Nodes α) (changed : Nat) (change : α → α) (address : Nat) :
    (nodes.modify changed change).follow address =
      (nodes.follow address).map fun value => if address =
        changed then change value else value := by
  simp only [follow, modify, List.find?_map, Option.map_map, Function.comp_def]
  cases found : nodes.entries.find? fun entry => entry.1 = address with
  | none => rfl
  | some entry =>
    have same : entry.1 = address := by simpa using List.find?_some found
    simp only [Option.map_some, same]

end Nodes
