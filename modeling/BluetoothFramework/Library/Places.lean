import Mathlib.Data.List.Induction
import Mathlib.Logic.Function.Basic

/-!
# Entries at their places

A family of lists holds entries, and an entry is named by the index of its list and its
place in the list, or by a label that it carries. `Separate` says that the labels are as
good as the places. The second part is about lists of writes that each go to a place, or to
none when the search for the place has failed: what such a list leaves at a place, and when
it has put every value at the place of the same number.
-/

namespace Places

universe u v w
variable {ι : Type u} {α : Type v} {β γ : Type w}

/-! ## Labels -/

/-- No label is at two places. An entry may have no label. -/
def Separate (label : α → Option β) (slots : ι → List α) : Prop :=
  ∀ (i j : ι) (p q : Nat) (a b : α) (l : β), (slots i)[p]? = some a → (slots j)[q]? = some b →
    label a = some l → label b = some l → i = j ∧ p = q

variable {label : α → Option β} {slots : ι → List α}

/-- An entry is known by its label. -/
theorem Separate.eq_of_label (separate : Separate label slots) {i j : ι} {a b : α} {l : β}
    (member : a ∈ slots i) (other : b ∈ slots j) (here : label a = some l)
    (there : label b = some l) :
    a = b := by
  obtain ⟨p, atP⟩ := List.mem_iff_getElem?.mp member
  obtain ⟨q, atQ⟩ := List.mem_iff_getElem?.mp other
  obtain ⟨rfl, rfl⟩ := separate i j p q a b l atP atQ here there
  exact Option.some.inj (atP.symm.trans atQ)

/-- Labels stay separate where every label was at its place before. -/
theorem Separate.of_places (separate : Separate label slots) {fewer : ι → List α}
    (before : ∀ (i : ι) (p : Nat) (b : α) (l : β), (fewer i)[p]? = some b → label b = some l →
      ∃ a, (slots i)[p]? = some a ∧ label a = some l) : Separate label fewer := by
  intro i j p q a b l atP atQ here there
  obtain ⟨a', atP', here'⟩ := before i p a l atP here
  obtain ⟨b', atQ', there'⟩ := before j q b l atQ there
  exact separate i j p q a' b' l atP' atQ' here' there'

variable [DecidableEq ι]

/-- A list that is emptied takes its labels away. -/
theorem Separate.clear (separate : Separate label slots) (i : ι) :
    Separate label (Function.update slots i []) := by
  apply separate.of_places
  intro j p b l atP labelled
  by_cases here : j = i
  · subst here
    simp at atP
  · rw [Function.update_of_ne here] at atP
    exact ⟨b, atP, labelled⟩

/-- A new entry keeps the labels separate exactly if its label is new. -/
theorem separate_append_iff (label : α → Option β) (slots : ι → List α) (i : ι) (new : α) :
    Separate label (Function.update slots i (slots i ++ [new])) ↔
      Separate label slots ∧ ∀ l, label new = some l → ∀ j, ∀ b ∈ slots j, label b ≠ some l := by
  have old {j : ι} {p : Nat} {a : α} (atP : (slots j)[p]? = some a) :
      (Function.update slots i (slots i ++ [new]) j)[p]? = some a := by
    by_cases here : j = i
    · subst here
      rw [Function.update_self, List.getElem?_append_left (List.getElem?_eq_some_iff.mp atP).1]
      exact atP
    · rwa [Function.update_of_ne here]
  have added : (Function.update slots i (slots i ++ [new]) i)[(slots i).length]? = some new := by simp
  have places {j : ι} {p : Nat} {a : α} (atP : (Function.update slots i (slots i ++ [new]) j)[p]? = some a) :
      (slots j)[p]? = some a ∨ j = i ∧ p = (slots i).length ∧ a = new := by
    by_cases here : j = i
    · subst here
      rw [Function.update_self, List.getElem?_append] at atP
      split at atP
      · exact .inl atP
      · rw [List.getElem?_singleton] at atP
        split at atP
        · exact .inr ⟨rfl, by omega, (Option.some.inj atP).symm⟩
        · cases atP
    · rw [Function.update_of_ne here] at atP
      exact .inl atP
  constructor
  · intro separate
    refine ⟨?_, ?_⟩
    · intro j k p q a b l atP atQ
      exact separate j k p q a b l (old atP) (old atQ)
    · intro l labelled j b member sameLabel
      obtain ⟨p, atP⟩ := List.mem_iff_getElem?.mp member
      obtain ⟨rfl, rfl⟩ := separate j i p _ b new l (old atP) added sameLabel labelled
      exact Nat.lt_irrefl _ (List.getElem?_eq_some_iff.mp atP).1
  · rintro ⟨separate, fresh⟩ j k p q a b l atP atQ here there
    rcases places atP with atP | ⟨rfl, rfl, rfl⟩
    · rcases places atQ with atQ | ⟨sameList, samePlace, sameEntry⟩
      · exact separate j k p q a b l atP atQ here there
      · exact absurd here (fresh l (sameEntry ▸ there) j a (List.mem_of_getElem? atP))
    · rcases places atQ with atQ | ⟨sameList, samePlace, sameEntry⟩
      · exact absurd there (fresh l here k b (List.mem_of_getElem? atQ))
      · exact ⟨sameList.symm, samePlace.symm⟩

/-! ## Writes -/

/-- Write a value at the place that was found. -/
def overwrite (set : α → β → α) (entries : List α) (write : Option Nat × β) : List α :=
  match write.1 with
  | none => entries
  | some place => entries.modify place fun entry => set entry write.2

/-- Write every value at the place of its number. -/
def assign (set : α → β → α) (entries : List α) (values : List β) : List α :=
  entries.mapIdx fun place entry => values[place]?.elim entry (set entry)

variable {set : α → β → α}

/-- What is at a place after an assignment: the entry with the value of its place, or the entry
as it was where the values have run out. -/
theorem getElem?_assign (entries : List α) (values : List β) (place : Nat) :
    (assign set entries values)[place]? =
      entries[place]?.map fun entry => values[place]?.elim entry (set entry) := by
  rw [assign, List.getElem?_mapIdx]

/-- Writes leave what they do not set. -/
theorem map_foldl_overwrite {key : α → γ} (kept : ∀ entry value, key (set entry value) = key entry)
    (writes : List (Option Nat × β)) (entries : List α) :
    (writes.foldl (overwrite set) entries).map key = entries.map key := by
  induction writes generalizing entries with
  | nil => rfl
  | cons write rest inductionHypothesis =>
    rw [List.foldl_cons, inductionHypothesis, overwrite]
    split
    · rfl
    · apply List.ext_getElem?
      intro place
      simp only [List.getElem?_map, List.getElem?_modify]
      cases entries[place]? with
      | none => rfl
      | some entry => simp [apply_ite key, kept]

/-- Overwriting entries leaves their number. -/
@[simp] theorem length_foldl_overwrite (writes : List (Option Nat × β)) (entries : List α) :
    (writes.foldl (overwrite set) entries).length = entries.length := by
  induction writes generalizing entries with
  | nil => rfl
  | cons write rest inductionHypothesis =>
    rw [List.foldl_cons, inductionHypothesis, overwrite]
    split
    · rfl
    · exact List.length_modify _ _ _

/-- Writes whose searches have all failed write nothing. -/
theorem foldl_overwrite_none {writes : List (Option Nat × β)}
    (failed : ∀ write ∈ writes, write.1 = none)
    (entries : List α) : writes.foldl (overwrite set) entries = entries := by
  induction writes generalizing entries with
  | nil => rfl
  | cons write rest inductionHypothesis =>
    have here : overwrite set entries write = entries := by
      rw [overwrite, failed write (by simp)]
    rw [List.foldl_cons, here]
    exact inductionHypothesis (fun other member => failed other (by simp [member])) entries

/-- Writes to the places of their own numbers assign the values. -/
theorem foldl_overwrite_own {writes : List (Option Nat × β)}
    (own : ∀ (place : Nat) (write : Option Nat × β), writes[place]? = some write → write.1 = some place)
    (entries : List α) :
    writes.foldl (overwrite set) entries = assign set entries (writes.map Prod.snd) := by
  induction writes using List.reverseRecOn with
  | nil =>
    apply List.ext_getElem?
    intro place
    simp [getElem?_assign]
  | append_singleton earlier last inductionHypothesis =>
    have before (place : Nat) (write : Option Nat × β) (found : earlier[place]? = some write) :
        write.1 = some place := by
      apply own
      rw [List.getElem?_append_left (List.getElem?_eq_some_iff.mp found).1]
      exact found
    have here : last.1 = some earlier.length := own _ _ (by simp)
    rw [List.foldl_append, List.foldl_cons, List.foldl_nil, inductionHypothesis before, overwrite, here]
    apply List.ext_getElem?
    intro place
    simp only [List.getElem?_modify, getElem?_assign, List.map_append, List.getElem?_append, List.length_map]
    rcases Nat.lt_trichotomy place earlier.length with less | rfl | greater
    · simp [less, Nat.ne_of_gt less]
    · simp
    · have beyond : ¬ place < earlier.length := by omega
      have missing : place - earlier.length ≠ 0 := by omega
      simp [beyond, Nat.ne_of_lt greater, missing]

variable {get : α → β}

/-- What a place reads differently was written to it. The last write to the place is the one that
counts, so its value is what is read. -/
theorem written_of_changed (reads : ∀ entry value, get (set entry value) = value)
    (writes : List (Option Nat × β)) {entries : List α} {place : Nat} {before after : α}
    (old : entries[place]? = some before)
    (new : (writes.foldl (overwrite set) entries)[place]? = some after)
    (changed : get after ≠ get before) : (some place, get after) ∈ writes := by
  induction writes using List.reverseRecOn generalizing after with
  | nil =>
    obtain rfl := Option.some.inj (old.symm.trans new)
    exact absurd rfl changed
  | append_singleton earlier last inductionHypothesis =>
    rw [List.foldl_append, List.foldl_cons, List.foldl_nil, overwrite] at new
    split at new
    · exact List.mem_append_left _ (inductionHypothesis new changed)
    · rename_i written found
      rw [List.getElem?_modify] at new
      obtain ⟨entry, entryAt, rfl⟩ := Option.map_eq_some_iff.mp new
      by_cases here : written = place
      · subst here
        apply List.mem_append_right
        simp [reads, ← found]
      · rw [if_neg here] at changed ⊢
        exact List.mem_append_left _ (inductionHypothesis entryAt changed)

/-- A place that was written to reads one of the values written. -/
theorem changed_of_written (reads : ∀ entry value, get (set entry value) = value)
    {writes : List (Option Nat × β)} {entries : List α} {place : Nat} {before : α} {value : β}
    (old : entries[place]? = some before) (written : (some place, value) ∈ writes) :
    ∃ after, (writes.foldl (overwrite set) entries)[place]? = some after ∧
      (some place, get after) ∈ writes := by
  induction writes using List.reverseRecOn generalizing value with
  | nil => cases written
  | append_singleton earlier last inductionHypothesis =>
    have long : place < (earlier.foldl (overwrite set) entries).length := by
      rw [length_foldl_overwrite]
      exact (List.getElem?_eq_some_iff.mp old).1
    rw [List.foldl_append, List.foldl_cons, List.foldl_nil, overwrite]
    rcases List.mem_append.mp written with before | here
    · obtain ⟨entry, entryAt, member⟩ := inductionHypothesis before
      split
      · exact ⟨entry, entryAt, List.mem_append_left _ member⟩
      · rename_i found search
        by_cases same : found = place
        · subst same
          refine ⟨set entry last.2, by simp [entryAt], ?_⟩
          simp [reads, ← search]
        · exact ⟨entry, by simp [same, entryAt], List.mem_append_left _ member⟩
    · obtain rfl := List.mem_singleton.mp here
      refine ⟨set (earlier.foldl (overwrite set) entries)[place] value, ?_, ?_⟩
      · simp [List.getElem?_eq_getElem long]
      · simp [reads]

end Places
