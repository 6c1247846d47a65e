import Mathlib.Tactic.Common

/-!
# What a fold leaves in a part of its state

A part of the state often follows its own, smaller fold: each input contributes some
events to it and all other inputs leave it alone (`foldl_part`). Three such folds cover
what records usually do with events. They overwrite and keep the last one, they collect
and keep each value once in the order of first appearance, or they collect keys with the
value that came first.
-/

namespace Folds

universe u v
variable {σ : Type u} {τ : Type v} {α β ε φ : Type}

/-- A part of the state follows the fold of its own events. -/
theorem foldl_part (part : σ → τ) (step : σ → φ → σ) (events : φ → List ε) (update : τ → ε → τ)
    (inputs : List φ)
    (each : ∀ state, ∀ input ∈ inputs,
      part (step state input) = (events input).foldl update (part state))
    (state : σ) :
    part (inputs.foldl step state) = (inputs.flatMap events).foldl update (part state) := by
  induction inputs generalizing state with
  | nil => rfl
  | cons input rest inductionHypothesis =>
    have later := inductionHypothesis (fun state other member =>
      each state other (List.mem_cons_of_mem input member)) (step state input)
    rw [List.foldl_cons, later, each state input (by simp), List.flatMap_cons, List.foldl_append]

/-- Overwriting keeps the last value. -/
theorem foldl_overwrite (values : List α) (initial : α) :
    values.foldl (fun _ value => value) initial = values.getLastD initial := by
  induction values generalizing initial with
  | nil => rfl
  | cons value rest inductionHypothesis =>
    rw [List.foldl_cons, inductionHypothesis, List.getLastD_cons]

/-- A part that each input overwrites keeps the last value it was given. -/
theorem foldl_last (part : σ → α) (step : σ → φ → σ) (given : φ → List α)
    (each : ∀ state input, part (step state input) = (given input).foldl (fun _ value => value) (part state))
    (inputs : List φ) (state : σ) :
    part (inputs.foldl step state) = (inputs.flatMap given).getLastD (part state) := by
  rw [foldl_part part step given (fun _ value => value) inputs (fun state input _ => each state input),
    foldl_overwrite]

/-- Entries keep their places when keys and values grow at their ends. -/
theorem zip_prefix {keys moreKeys : List α} {values moreValues : List β}
    (longer : keys <+: moreKeys)
    (wider : values <+: moreValues) : keys.zip values <+: moreKeys.zip moreValues := by
  obtain ⟨newKeys, rfl⟩ := longer
  obtain ⟨newValues, rfl⟩ := wider
  rw [List.prefix_iff_getElem?]
  intro place inside
  rw [List.length_zip] at inside
  have keyThere : place < keys.length := Nat.lt_of_lt_of_le inside (Nat.min_le_left _ _)
  have valueThere : place < values.length := Nat.lt_of_lt_of_le inside (Nat.min_le_right _ _)
  rw [List.getElem?_zip_eq_some, List.getElem_zip]
  constructor
  · rw [List.getElem?_append_left keyThere, List.getElem?_eq_getElem keyThere]
  · rw [List.getElem?_append_left valueThere, List.getElem?_eq_getElem valueThere]

/-! ## Each value once -/

variable [DecidableEq α]

/-- Append a value that is not there yet. -/
def addNew (values : List α) (value : α) : List α :=
  if value ∈ values then values else values ++ [value]

/-- One more value after those already met. -/
theorem addNew_eraseDups (earlier : List α) (value : α) :
    addNew earlier.eraseDups value = (earlier ++ [value]).eraseDups := by
  rw [List.eraseDups_append]
  by_cases member : value ∈ earlier
  · simp [addNew, member, List.removeAll]
  · simp [addNew, member, List.removeAll, List.eraseDups_cons]

/-- Adding what is new is removing duplicates. The values that came before may be given with
duplicates, which lets the induction go through. -/
theorem foldl_addNew_eraseDups (earlier values : List α) :
    values.foldl addNew earlier.eraseDups = (earlier ++ values).eraseDups := by
  induction values generalizing earlier with
  | nil => simp
  | cons value rest inductionHypothesis =>
    rw [List.foldl_cons, addNew_eraseDups, inductionHypothesis, List.append_assoc,
      List.singleton_append]

/-- Collecting new values keeps each once, in the order of first appearance. -/
theorem foldl_addNew (values : List α) : values.foldl addNew [] = values.eraseDups :=
  foldl_addNew_eraseDups [] values

/-- Collecting more values leaves those collected before in their places. -/
theorem prefix_foldl_addNew (earlier values : List α) :
    earlier <+: values.foldl addNew earlier := by
  induction values generalizing earlier with
  | nil => exact List.prefix_rfl
  | cons value rest inductionHypothesis =>
    have added : earlier <+: addNew earlier value := by
      rw [addNew]
      split
      · exact List.prefix_rfl
      · exact List.prefix_append _ _
    exact added.trans (inductionHypothesis (addNew earlier value))

/-! ## The first value of each key -/

/-- Keys and values side by side, and one more entry unless its key is there. -/
def putNew (table : List α × List β) (entry : α × β) : List α × List β :=
  if entry.1 ∈ table.1 then table else (table.1 ++ [entry.1], table.2 ++ [entry.2])

/-- Collecting more entries leaves those collected before in their places. -/
theorem zip_prefix_foldl_putNew (table : List α × List β) (entries : List (α × β)) :
    table.1.zip table.2 <+: (entries.foldl putNew table).1.zip (entries.foldl putNew table).2 := by
  induction entries generalizing table with
  | nil => exact List.prefix_rfl
  | cons entry rest inductionHypothesis =>
    have added : table.1.zip table.2 <+: (putNew table entry).1.zip (putNew table entry).2 := by
      rw [putNew]
      split
      · exact List.prefix_rfl
      · exact zip_prefix (List.prefix_append _ _) (List.prefix_append _ _)
    exact added.trans (inductionHypothesis (putNew table entry))

/-- Each key once, in the order of first appearance, and beside it the value it was
added with first. -/
structure FirstValues (entries : List (α × β)) (keys : List α) (values : List β) : Prop where
  keys_eq : keys = (entries.map Prod.fst).eraseDups
  values_eq : values.map some = keys.map fun key => entries.lookup key

/-- A key has a value once an entry with it was met. -/
theorem FirstValues.lookup {entries : List (α × β)} {keys : List α} {values : List β}
    (collected : FirstValues entries keys values) (key : α) :
    (entries.lookup key).isSome ↔ key ∈ keys := by
  rw [collected.keys_eq, List.mem_eraseDups, List.lookup_isSome_iff, List.mem_map]
  constructor
  · rintro ⟨entry, member, same⟩
    exact ⟨entry, member, (beq_iff_eq.mp same).symm⟩
  · rintro ⟨entry, member, same⟩
    exact ⟨entry, member, beq_iff_eq.mpr same.symm⟩

/-- One more entry after those already met. Its value counts only if its key is new, and then it
is the last of the table. -/
theorem FirstValues.put {entries : List (α × β)} {table : List α × List β}
    (collected : FirstValues entries table.1 table.2) (entry : α × β) :
    FirstValues (entries ++ [entry]) (putNew table entry).1 (putNew table entry).2 := by
  have keys : (putNew table entry).1 = addNew table.1 entry.1 := by
    rw [putNew, addNew]
    split <;> rfl
  have kept : (table.1.map fun key => (entries ++ [entry]).lookup key) =
      table.1.map fun key => entries.lookup key := by
    apply List.map_congr_left
    intro key member
    obtain ⟨value, found⟩ := Option.isSome_iff_exists.mp ((collected.lookup key).mpr member)
    rw [List.lookup_append, found, Option.some_or]
  constructor
  · rw [keys, collected.keys_eq, addNew_eraseDups, List.map_append, List.map_singleton]
  · by_cases member : entry.1 ∈ table.1
    · rw [putNew, if_pos member, kept, collected.values_eq]
    · have fresh : entries.lookup entry.1 = none := by
        rw [← Option.not_isSome_iff_eq_none, collected.lookup]
        exact member
      have added : (entries ++ [entry]).lookup entry.1 = some entry.2 := by
        rw [List.lookup_append, fresh, Option.none_or, List.lookup_cons_self]
      rw [putNew, if_neg member, List.map_append, List.map_append, kept, collected.values_eq,
        List.map_singleton, List.map_singleton, added]

/-- Collecting entries keeps the first value of each key. -/
theorem firstValues_foldl (earlier entries : List (α × β)) (table : List α × List β)
    (collected : FirstValues earlier table.1 table.2) :
    FirstValues (earlier ++ entries) (entries.foldl putNew table).1 (entries.foldl putNew table).2 := by
  induction entries generalizing earlier table with
  | nil => rwa [List.append_nil]
  | cons entry rest inductionHypothesis =>
    have next := inductionHypothesis (earlier ++ [entry]) (putNew table entry) (collected.put entry)
    rwa [List.append_assoc, List.singleton_append] at next

/-- Of no entries there is no first value. -/
theorem firstValues_nil : FirstValues ([] : List (α × β)) [] [] where
  keys_eq := rfl
  values_eq := rfl

end Folds
