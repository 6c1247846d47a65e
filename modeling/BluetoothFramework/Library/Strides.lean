import Mathlib.Data.List.Basic
import Mathlib.Logic.Relation
import Mathlib.Tactic.Common

/-!
# Reading a text in groups of three

A reading passes over gaps one by one; anything else starts a group of three characters,
and the reading resumes behind it. The index is kept below a modulus, so a long text, or a
group at the very end, takes the reading back to the beginning.

`bounded_iff` says which texts have at most so many groups however long the reading goes
on: without a return to the beginning the groups are those of the text; a reading that
returns meets a group again and again, unless there are only gaps.
-/

namespace Strides

open Relation

universe u
variable {α : Type u} (gap : α → Bool) (text : List α) (modulus : Nat)

/-- The positions at which groups start, for a text at a position. The first characters may
still belong to a group. -/
def starts : Nat → Nat → List α → List Nat
  | _, _, [] => []
  | position, skip + 1, _ :: rest => starts (position + 1) skip rest
  | position, 0, first :: rest =>
      if gap first then starts (position + 1) 0 rest else position :: starts (position + 1) 2 rest

/-- The groups of a reading that starts at a position. -/
def startsFrom (position : Nat) : List Nat :=
  starts gap position 0 (text.drop position)

/-- How far the reading moves. -/
def stride (first : α) : Nat :=
  if gap first then 1 else 3

/-- The reading moves from a position and counts the groups. -/
def Moves (before after : Nat × Nat) : Prop :=
  ∃ first, text[before.1]? = some first ∧ after.1 = (before.1 + stride gap first) % modulus ∧
    after.2 = before.2 + if gap first then 0 else 1

/-- The reading moves on in the text, without a return to the beginning. -/
def Reads (before after : Nat) : Prop :=
  ∃ first, text[before]? = some first ∧ after = before + stride gap first

/-- The reading has at most so many groups: those of the text, none of which returns to the
beginning; or the index always returns and there are only gaps. -/
def Fits (limit : Nat) : Prop :=
  if text.length < modulus then
    (startsFrom gap text 0).length ≤ limit ∧ ∀ position ∈ startsFrom gap text 0, position + 3 < modulus
  else ∀ first ∈ text.take modulus, gap first = true

variable {gap text modulus}

/-! ## The groups of a text -/

/-- Skipped elements are dropped, and the position goes on by as many. -/
theorem starts_skip (position skip : Nat) (rest : List α) :
    starts gap position skip rest = starts gap (position + skip) 0 (rest.drop skip) := by
  induction skip generalizing position rest with
  | zero => rfl
  | succ skip inductionHypothesis =>
    cases rest with
    | nil => simp [starts]
    | cons first rest =>
      rw [starts, inductionHypothesis, List.drop_succ_cons]
      congr 1
      omega

/-- Behind the end of the text no group starts. -/
theorem startsFrom_end {position : Nat} (ended : text[position]? = none) :
    startsFrom gap text position = [] := by
  rw [startsFrom, List.drop_eq_nil_of_le (List.getElem?_eq_none_iff.mp ended), starts]

/-- The text from a position is its element there and the text from the next. -/
theorem drop_eq_cons {position : Nat} {first : α} (here : text[position]? = some first) :
    text.drop position = first :: text.drop (position + 1) := by
  obtain ⟨inside, rfl⟩ := List.getElem?_eq_some_iff.mp here
  exact List.drop_eq_getElem_cons inside

/-- A gap starts no group, so the search goes on behind it. -/
theorem startsFrom_gap {position : Nat} {first : α} (here : text[position]? = some first)
    (isGap : gap first = true) :
      startsFrom gap text position = startsFrom gap text (position + 1) := by
  rw [startsFrom, drop_eq_cons here, starts, if_pos isGap, startsFrom]

/-- A group starts where there is no gap, and the search goes on three elements further. -/
theorem startsFrom_group {position : Nat} {first : α} (here : text[position]? = some first)
    (noGap : ¬ gap first = true) :
    startsFrom gap text position = position :: startsFrom gap text (position + 3) := by
  rw [startsFrom, drop_eq_cons here, starts, if_neg noGap, starts_skip, List.drop_drop, startsFrom]

/-- Induction along a reading: at the end, over a gap, over a group. -/
theorem reading_induction {motive : Nat → Prop}
    (ended : ∀ position, text[position]? = none → motive position)
    (gapped : ∀ position first, text[position]? = some first → gap first = true →
      motive (position + 1) → motive position)
    (grouped : ∀ position first, text[position]? = some first → ¬ gap first = true →
      motive (position + 3) → motive position) (position : Nat) : motive position := by
  induction left : text.length - position using Nat.strongRecOn generalizing position with
  | ind left inductionHypothesis =>
    cases here : text[position]? with
    | none => exact ended position here
    | some first =>
      obtain ⟨inside, -⟩ := List.getElem?_eq_some_iff.mp here
      by_cases isGap : gap first = true
      · exact gapped position first here isGap (inductionHypothesis _ (by omega) (position + 1) rfl)
      · exact grouped position first here isGap (inductionHypothesis _ (by omega) (position + 3) rfl)

/-- A reading comes to every start of its groups. The induction is on the reading, which lists
the starts as it meets them. -/
theorem reads_start {position start : Nat} (member : start ∈ startsFrom gap text position) :
    ReflTransGen (Reads gap text) position start ∧
      ∃ first, text[start]? = some first ∧ ¬ gap first = true := by
  induction position using @reading_induction _ gap text with
  | ended position here =>
    rw [startsFrom_end here] at member
    cases member
  | gapped position first here isGap inductionHypothesis =>
    rw [startsFrom_gap here isGap] at member
    obtain ⟨reads, group⟩ := inductionHypothesis member
    exact ⟨reads.head ⟨first, here, by rw [stride, if_pos isGap]⟩, group⟩
  | grouped position first here noGap inductionHypothesis =>
    rw [startsFrom_group here noGap] at member
    obtain rfl | later := List.mem_cons.mp member
    · exact ⟨ReflTransGen.refl, first, here, noGap⟩
    · obtain ⟨reads, group⟩ := inductionHypothesis later
      exact ⟨reads.head ⟨first, here, by rw [stride, if_neg noGap]⟩, group⟩

/-- A reading goes on to every position or beyond. It may jump over the position itself, within a
group. -/
theorem reads_beyond {position goal : Nat} (inside : goal ≤ text.length)
    (before : position ≤ goal) :
    ∃ after, goal ≤ after ∧ ReflTransGen (Reads gap text) position after := by
  induction position using @reading_induction _ gap text with
  | ended position here =>
    have beyond := List.getElem?_eq_none_iff.mp here
    exact ⟨position, by omega, ReflTransGen.refl⟩
  | gapped position first here isGap inductionHypothesis =>
    by_cases near : position + 1 ≤ goal
    · obtain ⟨after, beyond, reads⟩ := inductionHypothesis near
      exact ⟨after, beyond, reads.head ⟨first, here, by rw [stride, if_pos isGap]⟩⟩
    · exact ⟨position, by omega, ReflTransGen.refl⟩
  | grouped position first here noGap inductionHypothesis =>
    by_cases near : position + 3 ≤ goal
    · obtain ⟨after, beyond, reads⟩ := inductionHypothesis near
      exact ⟨after, beyond, reads.head ⟨first, here, by rw [stride, if_neg noGap]⟩⟩
    · exact ⟨position + 3, by omega, ReflTransGen.single ⟨first, here, by rw [stride, if_neg noGap]⟩⟩

/-! ## Where readings meet -/

/-- Three gaps one after another. -/
def ThreeGaps (gap : α → Bool) (text : List α) (position : Nat) : Prop :=
  ∀ offset < 3, ∃ first, text[position + offset]? = some first ∧ gap first = true

/-- No reading passes three gaps without reading the last one. A reading moves on by three
elements at most, so it would have to stop within the three and move on from there. -/
theorem reads_through {position after gaps : Nat} (three : ThreeGaps gap text gaps)
    (reads : ReflTransGen (Reads gap text) position after)
    (before : position ≤ gaps + 2) (beyond : gaps + 2 ≤ after) :
    ReflTransGen (Reads gap text) position (gaps + 2) ∧
      ReflTransGen (Reads gap text) (gaps + 2) after := by
  induction reads using ReflTransGen.head_induction_on with
  | refl =>
    have equal : gaps + 2 = after := by omega
    exact ⟨equal ▸ ReflTransGen.refl, equal ▸ ReflTransGen.refl⟩
  | head move rest inductionHypothesis =>
    rename_i position next
    by_cases here : position = gaps + 2
    · rw [← here]
      exact ⟨ReflTransGen.refl, rest.head move⟩
    obtain ⟨first, at_position, moved⟩ := move
    have near : next ≤ gaps + 2 := by
      by_cases isGap : gap first = true
      · rw [stride, if_pos isGap] at moved
        omega
      · rw [stride, if_neg isGap] at moved
        by_contra far
        obtain ⟨other, at_gaps, isGapThere⟩ := three (position - gaps) (by omega)
        rw [show gaps + (position - gaps) = position by omega, at_position, Option.some.injEq] at at_gaps
        exact isGap (at_gaps ▸ isGapThere)
    obtain ⟨reaches, leaves⟩ := inductionHypothesis near
    exact ⟨reaches.head ⟨first, at_position, moved⟩, leaves⟩

/-- Three gaps, or a group that starts at one of the three characters. This is what lets two
readings that differ in their beginning meet again. -/
theorem threeGaps_or_group {position : Nat} (inside : position + 3 ≤ text.length) :
    ThreeGaps gap text position ∨
      ∃ offset < 3,
        startsFrom gap text position =
          (position + offset) :: startsFrom gap text (position + offset + 3) := by
  have present (offset : Nat) (within : offset < 3) : ∃ first, text[position + offset]? = some first := by
    exact ⟨_, List.getElem?_eq_getElem (by omega)⟩
  obtain ⟨first, atFirst : text[position]? = some first⟩ := present 0 (by omega)
  obtain ⟨second, atSecond⟩ := present 1 (by omega)
  obtain ⟨third, atThird⟩ := present 2 (by omega)
  by_cases firstGap : gap first = true
  swap
  · exact Or.inr ⟨0, by omega, startsFrom_group atFirst firstGap⟩
  by_cases secondGap : gap second = true
  swap
  · refine Or.inr ⟨1, by omega, ?_⟩
    rw [startsFrom_gap atFirst firstGap]
    exact startsFrom_group atSecond secondGap
  by_cases thirdGap : gap third = true
  swap
  · refine Or.inr ⟨2, by omega, ?_⟩
    rw [startsFrom_gap atFirst firstGap, startsFrom_gap atSecond secondGap]
    exact startsFrom_group atThird thirdGap
  · apply Or.inl
    intro offset within
    obtain rfl | rfl | rfl : offset = 0 ∨ offset = 1 ∨ offset = 2 := by omega
    · exact ⟨first, atFirst, firstGap⟩
    · exact ⟨second, atSecond, secondGap⟩
    · exact ⟨third, atThird, thirdGap⟩

/-- With few groups three gaps come soon. Each group takes three elements and at most two gaps
stand before it, which gives the bound. -/
theorem exists_threeGaps {limit position : Nat}
    (few : (startsFrom gap text position).length ≤ limit)
    (inside : position + 5 * limit + 3 ≤ text.length) :
    ∃ gaps, position ≤ gaps ∧ gaps ≤ position + 5 * limit ∧ ThreeGaps gap text gaps := by
  induction limit generalizing position with
  | zero =>
    obtain three | ⟨offset, -, group⟩ := @threeGaps_or_group _ gap text position (by omega)
    · exact ⟨position, by omega, by omega, three⟩
    · rw [group, List.length_cons] at few
      omega
  | succ limit inductionHypothesis =>
    obtain three | ⟨offset, near, group⟩ := @threeGaps_or_group _ gap text position (by omega)
    · exact ⟨position, by omega, by omega, three⟩
    · rw [group, List.length_cons] at few
      obtain ⟨gaps, behind, soon, three⟩ :=
        @inductionHypothesis (position + offset + 3) (by omega) (by omega)
      exact ⟨gaps, by omega, by omega, three⟩

/-! ## The index below its modulus -/

/-- Reading goes forward. -/
theorem reads_le {position after : Nat} (reads : ReflTransGen (Reads gap text) position after) :
    position ≤ after := by
  induction reads with
  | refl => exact Nat.le_refl _
  | tail _ move rises =>
    obtain ⟨first, -, rfl⟩ := move
    omega

/-- As long as the reading stays below the modulus the index follows it. -/
theorem moves_of_reads {position after : Nat} (reads : ReflTransGen (Reads gap text) position after)
    (below : after < modulus) (count : Nat) :
    ∃ later, count ≤ later ∧ ReflTransGen (Moves gap text modulus) (position, count) (after, later) := by
  induction reads using ReflTransGen.head_induction_on generalizing count with
  | refl => exact ⟨count, Nat.le_refl _, ReflTransGen.refl⟩
  | head move rest inductionHypothesis =>
    obtain ⟨first, here, rfl⟩ := move
    obtain ⟨later, atLeast, moves⟩ := inductionHypothesis (count + if gap first then 0 else 1)
    refine ⟨later, by omega, moves.head ⟨first, here, ?_, rfl⟩⟩
    rw [Nat.mod_eq_of_lt (Nat.lt_of_le_of_lt (reads_le rest) below)]

/-- Without a return to the beginning the groups of the text are counted. The sum of what is
counted and what lies ahead does not change on the way. -/
theorem count_groups (short : text.length < modulus)
    (noReturn : ∀ position ∈ startsFrom gap text 0, position + 3 < modulus) {after : Nat × Nat}
    (moves : ReflTransGen (Moves gap text modulus) (0, 0) after) :
    after.2 + (startsFrom gap text after.1).length = (startsFrom gap text 0).length ∧
      ∀ position ∈ startsFrom gap text after.1, position + 3 < modulus := by
  induction moves with
  | refl => exact ⟨Nat.zero_add _, noReturn⟩
  | @tail before after _ move inductionHypothesis =>
    obtain ⟨counted, inside⟩ := inductionHypothesis
    obtain ⟨first, here, moved, count⟩ := move
    obtain ⟨within, -⟩ := List.getElem?_eq_some_iff.mp here
    by_cases isGap : gap first = true
    · rw [stride, if_pos isGap, Nat.mod_eq_of_lt (by omega)] at moved
      rw [if_pos isGap] at count
      rw [startsFrom_gap here isGap] at counted inside
      rw [moved, count]
      exact ⟨counted, inside⟩
    · rw [startsFrom_group here isGap] at counted inside
      rw [stride, if_neg isGap, Nat.mod_eq_of_lt (inside before.1 (List.mem_cons_self ..))] at moved
      rw [if_neg isGap] at count
      rw [List.length_cons] at counted
      rw [moved, count]
      exact ⟨by omega, fun position member => inside position (List.mem_cons_of_mem _ member)⟩

/-- The groups of the text are counted one after another. Where the text is short enough the
count does not return to the beginning before it has met them all. -/
theorem counts_up (short : text.length < modulus) {position : Nat} (count : Nat) {groups : Nat}
    (few : groups ≤ (startsFrom gap text position).length) :
    ∃ after, ReflTransGen (Moves gap text modulus) (position, count) after ∧
      count + groups ≤ after.2 := by
  induction position using @reading_induction _ gap text generalizing count groups with
  | ended position here =>
    rw [startsFrom_end here, List.length_nil] at few
    exact ⟨_, ReflTransGen.refl, by omega⟩
  | gapped position first here isGap inductionHypothesis =>
    rw [startsFrom_gap here isGap] at few
    obtain ⟨within, -⟩ := List.getElem?_eq_some_iff.mp here
    obtain ⟨after, moves, counted⟩ := inductionHypothesis count few
    refine ⟨after, moves.head ⟨first, here, ?_, ?_⟩, counted⟩
    · rw [stride, if_pos isGap, Nat.mod_eq_of_lt (by omega)]
    · simp only [isGap, ↓reduceIte, Nat.add_zero]
  | grouped position first here noGap inductionHypothesis =>
    rw [startsFrom_group here noGap, List.length_cons] at few
    obtain none | ⟨fewer, one⟩ : groups ≤ 1 ∨ ∃ fewer, groups = fewer + 2 := by
      obtain small | large : groups ≤ 1 ∨ 2 ≤ groups := by omega
      · exact Or.inl small
      · exact Or.inr ⟨groups - 2, by omega⟩
    · refine ⟨((position + stride gap first) % modulus, count + 1),
        ReflTransGen.single ⟨first, here, rfl, ?_⟩, ?_⟩
      · simp only [noGap, Bool.false_eq_true, ↓reduceIte]
      · dsimp only
        omega
    · have within : position + 3 < text.length := by
        by_contra ended
        rw [startsFrom_end (List.getElem?_eq_none_iff.mpr (by omega)), List.length_nil] at few
        omega
      obtain ⟨after, moves, counted⟩ := @inductionHypothesis (count + 1) (fewer + 1) (by omega)
      refine ⟨after, moves.head ⟨first, here, ?_, ?_⟩, by omega⟩
      · rw [stride, if_neg noGap, Nat.mod_eq_of_lt (by omega)]
      · simp only [noGap, Bool.false_eq_true, ↓reduceIte]

/-- A group that returns to the beginning is met again and again. The reading that returns has
counted it, and comes to it once more by the same steps. -/
theorem unbounded_of_return {limit : Nat} (wide : 5 * limit + 8 ≤ modulus)
    (short : text.length < modulus) (few : (startsFrom gap text 0).length ≤ limit) {position : Nat}
    (member : position ∈ startsFrom gap text 0) (returns : modulus ≤ position + 3) (count : Nat) :
    ∃ later, count ≤ later ∧ ReflTransGen (Moves gap text modulus) (0, 0) (position, later) := by
  obtain ⟨reads, first, here, noGap⟩ := reads_start member
  obtain ⟨within, -⟩ := List.getElem?_eq_some_iff.mp here
  -- The reading from the beginning and the one that returns meet at the first three gaps.
  have again : ReflTransGen (Reads gap text) (position + 3 - modulus) position := by
    obtain none | one : position + 3 - modulus = 0 ∨ position + 3 - modulus = 1 := by omega
    · rw [none]
      exact reads
    · rw [one]
      obtain ⟨gaps, -, soon, three⟩ := exists_threeGaps few (by omega)
      obtain ⟨after, beyond, goesOn⟩ := @reads_beyond _ gap text 1 (gaps + 2) (by omega) (by omega)
      exact (reads_through three goesOn (by omega) beyond).1.trans
        (reads_through three reads (by omega) (by omega)).2
  induction count with
  | zero => exact moves_of_reads reads (by omega) 0
  | succ count inductionHypothesis =>
    obtain ⟨before, counted, moves⟩ := inductionHypothesis
    obtain ⟨later, more, movesAgain⟩ := @moves_of_reads _ gap text modulus _ _ again (by omega) (before + 1)
    refine ⟨later, by omega, (moves.tail ⟨first, here, ?_, ?_⟩).trans movesAgain⟩
    · rw [stride, if_neg noGap, Nat.mod_eq_sub_mod returns, Nat.mod_eq_of_lt (by omega)]
    · simp only [noGap, Bool.false_eq_true, ↓reduceIte]

/-- In a long text every reading meets a group, unless there are only gaps. The distance to the
group shrinks with every gap, going around the end of the index if it must. -/
theorem moves_to_group (long : modulus ≤ text.length) {group : Nat}
    (below : group < modulus) {first : α}
    (here : text[group]? = some first) (noGap : ¬ gap first = true) {index : Nat}
    (inside : index < modulus) (count : Nat) : ∃ next < modulus,
      ReflTransGen (Moves gap text modulus) (index, count) (next, count + 1) := by
  induction measured : (if index ≤ group then group - index else group + modulus - index) using Nat.strongRecOn
    generalizing index with
  | ind distance inductionHypothesis =>
    have positive : 0 < modulus := by omega
    have there : text[index]? = some text[index] := List.getElem?_eq_getElem (by omega)
    by_cases isGap : gap text[index] = true
    swap
    · refine ⟨_, Nat.mod_lt _ positive, ReflTransGen.single ⟨_, there, rfl, ?_⟩⟩
      simp only [isGap, Bool.false_eq_true, ↓reduceIte]
    have other : index ≠ group := by
      rintro rfl
      rw [there, Option.some.injEq] at here
      exact noGap (here ▸ isGap)
    have move : Moves gap text modulus (index, count) ((index + 1) % modulus, count) := by
      refine ⟨_, there, ?_, ?_⟩
      · rw [stride, if_pos isGap]
      · simp only [isGap, ↓reduceIte, Nat.add_zero]
    have nearer : (if (index + 1) % modulus ≤ group then group - (index + 1) % modulus
        else group + modulus - (index + 1) % modulus) < distance := by
      obtain last | notLast : index + 1 = modulus ∨ index + 1 < modulus := by omega
      · rw [last, Nat.mod_self, if_pos (Nat.zero_le _)]
        rw [if_neg (by omega)] at measured
        omega
      · rw [Nat.mod_eq_of_lt notLast]
        split at measured
        · rw [if_pos (by omega)]
          omega
        · rw [if_neg (by omega)]
          omega
    obtain ⟨next, nextBelow, moves⟩ := inductionHypothesis _ nearer (Nat.mod_lt _ positive) rfl
    exact ⟨next, nextBelow, moves.head move⟩

/-- **However long the reading goes on it counts at most so many groups, exactly if the text
has no more and takes the index back to the beginning over gaps only.** -/
theorem bounded_iff {limit : Nat} (wide : 5 * limit + 8 ≤ modulus) :
    (∀ after, ReflTransGen (Moves gap text modulus) (0, 0) after → after.2 ≤ limit) ↔
      Fits gap text modulus limit := by
  rw [Fits]
  split
  · rename_i short
    constructor
    · intro bounded
      have few : (startsFrom gap text 0).length ≤ limit := by
        obtain ⟨after, moves, counted⟩ := @counts_up _ gap text modulus short 0 0 _ (Nat.le_refl _)
        have small := bounded after moves
        omega
      refine ⟨few, ?_⟩
      intro position member
      by_contra returns
      obtain ⟨later, counted, moves⟩ := unbounded_of_return wide short few member (by omega) (limit + 1)
      have small := bounded _ moves
      dsimp only at small
      omega
    · rintro ⟨few, noReturn⟩ after moves
      have counted := (count_groups short noReturn moves).1
      omega
  · rename_i long
    constructor
    · intro bounded first member
      by_contra noGap
      obtain ⟨group, within, here⟩ := List.mem_iff_getElem.mp member
      rw [List.length_take] at within
      rw [List.getElem_take] at here
      have unbounded (count : Nat) :
          ∃ index < modulus, ReflTransGen (Moves gap text modulus) (0, 0) (index, count) := by
        induction count with
        | zero => exact ⟨0, by omega, ReflTransGen.refl⟩
        | succ count inductionHypothesis =>
          obtain ⟨index, inside, moves⟩ := inductionHypothesis
          obtain ⟨next, below, more⟩ := moves_to_group (by omega) (by omega)
            (List.getElem?_eq_some_iff.mpr ⟨by omega, here⟩) noGap inside count
          exact ⟨next, below, moves.trans more⟩
      obtain ⟨index, -, moves⟩ := unbounded (limit + 1)
      have small := bounded _ moves
      dsimp only at small
      omega
    · intro gaps after moves
      have none : after.1 < modulus ∧ after.2 = 0 := by
        induction moves with
        | refl => exact ⟨by omega, rfl⟩
        | tail _ move inductionHypothesis =>
          obtain ⟨below, count⟩ := inductionHypothesis
          obtain ⟨first, here, moved, counted⟩ := move
          have isGap : gap first = true := by
            apply gaps
            rw [List.mem_iff_getElem?]
            exact ⟨_, by rw [List.getElem?_take_of_lt below, here]⟩
          rw [if_pos isGap, count] at counted
          exact ⟨moved ▸ Nat.mod_lt _ (by omega), counted⟩
      omega

end Strides
