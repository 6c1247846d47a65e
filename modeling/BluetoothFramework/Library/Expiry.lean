import Mathlib.Data.List.DropRight
import Mathlib.Data.List.Pairwise
import Mathlib.Tactic.Common

/-!
# A bounded queue of items that expire

Items enter a queue at its end, in the order of their times, and leave it at its front,
either because they have expired or because the queue is full. So from the time of the last
removal on, the live items of the queue are those among the latest items that ever entered.
-/

namespace Expiry

universe u
variable {Item : Type u} (time : Item → Nat) (lifetime capacity : Nat)

/-- The item has not expired. -/
def live (now : Nat) (item : Item) : Bool :=
  now < time item + lifetime

/-- From a time on, what lives of the queue is what lives of the latest items. -/
structure Keeps (since : Nat) (queue entered : List Item) : Prop where
  fits : queue.length ≤ capacity
  same : ∀ now, since ≤ now →
    queue.filter (live time lifetime now) = (entered.rtake capacity).filter (live time lifetime now)

variable {time lifetime capacity}

/-- What has expired stays so. -/
theorem live_of_live {earlier now : Nat} {item : Item} (later : earlier ≤ now)
    (lives : live time lifetime now item = true) : live time lifetime earlier item = true := by
  simp only [live, decide_eq_true_eq] at lives ⊢
  omega

/-- Removal at the front of an ordered queue removes everything that has expired. Behind the
first item that is live all are live, for they are younger. -/
theorem dropWhile_expired (now : Nat) {queue : List Item}
    (ordered : queue.Pairwise fun first second => time first ≤ time second) :
    queue.dropWhile (fun item => !live time lifetime now item) =
      queue.filter (live time lifetime now) := by
  induction queue with
  | nil => rfl
  | cons first rest inductionHypothesis =>
    obtain ⟨least, restOrdered⟩ := List.pairwise_cons.mp ordered
    cases lives : live time lifetime now first with
    | false =>
      rw [List.dropWhile_cons_of_pos (by simp [lives]), List.filter_cons_of_neg (by simp [lives])]
      exact inductionHypothesis restOrdered
    | true =>
      have allLive : ∀ item ∈ first :: rest, live time lifetime now item = true := by
        intro item member
        obtain rfl | later := List.mem_cons.mp member
        · exact lives
        · have after := least item later
          simp only [live, decide_eq_true_eq] at lives ⊢
          omega
      rw [List.dropWhile_cons_of_neg (by simp [lives]), List.filter_eq_self.mpr allLive]

/-- Expired items may go. -/
theorem keeps_expire {since now : Nat} {queue entered : List Item} (later : since ≤ now)
    (keeps : Keeps time lifetime capacity since queue entered) :
    Keeps time lifetime capacity now (queue.filter (live time lifetime now)) entered where
  fits := (List.length_filter_le _ _).trans keeps.fits
  same := by
    intro next after
    rw [← keeps.same next (later.trans after), List.filter_filter]
    apply List.filter_congr
    intro item _
    cases lives : live time lifetime next item with
    | false => rfl
    | true => rw [live_of_live after lives]; rfl

/-- The latest items but one, with another item behind them. -/
theorem rtake_succ (all : List Item) (count : Nat) (full : count < all.length) :
    ∃ oldest, all.rtake (count + 1) = oldest :: all.rtake count := by
  refine ⟨all[all.length - (count + 1)], ?_⟩
  rw [List.rtake, List.rtake, List.drop_eq_getElem_cons (by omega)]
  congr 2
  omega

/-- A new item enters a queue without expired ones; a full queue loses its front. The queue then
holds the last items of the history, at most as many as it has room for. -/
theorem keeps_enter {since : Nat} {queue entered : List Item} {item : Item}
    (ordered : entered.Pairwise fun first second => time first ≤ time second)
    (allLive : ∀ kept ∈ queue, live time lifetime since kept = true)
    (keeps : Keeps time lifetime (capacity + 1) since queue entered) :
    Keeps time lifetime (capacity + 1) since
      ((if capacity + 1 ≤ queue.length then queue.tail else queue) ++ [item]) (entered ++ [item]) := by
  have fits := keeps.fits
  have latest : (entered ++ [item]).rtake (capacity + 1) = entered.rtake capacity ++ [item] :=
    List.rtake_concat_succ entered capacity item
  have now : queue = (entered.rtake (capacity + 1)).filter (live time lifetime since) := by
    rw [← keeps.same since (Nat.le_refl _), List.filter_eq_self.mpr allLive]
  have same (next : Nat) (after : since ≤ next) :
      (if capacity + 1 ≤ queue.length then queue.tail else queue).filter (live time lifetime next) =
        (entered.rtake capacity).filter (live time lifetime next) := by
    by_cases short : entered.length ≤ capacity
    · -- Nothing has been forgotten yet.
      have most : ∀ count, entered.length ≤ count → entered.rtake count = entered := by
        intro count enough
        rw [List.rtake, Nat.sub_eq_zero_of_le enough, List.drop_zero]
      have atMost : queue.length ≤ entered.length := by
        rw [now, most _ (by omega)]
        exact List.length_filter_le _ _
      rw [if_neg (by omega), keeps.same next after, most _ short, most _ (by omega)]
    · obtain ⟨oldest, split⟩ := rtake_succ entered capacity (by omega)
      rw [split] at now
      have orderedLatest :
          (oldest :: entered.rtake capacity).Pairwise fun first second => time first ≤ time second := by
        rw [← split]
        exact ordered.sublist (List.drop_sublist _ _)
      have length : (entered.rtake capacity).length = capacity := by
        rw [List.rtake, List.length_drop]
        omega
      by_cases lives : live time lifetime since oldest = true
      · have whole : queue = oldest :: entered.rtake capacity := by
          rw [now]
          apply List.filter_eq_self.mpr
          intro kept member
          obtain rfl | later := List.mem_cons.mp member
          · exact lives
          · have behind := (List.pairwise_cons.mp orderedLatest).1 kept later
            simp only [live, decide_eq_true_eq] at lives ⊢
            omega
        rw [if_pos (by rw [whole, List.length_cons, length]), whole, List.tail_cons]
      · have dead : ¬ live time lifetime next oldest = true :=
          fun stillLives => lives (live_of_live after stillLives)
        rw [List.filter_cons_of_neg lives] at now
        have atMost : queue.length ≤ capacity := by
          rw [now]
          exact (List.length_filter_le _ _).trans_eq length
        rw [if_neg (by omega), keeps.same next after, split, List.filter_cons_of_neg dead]
  constructor
  · rw [List.length_append, List.length_singleton]
    split
    · rw [List.length_tail]
      omega
    · omega
  · intro next after
    rw [latest, List.filter_append, List.filter_append, same next after]

end Expiry
