import Mathlib.Algebra.BigOperators.Group.List.Basic
import Mathlib.Algebra.BigOperators.Group.Finset.Basic
import Mathlib.Algebra.BigOperators.Group.Finset.Piecewise
import Mathlib.Data.Fintype.EquivFin
import Mathlib.Data.List.FinRange

/-!
# Entries credited to accounts

Every member of a family has entries of its own and names an account that they are credited
to. The accounts are kept under the members' own places. So an account is right if it ends
with the entries of the member at its place.

All accounts are right exactly when the members with entries name different accounts, each
of them the account of a member with the same entries: as many accounts are filled as there
are members to fill them.
-/

namespace Accounts

universe u
variable {α : Type u} {n : Nat}

/-- What is credited to an account, in order. -/
def account (postings : List (Nat × α)) (place : Nat) : List α :=
  (postings.filter fun posting => posting.1 = place).map Prod.snd

/-- Nothing was booked, so every account is empty. -/
@[simp] theorem account_nil (place : Nat) : account ([] : List (Nat × α)) place = [] :=
  rfl

/-- An account of two parts is the account of the one and then of the other, which is what
inductions over bookings need. -/
theorem account_append (earlier later : List (Nat × α)) (place : Nat) :
    account (earlier ++ later) place = account earlier place ++ account later place := by
  simp only [account, List.filter_append, List.map_append]

/-- Entries that one member has credited go to the account it names. -/
theorem account_credited (entries : List α) (named place : Nat) :
    account (entries.map (Prod.mk named)) place = if named = place then entries else [] := by
  by_cases here : named = place
  · simp [account, List.filter_map, Function.comp_def, here]
  · simp [account, List.filter_map, Function.comp_def, here]

/-- Every posting is in one account. So the accounts together are as long as the list of
postings, whichever of them are empty. -/
theorem sum_length_account (postings : List (Nat × α))
    (within : ∀ posting ∈ postings, posting.1 < n) :
    ∑ place ∈ Finset.range n, (account postings place).length = postings.length := by
  induction postings with
  | nil => simp
  | cons posting rest inductionHypothesis =>
    have restWithin : ∀ other ∈ rest, other.1 < n := fun other member =>
      within other (List.mem_cons_of_mem _ member)
    have placed : posting.1 ∈ Finset.range n := Finset.mem_range.mpr (within posting List.mem_cons_self)
    have split (place : Nat) : (account (posting :: rest) place).length =
        (if posting.1 = place then 1 else 0) + (account rest place).length := by
      by_cases here : posting.1 = place
      · simp [account, here, Nat.add_comm]
      · simp [account, here]
    simp only [split, Finset.sum_add_distrib, inductionHypothesis restWithin, Finset.sum_ite_eq,
      placed, if_true,
      List.length_cons, Nat.add_comm]

/-- What the members credit to the account at a place. -/
def collected (own : Fin n → List α) (named : Fin n → Option (Fin n)) (place : Fin n) : List α :=
  (List.finRange n).flatMap fun member => if named member = some place then own member else []

/-- The one member that has something for an account fills it alone. The others that name the
same place have nothing to add, so their order does not matter. -/
theorem collected_eq {own : Fin n → List α} {named : Fin n → Option (Fin n)} {member place : Fin n}
    (names : named member = some place)
    (alone : ∀ other, own other ≠ [] → named other = some place → other = member) :
    collected own named place = own member := by
  have nothing (members : List (Fin n)) (absent : member ∉ members) :
      members.flatMap (fun other => if named other = some place then own other else []) = [] := by
    rw [List.flatMap_eq_nil_iff]
    intro other present
    by_cases here : named other = some place
    · rw [if_pos here]
      by_contra filled
      exact absent (alone other filled here ▸ present)
    · rw [if_neg here]
  obtain ⟨before, after, split⟩ := List.append_of_mem (List.mem_finRange member)
  have distinct := List.nodup_finRange n
  rw [split, List.nodup_append, List.nodup_cons] at distinct
  obtain ⟨-, ⟨notAfter, -⟩, apart⟩ := distinct
  have notBefore : member ∉ before := fun present => apart member present member List.mem_cons_self rfl
  rw [collected, split, List.flatMap_append, List.flatMap_cons, nothing before notBefore,
    nothing after notAfter,
    if_pos names, List.append_nil, List.nil_append]

/-- An account that no member with entries names stays empty. -/
theorem collected_eq_nil {own : Fin n → List α} {named : Fin n → Option (Fin n)} {place : Fin n}
    (unnamed : ∀ member, own member ≠ [] → named member ≠ some place) :
      collected own named place = [] := by
  rw [collected, List.flatMap_eq_nil_iff]
  intro member _
  by_cases here : named member = some place
  · rw [if_pos here]
    by_contra filled
    exact unnamed member filled here
  · rw [if_neg here]

/-- Members with entries name accounts of members with entries, if all accounts are right or
each member names one with the same entries. So naming is a map among them. -/
noncomputable def naming (own : Fin n → List α) (named : Fin n → Option (Fin n))
    (placed : ∀ member, own member ≠ [] → ∃ place, named member = some place ∧ own place ≠ []) :
    { member : Fin n // own member ≠ [] } → { member : Fin n // own member ≠ [] } :=
  fun member => ⟨(placed member.1 member.2).choose, (placed member.1 member.2).choose_spec.2⟩

/-- The place that `naming` chooses for a member is the one that is named for it. -/
theorem named_naming {own : Fin n → List α} {named : Fin n → Option (Fin n)}
    (placed : ∀ member, own member ≠ [] → ∃ place, named member = some place ∧ own place ≠ [])
    (member : { member : Fin n // own member ≠ [] }) :
    named member.1 = some (naming own named placed member).1 :=
  (placed member.1 member.2).choose_spec.1

/-- **The accounts are right exactly when naming is a permutation that keeps the entries.** Let
every member with entries name an account. Then each account is filled with the entries of
the member at its place if and only if each member with entries names the account of a
member with the same entries, and no two of them the same one. -/
theorem collected_iff (own : Fin n → List α) (named : Fin n → Option (Fin n))
    (names : ∀ member, own member ≠ [] → named member ≠ none) :
    (∀ place, collected own named place = own place) ↔
      (∀ member place, own member ≠ [] → named member = some place → own place = own member) ∧
        ∀ member other, own member ≠ [] → own other ≠ [] → named member = named other →
          member = other := by
  constructor
  · intro right
    have placed : ∀ member, own member ≠ [] → ∃ place, named member = some place ∧ own place ≠ [] := by
      intro member filled
      obtain ⟨place, here⟩ := Option.ne_none_iff_exists'.mp (names member filled)
      refine ⟨place, here, fun empty => filled ?_⟩
      have nothing := right place
      rw [empty, collected, List.flatMap_eq_nil_iff] at nothing
      simpa [here] using nothing member (List.mem_finRange member)
    have surjective : Function.Surjective (naming own named placed) := by
      rintro ⟨place, filled⟩
      by_contra unnamed
      refine filled ((right place).symm.trans (collected_eq_nil fun member entries here => ?_))
      have same := (named_naming placed ⟨member, entries⟩).symm.trans here
      exact unnamed ⟨⟨member, entries⟩, Subtype.ext (Option.some.inj same)⟩
    have injective := Finite.injective_iff_surjective.mpr surjective
    have apart : ∀ member other, own member ≠ [] → own other ≠ [] → named member = named other →
        member = other := by
      intro member other filled otherFilled same
      rw [named_naming placed ⟨member, filled⟩, named_naming placed ⟨other, otherFilled⟩] at same
      exact congrArg Subtype.val (injective (Subtype.ext (Option.some.inj same)))
    refine ⟨fun member place filled here => ?_, apart⟩
    rw [← right place]
    exact collected_eq here fun other otherFilled there =>
      apart other member otherFilled filled (there.trans here.symm)
  · rintro ⟨keeps, apart⟩ place
    have placed : ∀ member, own member ≠ [] → ∃ place, named member = some place ∧ own place ≠ [] := by
      intro member filled
      obtain ⟨place, here⟩ := Option.ne_none_iff_exists'.mp (names member filled)
      exact ⟨place, here, keeps member place filled here ▸ filled⟩
    have injective : Function.Injective (naming own named placed) := by
      intro member other same
      refine Subtype.ext (apart member.1 other.1 member.2 other.2 ?_)
      rw [named_naming placed member, named_naming placed other, same]
    have surjective := Finite.injective_iff_surjective.mp injective
    by_cases empty : own place = []
    · rw [empty]
      refine collected_eq_nil fun member filled here => filled ?_
      rw [← keeps member place filled here, empty]
    · obtain ⟨⟨member, filled⟩, reached⟩ := surjective ⟨place, empty⟩
      have here : named member = some place := by
        rw [named_naming placed ⟨member, filled⟩, reached]
      have alone : ∀ other, own other ≠ [] → named other = some place → other = member :=
        fun other otherFilled there => apart other member otherFilled filled (there.trans here.symm)
      rw [collected_eq here alone, keeps member place filled here]

end Accounts
