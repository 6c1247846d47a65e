import Mathlib.Tactic.Common

/-!
# Tenants of slots

Slots are let to tenants, and a slot that has been given up is let again. What is still to
be done for a tenant finds the slot by the tenant's place and not by the tenant, so it is
done to the right one only as long as the tenant holds it. `AllHold` says so of everyone for
whom something is still to be done, and `AllHold.change` when it stays true: slots may change
hands as long as nothing is left to be done for those who had them.
-/

namespace Tenants

universe u v
variable {Place : Type u} {Tenant : Type v}

/-- Each of these tenants holds the slot of its place. -/
def AllHold (slots : Place → Option Tenant) (place : Tenant → Place)
    (tenants : List Tenant) : Prop :=
  ∀ tenant ∈ tenants, slots (place tenant) = some tenant

variable {slots after : Place → Option Tenant} {place : Tenant → Place} {tenants : List Tenant}

/-- Fewer tenants hold their slots if all do. -/
theorem AllHold.subset {fewer : List Tenant} (subset : fewer ⊆ tenants)
    (allHold : AllHold slots place tenants) :
    AllHold slots place fewer :=
  fun tenant member => allHold tenant (subset member)

/-- A slot changes hands when nothing is left to be done for its tenant. -/
theorem AllHold.change
    (spared : ∀ there, after there = slots there ∨ ∀ tenant, slots there = some tenant →
      tenant ∉ tenants)
    (allHold : AllHold slots place tenants) : AllHold after place tenants := by
  intro tenant member
  have holds := allHold tenant member
  rcases spared (place tenant) with same | finished
  · exact same.trans holds
  · exact absurd member (finished tenant holds)

/-- One more tenant, which holds its slot. -/
theorem AllHold.cons {tenant : Tenant} (holds : slots (place tenant) = some tenant)
    (allHold : AllHold slots place tenants) : AllHold slots place (tenant :: tenants) := by
  intro other member
  rcases List.mem_cons.mp member with rfl | later
  · exact holds
  · exact allHold other later

end Tenants
