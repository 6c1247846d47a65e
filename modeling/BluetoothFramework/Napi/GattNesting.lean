import BluetoothFramework.Gatt.ServiceGraph
import BluetoothFramework.Library.Descents
import BluetoothFramework.Napi.GattObjects

/-!
# Services that include one another

The writer calls itself for every service that a service includes. The client links the
services as the remote device reports them, and nothing keeps the device from reporting
services that include each other in a circle.

`services_written_iff` says that the services of a client are written exactly if none of them
includes itself through others, and that as many nested calls as there are services are enough
then.
-/

namespace BluetoothFramework.Napi

open Descents

/-- A reference of the first service leads to the second. -/
def Includes (services : Nat → Option GattService) (service other : GattService) : Prop :=
  ∃ address ∈ service.includeServices, services address = some other

/-- The references of the service lead somewhere. -/
def Resolves (services : Nat → Option GattService) (service : GattService) : Prop :=
  ∀ address ∈ service.includeServices, (services address).isSome = true

/-- All results are there exactly if there is one for each value. -/
theorem mapM_isSome_iff {α β : Type} (f : α → Option β) (values : List α) :
    (values.mapM f).isSome = true ↔ ∀ value ∈ values, (f value).isSome = true := by
  induction values with
  | nil => simp
  | cons value rest inductionHypothesis =>
    rw [List.mapM_cons, List.forall_mem_cons, ← inductionHypothesis]
    cases f value <;> cases rest.mapM f <;> simp

/-- The results are those of the values, so what is said of every value carries over to every
result. -/
theorem mem_of_mapM {α β : Type} {f : α → Option β} {values : List α} {results : List β}
    (mapped : values.mapM f = some results) (result : β) :
    result ∈ results ↔ ∃ value ∈ values, f value = some result := by
  have each := forall₂_of_mapM mapped
  clear mapped
  induction each with
  | nil => simp
  | cons here there inductionHypothesis =>
    simp only [List.mem_cons, inductionHypothesis]
    simp [here, eq_comm]

/-- A service is written with enough calls to follow its references. The induction is on the
calls. -/
theorem convertGattServiceToJS_isSome_iff {services : Nat → Option GattService} (calls : Nat)
    {service : GattService}
    (resolves : ∀ other, Descents.Reaches (Includes services) service other → Resolves services other) :
    (convertGattServiceToJS services calls service).isSome = true ↔
      Settles (Includes services) calls service := by
  induction calls generalizing service with
  | zero => simp [convertGattServiceToJS, Settles]
  | succ calls inductionHypothesis =>
    have follows := (mapM_isSome_iff services service.includeServices).mpr (resolves service .refl)
    obtain ⟨srvs, followed⟩ := Option.isSome_iff_exists.mp follows
    have included (other : GattService) : other ∈ srvs ↔ Includes services service other :=
      mem_of_mapM followed other
    have each := mapM_isSome_iff (convertGattServiceToJS services calls) srvs
    have written : (convertGattServiceToJS services (calls + 1) service).isSome =
        (srvs.mapM (convertGattServiceToJS services calls)).isSome := by
      rw [convertGattServiceToJS, followed, Option.bind_eq_bind, Option.bind_some]
      cases srvs.mapM (convertGattServiceToJS services calls) <;> rfl
    rw [written, each]
    refine forall_congr' fun other => ?_
    rw [included]
    refine forall_congr' fun refers => inductionHypothesis fun further reaches => ?_
    exact resolves further (reaches.head refers)

/-! ## The services of a client -/

/-- The services of a client, by their places. -/
def place (built : List GattService) (address : Nat) : Option GattService :=
  built[address]?

/-- A link leads to a service that was found. So the services that an object includes are among
those that were built. -/
theorem postings_found (find : UInt16 → Option Nat) (src : List Service) :
    ∀ posting ∈ GattClient.postings find src, ∃ handle, find handle = some posting.2 := by
  induction src with
  | nil => exact nofun
  | cons svc rest inductionHypothesis =>
    intro posting member
    rw [GattClient.postings] at member
    cases found : find svc.handle with
    | none =>
      rw [found] at member
      cases member
    | some ptr =>
      rw [found] at member
      rcases List.mem_append.mp member with credited | later
      · obtain ⟨iptr, linked, rfl⟩ := List.mem_map.mp credited
        obtain ⟨isvc, -, target⟩ := List.mem_filterMap.mp linked
        exact ⟨isvc.startHandle, target⟩
      · split at later
        · exact inductionHypothesis posting later
        · cases later

/-- One service is built for each that the stack reports. -/
theorem length_buildServiceList (src : List Service) :
    (GattClient.buildServiceList [] src).length = src.length := by
  rw [GattClient.buildServiceList_eq, List.length_mapIdx]

/-- The links of the client lead to its services. -/
theorem resolves_buildServiceList {src : List Service} {service : GattService}
    (member : service ∈ GattClient.buildServiceList [] src) :
    Resolves (place (GattClient.buildServiceList [] src)) service := by
  intro address linked
  rw [GattClient.buildServiceList_eq] at member
  obtain ⟨index, inside, rfl⟩ := List.getElem_of_mem member
  rw [List.getElem_mapIdx] at linked
  obtain ⟨posting, credited, rfl⟩ := List.mem_map.mp linked
  obtain ⟨handle, found⟩ := postings_found _ src posting (List.mem_filter.mp credited).1
  have within := GattClient.startingAt_within found
  rw [place, List.getElem?_eq_getElem (by rwa [length_buildServiceList]), Option.isSome_some]

/-- Only services of the client are reached. -/
theorem reached_mem {built : List GattService} {service other : GattService}
    (member : service ∈ built)
    (reaches : Descents.Reaches (Includes (place built)) service other) : other ∈ built := by
  induction reaches with
  | refl => exact member
  | tail _ refers _ =>
    obtain ⟨address, -, leads⟩ := refers
    exact List.mem_of_getElem? leads

/-- The services a client has from the remote device are written exactly if none of them
includes itself, directly or through others. As many nested calls as there are services are
enough then, and without them no number is. -/
theorem services_written_iff (src : List Service) :
    let built := GattClient.buildServiceList [] src
    ((∃ calls object, convertGattServiceVectorToJS (place built) calls built = some object) ↔
        ∀ service ∈ built, ¬Relation.TransGen (Includes (place built)) service service) ∧
      ((∀ service ∈ built, ¬Relation.TransGen (Includes (place built)) service service) →
        ∃ object, convertGattServiceVectorToJS (place built) src.length built = some object) := by
  intro built
  have written (calls : Nat) :
    (∃ object, convertGattServiceVectorToJS (place built) calls built = some object) ↔
      ∀ service ∈ built, Settles (Includes (place built)) calls service := by
    rw [← Option.isSome_iff_exists, convertGattServiceVectorToJS, Option.isSome_map, mapM_isSome_iff]
    refine forall_congr' fun service => forall_congr' fun member => convertGattServiceToJS_isSome_iff calls ?_
    exact fun other reaches => resolves_buildServiceList (reached_mem member reaches)
  have enough (free : ∀ service ∈ built, ¬Relation.TransGen (Includes (place built)) service service) :
      ∃ object, convertGattServiceVectorToJS (place built) src.length built = some object := by
    refine (written src.length).mpr fun service member => ?_
    have within : {other | Descents.Reaches (Includes (place built)) service other} ⊆ {other | other ∈ built} :=
      fun other reaches => reached_mem member reaches
    have finite : {other | other ∈ built}.Finite := List.finite_toSet built
    have acyclic : Acyclic (Includes (place built)) service :=
      fun other reaches => free other (reached_mem member reaches)
    refine acyclic.settles (finite.subset within) ?_
    calc {other | Descents.Reaches (Includes (place built)) service other}.ncard
        ≤ {other | other ∈ built}.ncard := Set.ncard_le_ncard within finite
      _ = built.toFinset.card := by rw [← Set.ncard_coe_finset, List.coe_toFinset]
      _ ≤ built.length := List.toFinset_card_le built
      _ = src.length := length_buildServiceList src
  refine ⟨⟨?_, fun free => ⟨src.length, enough free⟩⟩, enough⟩
  rintro ⟨calls, ends⟩ service member
  exact ((written calls).mp ends service member).acyclic service .refl

end BluetoothFramework.Napi
