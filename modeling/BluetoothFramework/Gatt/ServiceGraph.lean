import BluetoothFramework.Library.Accounts
import BluetoothFramework.Gatt.Client
import Mathlib.Algebra.BigOperators.Fin
import Mathlib.Data.List.TakeWhile

/-!
# The services of the GATT client

`BuildServiceList` copies the remote services in one pass and links the services they
include in a second. A copied service is known by the start handle of the remote one, but the
second pass looks for it by the other handle, and ends at the first lookup that fails.

`build_faithful_iff` says when all links are right: no include can be resolved behind a
lookup that fails, and the handles of the services that include something lead to services
that include the same.
-/

namespace BluetoothFramework

open Accounts

namespace GattClient

/-- `FindService`. A pointer into `gattServices_` is the place of the service. -/
def findService (services : List GattService) (handle : UInt16) : Option Nat :=
  services.findIdx? fun item => item.handle = handle

/-- `GattService::AddService` -/
def addService (services : List GattService) (ptr iptr : Nat) : List GattService :=
  services.modify ptr fun svc => { svc with includeServices := svc.includeServices ++ [iptr] }

/-- The inner loop of the second pass, and whether it has come to its end. -/
def addIncludes (ptr : Nat) : List GattService → List Service → List GattService × Bool
  | services, [] => (services, true)
  | services, isvc :: rest =>
      match findService services isvc.startHandle with
      | none => (services, false)
      | some iptr => addIncludes ptr (addService services ptr iptr) rest

/-- The second pass of `BuildServiceList`. -/
def addAllIncludes : List GattService → List Service → List GattService
  | services, [] => services
  | services, svc :: rest =>
      match findService services svc.handle with
      | none => services
      | some ptr =>
          match addIncludes ptr services svc.includeServices with
          | (added, true) => addAllIncludes added rest
          | (added, false) => added

/-- `BuildServiceList` -/
def buildServiceList (gattServices : List GattService) (src : List Service) : List GattService :=
  addAllIncludes (gattServices ++ src.map listService) src

/-! ## What the list has to be -/

/-- The descriptor is a copy. -/
structure ListedDescriptor (desc : Descriptor) (listed : GattDescriptor) : Prop where
  uuid : listed.uuid.convertTo128Bits = desc.uuid.convertTo128Bits
  handle : listed.handle = desc.handle
  permissions : listed.permissions = desc.permissions

/-- The characteristic is a copy, with its descriptors in order. -/
structure ListedCharacteristic (character : Characteristic)
    (listed : GattCharacteristic) : Prop where
  uuid : listed.uuid.convertTo128Bits = character.uuid.convertTo128Bits
  handle : listed.handle = character.handle
  permissions : listed.permissions = character.permissions
  properties : listed.properties = character.properties
  descriptors : List.Forall₂ ListedDescriptor character.descriptors listed.descriptors

/-- The service is a copy, with its characteristics in order. -/
structure Listed (svc : Service) (listed : GattService) : Prop where
  uuid : listed.uuid.convertTo128Bits = svc.uuid.convertTo128Bits
  handle : listed.handle = svc.startHandle
  endHandle : listed.endHandle = svc.endHandle
  isPrimary : listed.isPrimary = svc.isPrimary
  characteristics : List.Forall₂ ListedCharacteristic svc.characteristics listed.characteristics

/-- The place of the service that starts at a handle. -/
def startingAt (src : List Service) (handle : UInt16) : Option Nat :=
  src.findIdx? fun svc => svc.startHandle = handle

/-- The services that are included, in order, as far as they are there. -/
def resolved (find : UInt16 → Option Nat) (svc : Service) : List Nat :=
  svc.includeServices.filterMap fun isvc => find isvc.startHandle

/-- One copy for each service in order, each with exactly the services it includes. -/
structure Faithful (src : List Service) (built : List GattService) : Prop where
  listed : List.Forall₂ Listed src built
  included : List.Forall₂ (fun svc listed => listed.includeServices = resolved (startingAt src) svc) src built

/-! ## The lookups of the second pass -/

/-- A lookup by handle, of the service that is linked from or of one that is linked to. -/
inductive Lookup where
  | service (handle : UInt16)
  | included (handle : UInt16)
deriving DecidableEq, Repr

def Lookup.handle : Lookup → UInt16
  | service handle => handle
  | included handle => handle

/-- The lookup would add a link. -/
def Lookup.links (find : UInt16 → Option Nat) : Lookup → Bool
  | service _ => false
  | included handle => (find handle).isSome

/-- The lookups in the order of the second pass, were none to fail. -/
def lookups (src : List Service) : List Lookup :=
  src.flatMap fun svc => .service svc.handle :: svc.includeServices.map fun isvc => .included isvc.startHandle

/-- Behind a lookup that fails there is no link. -/
def Reached (find : UInt16 → Option Nat) (order : List Lookup) : Prop :=
  order.Pairwise fun earlier later => find earlier.handle = none → later.links find = false

/-- No link is lost, and none is credited to a service that does not include the same. -/
structure LinksSettle (src : List Service) : Prop where
  reached : Reached (startingAt src) (lookups src)
  alike : ∀ svc ∈ src, resolved (startingAt src) svc ≠ [] →
    ∀ other ∈ src, other.startHandle = svc.handle →
    resolved (startingAt src) other = resolved (startingAt src) svc
  apart : ∀ svc ∈ src, resolved (startingAt src) svc ≠ [] →
    ∀ other ∈ src, resolved (startingAt src) other ≠ [] →
    svc.handle = other.handle → svc = other

/-- The links of the second pass, with the place of the service each is added to. -/
def postings (find : UInt16 → Option Nat) : List Service → List (Nat × Nat)
  | [] => []
  | svc :: rest =>
      match find svc.handle with
      | none => []
      | some ptr =>
          ((svc.includeServices.takeWhile fun isvc => (find isvc.startHandle).isSome).filterMap fun isvc =>
              find isvc.startHandle).map (Prod.mk ptr) ++
            if svc.includeServices.all fun isvc => (find isvc.startHandle).isSome
              then postings find rest else []

/-! ## The second pass adds the postings -/

/-- A lookup goes by the handles alone. -/
theorem findService_eq (services : List GattService) (handle : UInt16) :
    findService services handle =
      (services.map GattService.handle).findIdx? fun other => other = handle := by
  rw [List.findIdx?_map]
  rfl

/-- Linking services leaves all handles as they are. -/
theorem handles_addService (services : List GattService) (ptr iptr : Nat) :
    (addService services ptr iptr).map GattService.handle = services.map GattService.handle := by
  rw [addService]
  apply map_modify_same
  intro svc
  rfl

/-- Links leave the lookups as they are. -/
theorem findService_addService (services : List GattService) (ptr iptr : Nat) :
    findService (addService services ptr iptr) = findService services := by
  funext handle
  rw [findService_eq, findService_eq, handles_addService]

/-- Add links one after another. -/
def addPostings (services : List GattService) (links : List (Nat × Nat)) : List GattService :=
  links.foldl (fun services posting => addService services posting.1 posting.2) services

/-- Links are added one after another, so a list of them can be cut anywhere. -/
theorem addPostings_append (services : List GattService) (earlier later : List (Nat × Nat)) :
    addPostings services (earlier ++ later) = addPostings (addPostings services earlier) later :=
  List.foldl_append

/-- Linking services does not change which service has a handle. -/
theorem findService_addPostings (services : List GattService) (links : List (Nat × Nat)) :
    findService (addPostings services links) = findService services := by
  induction links generalizing services with
  | nil => rfl
  | cons posting rest inductionHypothesis =>
    exact (inductionHypothesis _).trans (findService_addService services posting.1 posting.2)

/-- The inner loop adds the links up to the first lookup that fails. What it returns is whether
all lookups succeeded, which decides if the outer loop goes on. -/
theorem addIncludes_eq (ptr : Nat) (services : List GattService) (includes : List Service) :
    addIncludes ptr services includes =
      (addPostings services (((includes.takeWhile fun isvc =>
          (findService services isvc.startHandle).isSome).filterMap fun isvc =>
            findService services isvc.startHandle).map (Prod.mk ptr)),
        includes.all fun isvc => (findService services isvc.startHandle).isSome) := by
  induction includes generalizing services with
  | nil => rfl
  | cons isvc rest inductionHypothesis =>
    rw [addIncludes]
    cases found : findService services isvc.startHandle with
    | none => simp [addPostings, found]
    | some iptr =>
      dsimp only
      rw [inductionHypothesis, findService_addService]
      simp [addPostings, found]

/-- The second pass adds the postings, service by service, until a lookup fails. Links do not
change what is found, so all lookups can be made in the list as it is before. -/
theorem addAllIncludes_eq (services : List GattService) (src : List Service) :
    addAllIncludes services src = addPostings services (postings (findService services) src) := by
  induction src generalizing services with
  | nil => rfl
  | cons svc rest inductionHypothesis =>
    rw [addAllIncludes, postings]
    cases found : findService services svc.handle with
    | none => rfl
    | some ptr =>
      dsimp only
      rw [addIncludes_eq]
      by_cases all : (svc.includeServices.all fun isvc => (findService services isvc.startHandle).isSome) = true
      · rw [all]
        dsimp only
        rw [inductionHypothesis, findService_addPostings, if_pos rfl, addPostings_append]
      · rw [if_neg all, List.append_nil, Bool.eq_false_iff.mpr all]

/-- The links of a service are what is credited to its place. -/
theorem includes_addPostings (services : List GattService) (links : List (Nat × Nat))
    (place : Nat) :
    (addPostings services links)[place]? = services[place]?.map fun svc =>
      { svc with includeServices := svc.includeServices ++ account links place } := by
  induction links generalizing services with
  | nil => simp [addPostings]
  | cons posting rest inductionHypothesis =>
    obtain ⟨ptr, iptr⟩ := posting
    have next := inductionHypothesis (addService services ptr iptr)
    have split : account ((ptr, iptr) :: rest) place = account [(ptr, iptr)] place ++ account rest place :=
      account_append [(ptr, iptr)] rest place
    rw [addPostings, List.foldl_cons, ← addPostings, next, split, addService, List.getElem?_modify]
    by_cases here : ptr = place
    · simp [here, account, Function.comp_def]
    · simp [here, account]

/-! ## What is reached -/

/-- A service has nothing resolved where none of its lookups links. -/
theorem resolved_eq_nil_iff (find : UInt16 → Option Nat) (svc : Service) :
    resolved find svc = [] ↔ ∀ isvc ∈ svc.includeServices, find isvc.startHandle = none :=
  List.filterMap_eq_nil_iff

/-- No lookup links where no service has anything resolved. -/
theorem links_lookups_iff (find : UInt16 → Option Nat) (src : List Service) :
    (∀ later ∈ lookups src, later.links find = false) ↔ ∀ svc ∈ src, resolved find svc = [] := by
  have here (svc : Service) : (∀ later ∈ Lookup.service svc.handle ::
      svc.includeServices.map (fun isvc => .included isvc.startHandle), later.links find = false) ↔
        resolved find svc = [] := by
    rw [resolved_eq_nil_iff]
    simp [Lookup.links]
  simp only [lookups, List.mem_flatMap, forall_exists_index, and_imp]
  constructor
  · intro dead svc member
    exact (here svc).mp fun later listed => dead later svc member listed
  · intro dead later svc member
    exact (here svc).mpr (dead svc member) later

/-- Lookups that do not fail ask nothing of what comes behind. -/
theorem reached_append {find : UInt16 → Option Nat} {earlier : List Lookup}
    (found : ∀ lookup ∈ earlier, find lookup.handle ≠ none) (later : List Lookup) :
    Reached find (earlier ++ later) ↔ Reached find later := by
  rw [Reached, Reached, List.pairwise_append]
  constructor
  · exact fun reached => reached.2.1
  · intro reached
    refine ⟨List.pairwise_of_forall_mem_list fun a member _ _ fails => ?_, reached,
      fun a member _ _ fails => ?_⟩
    · exact absurd fails (found a member)
    · exact absurd fails (found a member)

/-- Where nothing in the order links anything, the end of it is reached whatever is found. -/
theorem reached_of_dead {find : UInt16 → Option Nat} {order : List Lookup}
    (dead : ∀ later ∈ order, later.links find = false) : Reached find order :=
  List.pairwise_of_forall_mem_list fun _ _ later member _ => dead later member

/-- Behind a failing head nothing links. -/
theorem dead_of_reached {find : UInt16 → Option Nat} {head : Lookup} {later : List Lookup}
    (reached : Reached find (head :: later)) (fails : find head.handle = none) :
    ∀ other ∈ head :: later, other.links find = false := by
  intro other member
  rcases List.mem_cons.mp member with rfl | behind
  · cases other with
    | service handle => rfl
    | included handle =>
      have fails : find handle = none := fails
      rw [Lookup.links, fails]
      rfl
  · exact (List.pairwise_cons.mp reached).1 other behind fails

/-- The includes up to the first lookup that fails, and those from there on. -/
def before (find : UInt16 → Option Nat) (svc : Service) : List Service :=
  svc.includeServices.takeWhile fun isvc => (find isvc.startHandle).isSome

def behind (find : UInt16 → Option Nat) (svc : Service) : List Service :=
  svc.includeServices.dropWhile fun isvc => (find isvc.startHandle).isSome

/-- The services that are linked are those looked up before the one that fails and those behind
it. -/
theorem resolved_split (find : UInt16 → Option Nat) (svc : Service) :
    resolved find svc = (before find svc).filterMap (fun isvc => find isvc.startHandle) ++
      (behind find svc).filterMap fun isvc => find isvc.startHandle := by
  rw [← List.filterMap_append, before, behind, List.takeWhile_append_dropWhile]
  rfl

/-- The lookups of the first service that are found, and the rest. -/
theorem lookups_split (find : UInt16 → Option Nat) (svc : Service) (rest : List Service) :
    lookups (svc :: rest) =
      (.service svc.handle :: (before find svc).map fun isvc => .included isvc.startHandle) ++
        ((behind find svc).map (fun isvc => .included isvc.startHandle) ++ lookups rest) := by
  have includes : svc.includeServices = before find svc ++ behind find svc :=
    List.takeWhile_append_dropWhile.symm
  rw [lookups, List.flatMap_cons, ← lookups]
  conv => lhs; rw [includes]
  simp only [List.map_append, List.cons_append, List.append_assoc]

/-- A service that is found was reached: none of the lookups before it has failed. -/
theorem found_before {find : UInt16 → Option Nat} {svc : Service} {ptr : Nat}
    (found : find svc.handle = some ptr) :
    ∀ lookup ∈ Lookup.service svc.handle :: (before find svc).map fun isvc => .included isvc.startHandle,
      find lookup.handle ≠ none := by
  intro lookup member
  rcases List.mem_cons.mp member with rfl | inside
  · rw [Lookup.handle, found]
    exact nofun
  · obtain ⟨isvc, listed, rfl⟩ := List.mem_map.mp inside
    rw [before] at listed
    have isSome : (find isvc.startHandle).isSome = true :=
      @List.mem_takeWhile_imp _ (fun isvc : Service => (find isvc.startHandle).isSome) _ isvc listed
    exact Option.isSome_iff_ne_none.mp isSome

/-- Where all lookups of a service are found, nothing is behind. -/
theorem behind_eq_nil {find : UInt16 → Option Nat} {svc : Service}
    (all : (svc.includeServices.all fun isvc => (find isvc.startHandle).isSome) = true) :
      behind find svc = [] := by
  rw [behind, List.dropWhile_eq_nil_iff]
  exact List.all_eq_true.mp all

/-- Otherwise the first behind fails. -/
theorem behind_eq_cons {find : UInt16 → Option Nat} {svc : Service}
    (notAll : (svc.includeServices.all fun isvc => (find isvc.startHandle).isSome) = false) :
    ∃ isvc later, behind find svc = isvc :: later ∧ find isvc.startHandle = none := by
  cases split : behind find svc with
  | nil =>
    have all := List.dropWhile_eq_nil_iff.mp split
    rw [List.all_eq_true.mpr all] at notAll
    cases notAll
  | cons isvc later =>
    have fails := List.head?_dropWhile_not
      (fun isvc : Service => (find isvc.startHandle).isSome) svc.includeServices
    rw [← behind, split, List.head?_cons] at fails
    exact ⟨isvc, later, rfl, by simpa using fails⟩

/-- Once a lookup of the first service has failed, neither it nor those behind it have anything
resolved from there on. -/
theorem behind_dead {find : UInt16 → Option Nat} {svc : Service} {rest : List Service} {ptr : Nat}
    (found : find svc.handle = some ptr) (reached : Reached find (lookups (svc :: rest)))
    (notAll : (svc.includeServices.all fun isvc => (find isvc.startHandle).isSome) = false) :
    ((behind find svc).filterMap fun isvc => find isvc.startHandle) = [] ∧
      ∀ other ∈ rest, resolved find other = [] := by
  obtain ⟨isvc, later, split, fails⟩ := behind_eq_cons notAll
  rw [lookups_split find, reached_append (found_before found), split, List.map_cons,
    List.cons_append] at reached
  have dead := dead_of_reached reached fails
  constructor
  · rw [split, List.filterMap_eq_nil_iff]
    intro other member
    have listed : Lookup.included other.startHandle ∈
        (isvc :: later).map (fun isvc => .included isvc.startHandle) ++ lookups rest :=
      List.mem_append_left _ (List.mem_map_of_mem member)
    simpa [Lookup.links] using dead _ listed
  · rw [← links_lookups_iff]
    intro other member
    exact dead other (List.mem_cons_of_mem _ (List.mem_append_right _ member))

/-- No more is added than can be resolved, and if as much is added then nothing was out of
reach. -/
theorem length_postings (find : UInt16 → Option Nat) (src : List Service) :
    (postings find src).length ≤ (src.map fun svc => (resolved find svc).length).sum ∧
      ((postings find src).length = (src.map fun svc => (resolved find svc).length).sum →
        Reached find (lookups src)) := by
  induction src with
  | nil => exact ⟨Nat.le_refl 0, fun _ => List.Pairwise.nil⟩
  | cons svc rest inductionHypothesis =>
    obtain ⟨atMost, reachedRest⟩ := inductionHypothesis
    rw [List.map_cons, List.sum_cons, postings]
    cases found : find svc.handle with
    | none =>
      refine ⟨Nat.zero_le _, fun none => reached_of_dead
        ((links_lookups_iff find _).mpr fun other member => ?_)⟩
      have nothing : ((svc :: rest).map fun svc => (resolved find svc).length).sum = 0 := by
        rw [List.map_cons, List.sum_cons, ← none]
        rfl
      rw [List.sum_eq_zero_iff_forall_eq_nat] at nothing
      exact List.eq_nil_of_length_eq_zero (nothing _ (List.mem_map_of_mem member))
    | some ptr =>
      dsimp only
      rw [← before, List.length_append, List.length_map, resolved_split, List.length_append,
        lookups_split find, reached_append (found_before found)]
      cases all : svc.includeServices.all fun isvc => (find isvc.startHandle).isSome with
      | true =>
        rw [if_pos rfl, behind_eq_nil all, List.map_nil, List.nil_append, List.filterMap_nil, List.length_nil]
        exact ⟨by omega, fun same => reachedRest (by omega)⟩
      | false =>
        rw [if_neg Bool.false_ne_true, List.length_nil]
        refine ⟨by omega, fun same => reached_of_dead fun other member => ?_⟩
        have noneBehind : ((behind find svc).filterMap fun isvc => find isvc.startHandle) = [] :=
          List.eq_nil_of_length_eq_zero (by omega)
        have noneLater : (rest.map fun svc => (resolved find svc).length).sum = 0 := by omega
        rw [List.sum_eq_zero_iff_forall_eq_nat] at noneLater
        rcases List.mem_append.mp member with inside | later
        · obtain ⟨isvc, listed, rfl⟩ := List.mem_map.mp inside
          rw [Lookup.links, List.filterMap_eq_nil_iff.mp noneBehind isvc listed]
          rfl
        · refine (links_lookups_iff find rest).mpr (fun svc listed => ?_) other later
          exact List.eq_nil_of_length_eq_zero (noneLater _ (List.mem_map_of_mem listed))

/-- Where nothing is out of reach, a place is credited with all that can be resolved in the
services whose handle leads to it. -/
theorem account_postings {find : UInt16 → Option Nat} {src : List Service}
    (reached : Reached find (lookups src)) (place : Nat) :
    account (postings find src) place =
      src.flatMap fun svc => if find svc.handle = some place then resolved find svc else [] := by
  induction src with
  | nil => rfl
  | cons svc rest inductionHypothesis =>
    have nothing (dead : ∀ other ∈ rest, resolved find other = []) :
        rest.flatMap (fun svc => if find svc.handle = some place then resolved find svc else []) = [] := by
      rw [List.flatMap_eq_nil_iff]
      intro other member
      rw [dead other member, ite_self]
    rw [postings, List.flatMap_cons]
    cases found : find svc.handle with
    | none =>
      have deadLookups : ∀ later ∈ lookups (svc :: rest), later.links find = false :=
        dead_of_reached reached found
      have dead := (links_lookups_iff find (svc :: rest)).mp deadLookups
      have unnamed : (none : Option Nat) ≠ some place := nofun
      rw [if_neg unnamed, List.nil_append,
        nothing fun other member => dead other (List.mem_cons_of_mem _ member)]
      rfl
    | some ptr =>
      dsimp only
      rw [← before, account_append, account_credited, resolved_split]
      simp only [Option.some.injEq]
      cases all : svc.includeServices.all fun isvc => (find isvc.startHandle).isSome with
      | true =>
        rw [lookups_split find, reached_append (found_before found), behind_eq_nil all, List.map_nil,
          List.nil_append] at reached
        rw [if_pos rfl, behind_eq_nil all, List.filterMap_nil, List.append_nil, inductionHypothesis reached]
      | false =>
        obtain ⟨noneBehind, dead⟩ := behind_dead found reached all
        rw [if_neg Bool.false_ne_true, noneBehind, List.append_nil, nothing dead]
        rfl

/-- Links are added to places that were found. They are places of the list, which the pass never
makes longer. -/
theorem postings_within {find : UInt16 → Option Nat} {bound : Nat}
    (within : ∀ handle place, find handle = some place → place < bound) (src : List Service) :
    ∀ posting ∈ postings find src, posting.1 < bound := by
  induction src with
  | nil => exact nofun
  | cons svc rest inductionHypothesis =>
    intro posting member
    rw [postings] at member
    cases found : find svc.handle with
    | none =>
      rw [found] at member
      cases member
    | some ptr =>
      rw [found] at member
      rcases List.mem_append.mp member with credited | later
      · obtain ⟨iptr, _, rfl⟩ := List.mem_map.mp credited
        exact within svc.handle ptr found
      · split at later
        · exact inductionHypothesis posting later
        · cases later

/-! ## The list that is built -/

/-- Initially the places go by the start handles. -/
theorem findService_listed (src : List Service) :
    findService (src.map listService) = startingAt src := by
  funext handle
  rw [findService, startingAt, List.findIdx?_map]
  rfl

/-- Every service is copied, and linked to what is credited to its place. -/
theorem buildServiceList_eq (src : List Service) :
    buildServiceList [] src = src.mapIdx fun place svc =>
      { listService svc with includeServices := account (postings (startingAt src) src) place } := by
  rw [buildServiceList, List.nil_append, addAllIncludes_eq, findService_listed]
  apply List.ext_getElem?
  intro place
  rw [includes_addPostings, List.getElem?_map, List.getElem?_mapIdx, Option.map_map]
  rfl

/-- Without the links it is the list that `GetServices` is modelled with. -/
theorem map_buildServiceList (src : List Service) :
    ((buildServiceList [] src).map fun svc => { svc with includeServices := [] }) =
      src.map listService := by
  rw [buildServiceList_eq]
  apply List.ext_getElem?
  intro place
  rw [List.getElem?_map, List.getElem?_mapIdx, List.getElem?_map, Option.map_map]
  rfl

/-- A UUID that is read from 16 bytes gives these bytes back. -/
theorem convertTo128Bits_convertFrom128Bits (name : Vector UInt8 16) :
    (UUID.convertFrom128Bits name).convertTo128Bits = name := by
  refine Vector.ext fun i inside => ?_
  rw [UUID.convertTo128Bits, UUID.convertFrom128Bits, Vector.getElem_ofFn]
  rfl

/-- A descriptor that is listed is the remote one in the application's classes. -/
theorem listed_listDescriptor (desc : Descriptor) : ListedDescriptor desc (listDescriptor desc) :=
  ⟨convertTo128Bits_convertFrom128Bits _, rfl, rfl⟩

/-- A characteristic that is listed is the remote one, with its descriptors in order. -/
theorem listed_listCharacteristic (character : Characteristic) :
    ListedCharacteristic character (listCharacteristic character) where
  uuid := convertTo128Bits_convertFrom128Bits _
  handle := rfl
  permissions := rfl
  properties := rfl
  descriptors := by
    rw [listCharacteristic, List.forall₂_map_right_iff]
    exact List.forall₂_same.mpr fun desc _ => listed_listDescriptor desc

/-- A service is a copy whatever it is linked to. -/
theorem listed_listService (svc : Service) (links : List Nat) :
    Listed svc { listService svc with includeServices := links } where
  uuid := convertTo128Bits_convertFrom128Bits _
  handle := rfl
  endHandle := rfl
  isPrimary := rfl
  characteristics := by
    rw [listService, List.forall₂_map_right_iff]
    exact List.forall₂_same.mpr fun character _ => listed_listCharacteristic character

/-- All services are copied in any case, so the links decide. -/
theorem faithful_iff_account (src : List Service) :
    Faithful src (buildServiceList [] src) ↔
      ∀ place : Fin src.length,
        account (postings (startingAt src) src) place = resolved (startingAt src) src[place] := by
  rw [buildServiceList_eq]
  constructor
  · rintro ⟨-, included⟩ ⟨place, inside⟩
    have linked := (List.forall₂_iff_get.mp included).2 place inside (by rwa [List.length_mapIdx])
    rwa [List.get_eq_getElem, List.get_eq_getElem, List.getElem_mapIdx] at linked
  · intro right
    constructor <;> refine List.forall₂_iff_get.mpr ⟨List.length_mapIdx.symm, fun place inside _ => ?_⟩
    · rw [List.get_eq_getElem, List.get_eq_getElem, List.getElem_mapIdx]
      exact listed_listService _ _
    · rw [List.get_eq_getElem, List.get_eq_getElem, List.getElem_mapIdx]
      exact right ⟨place, inside⟩

/-! ## Places and services -/

/-- The place that the handle of a service leads to. -/
def namedPlace (src : List Service) (member : Fin src.length) : Option (Fin src.length) :=
  src.findFinIdx? fun svc => svc.startHandle = src[member].handle

/-- The place of a member is where its own handle starts a service. -/
theorem startingAt_handle (src : List Service) (member : Fin src.length) :
    startingAt src src[member].handle = (namedPlace src member).map Fin.val :=
  List.findIdx?_eq_map_findFinIdx?_val

/-- A place that is found lies within the list. -/
theorem startingAt_within {src : List Service} {handle : UInt16} {place : Nat}
    (found : startingAt src handle = some place) : place < src.length :=
  (List.findIdx?_eq_some_iff_findIdx_eq.mp found).1

/-- With distinct start handles, services that start at one handle are at one place. -/
theorem place_eq {src : List Service} (distinct : (src.map Service.startHandle).Nodup)
    {place other : Fin src.length} (same : src[place].startHandle = src[other].startHandle) :
      place = other := by
  have injective := List.nodup_iff_injective_get.mp distinct
  have placed : (src.map Service.startHandle).get (place.cast (List.length_map _).symm) =
      (src.map Service.startHandle).get (other.cast (List.length_map _).symm) := by
    simpa using same
  simpa using injective placed

/-- With distinct start handles, a member is found at a place exactly if that place starts at
its handle. -/
theorem namedPlace_eq_some_iff {src : List Service} (distinct : (src.map Service.startHandle).Nodup)
    (member place : Fin src.length) :
    namedPlace src member = some place ↔ src[place].startHandle = src[member].handle := by
  rw [namedPlace, List.findFinIdx?_eq_some_iff]
  simp only [decide_eq_true_eq]
  constructor
  · exact And.left
  · refine fun starts => ⟨starts, fun earlier before alsoStarts => ?_⟩
    have same := place_eq distinct (alsoStarts.trans starts.symm)
    exact absurd before (same ▸ Nat.lt_irrefl _)

/-- A place is credited with what the services collect for it. -/
theorem account_eq_collected {src : List Service} (reached : Reached (startingAt src) (lookups src))
    (place : Fin src.length) :
    account (postings (startingAt src) src) place =
      collected (fun member => resolved (startingAt src) src[member]) (namedPlace src) place := by
  have places : src = (List.finRange src.length).map fun member => src[member] :=
    (List.map_get_finRange src).symm
  rw [account_postings reached, collected]
  conv => lhs; arg 2; rw [places]
  rw [List.flatMap_map]
  refine List.flatMap_congr fun member _ => ?_
  simp only [startingAt_handle, Option.map_eq_some_iff, ← Fin.ext_iff, exists_eq_right]

/-- If something is resolved, its handle leads to a place. A handle that leads nowhere ends the
pass, and under the condition nothing behind it was to be linked. -/
theorem namedPlace_ne_none {src : List Service} (reached : Reached (startingAt src) (lookups src))
    (member : Fin src.length) (filled : resolved (startingAt src) src[member] ≠ []) :
    namedPlace src member ≠ none := by
  intro unnamed
  have fails : startingAt src src[member].handle = none := by
    rw [startingAt_handle, unnamed, Option.map_none]
  have listed : src[member] ∈ src := List.getElem_mem _
  obtain ⟨earlier, later, split⟩ := List.append_of_mem listed
  have behind : Reached (startingAt src) (lookups (src[member] :: later)) := by
    have whole : lookups src = lookups earlier ++ lookups (src[member] :: later) := by
      conv => lhs; rw [split]
      exact List.flatMap_append
    rw [whole] at reached
    exact (List.pairwise_append.mp reached).2.1
  have dead : ∀ other ∈ lookups (src[member] :: later), other.links (startingAt src) = false :=
    dead_of_reached behind fails
  exact filled ((links_lookups_iff _ _).mp dead src[member] List.mem_cons_self)

/-- Services are the places they are at, as their start handles are distinct. In this form the
condition fits the general account of links, which speaks of places. -/
theorem linksSettle_iff {src : List Service} (distinct : (src.map Service.startHandle).Nodup) :
    LinksSettle src ↔ Reached (startingAt src) (lookups src) ∧
      (∀ member place, resolved (startingAt src) src[member] ≠ [] → namedPlace src member = some place →
        resolved (startingAt src) src[place] = resolved (startingAt src) src[member]) ∧
      ∀ member other, resolved (startingAt src) src[member] ≠ [] →
        resolved (startingAt src) src[other] ≠ [] →
        namedPlace src member = namedPlace src other → member = other := by
  constructor
  · rintro ⟨reached, alike, apart⟩
    refine ⟨reached, fun member place filled named => ?_, fun member other filled otherFilled same => ?_⟩
    · exact alike _ (List.getElem_mem _) filled _ (List.getElem_mem _)
        ((namedPlace_eq_some_iff distinct member place).mp named)
    · obtain ⟨place, named⟩ := Option.ne_none_iff_exists'.mp (namedPlace_ne_none reached member filled)
      have starts := (namedPlace_eq_some_iff distinct member place).mp named
      have otherStarts := (namedPlace_eq_some_iff distinct other place).mp (same ▸ named)
      have equal : src[member] = src[other] :=
        apart _ (List.getElem_mem _) filled _ (List.getElem_mem _) otherFilled (starts.symm.trans otherStarts)
      exact place_eq distinct (congrArg Service.startHandle equal)
  · rintro ⟨reached, alike, apart⟩
    refine ⟨reached, fun svc listed filled other otherListed starts => ?_,
      fun svc listed filled other otherListed otherFilled same => ?_⟩
    · obtain ⟨member, rfl⟩ := List.get_of_mem listed
      obtain ⟨place, rfl⟩ := List.get_of_mem otherListed
      exact alike member place filled ((namedPlace_eq_some_iff distinct member place).mpr starts)
    · obtain ⟨member, rfl⟩ := List.get_of_mem listed
      obtain ⟨place, rfl⟩ := List.get_of_mem otherListed
      have named : namedPlace src member = namedPlace src place := by
        have handles : src[member].handle = src[place].handle := same
        rw [namedPlace, namedPlace, handles]
      rw [apart member place filled otherFilled named]

/-- If all places are credited rightly then no link is lost. -/
theorem reached_of_account {src : List Service}
    (right : ∀ place : Fin src.length,
      account (postings (startingAt src) src) place = resolved (startingAt src) src[place]) :
    Reached (startingAt src) (lookups src) := by
  refine (length_postings (startingAt src) src).2 ?_
  rw [← sum_length_account _ (postings_within (fun _ _ => startingAt_within) src), ← Fin.sum_univ_eq_sum_range
    (fun place => (account (postings (startingAt src) src) place).length)]
  simp only [right]
  rw [← List.sum_ofFn]
  refine congrArg List.sum ?_
  exact List.ext_getElem (by simp) fun place _ _ => by simp

/-- **When the services are built faithfully.** For remote services with distinct start handles,
the list that is built has a copy of each in order, with links to exactly the services it
includes in order, if and only if no lookup that fails stands before one that links, and the
handles of the services that include something lead, each to its own, to services that
include the same. -/
theorem build_faithful_iff (src : List Service) (distinct : (src.map Service.startHandle).Nodup) :
    Faithful src (buildServiceList [] src) ↔ LinksSettle src := by
  rw [faithful_iff_account, linksSettle_iff distinct]
  constructor
  · intro right
    have reached := reached_of_account right
    refine ⟨reached, (collected_iff _ _ (namedPlace_ne_none reached)).mp fun place => ?_⟩
    rw [← account_eq_collected reached, right]
  · rintro ⟨reached, links⟩ place
    rw [account_eq_collected reached]
    exact (collected_iff _ _ (namedPlace_ne_none reached)).mpr links place

/-- A service that includes another one of the list. -/
theorem build_faithful_pair :
    Faithful
      [{ handle := 1, startHandle := 1 },
        { handle := 9, startHandle := 9, includeServices := [{ startHandle := 1 }] }]
      (buildServiceList [] [{ handle := 1, startHandle := 1 },
        { handle := 9, startHandle := 9, includeServices := [{ startHandle := 1 }] }]) := by
  refine (build_faithful_iff _ (by decide)).mpr ⟨by unfold Reached; decide, ?_, ?_⟩
  · simp [resolved, startingAt]
  · simp [resolved, startingAt]

/-- An include that no service starts at takes the links of the next service with it. -/
theorem links_lost :
    ¬ ∀ src : List Service, (src.map Service.startHandle).Nodup →
      Faithful src (buildServiceList [] src) := by
  intro always
  have lost := (always
    [{ handle := 1, startHandle := 1, includeServices := [{ startHandle := 50 }] },
      { handle := 9, startHandle := 9, includeServices := [{ startHandle := 1 }] }] (by decide)).included
  rw [List.forall₂_iff_get] at lost
  exact absurd (lost.2 1 (by decide) (by decide)) (by decide)

end GattClient
end BluetoothFramework
