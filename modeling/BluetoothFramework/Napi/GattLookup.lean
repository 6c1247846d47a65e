import BluetoothFramework.Napi.GattRoundTrip

/-!
# Attributes that are passed back

A script reads, writes or subscribes to an attribute by passing the object that `getServices`
has given it. The parser takes the object apart, and the client looks for an attribute of the
same kind among its services: a characteristic by its handle and the two UUIDs, or by the UUIDs
alone if there is no handle; a descriptor by its three UUIDs in any case.

`characteristic_passed_back_iff` and `descriptor_passed_back_iff` say when the object leads to
the attribute it was written from. For a descriptor all three lookups have to find the first
attribute with the UUID, so a script cannot reach the descriptors of a second service with the
same UUID, although it reaches the characteristics.
-/

namespace BluetoothFramework.Napi

/-- `GattService::GetCharacteristic` of a UUID. A pointer into the vector is a place. -/
def characteristicOfUuid (service : GattService) (uuid : UUID) : Option Nat :=
  service.characteristics.findIdx? fun characteristic => characteristic.uuid = uuid

/-- `GattService::GetCharacteristic` of a handle. -/
def characteristicOfHandle (service : GattService) (handle : UInt16) : Option Nat :=
  service.characteristics.findIdx? fun characteristic => characteristic.handle = handle

/-- `GattCharacteristic::GetDescriptor` -/
def descriptorOfUuid (characteristic : GattCharacteristic) (uuid : UUID) : Option Nat :=
  characteristic.descriptors.findIdx? fun desc => desc.uuid = uuid

/-- `GattClient::GetService` of a UUID, in the services as they stand after its checks and the
refresh that come before the loop. -/
def serviceOfUuid (services : List GattService) (uuid : UUID) : Option Nat :=
  services.findIdx? fun svc => svc.uuid = uuid

/-- The characteristic at a place of a service. -/
def characteristicAt (services : List GattService) (place : Nat × Nat) :
    Option GattCharacteristic :=
  services[place.1]?.bind fun svc => svc.characteristics[place.2]?

/-- One round of the loop of `FindCharacteristic`: the place in the service, if it is the one. -/
def findInService (napiCharacter : NapiBleCharacteristic) (svc : GattService) : Option Nat :=
  if svc.uuid = napiCharacter.serviceUuid then
    (characteristicOfHandle svc napiCharacter.characteristicValueHandle).filter fun place =>
      (svc.characteristics[place]?.map GattCharacteristic.uuid) = some napiCharacter.characteristicUuid
  else none

/-- `FindCharacteristic` -/
def findCharacteristic (services : List GattService) (napiCharacter : NapiBleCharacteristic) :
    Option (Nat × Nat) :=
  services.zipIdx.findSome? fun svc => (findInService napiCharacter svc.1).map (Prod.mk svc.2)

/-- `GetCharacteristic` of a service's UUID and a characteristic's. -/
def getCharacteristicOfUuids (services : List GattService) (serviceUuid characterUuid : UUID) :
    Option (Nat × Nat) := do
  let service ← serviceOfUuid services serviceUuid
  let character ← services[service]?.bind (characteristicOfUuid · characterUuid)
  pure (service, character)

/-- `GetCharacteristic` of an object that was parsed. -/
def getCharacteristic (services : List GattService) (napiCharacter : NapiBleCharacteristic) :
    Option (Nat × Nat) :=
  if 0 < napiCharacter.characteristicValueHandle then findCharacteristic services napiCharacter
  else getCharacteristicOfUuids services napiCharacter.serviceUuid napiCharacter.characteristicUuid

/-- Change a characteristic in its place. -/
def changeAt (services : List GattService) (place : Nat × Nat)
    (change : GattCharacteristic → GattCharacteristic) : List GattService :=
  services.modify place.1 fun svc => { svc with characteristics := svc.characteristics.modify place.2 change }

/-- `GetGattcCharacteristic`, with the services it leaves. -/
def getGattcCharacteristic (services : List GattService) (napiCharacter : NapiBleCharacteristic) :
    Option (Nat × Nat) × List GattService :=
  match getCharacteristic services napiCharacter with
  | none => (none, services)
  | some place => (some place, changeAt services place (·.setValue napiCharacter.characteristicValue))

/-- `GetGattcDescriptor`, with the services it leaves. -/
def getGattcDescriptor (services : List GattService) (napiDescriptor : NapiBleDescriptor) :
    Option ((Nat × Nat) × Nat) × List GattService :=
  match getCharacteristicOfUuids services napiDescriptor.serviceUuid napiDescriptor.characteristicUuid with
  | none => (none, services)
  | some place =>
      match (characteristicAt services place).bind (descriptorOfUuid · napiDescriptor.descriptorUuid) with
      | none => (none, services)
      | some descriptor =>
          (some (place, descriptor), changeAt services place fun character =>
            { character with
              descriptors := character.descriptors.modify descriptor
                (·.setValue napiDescriptor.descriptorValue) })

/-! ## The first that is found -/

/-- Nothing before the place satisfies the condition. -/
def FirstAt {α : Type} (values : List α) (place : Nat) (holds : α → Prop) : Prop :=
  ∀ earlier < place, ∀ value, values[earlier]? = some value → ¬holds value

/-- The first place is the first at which anything holds, for no place comes before it. -/
theorem firstAt_zero {α : Type} (values : List α) (holds : α → Prop) : FirstAt values 0 holds :=
  fun _ less => absurd less (Nat.not_lt_zero _)

/-- A later place is the first exactly if the property fails at the head and the place is the
first of the rest. -/
theorem firstAt_cons_succ {α : Type} (value : α) (rest : List α) (place : Nat) (holds : α → Prop) :
    FirstAt (value :: rest) (place + 1) holds ↔ ¬holds value ∧ FirstAt rest place holds := by
  constructor
  · intro first
    exact ⟨first 0 (by omega) value rfl, fun earlier less => first (earlier + 1) (by omega)⟩
  · rintro ⟨head, first⟩ earlier less other there
    cases earlier with
    | zero => cases there; exact head
    | succ earlier => exact first earlier (by omega) other there

/-- The search from the front finds a place exactly if the element there has the property and
none before it has. -/
theorem findIdx?_eq_some_iff {α : Type} {values : List α} {place : Nat} {value : α}
    (here : values[place]? = some value) (holds : α → Prop) [DecidablePred holds] :
    values.findIdx? (fun value => decide (holds value)) = some place ↔
      holds value ∧ FirstAt values place holds := by
  induction values generalizing place with
  | nil => cases here
  | cons head rest inductionHypothesis =>
    rw [List.findIdx?_cons]
    cases place with
    | zero =>
      cases here
      by_cases found : holds value <;> simp [found, firstAt_zero]
    | succ place =>
      rw [firstAt_cons_succ]
      by_cases found : holds head
      · simp [found]
      · simp [found, inductionHypothesis here]

/-- A search in nested lists finds the place if the inner search does, and fails in all lists
before. -/
theorem findSome?_zipIdx_eq_some_iff {α : Type} (find : α → Option Nat) {values : List α}
    {outer : Nat} {value : α} (here : values[outer]? = some value) (offset inner : Nat) :
    (values.zipIdx offset).findSome? (fun value => (find value.1).map (Prod.mk value.2)) =
        some (offset + outer, inner) ↔
      find value = some inner ∧ FirstAt values outer fun value => find value ≠ none := by
  induction values generalizing outer offset with
  | nil => cases here
  | cons head rest inductionHypothesis =>
    rw [List.zipIdx_cons, List.findSome?_cons]
    cases outer with
    | zero =>
      cases here
      cases found : find value with
      | none =>
        -- What is found behind has a later index.
        have later : ¬∃ other ∈ rest.zipIdx (offset + 1),
            (find other.1).map (Prod.mk other.2) = some (offset, inner) := by
          rintro ⟨other, member, places⟩
          obtain ⟨_, _, same⟩ := Option.map_eq_some_iff.mp places
          have index := List.le_snd_of_mem_zipIdx member
          cases same
          omega
        refine iff_of_false (fun places => later ?_) (by simp)
        exact List.exists_of_findSome?_eq_some places
      | some place => simp [firstAt_zero]
    | succ outer =>
      rw [firstAt_cons_succ]
      cases found : find head with
      | none =>
        have next := inductionHypothesis here (offset + 1)
        rw [show offset + 1 + outer = offset + (outer + 1) by omega] at next
        simpa [found] using next
      | some place => simp

/-! ## Values that are set again -/

/-- A change that changes nothing at the place changes nothing. -/
theorem modify_eq_self {α : Type} {values : List α} {place : Nat} {value : α}
    (here : values[place]? = some value)
    {change : α → α} (same : change value = value) : values.modify place change = values := by
  apply List.ext_getElem?
  intro index
  rw [List.getElem?_modify]
  by_cases samePlace : place = index
  · subst samePlace
    simp [here, same]
  · simp [samePlace]

/-- A change that leaves the characteristic at the place as it is leaves all services as they
are. -/
theorem changeAt_eq_self {services : List GattService} {i j : Nat} {svc : GattService}
    {characteristic : GattCharacteristic} (atService : services[i]? = some svc)
    (atPlace : svc.characteristics[j]? = some characteristic)
    {change : GattCharacteristic → GattCharacteristic}
    (same : change characteristic = characteristic) :
      changeAt services (i, j) change = services := by
  refine modify_eq_self atService ?_
  rw [modify_eq_self atPlace same]

/-- A value that is set again stays. -/
theorem setValue_value (characteristic : GattCharacteristic) :
    characteristic.setValue characteristic.value = characteristic := by
  rw [GattCharacteristic.setValue]
  split <;> rfl

/-- A descriptor that is assigned its own value stays as it is. -/
theorem setValue_value_descriptor (descriptor : GattDescriptor) :
    descriptor.setValue descriptor.value = descriptor := by
  rw [GattDescriptor.setValue]
  split <;> rfl

/-! ## Characteristics -/

/-- The first characteristic of the service with the handle has the UUID, and so has the
service. -/
def TakenFor (serviceUuid characterUuid : UUID) (handle : UInt16) (svc : GattService) : Prop :=
  svc.uuid = serviceUuid ∧ ∃ place characteristic, svc.characteristics[place]? = some characteristic ∧
    characteristic.handle = handle ∧ characteristic.uuid = characterUuid ∧
    FirstAt svc.characteristics place fun other => other.handle = handle

/-- The lookup in a service stops at the first characteristic with the handle. It gives that
place only if both UUIDs agree, and does not go on to a later one if they do not. -/
theorem findInService_eq_some_iff (napiCharacter : NapiBleCharacteristic) {svc : GattService}
    {place : Nat} {characteristic : GattCharacteristic}
    (here : svc.characteristics[place]? = some characteristic) :
    findInService napiCharacter svc = some place ↔
      svc.uuid = napiCharacter.serviceUuid ∧
        characteristic.handle = napiCharacter.characteristicValueHandle ∧
        characteristic.uuid = napiCharacter.characteristicUuid ∧
        FirstAt svc.characteristics place fun other => other.handle =
          napiCharacter.characteristicValueHandle := by
  have first := findIdx?_eq_some_iff here fun other => other.handle =
    napiCharacter.characteristicValueHandle
  rw [← characteristicOfHandle] at first
  rw [findInService]
  by_cases sameService : svc.uuid = napiCharacter.serviceUuid
  · rw [if_pos sameService, Option.filter_eq_some_iff, first, here]
    simp only [Option.map_some, Option.some.injEq, decide_eq_true_eq]
    tauto
  · rw [if_neg sameService]
    simp [sameService]

/-- The round of a service finds something if the service can be taken for the one: it has the
UUID, and its first characteristic with the handle has the other UUID. -/
theorem findInService_ne_none_iff (napiCharacter : NapiBleCharacteristic) (svc : GattService) :
    findInService napiCharacter svc ≠ none ↔
      TakenFor napiCharacter.serviceUuid napiCharacter.characteristicUuid
        napiCharacter.characteristicValueHandle svc := by
  rw [Option.ne_none_iff_exists']
  constructor
  · rintro ⟨place, found⟩
    have inside : place < svc.characteristics.length := by
      rw [findInService] at found
      split at found
      · exact (List.findIdx?_eq_some_iff_findIdx_eq.mp (Option.filter_eq_some_iff.mp found).1).1
      · cases found
    have here := List.getElem?_eq_getElem inside
    obtain ⟨service, handle, uuid, first⟩ := (findInService_eq_some_iff napiCharacter here).mp found
    exact ⟨service, place, _, here, handle, uuid, first⟩
  · rintro ⟨service, place, characteristic, here, handle, uuid, first⟩
    exact ⟨place, (findInService_eq_some_iff napiCharacter here).mpr ⟨service, handle, uuid, first⟩⟩

/-- The lookup by two UUIDs finds the first characteristic of the first service. It does not go
on to a second service with the same UUID, even if the first has no such characteristic. -/
theorem getCharacteristicOfUuids_eq_some_iff {services : List GattService} {i j : Nat}
    {svc : GattService} {characteristic : GattCharacteristic} (atService : services[i]? = some svc)
    (atPlace : svc.characteristics[j]? = some characteristic) :
    getCharacteristicOfUuids services svc.uuid characteristic.uuid = some (i, j) ↔
      (FirstAt services i fun other => other.uuid = svc.uuid) ∧
        FirstAt svc.characteristics j fun other => other.uuid = characteristic.uuid := by
  have service := findIdx?_eq_some_iff atService fun other => other.uuid = svc.uuid
  have character := findIdx?_eq_some_iff atPlace fun other => other.uuid = characteristic.uuid
  simp only [true_and] at service character
  rw [← service, ← character, ← serviceOfUuid, ← characteristicOfUuid, getCharacteristicOfUuids]
  constructor
  · intro found
    obtain ⟨place, foundService, found⟩ := Option.bind_eq_some_iff.mp found
    obtain ⟨inner, foundCharacter, found⟩ := Option.bind_eq_some_iff.mp found
    cases found
    rw [atService] at foundCharacter
    exact ⟨foundService, foundCharacter⟩
  · rintro ⟨foundService, foundCharacter⟩
    rw [foundService, Option.bind_eq_bind, Option.bind_some, atService, Option.bind_some, foundCharacter]
    rfl

/-- The object of a characteristic leads back to the characteristic. -/
def LeadsBack (services : List GattService) (i j : Nat) (svc : GattService)
    (characteristic : GattCharacteristic) : Prop :=
  if characteristic.handle = 0 then
    (FirstAt services i fun other => other.uuid = svc.uuid) ∧
      FirstAt svc.characteristics j fun other => other.uuid = characteristic.uuid
  else
    FirstAt services i (TakenFor svc.uuid characteristic.uuid characteristic.handle) ∧
      FirstAt svc.characteristics j fun other => other.handle = characteristic.handle

/-- An object that was read from a characteristic leads back to it exactly under the condition
on the list, for its handle and both UUIDs are the ones written. -/
theorem getCharacteristic_readFrom_iff {services : List GattService} {i j : Nat} {svc : GattService}
    {characteristic : GattCharacteristic} (atService : services[i]? = some svc)
    (atPlace : svc.characteristics[j]? = some characteristic) :
    getCharacteristic services (.readFrom svc.uuid characteristic) = some (i, j) ↔
      LeadsBack services i j svc characteristic := by
  rw [getCharacteristic, LeadsBack]
  by_cases zero : characteristic.handle = 0
  · rw [if_neg (by simp [NapiBleCharacteristic.readFrom, zero]), if_pos zero]
    exact getCharacteristicOfUuids_eq_some_iff atService atPlace
  · have positive : 0 < characteristic.handle := by
      rw [UInt16.lt_iff_toNat_lt]
      have nonzero : characteristic.handle.toNat ≠ 0 := fun same => zero (UInt16.toNat_inj.mp same)
      simp
      omega
    rw [if_pos (show 0 < (NapiBleCharacteristic.readFrom svc.uuid characteristic).characteristicValueHandle
      from positive), if_neg zero, findCharacteristic]
    have search := findSome?_zipIdx_eq_some_iff
      (findInService (.readFrom svc.uuid characteristic)) atService 0 j
    rw [Nat.zero_add] at search
    rw [search, findInService_eq_some_iff _ atPlace]
    simp only [findInService_ne_none_iff]
    simp only [NapiBleCharacteristic.readFrom, true_and]
    exact and_comm

/-- The object of a characteristic is parsed, and leads to the characteristic it was written
from exactly if no other is taken for it: without a handle, the first characteristic with the
UUIDs is, and with a handle, the first with the handle in the first service in which that one
has the UUIDs. The services stay as they are then. -/
theorem characteristic_passed_back_iff {services : List GattService} {i j : Nat} {svc : GattService}
    {characteristic : GattCharacteristic} (atService : services[i]? = some svc)
    (atPlace : svc.characteristics[j]? = some characteristic) :
    ∃ napiCharacter, napiParseGattCharacteristic (convertBLECharacteristicToJS svc.uuid characteristic) =
        .ok napiCharacter ∧
      (getGattcCharacteristic services napiCharacter = (some (i, j), services) ↔
        LeadsBack services i j svc characteristic) := by
  refine ⟨_, napiParseGattCharacteristic_written svc.uuid characteristic, ?_⟩
  rw [← getCharacteristic_readFrom_iff atService atPlace, getGattcCharacteristic]
  cases found : getCharacteristic services (.readFrom svc.uuid characteristic) with
  | none => simp
  | some place =>
    constructor
    · intro leads
      exact congrArg Prod.fst leads
    · rintro ⟨⟩
      exact congrArg (Prod.mk _) (changeAt_eq_self atService atPlace (setValue_value characteristic))

/-- Two services of the same kind, each with a characteristic and a descriptor. -/
def twinServices : List GattService :=
  [{ characteristics := [{ handle := 3, descriptors := [{ handle := 4 }] }] },
    { characteristics := [{ handle := 7, descriptors := [{ handle := 8 }] }] }]

/-- Two characteristics share their handle: what was read from the second does not lead back to
it. -/
theorem characteristic_passed_back_twin :
    ∃ napiCharacter, napiParseGattCharacteristic (convertBLECharacteristicToJS {}
        { handle := 7, descriptors := [{ handle := 8 }] }) = .ok napiCharacter ∧
      (getGattcCharacteristic twinServices napiCharacter = (some (1, 0), twinServices) ↔
        LeadsBack twinServices 1 0 { characteristics := [{ handle := 7, descriptors := [{ handle := 8 }] }] }
          { handle := 7, descriptors := [{ handle := 8 }] }) :=
  @characteristic_passed_back_iff twinServices 1 0
    { characteristics := [{ handle := 7, descriptors := [{ handle := 8 }] }] } _ rfl rfl

/-! ## Descriptors -/

/-- The object of a descriptor is parsed, and leads to the descriptor it was written from
exactly if it is the first with its UUID, in the first characteristic with the UUID, in the
first service with the UUID. The services stay as they are then. -/
theorem descriptor_passed_back_iff {services : List GattService} {i j k : Nat} {svc : GattService}
    {characteristic : GattCharacteristic} {descriptor : GattDescriptor}
    (atService : services[i]? = some svc) (atPlace : svc.characteristics[j]? = some characteristic)
    (atDescriptor : characteristic.descriptors[k]? = some descriptor) :
    ∃ napiDescriptor,
      napiParseGattDescriptor (convertBLEDescriptorToJS svc.uuid characteristic.uuid descriptor) =
        .ok napiDescriptor ∧
      (getGattcDescriptor services napiDescriptor = (some ((i, j), k), services) ↔
        (FirstAt services i fun other => other.uuid = svc.uuid) ∧
          (FirstAt svc.characteristics j fun other => other.uuid = characteristic.uuid) ∧
            FirstAt characteristic.descriptors k fun other => other.uuid = descriptor.uuid) := by
  refine ⟨_, napiParseGattDescriptor_written svc.uuid characteristic.uuid descriptor, ?_⟩
  have here := getCharacteristicOfUuids_eq_some_iff atService atPlace
  have inner := findIdx?_eq_some_iff atDescriptor fun other => other.uuid = descriptor.uuid
  simp only [true_and] at inner
  rw [← and_assoc, ← here, ← inner, ← descriptorOfUuid]
  have followed : characteristicAt services (i, j) = some characteristic := by
    rw [characteristicAt, atService, Option.bind_some, atPlace]
  have unchanged : changeAt services (i, j) (fun character =>
      { character with
        descriptors := character.descriptors.modify k (·.setValue descriptor.value) }) = services := by
    have same : characteristic.descriptors.modify k (·.setValue descriptor.value) =
        characteristic.descriptors :=
      modify_eq_self atDescriptor (setValue_value_descriptor descriptor)
    refine changeAt_eq_self atService atPlace ?_
    rw [same]
  rw [getGattcDescriptor]
  simp only [NapiBleDescriptor.readFrom]
  constructor
  · intro leads
    cases found : getCharacteristicOfUuids services svc.uuid characteristic.uuid with
    | none =>
      rw [found] at leads
      cases congrArg Prod.fst leads
    | some place =>
      rw [found] at leads
      dsimp only at leads
      cases inside : (characteristicAt services place).bind (descriptorOfUuid · descriptor.uuid) with
      | none =>
        rw [inside] at leads
        cases congrArg Prod.fst leads
      | some index =>
        rw [inside] at leads
        obtain ⟨samePlace, sameIndex⟩ := Prod.mk.inj (Option.some.inj (congrArg Prod.fst leads))
        rw [samePlace, followed, sameIndex] at inside
        exact ⟨congrArg some samePlace, inside⟩
  · rintro ⟨found, inside⟩
    rw [found]
    dsimp only
    rw [followed, Option.bind_some, inside]
    exact congrArg (Prod.mk _) unchanged

/-- Two descriptors of one characteristic share their UUID: what was read from the second leads
to the first, since the handle is not compared. -/
theorem descriptor_passed_back_twin :
    ∃ napiDescriptor, napiParseGattDescriptor (convertBLEDescriptorToJS {} {} { handle := 8 }) =
        .ok napiDescriptor ∧
      (getGattcDescriptor twinServices napiDescriptor = (some ((1, 0), 0), twinServices) ↔
        (FirstAt twinServices 1 fun other => other.uuid = {}) ∧
          (FirstAt [({ handle := 7, descriptors := [{ handle := 8 }] } : GattCharacteristic)] 0
            fun other => other.uuid = {}) ∧
          FirstAt [({ handle := 8 } : GattDescriptor)] 0 fun other => other.uuid = {}) :=
  @descriptor_passed_back_iff twinServices 1 0 0
    { characteristics := [{ handle := 7, descriptors := [{ handle := 8 }] }] }
    { handle := 7, descriptors := [{ handle := 8 }] } _ rfl rfl rfl

end BluetoothFramework.Napi
