import BluetoothFramework.Common.Types
import Mathlib.Data.List.MinMax

/-!
# GATT services of the IPC layer

A service is a tree: it includes other services, and has characteristics, which have
descriptors. These values are passed by copying, and the copy constructors are part of
the model: the one of a characteristic does not take over `valueHandle_` but sets it to
the handle after `handle_`. Copying twice is copying once.
-/

namespace BluetoothFramework

/-- `Descriptor`. The array behind `value_` is its `length_` bytes; no array and an array
of no bytes are not told apart. -/
structure Descriptor where
  handle : UInt16 := 0
  permissions : Int32 := 0
  value : ByteString := []
  uuid : Uuid := {}
deriving DecidableEq

/-- `Characteristic`, with its value as in `Descriptor`. -/
structure Characteristic where
  handle : UInt16 := 0
  endHandle : UInt16 := 0
  valueHandle : UInt16 := 0
  properties : Int32 := 0
  permissions : Int32 := 0
  value : ByteString := []
  uuid : Uuid := {}
  descriptors : List Descriptor := []
deriving DecidableEq

/-- `Service` -/
structure Service where
  isPrimary : Bool := false
  handle : UInt16 := 0
  startHandle : UInt16 := 0
  endHandle : UInt16 := 0
  uuid : Uuid := {}
  includeServices : List Service := []
  characteristics : List Characteristic := []

/-- `Descriptor(const Descriptor &)` -/
def Descriptor.copy (src : Descriptor) : Descriptor where
  handle := src.handle
  permissions := src.permissions
  value := if src.value.length ≠ 0 then src.value else []
  uuid := src.uuid

/-- `Characteristic(const Characteristic &)` -/
def Characteristic.copy (src : Characteristic) : Characteristic where
  handle := src.handle
  endHandle := src.endHandle
  valueHandle := src.handle + 1
  properties := src.properties
  permissions := src.permissions
  value := if src.value.length ≠ 0 then src.value else []
  uuid := src.uuid
  descriptors := src.descriptors.map Descriptor.copy

namespace Service

/-- An included service is smaller than the one that includes it, which is what the recursion of
the copies rests on. -/
theorem sizeOf_included {service child : Service} (member : child ∈ service.includeServices) :
    sizeOf child < sizeOf service := by
  have inList := List.sizeOf_lt_of_mem member
  cases service
  simp only [Service.mk.sizeOf_spec] at inList ⊢
  omega

/-- A property of a service follows from the same property of the services it includes. -/
theorem induction {motive : Service → Prop}
    (step : ∀ service, (∀ child ∈ service.includeServices, motive child) → motive service)
    (service : Service) : motive service :=
  step service fun child _member => induction step child
termination_by sizeOf service
decreasing_by exact sizeOf_included _member

/-- `Service(const Service &)`, which copies member by member. -/
def copy (src : Service) : Service :=
  { isPrimary := src.isPrimary
    handle := src.handle
    startHandle := src.startHandle
    endHandle := src.endHandle
    uuid := src.uuid
    includeServices := src.includeServices.map fun child => copy child
    characteristics := src.characteristics.map Characteristic.copy }
termination_by sizeOf src
decreasing_by exact sizeOf_included ‹_›

/-- The levels of services, this one counted. -/
def nesting (service : Service) : Nat :=
  (service.includeServices.map fun child => nesting child).foldr max 0 + 1
termination_by sizeOf service
decreasing_by exact sizeOf_included ‹_›

/-- A property of every service of the tree. -/
inductive Everywhere (property : Service → Prop) : Service → Prop where
  | intro (service : Service) (here : property service)
      (included : ∀ child ∈ service.includeServices, Everywhere property child) :
      Everywhere property service

end Service

/-- A copied descriptor is the descriptor. -/
@[simp] theorem Descriptor.copy_eq (src : Descriptor) : src.copy = src := by
  obtain ⟨handle, permissions, value, uuid⟩ := src
  cases value <;> rfl

/-- Copies of descriptors are the descriptors. -/
theorem Descriptor.map_copy (descriptors : List Descriptor) :
    descriptors.map Descriptor.copy = descriptors :=
  List.map_id'' Descriptor.copy_eq descriptors

/-- A copied characteristic differs at most in its value handle. -/
theorem Characteristic.copy_eq (src : Characteristic) :
    src.copy = { src with valueHandle := src.handle + 1 } := by
  obtain ⟨handle, endHandle, valueHandle, properties, permissions, value, uuid, descriptors⟩ := src
  rw [copy, Descriptor.map_copy]
  cases value <;> rfl

/-- A copy of a copy is the first copy: the value handle has been set already. -/
@[simp] theorem Characteristic.copy_copy (src : Characteristic) : src.copy.copy = src.copy := by
  simp only [copy_eq]

/-- The value handle is the handle after the one of the characteristic. -/
def Characteristic.ValueHandleFollows (characteristic : Characteristic) : Prop :=
  characteristic.valueHandle = characteristic.handle + 1

/-- A copy is the characteristic itself exactly if its value handle follows its handle, for the
copy computes it. -/
theorem Characteristic.copy_eq_self_iff (src : Characteristic) :
    src.copy = src ↔ src.ValueHandleFollows := by
  rw [copy_eq, ValueHandleFollows]
  constructor
  · intro same
    exact (congrArg Characteristic.valueHandle same).symm
  · intro follows
    rw [← follows]

namespace Service

/-- A copy of a copy is the first copy, at any depth. -/
@[simp] theorem copy_copy (src : Service) : src.copy.copy = src.copy := by
  induction src using Service.induction with
  | step service included =>
    have children := List.map_congr_left included
    have characteristics := List.map_congr_left fun characteristic
      (_ : characteristic ∈ service.characteristics) => characteristic.copy_copy
    rw [copy.eq_1 service, copy]
    dsimp only
    rw [List.map_map, List.map_map]
    exact congrArg₂ (Service.mk _ _ _ _ _) children characteristics

/-- An included service has fewer levels. -/
theorem nesting_included {service child : Service} (member : child ∈ service.includeServices) :
    child.nesting < service.nesting := by
  rw [nesting.eq_1 service]
  have level : child.nesting ∈ service.includeServices.map fun child => nesting child :=
    List.mem_map_of_mem member
  exact Nat.lt_succ_of_le (List.le_max_of_le' 0 level le_rfl)

/-- A copy is nested as deep as the service. -/
@[simp] theorem nesting_copy (src : Service) : src.copy.nesting = src.nesting := by
  induction src using Service.induction with
  | step service included =>
    rw [copy, nesting, nesting]
    dsimp only
    rw [List.map_map]
    exact congrArg (fun levels => levels.foldr max 0 + 1) (List.map_congr_left included)

/-- A copied service is the service exactly when all value handles in the tree follow. The copy
sets each of them to the handle and one; the induction is on the services that are included. -/
theorem copy_eq_self_iff (src : Service) :
    src.copy = src ↔
      src.Everywhere fun service => ∀ characteristic ∈ service.characteristics,
        characteristic.ValueHandleFollows := by
  induction src using Service.induction with
  | step service included =>
    have children : service.includeServices.map copy = service.includeServices ↔
        ∀ child ∈ service.includeServices, child.copy = child := by
      rw [← List.map_eq_map_iff, List.map_id']
    have characteristics : service.characteristics.map Characteristic.copy = service.characteristics ↔
        ∀ characteristic ∈ service.characteristics, characteristic.copy = characteristic := by
      rw [← List.map_eq_map_iff, List.map_id']
    constructor
    · intro same
      rw [copy] at same
      constructor
      · intro characteristic member
        rw [← Characteristic.copy_eq_self_iff]
        exact characteristics.mp (congrArg Service.characteristics same) characteristic member
      · intro child member
        rw [← included child member]
        exact children.mp (congrArg Service.includeServices same) child member
    · rintro ⟨_, follows, everywhere⟩
      have sameChildren := children.mpr fun child member =>
        (included child member).mpr (everywhere child member)
      have sameCharacteristics := characteristics.mpr fun characteristic member =>
        characteristic.copy_eq_self_iff.mpr (follows characteristic member)
      rw [copy, sameChildren, sameCharacteristics]
      cases service
      rfl

end Service
end BluetoothFramework
