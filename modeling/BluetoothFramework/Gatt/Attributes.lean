import BluetoothFramework.Library.Nodes
import BluetoothFramework.Gatt.GattData
import BluetoothFramework.Uuid.Text

/-!
# GATT services of the API

The server keeps its services in a linked list. Each has characteristics, and each
characteristic has descriptors, all in vectors that do not change once the service is in
the list. So an attribute is pointed at through the node of its service and its places in
the vectors. A write to an attribute changes its value and leaves every pointer good.
-/

namespace BluetoothFramework

/-- `GattDescriptor`, less the pointer to its characteristic. -/
structure GattDescriptor where
  handle : UInt16 := 0
  permissions : Int32 := 0
  value : ByteString := []
  uuid : UUID := {}
deriving DecidableEq

/-- `GattCharacteristic::WriteType` -/
inductive WriteType where
  | default
  | noResponse
  | signed
deriving DecidableEq, Repr

/-- `GattCharacteristic`, less the pointer to its service. -/
structure GattCharacteristic where
  writeType : WriteType := .default
  handle : UInt16 := 0
  permissions : Int32 := 0
  properties : Int32 := 0
  value : ByteString := []
  descriptors : List GattDescriptor := []
  uuid : UUID := {}
deriving DecidableEq

/-- `GattService`. The services it includes are the addresses of their nodes. -/
structure GattService where
  handle : UInt16 := 0
  endHandle : UInt16 := 0
  isPrimary : Bool := true
  includeServices : List Nat := []
  characteristics : List GattCharacteristic := []
  uuid : UUID := {}
deriving DecidableEq

/-- `GattDescriptor::SetValue` -/
def GattDescriptor.setValue (descriptor : GattDescriptor) (values : ByteString) : GattDescriptor :=
  if values.length = 0 then descriptor else { descriptor with value := values }

/-- `GattCharacteristic::SetValue` -/
def GattCharacteristic.setValue (characteristic : GattCharacteristic) (values : ByteString) :
    GattCharacteristic :=
  if values.length = 0 then characteristic else { characteristic with value := values }

/-- `GattCharacteristic::SetWriteType` of a write type. -/
def GattCharacteristic.setWriteType (characteristic : GattCharacteristic) (type : WriteType) :
    GattCharacteristic :=
  { characteristic with writeType := type }

/-- `AUTHENTICATED_SIGNED_WRITES` -/
def authenticatedSignedWrites : Int32 := 0x40

/-- `WRITE_WITHOUT_RESPONSE` -/
def writeWithoutResponse : Int32 := 0x04

/-- The write type a characteristic is constructed with. -/
def writeTypeOf (properties : Int32) : WriteType :=
  if properties &&& authenticatedSignedWrites ≠ 0 then .signed
  else if properties &&& writeWithoutResponse ≠ 0 then .noResponse
  else .default

/-- `UUID::ConvertFrom128Bits` -/
def UUID.convertFrom128Bits (name : Vector UInt8 16) : UUID where
  uuid := name

/-- A `Descriptor` of the IPC layer as `BuildService` takes it over. -/
def GattDescriptor.build (desc : Descriptor) : GattDescriptor :=
  GattDescriptor.setValue
    { handle := desc.handle
      permissions := desc.permissions
      uuid := .convertFrom128Bits desc.uuid.convertTo128Bits }
    desc.value

/-- A `Characteristic` of the IPC layer as `BuildService` takes it over. -/
def GattCharacteristic.build (character : Characteristic) : GattCharacteristic :=
  { GattCharacteristic.setValue
      { writeType := writeTypeOf character.properties
        handle := character.handle
        permissions := character.permissions
        properties := character.properties
        uuid := .convertFrom128Bits character.uuid.convertTo128Bits }
      character.value with
    descriptors := character.descriptors.map GattDescriptor.build }

/-- `GattServer::impl::BuildService` -/
def buildService (service : Service) : GattService where
  handle := service.handle
  endHandle := service.endHandle
  isPrimary := service.isPrimary
  characteristics := service.characteristics.map GattCharacteristic.build
  uuid := .convertFrom128Bits service.uuid.convertTo128Bits

/-- `gattServices_`, a `std::list<GattService>` -/
abbrev ServiceList : Type :=
  Nodes GattService

/-- `GetIncludeService` -/
def getIncludeService (services : ServiceList) (handle : UInt16) : Option Nat :=
  (services.first fun svc => svc.handle = handle).map Prod.fst

/-- `BuildIncludeService`: services that are not found are passed over. -/
def buildIncludeService (services : ServiceList) (svc : GattService) (iSvcs : List Service) :
    GattService :=
  { svc with
    includeServices := svc.includeServices ++
      iSvcs.filterMap fun iSvc => getIncludeService services iSvc.startHandle }

/-- A `GattCharacteristic *` or a `GattDescriptor *` of the server. -/
inductive Attribute where
  | characteristic (service : Nat) (index : Nat)
  | descriptor (service : Nat) (index : Nat) (place : Nat)
deriving DecidableEq, Repr

/-- The node of the service an attribute belongs to. -/
def Attribute.service : Attribute → Nat
  | .characteristic service _ => service
  | .descriptor service _ _ => service

/-- `FindCharacteristic` -/
def findCharacteristic (services : ServiceList) (handle : UInt16) : Option Attribute :=
  services.entries.findSome? fun svc =>
    (svc.2.characteristics.findIdx? fun character => character.handle = handle).map
      (Attribute.characteristic svc.1)

/-- `FindDescriptor` -/
def findDescriptor (services : ServiceList) (handle : UInt16) : Option Attribute :=
  services.entries.findSome? fun svc =>
    svc.2.characteristics.zipIdx.findSome? fun character =>
      (character.1.descriptors.findIdx? fun desc => desc.handle = handle).map
        (Attribute.descriptor svc.1 character.2)

/-- Follow a pointer as a `GattCharacteristic *`. There is nothing to be read where the
service is gone, and nothing of this type where a descriptor lies. -/
def characteristicAt (services : ServiceList) : Attribute → Option GattCharacteristic
  | .characteristic service index => (services.follow service).bind
      fun svc => svc.characteristics[index]?
  | .descriptor _ _ _ => none

/-- Follow a pointer as a `GattDescriptor *`. -/
def descriptorAt (services : ServiceList) : Attribute → Option GattDescriptor
  | .characteristic _ _ => none
  | .descriptor service index place =>
      (services.follow service).bind fun svc =>
        svc.characteristics[index]?.bind fun character => character.descriptors[place]?

/-- The handle of the attribute, if it is still part of the services. -/
def handleAt (services : ServiceList) (pointer : Attribute) : Option UInt16 :=
  ((characteristicAt services pointer).map GattCharacteristic.handle).or
    ((descriptorAt services pointer).map GattDescriptor.handle)

/-- Change the characteristic a pointer leads to. -/
def changeCharacteristic (services : ServiceList)
    (change : GattCharacteristic → GattCharacteristic) :
    Attribute → ServiceList
  | .characteristic service index => services.modify service fun svc =>
      { svc with characteristics := svc.characteristics.modify index change }
  | .descriptor _ _ _ => services

/-- Change the descriptor a pointer leads to. -/
def changeDescriptor (services : ServiceList) (change : GattDescriptor → GattDescriptor) :
    Attribute → ServiceList
  | .characteristic _ _ => services
  | .descriptor service index place => services.modify service fun svc =>
      { svc with
        characteristics := svc.characteristics.modify index fun character =>
          { character with descriptors := character.descriptors.modify place change } }

/-! ## What the pointers lead to -/

/-- A characteristic that is found has the handle. -/
theorem findCharacteristic_found {services : ServiceList} {handle : UInt16} {pointer : Attribute}
    (found : findCharacteristic services handle = some pointer) :
    (characteristicAt services pointer).map GattCharacteristic.handle = some handle := by
  obtain ⟨svc, member, inService⟩ := List.exists_of_findSome?_eq_some found
  obtain ⟨index, atIndex, rfl⟩ := Option.map_eq_some_iff.mp inService
  obtain ⟨inside, holds, -⟩ := List.findIdx?_eq_some_iff_getElem.mp atIndex
  have live : services.follow svc.1 = some svc.2 := (services.follow_eq_some_iff _ _).mpr member
  simp only [characteristicAt, live, Option.bind_some, List.getElem?_eq_getElem inside, Option.map_some]
  exact congrArg some (by simpa using holds)

/-- A descriptor that is found has the handle. -/
theorem findDescriptor_found {services : ServiceList} {handle : UInt16} {pointer : Attribute}
    (found : findDescriptor services handle = some pointer) :
    (descriptorAt services pointer).map GattDescriptor.handle = some handle := by
  obtain ⟨svc, member, inService⟩ := List.exists_of_findSome?_eq_some found
  obtain ⟨⟨character, index⟩, listed, inCharacteristic⟩ := List.exists_of_findSome?_eq_some inService
  obtain ⟨place, atPlace, rfl⟩ := Option.map_eq_some_iff.mp inCharacteristic
  obtain ⟨inside, holds, -⟩ := List.findIdx?_eq_some_iff_getElem.mp atPlace
  have live : services.follow svc.1 = some svc.2 := (services.follow_eq_some_iff _ _).mpr member
  have here : svc.2.characteristics[index]? = some character := List.mk_mem_zipIdx_iff_getElem?.mp listed
  simp only [descriptorAt, live, Option.bind_some, here, List.getElem?_eq_getElem inside, Option.map_some]
  exact congrArg some (by simpa using holds)

/-- The handles of a characteristic and its descriptors. -/
def GattCharacteristic.outline (characteristic : GattCharacteristic) : UInt16 × List UInt16 :=
  (characteristic.handle, characteristic.descriptors.map GattDescriptor.handle)

/-- A change in one place that an image does not show does not show in the list. -/
theorem map_modify_same {α β : Type} (image : α → β) (change : α → α)
    (same : ∀ value, image (change value) = image value) (values : List α) (i : Nat) :
    (values.modify i change).map image = values.map image := by
  apply List.ext_getElem?
  intro j
  by_cases here : i = j
  · have unseen : image ∘ change = image := funext same
    simp [here, unseen]
  · simp [here]

/-- Every pointer leads to an attribute with the same handle as before, or as before to
none. -/
structure SameHandles (before after : ServiceList) : Prop where
  characteristic (pointer : Attribute) :
    (characteristicAt after pointer).map GattCharacteristic.handle =
      (characteristicAt before pointer).map GattCharacteristic.handle
  descriptor (pointer : Attribute) :
    (descriptorAt after pointer).map GattDescriptor.handle =
      (descriptorAt before pointer).map GattDescriptor.handle

/-- A list has the handles of itself. -/
theorem SameHandles.refl (services : ServiceList) : SameHandles services services :=
  ⟨fun _ => rfl, fun _ => rfl⟩

/-- A service changed in place keeps the pointers good if it keeps the outlines. The outline of a
characteristic is its handle and those of its descriptors, which is all that a pointer is looked
up by. -/
theorem sameHandles_modify (services : ServiceList) (changed : Nat)
    (change : GattService → GattService)
    (same : ∀ svc, (change svc).characteristics.map GattCharacteristic.outline =
      svc.characteristics.map GattCharacteristic.outline) :
    SameHandles services (services.modify changed change) := by
  have outlines (address index : Nat) (svc : GattService) :
      ((if address = changed then change svc else svc).characteristics[index]?).map
          GattCharacteristic.outline = (svc.characteristics[index]?).map GattCharacteristic.outline := by
    split
    · simp only [← List.getElem?_map, same]
    · rfl
  constructor
  · intro pointer
    cases pointer with
    | descriptor => rfl
    | characteristic address index =>
      cases live : services.follow address with
      | none => simp [characteristicAt, Nodes.follow_modify, live]
      | some svc =>
        have handles := congrArg (Option.map Prod.fst) (outlines address index svc)
        simpa [characteristicAt, Nodes.follow_modify, live, Option.map_map, Function.comp_def,
          GattCharacteristic.outline] using handles
  · intro pointer
    cases pointer with
    | characteristic => rfl
    | descriptor address index place =>
      cases live : services.follow address with
      | none => simp [descriptorAt, Nodes.follow_modify, live]
      | some svc =>
        have handles := congrArg (Option.bind · fun outline => outline.2[place]?) (outlines address index svc)
        simpa [descriptorAt, Nodes.follow_modify, live, Option.map_bind, Option.bind_map,
          Function.comp_def, GattCharacteristic.outline] using handles

/-- Changing a characteristic in a way that keeps its handles keeps those of the list. -/
theorem sameHandles_changeCharacteristic (services : ServiceList)
    (change : GattCharacteristic → GattCharacteristic)
    (same : ∀ character, (change character).outline = character.outline) (pointer : Attribute) :
    SameHandles services (changeCharacteristic services change pointer) := by
  cases pointer with
  | characteristic address index =>
    rw [changeCharacteristic]
    apply sameHandles_modify
    intro svc
    exact map_modify_same _ change same _ index
  | descriptor => exact .refl services

/-- Changing a descriptor in a way that keeps its handle keeps those of the list. -/
theorem sameHandles_changeDescriptor (services : ServiceList)
    (change : GattDescriptor → GattDescriptor)
    (same : ∀ desc, (change desc).handle = desc.handle) (pointer : Attribute) :
    SameHandles services (changeDescriptor services change pointer) := by
  cases pointer with
  | characteristic => exact .refl services
  | descriptor address index place =>
    rw [changeDescriptor]
    apply sameHandles_modify
    intro svc
    apply map_modify_same
    intro character
    exact congrArg (Prod.mk character.handle) (map_modify_same _ change same _ place)

/-- A new value leaves the handle of a descriptor. -/
theorem GattDescriptor.handle_setValue (descriptor : GattDescriptor) (values : ByteString) :
    (descriptor.setValue values).handle = descriptor.handle := by
  rw [setValue]
  split <;> rfl

/-- A new value leaves the handles of a characteristic and of its descriptors. -/
theorem GattCharacteristic.outline_setValue (characteristic : GattCharacteristic)
    (values : ByteString) :
    (characteristic.setValue values).outline = characteristic.outline := by
  rw [setValue]
  split <;> rfl

end BluetoothFramework
