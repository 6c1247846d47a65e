import BluetoothFramework.Library.Places
import BluetoothFramework.Library.Runs
import BluetoothFramework.CAdapter.GattServerChanges

/-!
# The book of attributes

An application builds a service call by call and is given a handle for each characteristic
and descriptor. When the stack has registered the service it returns it with actual handles,
and `OnServiceAdded` looks up the attribute of each by its UUID.

`Watched` keeps a book beside the adapter: the attributes in the order of the calls, where a
service that comes back has its actual handles entered in that order. `Accounted` is what
ties the two together in every run, whatever the searches find.
-/

namespace BluetoothFramework.CAdapter

/-- A characteristic or a descriptor of a service, with the UUID of the characteristic that it
is or belongs to. -/
structure Element where
  attrType : AttributeType
  characterUuid : UUID
  uuid : UUID
  handle : UInt16
deriving DecidableEq

/-- A characteristic and its descriptors. -/
def characteristicElements (item : GattCharacteristic) : List Element :=
  ⟨.characteristic, item.uuid, item.uuid, item.handle⟩ ::
    item.descriptors.map fun des => ⟨.descriptor, item.uuid, des.uuid, des.handle⟩

/-- The characteristics and descriptors of a service, in order. -/
def serviceElements (service : GattService) : List Element :=
  service.characteristics.flatMap characteristicElements

/-- An element without its handle. -/
def Element.bare (element : Element) : Element :=
  { element with handle := 0 }

/-- The type and the UUID of an element. -/
def Element.kind (element : Element) : AttributeType × UUID :=
  (element.attrType, element.uuid)

/-- The type and the UUID of an attribute. -/
def GattAttribute.kind (attr : GattAttribute) : AttributeType × UUID :=
  (attr.attrType, attr.uuid)

/-- An attribute without its actual handle. -/
def GattAttribute.bare (attr : GattAttribute) : GattAttribute :=
  { attr with actualHandle := 0 }

/-- An attribute that is given its actual handle. -/
def GattAttribute.setActual (attr : GattAttribute) (actualHandle : UInt16) : GattAttribute :=
  { attr with actualHandle := actualHandle }

namespace AttributeHandles

open Runs Places

/-- A service that was handed to the stack. It is live until it is deleted. -/
structure Start where
  server : ServerId
  i : ServiceIndex
  service : GattService
  live : Bool := true
deriving DecidableEq

/-- The attributes of each service. -/
abbrev Book : Type :=
  ServerId → ServiceIndex → List GattAttribute

/-- The adapter, the book, and the services that the stack has not returned. -/
structure Watched where
  gatts : Gatts := {}
  book : Book := fun _ _ => []
  starts : List Start := []

/-- A call, or the stack returns a service, the one that was started as the one of so many. -/
inductive Label where
  | call (label : GattsLabel)
  | answered (which : Nat) (service : GattService)
deriving DecidableEq

/-- The attributes of one service are replaced. -/
def setBook (book : Book) (server : ServerId) (i : ServiceIndex)
    (attributes : List GattAttribute) : Book :=
  Function.update book server (Function.update (book server) i attributes)

namespace Watched

/-- An attribute is created and has the handle that is next. -/
def entered (watched : Watched) (serverId srvcHandle : Int) (text : ByteString)
    (attrType : AttributeType) :
    Book :=
  match serverAt serverId, serviceAt srvcHandle, readUuid text with
  | some server, some i, some uuid =>
      setBook watched.book server i
        (watched.book server i ++ [{ handle := watched.gatts.getNextAttributeHandle.1, uuid, attrType }])
  | _, _, _ => watched.book

/-- A service is handed to the stack. -/
def started (watched : Watched) (serverId srvcHandle : Int) : List Start :=
  match serverAt serverId, serviceAt srvcHandle with
  | some server, some i =>
      match (watched.gatts.gattServices server i).gattService with
      | some service => watched.starts ++ [{ server, i, service }]
      | none => watched.starts
  | _, _ => watched.starts

/-- A service is deleted. -/
def deleted (watched : Watched) (serverId srvcHandle : Int) : Book × List Start :=
  match serverAt serverId, serviceAt srvcHandle with
  | some server, some i =>
      (setBook watched.book server i [],
        watched.starts.map fun start =>
          if start.server = server ∧ start.i = i then { start with live := false } else start)
  | _, _ => (watched.book, watched.starts)

/-- What a call that has led to a state and a status adds to the account. -/
def record (watched : Watched) (label : GattsLabel) (status : BtStatus) (next : Gatts) : Watched :=
  match status, label with
  | .success, .bleGattsAddCharacteristic serverId srvcHandle characUuid _ _ =>
      { watched with gatts := next, book := watched.entered serverId srvcHandle characUuid .characteristic }
  | .success, .bleGattsAddDescriptor serverId srvcHandle descUuid _ =>
      { watched with gatts := next, book := watched.entered serverId srvcHandle descUuid .descriptor }
  | .success, .bleGattsStartService serverId srvcHandle =>
      { watched with gatts := next, starts := watched.started serverId srvcHandle }
  | .success, .bleGattsDeleteService serverId srvcHandle =>
      { gatts := next
        book := (watched.deleted serverId srvcHandle).1
        starts := (watched.deleted serverId srvcHandle).2 }
  | _, _ => { watched with gatts := next }

/-- The stack returns a service: its elements are those of the service that was started, in
the same order, and each has a handle of its own, which is not zero and which no other
attribute of the server has. -/
structure Returns (watched : Watched) (start : Start) (service : GattService) : Prop where
  uuid : service.uuid = start.service.uuid
  elements : (serviceElements service).map Element.bare = (serviceElements start.service).map Element.bare
  distinct : ((serviceElements service).map Element.handle).Nodup
  own : ∀ element ∈ serviceElements service, element.handle ≠ 0 ∧
    ∀ i, ∀ attr ∈ watched.book start.server i, attr.actualHandle ≠ element.handle

instance (watched : Watched) (start : Start) (service : GattService) :
    Decidable (watched.Returns start service) :=
  decidable_of_iff
    (service.uuid = start.service.uuid ∧
      (serviceElements service).map Element.bare = (serviceElements start.service).map Element.bare ∧
      ((serviceElements service).map Element.handle).Nodup ∧
      ∀ element ∈ serviceElements service, element.handle ≠ 0 ∧
        ∀ i, ∀ attr ∈ watched.book start.server i, attr.actualHandle ≠ element.handle)
    ⟨fun ⟨uuid, elements, distinct, own⟩ => ⟨uuid, elements, distinct, own⟩,
      fun ⟨uuid, elements, distinct, own⟩ => ⟨uuid, elements, distinct, own⟩⟩

/-- The actual handles that are entered when the service comes back. -/
def answered (watched : Watched) (start : Start) (service : GattService) : Book :=
  if start.live then
    setBook watched.book start.server start.i
      (assign GattAttribute.setActual (watched.book start.server start.i)
        ((serviceElements service).map Element.handle))
  else watched.book

/-- A success of `OnServiceAdded` comes only as the answer to a start. -/
def isAnswer : GattsLabel → Bool
  | .onServiceAdded _ _ ret => ret = gattSuccess
  | _ => false

def step (watched : Watched) : Label → Option Watched
  | .call label =>
      if isAnswer label then none
      else
        let outcome := watched.gatts.perform label
        some (watched.record label outcome.status outcome.gatts)
  | .answered which service =>
      match watched.starts[which]? with
      | none => none
      | some start =>
          if watched.Returns start service then
            some
              { gatts := (watched.gatts.onServiceAdded start.server service gattSuccess).gatts
                book := watched.answered start service
                starts := watched.starts.eraseIdx which }
          else none

/-- The attributes that the adapter has. -/
def attributes (watched : Watched) (server : ServerId) (i : ServiceIndex) : List GattAttribute :=
  (watched.gatts.gattServices server i).attributes

end Watched

/-! ## Searches -/

/-- The first attribute with the property is at the place. -/
def FirstAt (attributes : List GattAttribute) (place : Nat)
    (property : GattAttribute → Prop) : Prop :=
  (∃ attr, attributes[place]? = some attr ∧ property attr) ∧
    ∀ earlier < place, ∀ attr, attributes[earlier]? = some attr → ¬ property attr

/-- It is the characteristic with the UUID. -/
def IsCharacteristic (uuid : UUID) (attr : GattAttribute) : Prop :=
  attr.attrType = .characteristic ∧ attr.uuid = uuid

/-- Nothing in front of the place is taken for the element: no characteristic with its UUID if
it is a characteristic, and nothing with its UUID and a handle above that of its
characteristic if it is a descriptor. -/
def KnownAt (attributes : List GattAttribute) (place : Nat) (element : Element) : Prop :=
  match element.attrType with
  | .characteristic => FirstAt attributes place (IsCharacteristic element.uuid)
  | .descriptor => ∃ owner character, FirstAt attributes owner (IsCharacteristic element.characterUuid) ∧
      attributes[owner]? = some character ∧
      FirstAt attributes place fun attr => attr.handle > character.handle ∧ attr.uuid = element.uuid

/-- The search that `OnServiceAdded` makes for an element. -/
def search (attributes : List GattAttribute) (element : Element) : Option Nat :=
  match element.attrType with
  | .characteristic => getAttributeWithUuid attributes .characteristic element.uuid
  | .descriptor => getDescriptorAttribute attributes element.characterUuid element.uuid

/-- What the searches write. -/
def writes (attributes : List GattAttribute) (elements : List Element) :
    List (Option Nat × UInt16) :=
  elements.map fun element => (search attributes element, element.handle)

/-- The search for an attribute finds a place exactly if it is the first that fits. All searches
of the adapter are cases of it, with a predicate of their own. -/
theorem getAttribute_eq_some_iff (attributes : List GattAttribute)
    (predicate : GattAttribute → Bool) (place : Nat) :
    getAttribute attributes predicate = some place ↔
      FirstAt attributes place fun attr => predicate attr = true := by
  rw [getAttribute, List.findIdx?_eq_some_iff_getElem, FirstAt]
  constructor
  · rintro ⟨within, here, earlier⟩
    refine ⟨⟨_, List.getElem?_eq_getElem within, here⟩, ?_⟩
    intro other less attr found
    obtain ⟨_, rfl⟩ := List.getElem?_eq_some_iff.mp found
    exact earlier other less
  · rintro ⟨⟨attr, found, here⟩, earlier⟩
    obtain ⟨within, rfl⟩ := List.getElem?_eq_some_iff.mp found
    refine ⟨within, here, ?_⟩
    intro other less
    exact earlier other less _ (List.getElem?_eq_getElem _)

/-- The search for a characteristic of a UUID finds a place exactly if it is the first such
characteristic. -/
theorem getAttributeWithUuid_eq_some_iff (attributes : List GattAttribute) (uuid : UUID)
    (place : Nat) :
    getAttributeWithUuid attributes .characteristic uuid = some place ↔
      FirstAt attributes place (IsCharacteristic uuid) := by
  rw [getAttributeWithUuid, getAttribute_eq_some_iff]
  simp only [decide_eq_true_eq]
  rfl

/-- The search for a characteristic fails exactly if there is none with the UUID. -/
theorem getAttributeWithUuid_eq_none_iff (attributes : List GattAttribute) (uuid : UUID) :
    getAttributeWithUuid attributes .characteristic uuid = none ↔
      ∀ attr ∈ attributes, ¬ IsCharacteristic uuid attr := by
  simp [getAttributeWithUuid, getAttribute, IsCharacteristic]

/-- A search finds an element where it is known. A descriptor is searched for in two steps, by
the characteristic and then by itself, and both are said at once. -/
theorem search_eq_some_iff (attributes : List GattAttribute) (element : Element) (place : Nat) :
    search attributes element = some place ↔ KnownAt attributes place element := by
  rw [search, KnownAt]
  cases element.attrType with
  | characteristic => exact getAttributeWithUuid_eq_some_iff attributes element.uuid place
  | descriptor =>
    simp only [getDescriptorAttribute]
    constructor
    · intro found
      split at found
      · cases found
      · rename_i character reached
        obtain ⟨owner, first, here⟩ := Option.bind_eq_some_iff.mp reached
        refine ⟨owner, character, (getAttributeWithUuid_eq_some_iff _ _ _).mp first, here, ?_⟩
        simpa using (getAttribute_eq_some_iff _ _ _).mp found
    · rintro ⟨owner, character, first, here, known⟩
      have reached : (getAttributeWithUuid attributes .characteristic element.characterUuid).bind
          (attributes[·]?) = some character := by
        rw [(getAttributeWithUuid_eq_some_iff _ _ _).mpr first]
        exact here
      rw [reached]
      apply (getAttribute_eq_some_iff _ _ _).mpr
      simpa using known

/-- Searches do not read actual handles. So the actual handles that are being entered cannot
change where the next one goes. -/
theorem search_bare (attributes : List GattAttribute) (element : Element) :
    search (attributes.map GattAttribute.bare) element = search attributes element := by
  have characteristic (uuid : UUID) :
    getAttributeWithUuid (attributes.map GattAttribute.bare) .characteristic uuid =
      getAttributeWithUuid attributes .characteristic uuid := by
    simp only [getAttributeWithUuid, getAttribute, List.findIdx?_map]
    rfl
  rw [search, search]
  cases element.attrType with
  | characteristic => exact characteristic element.uuid
  | descriptor =>
    simp only [getDescriptorAttribute, characteristic]
    cases getAttributeWithUuid attributes .characteristic element.characterUuid with
    | none => rfl
    | some owner =>
      simp only [Option.bind_some, List.getElem?_map]
      cases attributes[owner]? with
      | none => rfl
      | some character =>
        simp only [Option.map_some, getAttribute, List.findIdx?_map]
        rfl

/-- A search looks at types and UUIDs only, so lists that differ in handles give the same place.
-/
theorem search_congr {first second : List GattAttribute}
    (same : first.map GattAttribute.bare = second.map GattAttribute.bare) (element : Element) :
    search first element = search second element := by
  rw [← search_bare first, same, search_bare]

/-- Setting the actual handle of what was found is overwriting one place, or none. -/
theorem setActualHandle_eq (attributes : List GattAttribute) (found : Option Nat)
    (actualHandle : UInt16) :
    setActualHandle attributes found actualHandle =
      overwrite GattAttribute.setActual attributes (found, actualHandle) := by
  cases found <;> rfl

/-- The loop over the elements, with each search made when its turn comes. Written as a fold it
can be compared with the assignment of all handles at once. -/
theorem characteristicAdded_eq (attributes : List GattAttribute) (item : GattCharacteristic) :
    characteristicAdded attributes item =
      (characteristicElements item).foldl (fun attributes element =>
      overwrite GattAttribute.setActual attributes (search attributes element, element.handle)) attributes := by
  rw [characteristicAdded, characteristicElements, List.foldl_cons, List.foldl_map]
  cases found : getAttributeWithUuid attributes .characteristic item.uuid with
  | none =>
    simp only [search, found, overwrite]
    induction item.descriptors with
    | nil => rfl
    | cons des rest inductionHypothesis =>
      simpa [getDescriptorAttribute, found] using inductionHypothesis
  | some place =>
    simp only [search, found, setActualHandle_eq]
    apply List.foldl_ext
    intro attributes des _
    rw [descriptorAdded, setActualHandle_eq]

/-- An attribute has the actual handle that was set last. -/
theorem actualHandle_setActual (attr : GattAttribute) (actualHandle : UInt16) :
    (attr.setActual actualHandle).actualHandle = actualHandle :=
  rfl

/-- Setting an actual handle leaves everything else of the attribute. -/
theorem bare_setActual (attr : GattAttribute) (actualHandle : UInt16) :
    (attr.setActual actualHandle).bare = attr.bare :=
  rfl

/-- All searches may as well be made before. -/
theorem foldl_search (elements : List Element) {attributes current : List GattAttribute}
    (same : current.map GattAttribute.bare = attributes.map GattAttribute.bare) :
    elements.foldl (fun attributes element =>
        overwrite GattAttribute.setActual attributes (search attributes element, element.handle)) current =
      (writes attributes elements).foldl (overwrite GattAttribute.setActual) current := by
  induction elements generalizing current with
  | nil => rfl
  | cons element rest inductionHypothesis =>
    rw [writes, List.map_cons, List.foldl_cons, List.foldl_cons, search_congr same]
    apply inductionHypothesis
    exact (map_foldl_overwrite bare_setActual [_] current).trans same

/-- What `OnServiceAdded` does to the attributes of a service. -/
theorem added_eq (attributes : List GattAttribute) (service : GattService) :
    service.characteristics.foldl characteristicAdded attributes =
      (writes attributes (serviceElements service)).foldl (overwrite GattAttribute.setActual) attributes := by
  rw [← foldl_search _ rfl, serviceElements, List.foldl_flatMap]
  apply List.foldl_ext
  intro attributes item _
  exact characteristicAdded_eq attributes item

/-- The handles that come back are new to the service. -/
def NewTo (attributes : List GattAttribute) (elements : List Element) : Prop :=
  ∀ element ∈ elements, ∀ attr ∈ attributes, attr.actualHandle ≠ element.handle

/-- What is written comes from an element whose search found the place. -/
theorem mem_writes {attributes : List GattAttribute} {elements : List Element} {found : Option Nat}
    {handle : UInt16} :
    (found, handle) ∈ writes attributes elements ↔
      ∃ element ∈ elements, search attributes element = found ∧ element.handle = handle := by
  simp [writes]

/-- The handles are entered in order exactly if every element is known at its place. An element
that is known elsewhere sends its handle there, and the handles are distinct, so that it is
missed at its own place. -/
theorem writes_assign_iff {attributes : List GattAttribute} {elements : List Element}
    (long : elements.length ≤ attributes.length) (distinct : (elements.map Element.handle).Nodup)
    (new : NewTo attributes elements) :
    (writes attributes elements).foldl (overwrite GattAttribute.setActual) attributes =
        assign GattAttribute.setActual attributes (elements.map Element.handle) ↔
      ∀ place element, elements[place]? = some element → KnownAt attributes place element := by
  constructor
  · intro same place element found
    have within : place < attributes.length := by
      have := (List.getElem?_eq_some_iff.mp found).1
      omega
    have old : attributes[place]? = some attributes[place] := List.getElem?_eq_getElem within
    have assigned : (assign GattAttribute.setActual attributes (elements.map Element.handle))[place]? =
        some (attributes[place].setActual element.handle) := by
      simp [getElem?_assign, old, found]
    have changed : (attributes[place].setActual element.handle).actualHandle ≠
        attributes[place].actualHandle :=
      (new element (List.mem_of_getElem? found) _ (List.getElem_mem within)).symm
    have written := written_of_changed actualHandle_setActual _ old (same ▸ assigned) changed
    obtain ⟨other, member, reached, alike⟩ := mem_writes.mp written
    obtain rfl := List.inj_on_of_nodup_map distinct member (List.mem_of_getElem? found) alike
    exact (search_eq_some_iff attributes other place).mp reached
  · intro known
    have own : ∀ (place : Nat) (write : Option Nat × UInt16), (writes attributes elements)[place]? =
      some write →
        write.1 = some place := by
      intro place write found
      rw [writes, List.getElem?_map] at found
      obtain ⟨element, here, rfl⟩ := Option.map_eq_some_iff.mp found
      exact (search_eq_some_iff attributes element place).mpr (known place element here)
    rw [foldl_overwrite_own own, writes, List.map_map]
    rfl

/-- Nothing is written exactly if no characteristic is found. A descriptor is only looked for
behind a characteristic of the same service, so it need not be mentioned. -/
theorem writes_nothing_iff {attributes : List GattAttribute} {service : GattService}
    (new : NewTo attributes (serviceElements service)) :
    (writes attributes (serviceElements service)).foldl (overwrite GattAttribute.setActual) attributes =
        attributes ↔
      ∀ item ∈ service.characteristics, ∀ attr ∈ attributes, ¬ IsCharacteristic item.uuid attr := by
  constructor
  · intro same item member attr attrMember isItem
    have listed : (⟨.characteristic, item.uuid, item.uuid, item.handle⟩ : Element) ∈ serviceElements service :=
      List.mem_flatMap.mpr ⟨item, member, by simp [characteristicElements]⟩
    cases reached : getAttributeWithUuid attributes .characteristic item.uuid with
    | none => exact (getAttributeWithUuid_eq_none_iff _ _).mp reached attr attrMember isItem
    | some place =>
      have written : (some place, item.handle) ∈ writes attributes (serviceElements service) :=
        mem_writes.mpr ⟨_, listed, reached, rfl⟩
      obtain ⟨before, old, _⟩ := ((getAttributeWithUuid_eq_some_iff _ _ _).mp reached).1
      obtain ⟨after, now, value⟩ := changed_of_written actualHandle_setActual old written
      obtain ⟨element, elementMember, _, alike⟩ := mem_writes.mp value
      obtain rfl : before = after := Option.some.inj (old.symm.trans (same ▸ now))
      exact new element elementMember before (List.mem_of_getElem? old) alike.symm
  · intro missing
    apply foldl_overwrite_none
    intro write member
    obtain ⟨element, elementMember, reached, _⟩ := mem_writes.mp member
    obtain ⟨item, itemMember, inItem⟩ := List.mem_flatMap.mp elementMember
    have none := (getAttributeWithUuid_eq_none_iff attributes item.uuid).mpr (missing item itemMember)
    rw [← reached]
    rcases List.mem_cons.mp inItem with rfl | inDescriptors
    · exact none
    · obtain ⟨des, _, rfl⟩ := List.mem_map.mp inDescriptors
      simp [search, getDescriptorAttribute, none]

/-! ## The account -/

/-- A page of the book that is set is read back, and the other pages stay. -/
theorem setBook_eq (book : Book) (server : ServerId) (i : ServiceIndex)
    (attributes : List GattAttribute) (other : ServerId) (j : ServiceIndex) :
    setBook book server i attributes other j = if other = server ∧
      j = i then attributes else book other j := by
  by_cases same : other = server
  · subst same
    by_cases here : j = i
    · subst here
      simp [setBook]
    · simp [setBook, here]
  · simp [setBook, same]

/-- Setting a page is an update of its server's pages. -/
@[simp] theorem setBook_server (book : Book) (server : ServerId) (i : ServiceIndex)
    (attributes : List GattAttribute) :
    setBook book server i attributes server = Function.update (book server) i attributes := by
  simp [setBook]

/-- The elements of the service in a slot, if there is one. -/
def slotElements : Option GattService → List Element
  | none => []
  | some service => serviceElements service

/-- The service that was started is still there, and may have grown. -/
def StillThere (gattService : Option GattService) (start : Start) : Prop :=
  ∃ service, gattService = some service ∧ service.uuid = start.service.uuid ∧
    (serviceElements start.service).map Element.kind <+: (serviceElements service).map Element.kind

/-- The handle that the stack knows, once it does. -/
def actualLabel (attr : GattAttribute) : Option UInt16 :=
  if attr.actualHandle = 0 then none else some attr.actualHandle

/-- The attributes are those of the service, in order; the book agrees up to the actual
handles, and in the book these are distinct. -/
structure Accounted (watched : Watched) : Prop where
  described : ∀ server i, (watched.attributes server i).map GattAttribute.kind =
    (slotElements (watched.gatts.gattServices server i).gattService).map Element.kind
  booked : ∀ server i,
    (watched.book server i).map GattAttribute.bare = (watched.attributes server i).map GattAttribute.bare
  starts : ∀ start ∈ watched.starts, start.live = true →
    StillThere (watched.gatts.gattServices start.server start.i).gattService start
  actual : ∀ server, Separate actualLabel (watched.book server)

/-- What is bare of handles still has its kind. -/
theorem kind_bare (attributes : List GattAttribute) :
    (attributes.map GattAttribute.bare).map GattAttribute.kind =
      attributes.map GattAttribute.kind := by
  rw [List.map_map]
  rfl

/-- Actual handles may change as long as they are distinct in the book. Everything else that is
accounted for is read off the attributes without them. -/
theorem Accounted.of_bare {watched next : Watched} (accounted : Accounted watched)
    (services : ∀ server i,
      (next.gatts.gattServices server i).gattService =
        (watched.gatts.gattServices server i).gattService)
    (attributes : ∀ server i,
      (next.attributes server i).map GattAttribute.bare =
        (watched.attributes server i).map GattAttribute.bare)
    (book : ∀ server i, (next.book server i).map GattAttribute.bare =
      (watched.book server i).map GattAttribute.bare)
    (starts : ∀ start ∈ next.starts, start.live = true → start ∈ watched.starts ∨
      StillThere (watched.gatts.gattServices start.server start.i).gattService start)
    (actual : ∀ server, Separate actualLabel (next.book server)) : Accounted next where
  described := by
    intro server i
    rw [services, ← kind_bare, attributes, kind_bare]
    exact accounted.described server i
  booked := by
    intro server i
    rw [book, attributes]
    exact accounted.booked server i
  starts := by
    intro start member live
    rw [services]
    exact (starts start member live).elim (fun before => accounted.starts start before live) id
  actual := actual

/-- One service may change with its attributes and its page of the book. -/
theorem Accounted.of_slot {watched next : Watched} (accounted : Accounted watched)
    {server : ServerId}
    {i : ServiceIndex} {wrapper : GattServiceWrapper} {booked : List GattAttribute}
    (services : ∀ other j, next.gatts.gattServices other j =
      if other = server ∧ j = i then wrapper else watched.gatts.gattServices other j)
    (book : next.book = setBook watched.book server i booked)
    (described : wrapper.attributes.map GattAttribute.kind =
      (slotElements wrapper.gattService).map Element.kind)
    (bare : booked.map GattAttribute.bare = wrapper.attributes.map GattAttribute.bare)
    (starts : ∀ start ∈ next.starts, start.live = true →
      if start.server = server ∧ start.i = i then StillThere wrapper.gattService start
      else start ∈ watched.starts)
    (actual : Separate actualLabel (Function.update (watched.book server) i booked)) :
      Accounted next where
  described := by
    intro other j
    rw [Watched.attributes, services]
    split
    · exact described
    · exact accounted.described other j
  booked := by
    intro other j
    rw [Watched.attributes, services, book, setBook_eq]
    split
    · exact bare
    · exact accounted.booked other j
  starts := by
    intro start member live
    have there := starts start member live
    rw [services]
    split
    · rename_i here
      rwa [if_pos here] at there
    · rename_i elsewhere
      rw [if_neg elsewhere] at there
      exact accounted.starts start there live
  actual := by
    intro other
    by_cases same : other = server
    · subst same
      rw [book, setBook_server]
      exact actual
    · rw [book, setBook, Function.update_of_ne same]
      exact accounted.actual other

/-- A service with one more element. -/
theorem StillThere.grown {service grown : GattService} {start : Start}
    (there : StillThere (some service) start) (uuid : grown.uuid = service.uuid)
    (longer : (serviceElements service).map Element.kind <+: (serviceElements grown).map Element.kind) :
    StillThere (some grown) start := by
  obtain ⟨other, same, sameUuid, begins⟩ := there
  obtain rfl := Option.some.inj same
  exact ⟨grown, rfl, uuid.trans sameUuid, begins.trans longer⟩

/-- A new characteristic adds its element at the end of those of the service. -/
theorem serviceElements_characteristic (service : GattService) {characteristic : GattCharacteristic}
    (bare : characteristic.descriptors = []) :
    serviceElements { service with characteristics := service.characteristics ++ [characteristic] } =
      serviceElements service ++
        [⟨.characteristic, characteristic.uuid, characteristic.uuid, characteristic.handle⟩] := by
  simp [serviceElements, characteristicElements, bare]

/-- A new descriptor adds its element at the end, since it goes to the last characteristic. -/
theorem serviceElements_descriptor {service : GattService} {back : GattCharacteristic}
    (last : service.characteristics.getLast? = some back) (descriptor : GattDescriptor) :
    serviceElements
        { service with
          characteristics := service.characteristics.dropLast ++
            [{ back with descriptors := back.descriptors ++ [descriptor] }] } =
      serviceElements service ++ [⟨.descriptor, back.uuid, descriptor.uuid, descriptor.handle⟩] := by
  obtain ⟨earlier, whole⟩ := List.getLast?_eq_some_iff.mp last
  simp [serviceElements, whole, characteristicElements]

/-- A call that builds nothing, or fails, adds nothing to the account. -/
theorem record_idle (watched : Watched) {label : GattsLabel} {status : BtStatus}
    (idle : Gatts.builds label = true → status ≠ .success) (next : Gatts) :
    watched.record label status next = { watched with gatts := next } := by
  simp only [Watched.record]
  split
  · exact absurd rfl (idle rfl)
  · exact absurd rfl (idle rfl)
  · exact absurd rfl (idle rfl)
  · exact absurd rfl (idle rfl)
  · rfl

/-- What is entered goes to the page of its service, behind what is there, with the next handle.
-/
theorem entered_eq (watched : Watched) {serverId srvcHandle : Int} {text : ByteString}
    {server : ServerId} {i : ServiceIndex} {uuid : UUID} (named : serverAt serverId = some server)
    (indexed : serviceAt srvcHandle = some i) (read : readUuid text = some uuid)
    (attrType : AttributeType) :
    watched.entered serverId srvcHandle text attrType = setBook watched.book server i
      (watched.book server i ++ [{ handle := watched.gatts.getNextAttributeHandle.1, uuid, attrType }]) := by
  simp [Watched.entered, named, indexed, read]

/-- A change that leaves all services leaves the account of them. -/
theorem accounted_frame {watched : Watched} (accounted : Accounted watched) {next : Gatts}
    (services : ∀ server i, next.gattServices server i = watched.gatts.gattServices server i) :
    Accounted { watched with gatts := next } := by
  apply accounted.of_bare
  · intro server i
    rw [services]
  · intro server i
    simp only [Watched.attributes, services]
  · exact fun _ _ => rfl
  · exact fun _ member _ => .inl member
  · exact accounted.actual

/-- Starting and stopping a service leave it and its attributes as they are. -/
theorem adding_same (gatts : Gatts) (server : ServerId) (i : ServiceIndex) (isAdding : Bool)
    (other : ServerId) (j : ServiceIndex) :
    let next := gatts.setServices server i { gatts.gattServices server i with isAdding := isAdding }
    (next.gattServices other j).gattService = (gatts.gattServices other j).gattService ∧
      (next.gattServices other j).attributes = (gatts.gattServices other j).attributes := by
  simp only [Gatts.gattServices_setServices]
  split
  · rename_i here
    obtain ⟨rfl, rfl⟩ := here
    exact ⟨rfl, rfl⟩
  · exact ⟨rfl, rfl⟩

/-- A service grows by one element, and an attribute is entered for it. -/
theorem accounted_grown {watched : Watched} (accounted : Accounted watched) {server : ServerId}
    {i : ServiceIndex}
    {service : GattService} (there : (watched.gatts.gattServices server i).gattService = some service)
    (attrType : AttributeType) (uuid : UUID) {grown : UInt16 → GattService}
    (sameUuid : ∀ handle, (grown handle).uuid = service.uuid)
    (longer : ∀ handle, (serviceElements (grown handle)).map Element.kind =
      (serviceElements service).map Element.kind ++ [(attrType, uuid)])
    (isSet : BtGattServerCallbacks → Bool) (call : UInt16 → Call) :
    Accounted
      { watched with
        gatts := (watched.gatts.addToService server i attrType uuid grown isSet call).gatts
        book := setBook watched.book server i
          (watched.book server i ++
            [{ handle := watched.gatts.getNextAttributeHandle.1, uuid, attrType }]) } := by
  have described := accounted.described server i
  rw [there, Watched.attributes] at described
  apply accounted.of_slot (Gatts.gattServices_addToService _ server i attrType uuid grown isSet call) rfl
  · simp [described, slotElements, longer, GattAttribute.kind]
  · simpa [Watched.attributes] using accounted.booked server i
  · intro start member live
    have before := accounted.starts start member live
    split
    · rename_i here
      rw [here.1, here.2, there] at before
      exact before.grown (sameUuid _) (longer _ ▸ List.prefix_append _ _)
    · exact member
  · exact (separate_append_iff _ _ _ _).mpr ⟨accounted.actual server, by simp [actualLabel]⟩

/-- A service is deleted. Its attributes and its page of the book go together, and a start of it
that is still under way is no longer alive. -/
theorem accounted_deleted {watched : Watched} (accounted : Accounted watched)
    {serverId srvcHandle : Int}
    {server : ServerId} {i : ServiceIndex} (named : serverAt serverId = some server)
    (indexed : serviceAt srvcHandle = some i) :
    Accounted
      { gatts := watched.gatts.setServices server i
          { watched.gatts.gattServices server i with gattService := none, attributes := [] }
        book := (watched.deleted serverId srvcHandle).1
        starts := (watched.deleted serverId srvcHandle).2 } := by
  simp only [Watched.deleted, named, indexed]
  apply accounted.of_slot (Gatts.gattServices_setServices _ _ _ _) rfl
  · rfl
  · rfl
  · intro start member live
    obtain ⟨before, beforeMember, rfl⟩ := List.mem_map.mp member
    by_cases here : before.server = server ∧ before.i = i
    · simp [here] at live
    · simpa [here] using beforeMember
  · exact (accounted.actual server).clear i

/-- Every call of the application that is recorded keeps the account. The answers of the service
are left to another lemma. -/
theorem accounted_record {watched : Watched} (accounted : Accounted watched) {label : GattsLabel}
    {status : BtStatus} {next : Gatts} (change : watched.gatts.Change label status next)
    (call : Watched.isAnswer label = false) : Accounted (watched.record label status next) := by
  cases change with
  | unchanged _ _ idle =>
    rw [record_idle watched idle]
    exact accounted
  | callbacks func => exact accounted_frame accounted fun _ _ => rfl
  | registered i created _ => exact accounted_frame accounted fun _ _ => by simp
  | unregistered _ => exact accounted_frame accounted fun _ _ => by simp
  | connected device _ => exact accounted_frame accounted fun _ _ => by simp [Gatts.gattServices]
  | disconnected device record _ => exact accounted_frame accounted fun _ _ => by simp [Gatts.gattServices]
  | resolved _ => simp [Watched.isAnswer] at call
  | @serviceAdded _ _ _ _ server i service _ _ empty free =>
    have described := accounted.described server i
    rw [free, Watched.attributes] at described
    have unaltered : setBook watched.book server i (watched.book server i) = watched.book := by
      simp [setBook]
    refine @Accounted.of_slot _ _ accounted server i _ (watched.book server i)
      (Gatts.gattServices_setServices _ server i _) ?_ ?_ ?_ ?_ ?_
    · exact unaltered.symm
    · simp [described, slotElements, serviceElements, empty]
    · exact accounted.booked server i
    · intro start member live
      split
      · rename_i here
        obtain ⟨service, there, _⟩ := accounted.starts start member live
        rw [here.1, here.2, free] at there
        cases there
      · exact member
    · simpa using accounted.actual server
  | @characteristicAdded _ _ _ _ _ server i service characteristic named indexed read bare there isSet call =>
    simp only [Watched.record, entered_eq watched named indexed read]
    apply accounted_grown accounted there
    · exact fun _ => rfl
    · intro handle
      rw [serviceElements_characteristic service bare]
      simp [Element.kind]
  | @descriptorAdded _ _ _ _ server i service back descriptor uuid named indexed read same there
    last isSet call =>
    simp only [Watched.record, entered_eq watched named indexed read]
    apply accounted_grown accounted there
    · exact fun _ => rfl
    · intro handle
      rw [serviceElements_descriptor last]
      simp [Element.kind, same]
  | @started serverId srvcHandle server i service named indexed _ there =>
    have handed : watched.started serverId srvcHandle = watched.starts ++ [⟨server, i, service, true⟩] := by
      simp [Watched.started, named, indexed, there]
    simp only [Watched.record, handed]
    apply accounted.of_bare
    · exact fun other j => (adding_same watched.gatts server i true other j).1
    · exact fun other j => congrArg _ (adding_same watched.gatts server i true other j).2
    · exact fun _ _ => rfl
    · intro start member live
      rcases List.mem_append.mp member with before | new
      · exact .inl before
      · obtain rfl := List.mem_singleton.mp new
        exact .inr ⟨service, there, rfl, List.prefix_rfl⟩
    · exact accounted.actual
  | @stopped _ _ server i _ _ _ =>
    apply accounted.of_bare
    · exact fun other j => (adding_same watched.gatts server i false other j).1
    · exact fun other j => congrArg _ (adding_same watched.gatts server i false other j).2
    · exact fun _ _ => rfl
    · exact fun _ member _ => .inl member
    · exact accounted.actual
  | deleted named indexed _ => exact accounted_deleted accounted named indexed

end AttributeHandles

end BluetoothFramework.CAdapter
