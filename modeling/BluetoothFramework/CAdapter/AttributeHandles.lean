import BluetoothFramework.CAdapter.AttributeBook

/-!
# Attribute handles of the GATT server

`handles_name_one_iff` says in which runs the adapter agrees with the book and every handle
names one attribute: the counter must not meet a handle that the server has, a service that
comes back must be the first of the server that is being added with its UUID, and every
search must find the attribute that it is for.
-/

namespace BluetoothFramework.CAdapter.AttributeHandles

open Runs Places

/-! ## The law -/

/-- The handle that the application knows. -/
def handleLabel (attr : GattAttribute) : Option UInt16 :=
  some attr.handle

/-- The adapter has the attributes of the book, and each is the only one with its handle: it
is the one that an indication finds, and the one that a request reports. -/
structure NamesOne (watched : Watched) : Prop where
  same : ∀ server i, watched.attributes server i = watched.book server i
  one : ∀ server, Separate handleLabel (watched.book server)
  indicated : ∀ server i, ∀ attr ∈ watched.book server i,
    watched.gatts.getAttributeWithHandle server (Int32.ofNat attr.handle.toNat) = some attr
  reported : ∀ server i, ∀ attr ∈ watched.book server i, attr.actualHandle ≠ 0 →
    watched.gatts.getAttributeWithActualHandle server attr.actualHandle = some attr

/-- The call adds an attribute to the server. -/
def AddsTo (gatts : Gatts) (server : ServerId) : GattsLabel → Prop
  | .bleGattsAddCharacteristic serverId srvcHandle characUuid _ _ =>
      serverAt serverId = some server ∧ readUuid characUuid ≠ none ∧
        ∃ i, serviceAt srvcHandle = some i ∧ (gatts.gattServices server i).gattService ≠ none
  | .bleGattsAddDescriptor serverId srvcHandle descUuid _ =>
      serverAt serverId = some server ∧ readUuid descUuid ≠ none ∧
        ∃ i, serviceAt srvcHandle = some i ∧
          ∃ service, (gatts.gattServices server i).gattService = some service ∧
          service.characteristics ≠ []
  | _ => False

/-- The service is the first of the server that is being added and has the UUID. -/
def FirstAdding (gatts : Gatts) (server : ServerId) (uuid : UUID) (i : ServiceIndex) : Prop :=
  gatts.isAddingUuid server uuid i = true ∧ ∀ earlier < i, gatts.isAddingUuid server uuid earlier = false

/-- The callback that `OnServiceAdded` asks for is set. -/
def Heard (gatts : Gatts) : Prop :=
  gatts.gattsCallback.any BtGattServerCallbacks.serviceStartCb = true

/-- When a step keeps the handles good. A new handle must be new to the server. A service that
comes back must be heard of, must be the first that is being added, and all its elements
must be known. A service that was deleted meanwhile must not be taken for another. -/
def Keeps (watched : Watched) : Label → Prop
  | .call label => ∀ server, AddsTo watched.gatts server label →
      ∀ i, ∀ attr ∈ watched.attributes server i,
        attr.handle ≠ watched.gatts.getNextAttributeHandle.1
  | .answered which service => ∀ start, watched.starts[which]? = some start →
      if start.live then
        serviceElements service = [] ∨
          Heard watched.gatts ∧ FirstAdding watched.gatts start.server service.uuid start.i ∧
            ∀ place element, (serviceElements service)[place]? = some element →
              KnownAt (watched.attributes start.server start.i) place element
      else
        ¬ Heard watched.gatts ∨ ∀ i, FirstAdding watched.gatts start.server service.uuid i →
          ∀ item ∈ service.characteristics, ∀ attr ∈ watched.attributes start.server i,
            ¬ IsCharacteristic item.uuid attr

/-! ## Services that come back -/

/-- The service that an answer is taken for is the first that is being added under its UUID. -/
theorem firstAdding_iff (gatts : Gatts) (server : ServerId) (uuid : UUID) (i : ServiceIndex) :
    (List.finRange maximumNumberGattservice).find? (gatts.isAddingUuid server uuid) = some i ↔
      FirstAdding gatts server uuid i := by
  rw [List.find?_eq_some_iff_getElem, FirstAdding]
  apply and_congr_right
  intro _
  constructor
  · rintro ⟨place, within, rfl, earlier⟩ other less
    have before := earlier other (by simpa [Fin.lt_def] using less)
    simpa using before
  · intro earlier
    refine ⟨i, by simp, by simp, ?_⟩
    intro other less
    have before := earlier ⟨other, by omega⟩ (by simpa [Fin.lt_def] using less)
    simpa using before

/-- Of two indices, both cannot be the first. -/
theorem FirstAdding.unique {gatts : Gatts} {server : ServerId} {uuid : UUID} {i j : ServiceIndex}
    (first : FirstAdding gatts server uuid i)
    (second : FirstAdding gatts server uuid j) : i = j := by
  have found := (firstAdding_iff gatts server uuid i).mpr first
  rw [(firstAdding_iff gatts server uuid j).mpr second] at found
  exact (Option.some.inj found).symm

/-- The service that is found gets its handles. -/
theorem added_here {gatts : Gatts} (heard : Heard gatts) {server : ServerId} {service : GattService}
    {i : ServiceIndex} (first : FirstAdding gatts server service.uuid i) :
    ((gatts.onServiceAdded server service gattSuccess).gatts.gattServices server i).attributes =
      (writes (gatts.gattServices server i).attributes (serviceElements service)).foldl
        (overwrite GattAttribute.setActual) (gatts.gattServices server i).attributes := by
  rw [Heard] at heard
  rw [Gatts.onServiceAdded, if_pos heard, if_pos rfl, (firstAdding_iff _ _ _ _).mpr first]
  simp [Gatts.gattServices_setServices, added_eq]

/-- The others keep theirs. The callback is for the first service with the UUID of the one that
was added, and writes to its attributes only. -/
theorem added_elsewhere {gatts : Gatts} {server : ServerId} {service : GattService}
    {other : ServerId} {j : ServiceIndex} (elsewhere : ¬ (Heard gatts ∧ other = server ∧
      FirstAdding gatts server service.uuid j)) :
    ((gatts.onServiceAdded server service gattSuccess).gatts.gattServices other j).attributes =
      (gatts.gattServices other j).attributes := by
  rw [Gatts.onServiceAdded]
  split
  · rename_i heard
    rw [if_pos rfl]
    split
    · rfl
    · rename_i i found
      have different : ¬ (other = server ∧ j = i) := by
        rintro ⟨rfl, rfl⟩
        exact elsewhere ⟨heard, rfl, (firstAdding_iff _ _ _ _).mp found⟩
      simp only [Gatts.gattServices_setServices, different, if_false]
  · rfl

/-- An answer changes no service that is to be added, only the attributes. -/
theorem added_service (gatts : Gatts) (server : ServerId) (service : GattService) (other : ServerId)
    (j : ServiceIndex) :
    ((gatts.onServiceAdded server service gattSuccess).gatts.gattServices other j).gattService =
      (gatts.gattServices other j).gattService := by
  rw [Gatts.onServiceAdded]
  split
  · rw [if_pos rfl]
    split
    · rfl
    · simp only [Gatts.gattServices_setServices]
      split
      · rename_i here
        rw [here.1, here.2]
      · rfl
  · rfl

/-- An answer gives out handles and changes nothing else of the attributes. -/
theorem added_bare (gatts : Gatts) (server : ServerId) (service : GattService) (other : ServerId)
    (j : ServiceIndex) :
    ((gatts.onServiceAdded server service gattSuccess).gatts.gattServices other j).attributes.map
        GattAttribute.bare = (gatts.gattServices other j).attributes.map GattAttribute.bare := by
  by_cases here : Heard gatts ∧ other = server ∧ FirstAdding gatts server service.uuid j
  · obtain ⟨heard, rfl, first⟩ := here
    rw [added_here heard first]
    exact map_foldl_overwrite bare_setActual _ _
  · rw [added_elsewhere here]

/-- Assigning handles changes nothing else of the attributes. -/
theorem assign_bare (attributes : List GattAttribute) (handles : List UInt16) :
    (assign GattAttribute.setActual attributes handles).map GattAttribute.bare =
      attributes.map GattAttribute.bare := by
  apply List.ext_getElem?
  intro place
  simp only [List.getElem?_map, getElem?_assign]
  cases attributes[place]? with
  | none => rfl
  | some attr => cases handles[place]? <;> rfl

/-- The book gets handles that are distinct from each other and from those it has. -/
theorem separate_assign {slots : ServiceIndex → List GattAttribute}
    (separate : Separate actualLabel slots)
    (i : ServiceIndex) {elements : List Element} (distinct : (elements.map Element.handle).Nodup)
    (own : ∀ element ∈ elements, ∀ j, ∀ attr ∈ slots j, attr.actualHandle ≠ element.handle) :
    Separate actualLabel
      (Function.update slots i (assign GattAttribute.setActual (slots i) (elements.map Element.handle))) := by
  have cases_of {j : ServiceIndex} {p : Nat} {a : GattAttribute}
      (atP : (Function.update slots i
        (assign GattAttribute.setActual (slots i) (elements.map Element.handle)) j)[p]? =
        some a) :
      (slots j)[p]? = some a ∨
        j = i ∧ ∃ element, elements[p]? = some element ∧ a.actualHandle = element.handle := by
    by_cases here : j = i
    · subst here
      rw [Function.update_self, getElem?_assign] at atP
      obtain ⟨attr, old, rfl⟩ := Option.map_eq_some_iff.mp atP
      rw [List.getElem?_map]
      cases found : elements[p]? with
      | none => exact .inl old
      | some element => exact .inr ⟨rfl, element, rfl, rfl⟩
    · rw [Function.update_of_ne here] at atP
      exact .inl atP
  have value {attr : GattAttribute} {handle : UInt16} (labelled : actualLabel attr = some handle) :
      attr.actualHandle = handle := by
    rw [actualLabel] at labelled
    split at labelled
    · cases labelled
    · exact Option.some.inj labelled
  intro j k p q a b handle atP atQ here there
  rcases cases_of atP with oldP | ⟨rfl, element, atElement, same⟩
  · rcases cases_of atQ with oldQ | ⟨rfl, element, atElement, same⟩
    · exact separate j k p q a b handle oldP oldQ here there
    · refine absurd ?_ (own element (List.mem_of_getElem? atElement) j a (List.mem_of_getElem? oldP))
      rw [value here, ← same, value there]
  · rcases cases_of atQ with oldQ | ⟨rfl, other, atOther, sameOther⟩
    · refine absurd ?_ (own element (List.mem_of_getElem? atElement) k b (List.mem_of_getElem? oldQ))
      rw [value there, ← same, value here]
    · refine ⟨rfl, ?_⟩
      have alike : (elements.map Element.handle)[p]? = (elements.map Element.handle)[q]? := by
        simp [atElement, atOther, ← same, ← sameOther, value here, value there]
      have within : p < (elements.map Element.handle).length := by
        simpa using (List.getElem?_eq_some_iff.mp atElement).1
      exact (List.getElem?_inj within distinct).mp alike

/-- An answer keeps the account of handles when it is about the service that was started. -/
theorem accounted_answered {watched : Watched} (accounted : Accounted watched) {start : Start}
    {service : GattService} (returns : watched.Returns start service) (which : Nat) :
    Accounted
      { gatts := (watched.gatts.onServiceAdded start.server service gattSuccess).gatts
        book := watched.answered start service
        starts := watched.starts.eraseIdx which } := by
  apply accounted.of_bare
  · exact added_service watched.gatts start.server service
  · exact added_bare watched.gatts start.server service
  · intro server i
    simp only [Watched.answered]
    split
    · rw [setBook_eq]
      split
      · rename_i here
        rw [assign_bare, here.1, here.2]
      · rfl
    · rfl
  · exact fun _ member _ => .inl (List.mem_of_mem_eraseIdx member)
  · intro server
    simp only [Watched.answered]
    split
    · by_cases same : server = start.server
      · subst same
        rw [setBook_server]
        apply separate_assign (accounted.actual _) _ returns.distinct
        exact fun element member => (returns.own element member).2
      · rw [setBook, Function.update_of_ne same]
        exact accounted.actual server
    · exact accounted.actual server

/-! ## The law, part by part -/

/-- The adapter has the attributes of the book. -/
def Same (watched : Watched) : Prop :=
  ∀ server i, watched.attributes server i = watched.book server i

instance (watched : Watched) : Decidable (Same watched) :=
  inferInstanceAs (Decidable (∀ _ _, _))

/-- An attribute that is the only one of its server with a property is found by it. The services
are searched one after the other, and no other attribute can be met first. -/
theorem found_of_only {watched : Watched} (same : Same watched) {server : ServerId}
    {i : ServiceIndex} {attr : GattAttribute} (member : attr ∈ watched.book server i)
    {predicate : GattAttribute → Bool} (holds : predicate attr = true)
    (only : ∀ j, ∀ other ∈ watched.book server j, predicate other = true → other = attr) :
    watched.gatts.getAttributeOfServer server predicate = some attr := by
  cases found : watched.gatts.getAttributeOfServer server predicate with
  | none =>
    have here : attr ∈ watched.attributes server i := by
      rw [same]
      exact member
    have missing := (Gatts.getAttributeOfServer_eq_none_iff _ _ _).mp found i attr here
    rw [holds] at missing
    cases missing
  | some other =>
    rw [Gatts.getAttributeOfServer_eq, List.findSome?_eq_some_iff] at found
    obtain ⟨_, j, _, _, here, _⟩ := found
    have otherMember : other ∈ watched.book server j := same server j ▸ List.mem_of_find?_eq_some here
    rw [only j other otherMember (List.find?_some here)]

/-- Where the adapter agrees with the book and the handles are distinct, every handle is good
for its attribute. -/
theorem namesOne_iff {watched : Watched} (accounted : Accounted watched) :
    NamesOne watched ↔ Same watched ∧ ∀ server, Separate handleLabel (watched.book server) := by
  constructor
  · intro names
    exact ⟨names.same, names.one⟩
  · rintro ⟨same, one⟩
    refine ⟨same, one, ?_, ?_⟩
    · intro server i attr member
      have read (other : GattAttribute) :
        ((other.handle.toNat : Int) = (Int32.ofNat attr.handle.toNat).toInt) ↔
          other.handle = attr.handle := by
        have small : attr.handle.toNat < 65536 := attr.handle.toNat_lt
        have fits : (Int32.ofNat attr.handle.toNat).toInt = attr.handle.toNat :=
          Int32.toInt_ofNat_of_lt (by omega)
        rw [fits, Int.ofNat_inj, UInt16.toNat_inj]
      apply found_of_only same member
      · exact decide_eq_true ((read attr).mpr rfl)
      · intro j other otherMember sameHandle
        have alike := (read other).mp (of_decide_eq_true sameHandle)
        exact (one server).eq_of_label otherMember member (congrArg some alike) rfl
    · intro server i attr member nonzero
      apply found_of_only same member
      · exact decide_eq_true rfl
      · intro j other otherMember sameActual
        have alike : other.actualHandle = attr.actualHandle := of_decide_eq_true sameActual
        apply (accounted.actual server).eq_of_label otherMember member
        · simp only [actualLabel, alike, nonzero, if_false]
          rfl
        · simp [actualLabel, nonzero]

/-- Calls change the book as they change the adapter. -/
theorem same_record {watched : Watched} (same : Same watched) {label : GattsLabel}
    {status : BtStatus} {next : Gatts}
    (change : watched.gatts.Change label status next) (call : Watched.isAnswer label = false) :
    Same (watched.record label status next) := by
  intro other j
  have before : (watched.gatts.gattServices other j).attributes = watched.book other j := same other j
  cases change with
  | unchanged _ _ idle =>
    rw [record_idle watched idle]
    exact before
  | callbacks func => exact before
  | registered i created _ => simpa [Watched.record, Watched.attributes] using before
  | unregistered _ => simpa [Watched.record, Watched.attributes] using before
  | connected device _ => simpa [Watched.record, Watched.attributes, Gatts.gattServices] using before
  | disconnected device record _ =>
    simpa [Watched.record, Watched.attributes, Gatts.gattServices] using before
  | resolved _ => simp [Watched.isAnswer] at call
  | @serviceAdded _ _ _ _ server i service _ _ _ _ =>
    simp only [Watched.record, Watched.attributes, Gatts.gattServices_setServices]
    split
    · rename_i here
      obtain ⟨rfl, rfl⟩ := here
      exact before
    · exact before
  | @characteristicAdded _ _ _ _ _ server i _ _ named indexed read _ _ _ _ =>
    simp only [Watched.record, Watched.attributes, entered_eq watched named indexed read, setBook_eq,
      Gatts.gattServices_addToService]
    split
    · rename_i here
      obtain ⟨rfl, rfl⟩ := here
      simp [before]
    · exact before
  | @descriptorAdded _ _ _ _ server i _ _ _ _ named indexed read _ _ _ _ _ =>
    simp only [Watched.record, Watched.attributes, entered_eq watched named indexed read, setBook_eq,
      Gatts.gattServices_addToService]
    split
    · rename_i here
      obtain ⟨rfl, rfl⟩ := here
      simp [before]
    · exact before
  | @started _ _ server i _ _ _ _ _ =>
    exact (adding_same watched.gatts server i true other j).2.trans before
  | @stopped _ _ server i _ _ _ => exact (adding_same watched.gatts server i false other j).2.trans before
  | deleted named indexed _ =>
    simp only [Watched.record, Watched.attributes, Watched.deleted, named, indexed, setBook_eq,
      Gatts.gattServices_setServices]
    split
    · rfl
    · exact before

/-- A call that adds to a server succeeds. -/
theorem success_of_addsTo {gatts : Gatts} {server : ServerId} {label : GattsLabel}
    (adds : AddsTo gatts server label) :
    (gatts.perform label).status = .success := by
  cases label with
  | bleGattsAddCharacteristic serverId srvcHandle characUuid properties permissions =>
    obtain ⟨named, valid, i, indexed, present⟩ := adds
    obtain ⟨uuid, read⟩ := Option.ne_none_iff_exists'.mp valid
    obtain ⟨service, there⟩ := Option.ne_none_iff_exists'.mp present
    simp [Gatts.perform, Gatts.bleGattsAddCharacteristic, named, read, indexed, there, Gatts.addToService]
  | bleGattsAddDescriptor serverId srvcHandle descUuid permissions =>
    obtain ⟨named, valid, i, indexed, service, there, nonempty⟩ := adds
    obtain ⟨uuid, read⟩ := Option.ne_none_iff_exists'.mp valid
    obtain ⟨back, last⟩ := Option.ne_none_iff_exists'.mp (List.getLast?_eq_none_iff.not.mpr nonempty)
    simp [Gatts.perform, Gatts.bleGattsAddDescriptor, named, read, indexed, there, last, Gatts.addToService]
  | _ => exact adds.elim

/-- Entering a new attribute keeps the handles of all servers distinct exactly if the server
does not have the handle yet. -/
theorem entered_separate_iff {watched : Watched} (same : Same watched)
    (one : ∀ server, Separate handleLabel (watched.book server)) (server : ServerId)
    (i : ServiceIndex) (attr : GattAttribute) :
    (∀ other, Separate handleLabel (setBook watched.book server i (watched.book server i ++ [attr]) other)) ↔
      ∀ j, ∀ old ∈ watched.attributes server j, old.handle ≠ attr.handle := by
  have fresh : (∀ handle, handleLabel attr = some handle → ∀ j, ∀ old ∈ watched.book server j,
      handleLabel old ≠ some handle) ↔
      ∀ j, ∀ old ∈ watched.attributes server j, old.handle ≠ attr.handle := by
    simp [handleLabel, same server _]
  constructor
  · intro separate
    have here := separate server
    rw [setBook_server, separate_append_iff] at here
    exact fresh.mp here.2
  · intro new other
    by_cases isServer : other = server
    · subst isServer
      rw [setBook_server, separate_append_iff]
      exact ⟨one other, fresh.mpr new⟩
    · rw [setBook, Function.update_of_ne isServer]
      exact one other

/-- Handles stay distinct in the book exactly if a new one is new to its server. -/
theorem one_record_iff {watched : Watched} (same : Same watched)
    (one : ∀ server, Separate handleLabel (watched.book server))
    {label : GattsLabel} {status : BtStatus} {next : Gatts}
    (change : watched.gatts.Change label status next)
    (succeeds : ∀ server, AddsTo watched.gatts server label → status = .success) :
    (∀ server, Separate handleLabel ((watched.record label status next).book server)) ↔
      Keeps watched (.call label) := by
  have untouched (book : (watched.record label status next).book = watched.book)
      (silent : ∀ server, ¬ AddsTo watched.gatts server label) :
      (∀ server, Separate handleLabel ((watched.record label status next).book server)) ↔
        Keeps watched (.call label) := by
    rw [book]
    exact iff_of_true one fun server adds => absurd adds (silent server)
  cases change with
  | unchanged _ _ idle =>
    apply untouched
    · rw [record_idle watched idle]
    · intro server adds
      cases label with
      | bleGattsAddCharacteristic _ _ _ _ _ => exact idle rfl (succeeds server adds)
      | bleGattsAddDescriptor _ _ _ _ => exact idle rfl (succeeds server adds)
      | _ => exact adds
  | @characteristicAdded _ _ _ _ _ server i service characteristic named indexed read _ there _ _ =>
    simp only [Watched.record, entered_eq watched named indexed read]
    rw [entered_separate_iff same one]
    constructor
    · intro new other adds
      obtain rfl := Option.some.inj (named.symm.trans adds.1)
      exact new
    · intro keeps
      exact keeps server ⟨named, by simp [read], i, indexed, by simp [there]⟩
  | @descriptorAdded _ _ _ _ server i service back _ _ named indexed read _ there last _ _ =>
    simp only [Watched.record, entered_eq watched named indexed read]
    rw [entered_separate_iff same one]
    constructor
    · intro new other adds
      obtain rfl := Option.some.inj (named.symm.trans adds.1)
      exact new
    · intro keeps
      have nonempty : service.characteristics ≠ [] := by
        intro empty
        simp [empty] at last
      exact keeps server ⟨named, by simp [read], i, indexed, service, there, nonempty⟩
  | @deleted _ _ server i named indexed _ =>
    refine iff_of_true ?_ fun _ adds => adds.elim
    intro other
    simp only [Watched.record, Watched.deleted, named, indexed]
    by_cases isServer : other = server
    · subst isServer
      rw [setBook_server]
      exact (one other).clear i
    · rw [setBook, Function.update_of_ne isServer]
      exact one other
  | _ => exact untouched rfl fun _ adds => adds

/-- The account after a service has come back. -/
def Watched.returned (watched : Watched) (which : Nat) (start : Start) (service : GattService) :
    Watched where
  gatts := (watched.gatts.onServiceAdded start.server service gattSuccess).gatts
  book := watched.answered start service
  starts := watched.starts.eraseIdx which

/-- Handles of the book do not change when a service comes back. Only the actual handles are
entered then, and these are another label of the same entries. -/
theorem one_returned {watched : Watched}
    (one : ∀ server, Separate handleLabel (watched.book server)) (which : Nat)
    (start : Start) (service : GattService) (server : ServerId) :
    Separate handleLabel ((watched.returned which start service).book server) := by
  have bare (i : ServiceIndex) : (watched.answered start service server i).map GattAttribute.bare =
      (watched.book server i).map GattAttribute.bare := by
    rw [Watched.answered]
    split
    · rw [setBook_eq]
      split
      · rename_i here
        rw [assign_bare, here.1, here.2]
      · rfl
    · rfl
  apply (one server).of_places
  intro i place attr handle atPlace labelled
  have alike := congrArg (·[place]?) (bare i)
  simp only [List.getElem?_map] at alike
  rw [show watched.answered start service server i =
    (watched.returned which start service).book server i from rfl,
    atPlace] at alike
  obtain ⟨old, oldAt, sameBare⟩ := Option.map_eq_some_iff.mp alike.symm
  have sameHandle := congrArg GattAttribute.handle sameBare
  refine ⟨old, oldAt, ?_⟩
  rw [← labelled, handleLabel, handleLabel]
  exact congrArg some sameHandle

/-- The handles that come back are new to every service of the server. -/
theorem newTo_of_returns {watched : Watched} (same : Same watched) {start : Start}
    {service : GattService} (returns : watched.Returns start service) (i : ServiceIndex) :
    NewTo (watched.attributes start.server i) (serviceElements service) := by
  intro element member attr attrMember
  rw [same] at attrMember
  exact (returns.own element member).2 i attr attrMember

/-- A service that is still there has an attribute for each element that comes back. -/
theorem length_of_returns {watched : Watched} (accounted : Accounted watched) {start : Start}
    {service : GattService} (member : start ∈ watched.starts) (live : start.live = true)
    (returns : watched.Returns start service) :
    (serviceElements service).length ≤ (watched.attributes start.server start.i).length := by
  obtain ⟨present, there, _, begins⟩ := accounted.starts start member live
  have described := accounted.described start.server start.i
  rw [there] at described
  have whole := congrArg List.length described
  have returned := congrArg List.length returns.elements
  have shorter := begins.length_le
  simp only [List.length_map, slotElements] at whole returned shorter
  omega

/-- A service that is still there gets the handles of the book exactly if it is recognized. It
must be the first of its UUID that is being added, and each element must be known at its place by
its own UUID, which fails where a UUID is repeated. -/
theorem same_live_iff {watched : Watched} (accounted : Accounted watched) (same : Same watched)
    (which : Nat) {start : Start} {service : GattService} (member : start ∈ watched.starts)
    (live : start.live = true) (returns : watched.Returns start service) :
    Same (watched.returned which start service) ↔
      serviceElements service = [] ∨
        Heard watched.gatts ∧ FirstAdding watched.gatts start.server service.uuid start.i ∧
          ∀ place element, (serviceElements service)[place]? = some element →
            KnownAt (watched.attributes start.server start.i) place element := by
  have new := newTo_of_returns same returns start.i
  have long := length_of_returns accounted member live returns
  have entered (server : ServerId) (i : ServiceIndex) :
    (watched.returned which start service).book server i =
      if server = start.server ∧ i = start.i then
        assign GattAttribute.setActual (watched.attributes start.server start.i)
          ((serviceElements service).map Element.handle)
      else watched.attributes server i := by
    simp only [Watched.returned, Watched.answered, live, if_true, setBook_eq, same start.server start.i,
      same server i]
  have elsewhere {server : ServerId} {i : ServiceIndex}
    (missed : ¬ (Heard watched.gatts ∧ server = start.server ∧
      FirstAdding watched.gatts start.server service.uuid i)) :
      (watched.returned which start service).attributes server i = watched.attributes server i :=
    added_elsewhere missed
  constructor
  · intro sameNext
    by_cases empty : serviceElements service = []
    · exact .inl empty
    · right
      have here := sameNext start.server start.i
      rw [entered, if_pos ⟨rfl, rfl⟩] at here
      have recognized : Heard watched.gatts ∧
          FirstAdding watched.gatts start.server service.uuid start.i := by
        by_contra missed
        rw [elsewhere fun found => missed ⟨found.1, found.2.2⟩] at here
        -- The first element would have kept its old handle.
        have some := List.length_pos_iff.mpr empty
        have within : 0 < (watched.attributes start.server start.i).length := by omega
        have first := congrArg (·[0]?) here
        simp only [getElem?_assign, List.getElem?_map, List.getElem?_eq_getElem some,
          List.getElem?_eq_getElem within, Option.map_some, Option.elim_some, Option.some.injEq] at first
        exact new _ (List.getElem_mem some) _ (List.getElem_mem within)
          (congrArg GattAttribute.actualHandle first)
      refine ⟨recognized.1, recognized.2, ?_⟩
      have written := added_here recognized.1 recognized.2
      exact (writes_assign_iff long returns.distinct new).mp (written.symm.trans here)
  · intro recognized server i
    rw [entered]
    rcases recognized with empty | ⟨heard, first, known⟩
    · have unaltered : (watched.returned which start service).attributes server i =
          watched.attributes server i := by
        by_cases found : Heard watched.gatts ∧ server = start.server ∧
            FirstAdding watched.gatts start.server service.uuid i
        · obtain ⟨heard, rfl, first⟩ := found
          have written := added_here heard first
          rw [empty] at written
          exact written
        · exact elsewhere found
      rw [unaltered]
      split
      · rename_i here
        rw [here.1, here.2, empty]
        apply List.ext_getElem?
        intro place
        simp [getElem?_assign]
      · rfl
    · split
      · rename_i here
        obtain ⟨rfl, rfl⟩ := here
        exact (added_here heard first).trans ((writes_assign_iff long returns.distinct new).mpr known)
      · rename_i other
        apply elsewhere
        rintro ⟨_, rfl, alsoFirst⟩
        exact other ⟨rfl, alsoFirst.unique first⟩

/-- A service that is gone leaves the handles alone exactly if it is not taken for another. It is
taken for another one with the same UUID that is being added in its place. -/
theorem same_gone_iff {watched : Watched} (same : Same watched) (which : Nat) {start : Start}
    {service : GattService} (gone : start.live = false) (returns : watched.Returns start service) :
    Same (watched.returned which start service) ↔
      ¬ Heard watched.gatts ∨ ∀ i, FirstAdding watched.gatts start.server service.uuid i →
        ∀ item ∈ service.characteristics, ∀ attr ∈ watched.attributes start.server i,
          ¬ IsCharacteristic item.uuid attr := by
  have book : (watched.returned which start service).book = watched.book := by
    simp [Watched.returned, Watched.answered, gone]
  constructor
  · intro sameNext
    by_cases heard : Heard watched.gatts
    · right
      intro i first
      have here := sameNext start.server i
      rw [book, ← same] at here
      exact (writes_nothing_iff (newTo_of_returns same returns i)).mp ((added_here heard first).symm.trans here)
    · exact .inl heard
  · intro ignored server i
    rw [book, ← same]
    by_cases found : Heard watched.gatts ∧ server = start.server ∧
        FirstAdding watched.gatts start.server service.uuid i
    · obtain ⟨heard, rfl, first⟩ := found
      have missing := ignored.resolve_left (not_not.mpr heard) i first
      exact (added_here heard first).trans ((writes_nothing_iff (newTo_of_returns same returns i)).mpr missing)
    · exact added_elsewhere found

/-! ## Runs -/

/-- The steps keep the account. The calls are taken from the changes that they can make, and a
service that comes back changes actual handles only. -/
theorem accounted_step {watched next : Watched} {label : Label} (accounted : Accounted watched)
    (taken : watched.step label = some next) : Accounted next := by
  cases label with
  | call label =>
    rw [Watched.step] at taken
    split at taken
    · cases taken
    · rename_i call
      rw [← Option.some.inj taken]
      exact accounted_record accounted (watched.gatts.change_perform label) (Bool.eq_false_iff.mpr call)
  | answered which service =>
    rw [Watched.step] at taken
    split at taken
    · cases taken
    · split at taken
      · rename_i returns
        rw [← Option.some.inj taken]
        exact accounted_answered accounted returns which
      · cases taken

/-- A step keeps the handles good exactly if it meets the condition. The calls of the application
and the services that come back are treated apart, since the first change the book and the second
the actual handles. -/
theorem step_iff {watched next : Watched} {label : Label} (accounted : Accounted watched)
    (names : NamesOne watched)
    (taken : watched.step label = some next) : NamesOne next ↔ Keeps watched label := by
  rw [namesOne_iff (accounted_step accounted taken)]
  cases label with
  | call label =>
    rw [Watched.step] at taken
    split at taken
    · cases taken
    · rename_i call
      rw [← Option.some.inj taken]
      have change := watched.gatts.change_perform label
      rw [and_iff_right (same_record names.same change (Bool.eq_false_iff.mpr call))]
      exact one_record_iff names.same names.one change fun _ adds => success_of_addsTo adds
  | answered which service =>
    rw [Watched.step] at taken
    split at taken
    · cases taken
    · rename_i start started
      split at taken
      · rename_i returns
        obtain rfl : watched.returned which start service = next := Option.some.inj taken
        have only : Keeps watched (.answered which service) ↔
            if start.live then
              serviceElements service = [] ∨
                Heard watched.gatts ∧ FirstAdding watched.gatts start.server service.uuid start.i ∧
                  ∀ place element, (serviceElements service)[place]? = some element →
                    KnownAt (watched.attributes start.server start.i) place element
            else
              ¬ Heard watched.gatts ∨ ∀ i, FirstAdding watched.gatts start.server service.uuid i →
                ∀ item ∈ service.characteristics, ∀ attr ∈ watched.attributes start.server i,
                  ¬ IsCharacteristic item.uuid attr := by
          simp [Keeps, started]
        rw [and_iff_left (one_returned names.one which start service), only]
        split
        · rename_i live
          exact same_live_iff accounted names.same which (List.mem_of_getElem? started) live returns
        · rename_i gone
          exact same_gone_iff names.same which (Bool.eq_false_iff.mpr gone) returns
      · cases taken

/-- Every handle names one attribute, and the actual handle is that of the same attribute, all
along a run exactly if every step keeps the handles good. The condition of a step is on the state
before it: that a new handle is new to its server, and that a service that comes back is
recognized. -/
theorem handles_name_one_iff (labels : List Label) :
    Always Watched.step NamesOne {} labels ↔ Meets Watched.step Keeps {} labels := by
  apply @always_iff_meets _ _ Watched.step NamesOne Accounted
  · exact fun _ _ _ accounted taken => accounted_step accounted taken
  · exact fun _ _ _ accounted names taken => step_iff accounted names taken
  · exact ⟨fun _ _ => rfl, fun _ _ => rfl, by simp, fun _ _ _ _ _ _ _ _ atP => by simp at atP⟩
  · exact ⟨fun _ _ => rfl, fun _ _ _ _ _ _ _ _ atP => by simp at atP, by simp, by simp⟩

/-- A service with two characteristics of one UUID. -/
def twice : GattService where
  characteristics := [{ handle := 10, uuid := {} }, { handle := 20, uuid := {} }]

/-- The service is built, started and returned. -/
def repeated : List Label :=
  [.call (.bleGattsRegisterCallbacks (some { serviceStartCb := true })), .call (.bleGattsRegister true),
    .call (.bleGattsAddService 0 (UUID.toString {}) true 4),
    .call (.bleGattsAddCharacteristic 0 0 (UUID.toString {}) 0 0),
    .call (.bleGattsAddCharacteristic 0 0 (UUID.toString {}) 0 0),
    .call (.bleGattsStartService 0 0), .answered 0 twice]

/-- The first characteristic gets the handle of the second, which gets none. -/
theorem repeated_uuid_mixed_up : ¬ Always Watched.step NamesOne {} repeated := by
  have different : ¬ Always Watched.step Same {} repeated := by
    decide +kernel
  intro always
  exact different (always_imp (fun _ names => names.same) always)

end BluetoothFramework.CAdapter.AttributeHandles
