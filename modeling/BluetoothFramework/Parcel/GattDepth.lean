import BluetoothFramework.Library.Exits
import BluetoothFramework.Parcel.GattService

/-!
# The depth counters while a GATT service is read

`ReadFromParcel` of a service, a characteristic and a descriptor counts its own type in a
thread-local counter: the check refuses to go deeper than the limit, and a guard object
counts up and, on every way out, down again, except from zero. Here the counters are part
of the thread's state, and so is the parcel. Two numbers are kept beside them for the
record: how many services are being read, and the most there have been.

Nothing is assumed of the content of a parcel. `ParcelReads` are its typed reads, any
functions of what is left of it, so the content may be hostile and may end anywhere.

`Content` says what a readable service is without any counter: its reads have values, its
sizes are within the limits and it has so many levels to go. `read_service_ends` compares
the two.
-/

namespace BluetoothFramework

open Exits

/-- The typed reads of a parcel: the value and what is left, or no value. `ReadUint64` is
called in the form that returns zero where it finds none. -/
structure ParcelReads (P : Type) where
  readBool : StateT P Option Bool
  readUint8 : StateT P Option UInt8
  readUint16 : StateT P Option UInt16
  readInt32 : StateT P Option Int32
  readUint32 : StateT P Option UInt32
  readUint64 : P → UInt64 × P

/-- The types with a `DepthCounter`. -/
inductive ParcelType where
  | service
  | characteristic
  | descriptor
deriving DecidableEq

/-- How many services an object of the type is. -/
def ParcelType.services : ParcelType → Nat
  | .service => 1
  | .characteristic | .descriptor => 0

namespace DepthCounters

/-- `DepthCounter` -/
def depthCounter (counters : DepthCounters) : ParcelType → Nat
  | .service => counters.service
  | .characteristic => counters.characteristic
  | .descriptor => counters.descriptor

/-- The counters with another value for one type. -/
def set (counters : DepthCounters) (type : ParcelType) (depth : Nat) : DepthCounters :=
  match type with
  | .service => { counters with service := depth }
  | .characteristic => { counters with characteristic := depth }
  | .descriptor => { counters with descriptor := depth }

/-- A counter that was set is the one that is read. -/
@[simp] theorem depthCounter_set (counters : DepthCounters) (type : ParcelType) (depth : Nat) :
    (counters.set type depth).depthCounter type = depth := by
  cases type <;> rfl

/-- Of two settings of one counter the second stands. -/
@[simp] theorem set_set (counters : DepthCounters) (type : ParcelType) (first second : Nat) :
    (counters.set type first).set type second = counters.set type second := by
  cases type <;> rfl

/-- Counting an object counts the services being read. -/
theorem service_set (counters : DepthCounters) (type : ParcelType) :
    (counters.set type (counters.depthCounter type + 1)).service = counters.service +
      type.services := by
  cases type <;> rfl

/-- A counter that is set to what it is stays so. The reader sets it back on its way out. -/
@[simp] theorem set_depthCounter (counters : DepthCounters) (type : ParcelType) :
    counters.set type (counters.depthCounter type) = counters := by
  cases type <;> rfl

end DepthCounters

/-- A thread that reads a parcel: what is left of it, the depth counters, and for the record
the services being read and the most of them so far. -/
structure ReadingThread (P : Type) where
  parcel : P
  depth : DepthCounters
  openServices : Nat
  mostOpen : Nat

namespace ReadingThread

variable {P α : Type}

/-- `ParcelDepthExceeded` -/
def parcelDepthExceeded (type : ParcelType) (thread : ReadingThread P) : Bool :=
  thread.depth.depthCounter type ≥ btParcelMaxNestingDepth

/-- The constructor of `ParcelDepthGuard`. -/
def guardConstructed (type : ParcelType) (thread : ReadingThread P) : ReadingThread P :=
  { thread with
    depth := thread.depth.set type (thread.depth.depthCounter type + 1)
    openServices := thread.openServices + type.services
    mostOpen := max thread.mostOpen (thread.openServices + type.services) }

/-- The destructor of `ParcelDepthGuard`, which does not count below zero. -/
def guardDestroyed (type : ParcelType) (thread : ReadingThread P) : ReadingThread P :=
  { thread with
    depth := if thread.depth.depthCounter type > 0
      then thread.depth.set type (thread.depth.depthCounter type - 1) else thread.depth
    openServices := thread.openServices - type.services }

/-- The first statements of each `ReadFromParcel`: the check, and the guard for the rest. -/
def withDepthGuard (type : ParcelType) (body : Routine (ReadingThread P) α) :
    Routine (ReadingThread P) α := do
  let exceeded ← observe (parcelDepthExceeded type)
  if exceeded then fail else guarded (guardConstructed type) (guardDestroyed type) body

/-- A read from the parcel; where it has no value, the function returns. -/
def read (select : StateT P Option α) : Routine (ReadingThread P) α :=
  attempt fun thread => (select.run thread.parcel).map fun (value, parcel) => (value, { thread with parcel })

variable (reads : ParcelReads P)

/-- `ReadParcelable` with the check for a missing object. -/
def readParcelable (unmarshalling : Routine (ReadingThread P) α) : Routine (ReadingThread P) α := do
  let mark ← read reads.readInt32
  if mark = 0 then fail else unmarshalling

/-- A size, checked against its maximum, and a loop that appends that many elements. -/
def readCounted (maximum : UInt32) (element : Routine (ReadingThread P) α) :
    Routine (ReadingThread P) (List α) := do
  let size ← read reads.readUint32
  if size > maximum then fail
  else times (fun elements => do
    let element ← element
    pure (elements ++ [element])) size.toNat []

/-- `BluetoothUuid::Unmarshalling` -/
def readUuid : Routine (ReadingThread P) Uuid := do
  let mostSigBits ← read fun parcel => some (reads.readUint64 parcel)
  let leastSigBits ← read fun parcel => some (reads.readUint64 parcel)
  pure (Uuid.convertFromMostAndLeastBit mostSigBits leastSigBits)

/-- `BluetoothGattDescriptor::ReadFromParcel` -/
def readDescriptor : Routine (ReadingThread P) Descriptor :=
  withDepthGuard .descriptor do
    let handle ← read reads.readUint16
    let permissions ← read reads.readInt32
    let value ← readCounted reads gattDescriptorParcelSizeMax (read reads.readUint8)
    let uuid ← readParcelable reads (readUuid reads)
    pure { handle, permissions, value, uuid }

/-- `BluetoothGattCharacteristic::ReadFromParcel`, which copies each descriptor into its vector. -/
def readCharacteristic : Routine (ReadingThread P) Characteristic :=
  withDepthGuard .characteristic do
    let handle ← read reads.readUint16
    let endHandle ← read reads.readUint16
    let valueHandle ← read reads.readUint16
    let properties ← read reads.readInt32
    let permissions ← read reads.readInt32
    let value ← readCounted reads gattCharacteristicParcelSizeMax (read reads.readUint8)
    let uuid ← readParcelable reads (readUuid reads)
    let descriptors ← readCounted reads gattCharacteristicParcelSizeMax do
      let descriptor ← readParcelable reads (readDescriptor reads)
      pure descriptor.copy
    pure { handle, endHandle, valueHandle, properties, permissions, value, uuid, descriptors }

/-- `BluetoothGattService::ReadFromParcel`, with fuel for the services nested in it. -/
def readService : Nat → Routine (ReadingThread P) Service
  | 0 => exhausted
  | fuel + 1 => withDepthGuard .service do
      let isPrimary ← read reads.readBool
      let handle ← read reads.readUint16
      let startHandle ← read reads.readUint16
      let endHandle ← read reads.readUint16
      let uuid ← readParcelable reads (readUuid reads)
      let includeServices ← readCounted reads gattServiceParcelSizeMax do
        let service ← readParcelable reads (readService fuel)
        pure service.copy
      let characteristics ← readCounted reads gattServiceParcelSizeMax do
        let characteristic ← readParcelable reads (readCharacteristic reads)
        pure characteristic.copy
      pure { isPrimary, handle, startHandle, endHandle, uuid, includeServices, characteristics }

/-- A thread about to read the parcel, inside as many services as its counter says. -/
def start (parcel : P) (depth : DepthCounters) : ReadingThread P :=
  ⟨parcel, depth, depth.service, depth.service⟩

end ReadingThread

/-! ## Readable content -/

namespace Content

variable {P α : Type} (reads : ParcelReads P)

/-- An object behind a mark. -/
def parcelable (object : StateT P Option α) : StateT P Option α := do
  let mark ← reads.readInt32
  if mark = 0 then failure else object

/-- At most so many elements behind their number. -/
def counted (maximum : UInt32) (element : StateT P Option α) : StateT P Option (List α) := do
  let size ← reads.readUint32
  if size > maximum then failure
  else times (fun elements => do
    let element ← element
    pure (elements ++ [element])) size.toNat []

/-- A UUID in two words. -/
def uuid : StateT P Option Uuid := do
  let mostSigBits ← (fun parcel => some (reads.readUint64 parcel) : StateT P Option UInt64)
  let leastSigBits ← (fun parcel => some (reads.readUint64 parcel) : StateT P Option UInt64)
  pure (Uuid.convertFromMostAndLeastBit mostSigBits leastSigBits)

/-- A descriptor. -/
def descriptor : StateT P Option Descriptor := do
  let handle ← reads.readUint16
  let permissions ← reads.readInt32
  let value ← counted reads gattDescriptorParcelSizeMax reads.readUint8
  let uuid ← parcelable reads (uuid reads)
  pure { handle, permissions, value, uuid }

/-- A characteristic with descriptors of the given form. -/
def characteristic (descriptor : StateT P Option Descriptor) : StateT P Option Characteristic := do
  let handle ← reads.readUint16
  let endHandle ← reads.readUint16
  let valueHandle ← reads.readUint16
  let properties ← reads.readInt32
  let permissions ← reads.readInt32
  let value ← counted reads gattCharacteristicParcelSizeMax reads.readUint8
  let uuid ← parcelable reads (uuid reads)
  let descriptors ← counted reads gattCharacteristicParcelSizeMax do
    let descriptor ← parcelable reads descriptor
    pure descriptor.copy
  pure { handle, endHandle, valueHandle, properties, permissions, value, uuid, descriptors }

/-- A service of at most so many levels, with characteristics of the given form. -/
def service (characteristic : StateT P Option Characteristic) : Nat → StateT P Option Service
  | 0 => failure
  | levels + 1 => do
      let isPrimary ← reads.readBool
      let handle ← reads.readUint16
      let startHandle ← reads.readUint16
      let endHandle ← reads.readUint16
      let uuid ← parcelable reads (uuid reads)
      let includeServices ← counted reads gattServiceParcelSizeMax do
        let included ← parcelable reads (service characteristic levels)
        pure included.copy
      let characteristics ← counted reads gattServiceParcelSizeMax do
        let characteristic ← parcelable reads characteristic
        pure characteristic.copy
      pure { isPrimary, handle, startHandle, endHandle, uuid, includeServices, characteristics }

end Content

namespace ReadingThread

open Content

variable {P α : Type} (reads : ParcelReads P)

/-- The thread's counters have these values, the services being read are counted, and there
were never too many. -/
structure At (counters : DepthCounters) (thread : ReadingThread P) : Prop where
  depth : thread.depth = counters
  counted : thread.openServices = counters.service
  recorded : thread.openServices ≤ thread.mostOpen
  bounded : thread.mostOpen ≤ btParcelMaxNestingDepth

/-- The routine reads this content and leaves the counters as they are. -/
abbrev Reads (counters : DepthCounters) (routine : Routine (ReadingThread P) α)
    (content : StateT P Option α) : Prop :=
  Follows parcel (At counters) routine content

variable {counters : DepthCounters}

/-- A single read does not look at the counters. -/
theorem read_reads (select : StateT P Option α) : Reads counters (read select) select := by
  apply Follows.attempt
  intro thread kept
  cases selected : select.run thread.parcel with
  | none => exact .inl ⟨rfl, selected⟩
  | some result =>
    exact .inr ⟨result.1, _, rfl, selected, kept.depth, kept.counted, kept.recorded, kept.bounded⟩

/-- A parcelable is read as its content is: the frame adds the check of the null mark only. -/
theorem readParcelable_reads {unmarshalling : Routine (ReadingThread P) α}
    {object : StateT P Option α} (inside : Reads counters unmarshalling object) :
    Reads counters (readParcelable reads unmarshalling) (parcelable reads object) := by
  apply Follows.bind (read_reads _)
  intro mark
  exact Follows.check fun _ => inside

/-- A counted list is read as its elements are. The induction is on the number that was written,
and each element leaves the counters as it found them. -/
theorem readCounted_reads (maximum : UInt32) {element : Routine (ReadingThread P) α}
    {content : StateT P Option α} (each : Reads counters element content) :
    Reads counters (readCounted reads maximum element) (Content.counted reads maximum content) := by
  apply Follows.bind (read_reads _)
  intro size
  apply Follows.check
  intro _
  apply Follows.times
  intro elements
  apply Follows.bind each
  intro element
  exact Follows.pure _

/-- A UUID holds no parcelable, so its reader leaves the counters. -/
theorem readUuid_reads : Reads counters (readUuid reads) (uuid reads) := by
  apply Follows.bind (read_reads _)
  intro mostSigBits
  apply Follows.bind (read_reads _)
  intro leastSigBits
  exact Follows.pure _

/-- The guard of an object counts it for as long as its body runs and no longer. The counter is
set back on the way out, whether the body succeeds or fails. -/
theorem withDepthGuard_reads (type : ParcelType) {body : Routine (ReadingThread P) α}
    {content : StateT P Option α} (room : counters.depthCounter type < btParcelMaxNestingDepth)
    (inside : Reads (counters.set type (counters.depthCounter type + 1)) body content) :
    Reads counters (withDepthGuard type body) content := by
  have scope : Reads counters (guarded (guardConstructed type) (guardDestroyed type) body) content := by
    refine Follows.guarded ?_ ?_ (fun _ => rfl) (fun _ => rfl) inside
    · intro thread kept
      have below : thread.openServices + type.services ≤ btParcelMaxNestingDepth := by
        cases type with
        | service => exact kept.counted ▸ room
        | characteristic | descriptor => exact Nat.le_trans kept.recorded kept.bounded
      refine ⟨?_, ?_, Nat.le_max_right _ _, Nat.max_le.mpr ⟨kept.bounded, below⟩⟩
      · rw [guardConstructed, kept.depth]
      · rw [guardConstructed, kept.counted, counters.service_set type]
    · intro thread kept
      have closed : (guardDestroyed type thread).openServices ≤ thread.openServices := Nat.sub_le _ _
      refine ⟨?_, ?_, Nat.le_trans closed kept.recorded, kept.bounded⟩
      · simp [guardDestroyed, kept.depth]
      · change thread.openServices - type.services = counters.service
        rw [kept.counted, counters.service_set type]
        exact Nat.add_sub_cancel _ _
  intro thread kept
  have passes : parcelDepthExceeded type thread = false := by
    rw [parcelDepthExceeded, kept.depth]
    exact decide_eq_false (Nat.not_le_of_lt room)
  change Matches parcel (At counters) ((if parcelDepthExceeded type thread then fail else
    guarded (guardConstructed type) (guardDestroyed type) body) thread) _
  rw [passes, if_neg Bool.false_ne_true]
  exact scope thread kept

/-- An object too deep for its type is refused. -/
theorem withDepthGuard_refuses (type : ParcelType) (body : Routine (ReadingThread P) α)
    (full : btParcelMaxNestingDepth ≤ counters.depthCounter type) :
    Reads counters (withDepthGuard type body) failure := by
  intro thread kept
  have exceeded : parcelDepthExceeded type thread = true := by
    rw [parcelDepthExceeded, kept.depth]
    exact decide_eq_true full
  change Matches parcel (At counters) ((if parcelDepthExceeded type thread then fail else
    guarded (guardConstructed type) (guardDestroyed type) body) thread) _
  rw [exceeded, if_pos rfl]
  exact .failed thread kept

/-- The content of a descriptor for a thread with these counters. -/
def descriptorContent (counters : DepthCounters) : StateT P Option Descriptor :=
  if btParcelMaxNestingDepth ≤ counters.descriptor then failure else descriptor reads

/-- The content of a characteristic for a thread with these counters. -/
def characteristicContent (counters : DepthCounters) : StateT P Option Characteristic :=
  if btParcelMaxNestingDepth ≤ counters.characteristic then failure
  else characteristic reads (descriptorContent reads counters)

/-- A descriptor is read as its content is, provided that its counter has room, and the counter
is back afterwards. -/
theorem readDescriptor_reads :
    Reads counters (readDescriptor reads) (descriptorContent reads counters) := by
  rw [descriptorContent]
  split
  · rename_i full
    exact withDepthGuard_refuses .descriptor _ full
  · rename_i room
    apply withDepthGuard_reads .descriptor (Nat.lt_of_not_le room)
    apply Follows.bind (read_reads _)
    intro handle
    apply Follows.bind (read_reads _)
    intro permissions
    apply Follows.bind (readCounted_reads reads _ (read_reads _))
    intro value
    apply Follows.bind (readParcelable_reads reads (readUuid_reads reads))
    intro uuid
    exact Follows.pure _

/-- A characteristic is read as its content is. Its descriptors count for themselves, each type
having a counter of its own. -/
theorem readCharacteristic_reads :
    Reads counters (readCharacteristic reads) (characteristicContent reads counters) := by
  rw [characteristicContent]
  split
  · rename_i full
    exact withDepthGuard_refuses .characteristic _ full
  · rename_i room
    have des : Reads (counters.set .characteristic (counters.characteristic + 1)) (readDescriptor reads)
        (descriptorContent reads counters) := readDescriptor_reads reads
    apply withDepthGuard_reads .characteristic (Nat.lt_of_not_le room)
    apply Follows.bind (read_reads _)
    intro handle
    apply Follows.bind (read_reads _)
    intro endHandle
    apply Follows.bind (read_reads _)
    intro valueHandle
    apply Follows.bind (read_reads _)
    intro properties
    apply Follows.bind (read_reads _)
    intro permissions
    apply Follows.bind (readCounted_reads reads _ (read_reads _))
    intro value
    apply Follows.bind (readParcelable_reads reads (readUuid_reads reads))
    intro uuid
    apply Follows.bind
    · apply readCounted_reads
      apply Follows.bind (readParcelable_reads reads des)
      intro descriptor
      exact Follows.pure _
    · intro descriptors
      exact Follows.pure _

/-- A service is read as one with the levels that its counter leaves, by induction on the
fuel; nesting spends one level and one unit of fuel. -/
theorem readService_reads (fuel : Nat)
    (enough : btParcelMaxNestingDepth - counters.service < fuel) :
    Reads counters (readService reads fuel)
      (service reads (characteristicContent reads counters) (btParcelMaxNestingDepth - counters.service)) := by
  induction fuel generalizing counters with
  | zero => exact absurd enough (Nat.not_lt_zero _)
  | succ fuel inductionHypothesis =>
    rw [readService]
    cases levels : btParcelMaxNestingDepth - counters.service with
    | zero => exact withDepthGuard_refuses .service _ (Nat.le_of_sub_eq_zero levels)
    | succ fewer =>
      have room : counters.service < btParcelMaxNestingDepth := by omega
      have next : btParcelMaxNestingDepth - (counters.set .service (counters.service + 1)).service =
          fewer := by
        change btParcelMaxNestingDepth - (counters.service + 1) = fewer
        omega
      have nested := @inductionHypothesis (counters.set .service (counters.service + 1)) (by omega)
      rw [next] at nested
      apply withDepthGuard_reads .service room
      apply Follows.bind (read_reads _)
      intro isPrimary
      apply Follows.bind (read_reads _)
      intro handle
      apply Follows.bind (read_reads _)
      intro startHandle
      apply Follows.bind (read_reads _)
      intro endHandle
      apply Follows.bind (readParcelable_reads reads (readUuid_reads reads))
      intro uuid
      apply Follows.bind
      · apply readCounted_reads
        apply Follows.bind (readParcelable_reads reads nested)
        intro included
        exact Follows.pure _
      · intro includeServices
        apply Follows.bind
        · apply readCounted_reads
          apply Follows.bind (readParcelable_reads reads (readCharacteristic_reads reads))
          intro characteristic
          exact Follows.pure _
        · intro characteristics
          exact Follows.pure _

/-- The guards of the other two types refuse nothing to a thread that is not inside so many
of their objects, and between two services a thread is in none. -/
theorem characteristicContent_eq {depth : DepthCounters}
    (room : depth.characteristic < btParcelMaxNestingDepth)
    (roomDescriptor : depth.descriptor < btParcelMaxNestingDepth) :
    characteristicContent reads depth = characteristic reads (descriptor reads) := by
  rw [characteristicContent, if_neg (Nat.not_le_of_lt room), descriptorContent,
    if_neg (Nat.not_le_of_lt roomDescriptor)]

/-- **Reading a service is bounded in depth and restores the counters.** Whatever the parcel
holds, a thread whose counter of services is at most the limit ends with all three counters
as they were and has never had more services open than the limit. It fails exactly where
the parcel holds no service of the levels left: a nested service goes deeper, or a read or
a size check fails. The counters of the other two types play no part in that unless they
are at the limit already. -/
theorem read_service_ends (parcel : P) (depth : DepthCounters)
    (within : depth.service ≤ btParcelMaxNestingDepth)
    (fuel : Nat) (enough : btParcelMaxNestingDepth - depth.service < fuel) :
    ∃ last : ReadingThread P, last.depth = depth ∧ last.mostOpen ≤ btParcelMaxNestingDepth ∧
      (readService reads fuel (start parcel depth) = .failed last ∨
        ∃ value, readService reads fuel (start parcel depth) = .returned value last) ∧
      (readService reads fuel (start parcel depth) = .failed last ↔
        (service reads (characteristicContent reads depth)
          (btParcelMaxNestingDepth - depth.service)).run parcel = none) ∧
      (depth.characteristic < btParcelMaxNestingDepth → depth.descriptor < btParcelMaxNestingDepth →
        characteristicContent reads depth = characteristic reads (descriptor reads)) := by
  have started : At depth (start parcel depth) := ⟨rfl, rfl, Nat.le_refl _, within⟩
  obtain ⟨last, kept, ended⟩ := (readService_reads reads fuel enough).ends started
  refine ⟨last, kept.depth, kept.bounded, ?_, ?_, characteristicContent_eq reads⟩
  · rcases ended with ⟨failed, _⟩ | ⟨value, returned, _⟩
    · exact .inl failed
    · exact .inr ⟨value, returned⟩
  · rcases ended with ⟨failed, none⟩ | ⟨value, returned, some⟩
    · exact iff_of_true failed none
    · refine iff_of_false ?_ ?_
      · intro failed
        rw [returned] at failed
        cases failed
      · intro none
        have both := some.symm.trans none
        cases both

end ReadingThread

/-! ## Parcels of typed items -/

namespace Content

open Fifo Parcel

/-- The reads of a parcel that is a queue of typed items. -/
def typed : ParcelReads (List ParcelItem) where
  readBool := Parcel.readBool
  readUint8 := Parcel.readUint8
  readUint16 := Parcel.readUint16
  readInt32 := Parcel.readInt32
  readUint32 := Parcel.readUint32
  readUint64
    | .uint64 value :: rest => (value, rest)
    | items => (0, items)

/-- The two ways to repeat a reader agree. -/
theorem times_eq_iterate {τ : Type} (body : τ → ParcelReader τ) (count : Nat) (value : τ) :
    times body count value = iterate body count value := by
  induction count generalizing value with
  | zero => rfl
  | succ count inductionHypothesis =>
    rw [times, iterate]
    exact congrArg (body value >>= ·) (funext inductionHypothesis)

/-- A counted list of typed reads is the one of the parser of the round trip. -/
theorem counted_typed {α : Type} (maximum : UInt32) (element : ParcelReader α) :
    counted typed maximum element = readCounted maximum (pushBack element) [] := by
  simp only [counted, readCounted, times_eq_iterate]
  rfl

/-- A UUID of typed reads is the one of the parser of the round trip. -/
theorem uuid_typed : uuid typed = Uuid.unmarshalling := by
  have word : (fun parcel => some (typed.readUint64 parcel) : ParcelReader UInt64) = readUint64 := by
    funext items
    match items with
    | [] => rfl
    | item :: rest => cases item <;> rfl
  rw [uuid, word]
  rfl

/-- A descriptor of typed reads is the one of the parser of the round trip, as long as its
counter has room. -/
theorem descriptor_typed {depth : DepthCounters}
    (room : depth.descriptor < btParcelMaxNestingDepth) :
    descriptor typed = Descriptor.readFromParcel depth := by
  rw [Descriptor.readFromParcel, if_neg (Nat.not_le_of_lt room), descriptor, counted_typed, uuid_typed]
  rfl

/-- A characteristic of typed reads is the one of the parser of the round trip, as long as both
counters have room. -/
theorem characteristic_typed {depth : DepthCounters}
    (room : depth.characteristic < btParcelMaxNestingDepth)
    (roomDescriptor : depth.descriptor < btParcelMaxNestingDepth) :
    characteristic typed (descriptor typed) = Characteristic.readFromParcel depth := by
  have des : descriptor typed =
      Descriptor.readFromParcel { depth with characteristic := depth.characteristic + 1 } :=
    descriptor_typed roomDescriptor
  rw [Characteristic.readFromParcel, if_neg (Nat.not_le_of_lt room), characteristic, des]
  simp only [counted_typed, uuid_typed]
  rfl

/-- On typed items the levels left are what a reader counts that is told its depth. This connects
the reader with counters to the one of the round trip. -/
theorem service_typed (levels : Nat) (depth : DepthCounters)
    (left : levels = btParcelMaxNestingDepth - depth.service)
    (room : depth.characteristic < btParcelMaxNestingDepth)
    (roomDescriptor : depth.descriptor < btParcelMaxNestingDepth) :
    service typed (characteristic typed (descriptor typed)) levels =
      Service.readFromParcel depth := by
  induction levels generalizing depth with
  | zero =>
    rw [Service.readFromParcel, dif_pos (Nat.le_of_sub_eq_zero left.symm)]
    rfl
  | succ levels inductionHypothesis =>
    have deeper : ¬ depth.service ≥ btParcelMaxNestingDepth := by omega
    have fewer : levels = btParcelMaxNestingDepth - (depth.service + 1) := by omega
    have nested := inductionHypothesis { depth with service := depth.service + 1 } fewer room roomDescriptor
    have character : characteristic typed (descriptor typed) =
        Characteristic.readFromParcel { depth with service := depth.service + 1 } :=
      characteristic_typed room roomDescriptor
    rw [Service.readFromParcel, dif_neg deeper, service, nested, character]
    simp only [counted_typed, uuid_typed]
    rfl

end Content

namespace ReadingThread

open Content

/-- The items of a service with so many services in it, one inside the other. -/
def nested : Nat → List ParcelItem
  | 0 => [.bool true, .uint16 1, .uint16 1, .uint16 9, .int32 1, .uint64 0, .uint64 0, .uint32 0, .uint32 0]
  | levels + 1 =>
      [.bool true, .uint16 1, .uint16 1, .uint16 9, .int32 1, .uint64 0, .uint64 0, .uint32 1, .int32 1] ++
        nested levels ++ [.uint32 0]

/-- A thread that is inside of thirty services already reads one more with one in it, refuses
one with two levels in it, and ends with its counters as they were either way. -/
theorem read_service_ends_nested :
    (∃ last : ReadingThread (List ParcelItem), last.depth = { service := 30 } ∧
      last.mostOpen ≤ btParcelMaxNestingDepth ∧
      ∃ value, readService typed 3 (start (nested 1) { service := 30 }) = .returned value last) ∧
    ∃ last : ReadingThread (List ParcelItem), last.depth = { service := 30 } ∧
      last.mostOpen ≤ btParcelMaxNestingDepth ∧
      readService typed 3 (start (nested 2) { service := 30 }) = .failed last := by
  constructor
  · obtain ⟨last, depth, bounded, ends, exactly, _⟩ :=
      read_service_ends typed (nested 1) { service := 30 } (by decide) 3 (by decide)
    refine ⟨last, depth, bounded, ends.resolve_left fun failed => ?_⟩
    have refused := congrArg Option.isSome (exactly.mp failed)
    cases refused
  · obtain ⟨last, depth, bounded, _, exactly, _⟩ :=
      read_service_ends typed (nested 2) { service := 30 } (by decide) 3 (by decide)
    exact ⟨last, depth, bounded, exactly.mpr rfl⟩

end ReadingThread
end BluetoothFramework
