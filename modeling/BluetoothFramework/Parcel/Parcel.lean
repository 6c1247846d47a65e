import BluetoothFramework.Common.Types
import BluetoothFramework.Library.Fifo

/-!
# Parcels

A `Parcel` as a queue of typed items: a read returns the value of the oldest item if that
has the type asked for, and a write always succeeds. Nothing in a parcel says which field
an item belongs to, so a writer and a reader have to agree on order and type.
-/

namespace BluetoothFramework

/-- One value written to a parcel. -/
inductive ParcelItem where
  | bool (value : Bool)
  | int8 (value : Int8)
  | uint8 (value : UInt8)
  | uint16 (value : UInt16)
  | int32 (value : Int32)
  | uint32 (value : UInt32)
  | uint64 (value : UInt64)
  | string (value : ByteString)
  | buffer (value : List UInt8)
deriving DecidableEq

/-- What reads from a parcel; a failed read fails the whole. -/
abbrev ParcelReader (α : Type) : Type :=
  Fifo.Reader ParcelItem α

namespace Parcel

open Fifo

/-- `ReadBool` -/
def readBool : ParcelReader Bool :=
  Fifo.take fun | .bool value => some value | _ => none

/-- `ReadInt8` -/
def readInt8 : ParcelReader Int8 :=
  Fifo.take fun | .int8 value => some value | _ => none

/-- `ReadUint8` -/
def readUint8 : ParcelReader UInt8 :=
  Fifo.take fun | .uint8 value => some value | _ => none

/-- `ReadUint16` -/
def readUint16 : ParcelReader UInt16 :=
  Fifo.take fun | .uint16 value => some value | _ => none

/-- `ReadInt32` -/
def readInt32 : ParcelReader Int32 :=
  Fifo.take fun | .int32 value => some value | _ => none

/-- `ReadUint32` -/
def readUint32 : ParcelReader UInt32 :=
  Fifo.take fun | .uint32 value => some value | _ => none

/-- `ReadUint64` without a result to check: the value is zero when none can be read. -/
def readUint64 : ParcelReader UInt64
  | .uint64 value :: rest => some (value, rest)
  | items => some (0, items)

/-- `ReadString` -/
def readString : ParcelReader ByteString :=
  Fifo.take fun | .string value => some value | _ => none

/-- `ReadBuffer` of the given size. -/
def readBuffer (size : Nat) : ParcelReader (Vector UInt8 size) :=
  Fifo.take fun
    | .buffer value => if length : value.length = size then some ⟨value.toArray, by simpa⟩ else none
    | _ => none

/-- A boolean that was written is read back. So are the other types below, each by its own
reader. -/
theorem reads_bool (value : Bool) : Reads readBool [.bool value] value :=
  .take _ _ _ rfl

/-- A signed byte is read back. -/
theorem reads_int8 (value : Int8) : Reads readInt8 [.int8 value] value :=
  .take _ _ _ rfl

/-- A byte is read back. -/
theorem reads_uint8 (value : UInt8) : Reads readUint8 [.uint8 value] value :=
  .take _ _ _ rfl

/-- A number of sixteen bits is read back. -/
theorem reads_uint16 (value : UInt16) : Reads readUint16 [.uint16 value] value :=
  .take _ _ _ rfl

/-- A signed number of 32 bits is read back. -/
theorem reads_int32 (value : Int32) : Reads readInt32 [.int32 value] value :=
  .take _ _ _ rfl

/-- A number of 32 bits is read back. -/
theorem reads_uint32 (value : UInt32) : Reads readUint32 [.uint32 value] value :=
  .take _ _ _ rfl

/-- A number of 64 bits is read back. -/
theorem reads_uint64 (value : UInt64) : Reads readUint64 [.uint64 value] value :=
  fun _ => rfl

/-- A string is read back. -/
theorem reads_string (value : ByteString) : Reads readString [.string value] value :=
  .take _ _ _ rfl

/-- A buffer is read back by a reader that knows its size. -/
theorem reads_buffer {size : Nat} (value : Vector UInt8 size) :
    Reads (readBuffer size) [.buffer value.toList] value := by
  apply Reads.take
  simp [Vector.toList]

/-- Write a container: its size as an `int32_t`, then its elements. -/
def writeSized {α : Type} (write : α → List ParcelItem) (elements : List α) : List ParcelItem :=
  .int32 (Int32.ofNat elements.length) :: elements.flatMap write

/-- Read a container into a state: refuse a size above the limit, then read that many
elements. A negative size passes the comparison and reads none. -/
def readSized {σ : Type} (limit : Int32) (body : σ → ParcelReader σ) (state : σ) :
    ParcelReader σ := do
  let size ← readInt32
  if size > limit then failure else iterate body size.toInt.toNat state

/-- A container within the limit is read back element by element. The state is whatever the
reader collects in, so lists and maps are both cases of it. -/
theorem reads_sized {α σ : Type} (limit : Int32) {body : σ → ParcelReader σ}
    (write : α → List ParcelItem) (add : σ → α → σ) (elements : List α) (state : σ)
    (bounded : elements.length ≤ limit.toInt)
    (each : ∀ state, ∀ element ∈ elements, Reads (body state) (write element) (add state element)) :
    Reads (readSized limit body state) (writeSized write elements) (elements.foldl add state) := by
  have small : elements.length < 2 ^ 31 := by
    have top := limit.toInt_lt
    omega
  have size : (Int32.ofNat elements.length).toInt = elements.length := Int32.toInt_ofNat_of_lt small
  have passes : ¬ Int32.ofNat elements.length > limit := by
    rw [gt_iff_lt, Int32.lt_iff_toInt_lt, size]
    omega
  apply Reads.next (reads_int32 _)
  apply Reads.unless passes
  rw [size]
  exact Reads.iterate write add elements state each

/-- Write a container whose size is an `uint32_t`, then its elements. -/
def writeCounted {α : Type} (write : α → List ParcelItem) (elements : List α) : List ParcelItem :=
  .uint32 (UInt32.ofNat elements.length) :: elements.flatMap write

/-- Read a container whose size is an `uint32_t`, refusing a size above the limit. -/
def readCounted {σ : Type} (limit : UInt32) (body : σ → ParcelReader σ) (state : σ) :
    ParcelReader σ := do
  let size ← readUint32
  if size > limit then failure else iterate body size.toNat state

/-- A counted container within the limit is read back element by element. -/
theorem reads_counted {α σ : Type} (limit : UInt32) {body : σ → ParcelReader σ}
    (write : α → List ParcelItem) (add : σ → α → σ) (elements : List α) (state : σ)
    (bounded : elements.length ≤ limit.toNat)
    (each : ∀ state, ∀ element ∈ elements, Reads (body state) (write element) (add state element)) :
    Reads (readCounted limit body state) (writeCounted write elements) (elements.foldl add state) := by
  have size : (UInt32.ofNat elements.length).toNat = elements.length := by
    apply UInt32.toNat_ofNat_of_lt'
    exact Nat.lt_of_le_of_lt bounded limit.toNat_lt
  have passes : ¬ UInt32.ofNat elements.length > limit := by
    rw [gt_iff_lt, UInt32.lt_iff_toNat_lt, size]
    omega
  apply Reads.next (reads_uint32 _)
  apply Reads.unless passes
  rw [size]
  exact Reads.iterate write add elements state each

/-- Read one element and `push_back` it. -/
def pushBack {α : Type} (read : ParcelReader α) (elements : List α) : ParcelReader (List α) := do
  let element ← read
  pure (elements ++ [element])

/-- To push the elements back one by one appends them all, in their order. -/
theorem foldl_pushBack {α β : Type} (result : α → β) (elements : List α) (read : List β) :
    elements.foldl (fun read element => read ++ [result element]) read =
      read ++ elements.map result := by
  induction elements generalizing read with
  | nil => simp
  | cons element rest inductionHypothesis =>
    rw [List.foldl_cons, inductionHypothesis, List.append_assoc, List.map_cons, List.singleton_append]

/-- A counted list within the limit is read as the list of what is read for each element. -/
theorem reads_list {α β : Type} (limit : UInt32) {read : ParcelReader β}
    (write : α → List ParcelItem) (result : α → β) (elements : List α)
    (bounded : elements.length ≤ limit.toNat)
    (each : ∀ element ∈ elements, Reads read (write element) (result element)) :
    Reads (readCounted limit (pushBack read) []) (writeCounted write elements)
      (elements.map result) := by
  have folded := foldl_pushBack result elements []
  rw [List.nil_append] at folded
  rw [← folded]
  apply reads_counted limit write _ elements [] bounded
  intro earlier element member
  rw [← List.append_nil (write element)]
  apply Reads.bind (each element member)
  exact Reads.pure _

/-- `WriteParcelable` of an object that exists: a mark, then what it marshals. -/
def writeParcelable (marshalled : List ParcelItem) : List ParcelItem :=
  .int32 1 :: marshalled

/-- `ReadParcelable`: no object where the mark is zero or missing. Every caller of it takes
a missing object for a failed read. -/
def readParcelable {α : Type} (unmarshalling : ParcelReader α) : ParcelReader α := do
  let mark ← readInt32
  if mark = 0 then failure else unmarshalling

/-- A parcelable that was written is read back as its content is. -/
theorem reads_parcelable {α : Type} {unmarshalling : ParcelReader α} {marshalled : List ParcelItem}
    {value : α} (reads : Reads unmarshalling marshalled value) :
    Reads (readParcelable unmarshalling) (writeParcelable marshalled) value := by
  apply Reads.next (reads_int32 1)
  apply Reads.unless (by decide)
  exact reads

end Parcel
end BluetoothFramework
