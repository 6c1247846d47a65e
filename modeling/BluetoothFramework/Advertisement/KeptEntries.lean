import BluetoothFramework.Advertisement.Announced
import BluetoothFramework.Advertisement.ParseBounds
import Mathlib.Data.List.DropRight

/-!
# What more structures leave of the earlier ones

A payload that consists of complete AD structures is parsed, and so is the same payload
with anything behind it. Every structure only adds to the service UUIDs, the service data
and the advertising data, and sets its flag; one with manufacturer data adds to the map as
well, unless its data has at most two bytes: then it clears the map and its flag.

`parse_append_kept_iff` says when the entries and flags of the shorter payload survive:
exactly if nothing behind it clears, or what stands behind the last clearing structure
announces the same data for every identifier that had some.

Flags, TX power and appearance are loaded whatever the length of their structure, so their
values may come from behind the packet. They are left out where two parses are compared.
-/

namespace BluetoothFramework.BlePeripheralDevice

open Loads

/-- The device without the values that are loaded without a look at the length, and
without the place of its packet. -/
def unmeasured (device : BlePeripheralDevice) : BlePeripheralDevice :=
  { device with adFlag := 0, appearance := 0, txPower := 0, payload := none, payloadLen := 0 }

/-- Entries and flags that no structure takes back. -/
structure KeptOthers (before after : BlePeripheralDevice) : Prop where
  serviceData : before.serviceDataUUIDs.zip before.serviceData <+:
    after.serviceDataUUIDs.zip after.serviceData
  serviceUUIDs : before.serviceUUIDs <+: after.serviceUUIDs
  advertisingData : ∀ advType entry, before.advertisingData.find advType = some entry →
    after.advertisingData.find advType = some entry
  isServiceData : before.isServiceData = true → after.isServiceData = true
  isServiceUUID : before.isServiceUUID = true → after.isServiceUUID = true
  isName : before.isName = true → after.isName = true
  isTXPower : before.isTXPower = true → after.isTXPower = true

/-- All entries are there with their values, and all flags are still set. -/
structure Kept (before after : BlePeripheralDevice) : Prop extends KeptOthers before after where
  manufacturerData : ∀ manufacturerId entry, before.manufacturerData.find manufacturerId = some entry →
    after.manufacturerData.find manufacturerId = some entry
  isManufacturerData : before.isManufacturerData = true → after.isManufacturerData = true

/-- Manufacturer data of at most two bytes: an identifier and nothing behind it, or less. -/
def Clears (frame : Frames.Frame) : Prop :=
  adKind frame.1 = .manufacturer ∧ frame.2.length ≤ 2

instance (frame : Frames.Frame) : Decidable (Clears frame) :=
  inferInstanceAs (Decidable (_ ∧ _))

/-- The structures behind the last one that clears. -/
def behindClears (frames : List Frames.Frame) : List Frames.Frame :=
  frames.rtakeWhile (fun frame => ¬ Clears frame)

/-- The data announced for a manufacturer: the first behind the last clearing structure. -/
def announced (frames : List Frames.Frame) (manufacturerId : UInt16) :
    Option (UInt16 × ByteString) :=
  (contents (behindClears frames)).manufacturers.find? fun entry => entry.1 = manufacturerId

/-- Nothing of the payload clears, or it announces again what the earlier one announced. -/
def KeepsAnnounced (earlier later : List Frames.Frame) : Prop :=
  (∀ frame ∈ later, ¬ Clears frame) ∨
    ∀ manufacturerId, (announced earlier manufacturerId).isSome →
      announced later manufacturerId = announced earlier manufacturerId

/-! ## What the parser computes, short structures included -/

/-- What a device keeps and what it does with a structure do not depend on such values. -/
theorem unmeasured_receive (device : BlePeripheralDevice) (frame : Frames.Frame) :
    (device.receive frame).unmeasured = (device.unmeasured.receive frame).unmeasured := by
  rw [receive_eq, receive_eq]
  rfl

/-- What is received does not depend on the RSSI and the payload that were there before. Equal
devices without them stay equal under the same structures. -/
theorem unmeasured_receiveAll {device other : BlePeripheralDevice} (frames : List Frames.Frame)
    (same : device.unmeasured = other.unmeasured) :
    (frames.foldl receive device).unmeasured = (frames.foldl receive other).unmeasured := by
  induction frames generalizing device other with
  | nil => exact same
  | cons frame rest inductionHypothesis =>
    apply inductionHypothesis
    rw [unmeasured_receive device, same, ← unmeasured_receive other]

/-- What is measured, rather than received, plays no part in what is kept. -/
theorem kept_unmeasured_iff (before after : BlePeripheralDevice) :
    Kept before.unmeasured after.unmeasured ↔ Kept before after := by
  constructor
  · intro kept
    exact ⟨⟨kept.serviceData, kept.serviceUUIDs, kept.advertisingData, kept.isServiceData, kept.isServiceUUID,
      kept.isName, kept.isTXPower⟩, kept.manufacturerData, kept.isManufacturerData⟩
  · intro kept
    exact ⟨⟨kept.serviceData, kept.serviceUUIDs, kept.advertisingData, kept.isServiceData, kept.isServiceUUID,
      kept.isName, kept.isTXPower⟩, kept.manufacturerData, kept.isManufacturerData⟩

variable {memory : Nat → UInt8}

/-- A structure in memory has its effect but for the value of a fixed size. -/
theorem unmeasured_build (advType : UInt8) (payload : Nat) (data : ByteString)
    (stored : Stored memory payload data) (self : BlePeripheralDevice) :
    (value (buildAdvertiserData advType ⟨payload, data.length⟩ self) memory).unmeasured =
      (self.receive (advType, data)).unmeasured := by
  by_cases enough : needed (adKind advType) ≤ data.length
  · rw [value_build advType payload data stored enough self]
  · have copied := value_loadMany (BlePeripheralDeviceParseAdvData.range ⟨payload, data.length⟩) payload
      data stored
    rw [buildAdvertiserData, receive]
    simp only [value_bind, copied]
    -- only the three kinds that load a value of fixed size need any bytes
    cases kind : adKind advType with
    | txPower | appearance | flag => rfl
    | _ => exact absurd (Nat.zero_le _) (kind ▸ enough)

/-- The call finishes, and the device has received the complete structures of the packet. The
place of the packet is left out, and so are the values that are loaded without a look at the
length. -/
theorem parse_unmeasured (packet : ByteString) (behind : Nat → UInt8)
    (device : BlePeripheralDevice) :
    ∃ parsed, value (parse packet device) (placed packet behind) = some parsed ∧
      parsed.unmeasured = ((Frames.decode packet).foldl receive device).unmeasured := by
  cases packet with
  | nil => exact ⟨_, value_parse_nil _ device, rfl⟩
  | cons length rest =>
    have walked := @parseLoop_rule (placed (length :: rest) behind) (length :: rest).length
      (fun walk frames device => ∃ parsed, value walk (placed (length :: rest) behind) = some parsed ∧
        parsed.unmeasured = (frames.foldl receive device).unmeasured)
      (fun device => ⟨device, rfl, rfl⟩) (fun _ _ _ _ _ next => next)
      (by
        intro advType payload data next frames device stored _ walks
        obtain ⟨parsed, returned, effect⟩ :=
          walks (value (buildAdvertiserData advType ⟨payload, data.length⟩
          device) (placed (length :: rest) behind))
        refine ⟨parsed, returned, effect.trans ?_⟩
        exact unmeasured_receiveAll frames (unmeasured_build advType payload data stored device))
      ((length :: rest).length + 1) (length :: rest) 0 (withPacket (length :: rest) device)
      (stored_placed _ behind) (Nat.zero_add _) (List.cons_ne_nil _ _) (Nat.le_succ _)
    obtain ⟨parsed, returned, effect⟩ := walked
    exact ⟨parsed, returned, effect.trans (unmeasured_receiveAll _ rfl)⟩

/-! ## What one structure leaves -/

/-- Nothing received keeps everything. -/
theorem KeptOthers.refl (device : BlePeripheralDevice) : KeptOthers device device :=
  ⟨List.prefix_rfl, List.prefix_rfl, fun _ _ => id, id, id, id, id⟩

/-- Keeping is transitive, so it carries over from one structure to many. -/
theorem KeptOthers.trans {first second third : BlePeripheralDevice}
    (earlier : KeptOthers first second)
    (later : KeptOthers second third) : KeptOthers first third where
  serviceData := earlier.serviceData.trans later.serviceData
  serviceUUIDs := earlier.serviceUUIDs.trans later.serviceUUIDs
  advertisingData advType entry found :=
    later.advertisingData advType entry (earlier.advertisingData advType entry found)
  isServiceData := later.isServiceData ∘ earlier.isServiceData
  isServiceUUID := later.isServiceUUID ∘ earlier.isServiceUUID
  isName := later.isName ∘ earlier.isName
  isTXPower := later.isTXPower ∘ earlier.isTXPower

/-- A structure of any type takes nothing back but manufacturer data. -/
theorem receive_keptOthers (device : BlePeripheralDevice) (frame : Frames.Frame) :
    KeptOthers device (device.receive frame) := by
  rw [receive_eq]
  constructor
  · exact Folds.zip_prefix_foldl_putNew (device.serviceDataUUIDs, device.serviceData) _
  · exact Folds.prefix_foldl_addNew _ _
  · intro advType entry found
    rw [SearchTree.OrderedMap.find_emplace, found, Option.some_or]
  · exact fun set => Bool.or_eq_true_iff.mpr (.inl set)
  · exact fun set => Bool.or_eq_true_iff.mpr (.inl set)
  · exact fun set => Bool.or_eq_true_iff.mpr (.inl set)
  · exact fun set => Bool.or_eq_true_iff.mpr (.inl set)

/-- No structure removes anything but manufacturer data. By induction on the frames, from the
fact for one frame. -/
theorem receiveAll_keptOthers (device : BlePeripheralDevice) (frames : List Frames.Frame) :
    KeptOthers device (frames.foldl receive device) := by
  induction frames generalizing device with
  | nil => exact KeptOthers.refl device
  | cons frame rest inductionHypothesis =>
    exact (receive_keptOthers device frame).trans (inductionHypothesis (device.receive frame))

/-- The flag of the manufacturer data is set exactly if there are some. -/
def Flagged (device : BlePeripheralDevice) : Prop :=
  device.isManufacturerData = true ↔ ∃ manufacturerId, (device.manufacturerData.find manufacturerId).isSome

/-- A structure clears the manufacturer data exactly if it is of that kind and too short for an
id. -/
theorem clears_iff (frame : Frames.Frame) :
    Clears frame ↔ adKind frame.1 = .manufacturer ∧ (identified frame.2).isEmpty := by
  apply and_congr_right
  intro _
  match frame.2 with
  | [] | [_] | [_, _] => simp [identified]
  | _ :: _ :: _ :: _ => simp [identified]

/-- A structure clears the manufacturer data or adds its own. -/
theorem manufacturerData_receive (device : BlePeripheralDevice) (frame : Frames.Frame) :
    (device.receive frame).manufacturerData =
      if Clears frame then ∅ else
        (contentsOf frame).manufacturers.foldl putManufacturer device.manufacturerData := by
  rw [receive_eq]
  exact if_congr (clears_iff frame).symm rfl rfl

/-- The mark of manufacturer data follows the last structure of that kind. Structures of other
kinds leave it. -/
theorem isManufacturerData_receive (device : BlePeripheralDevice) (frame : Frames.Frame) :
    (device.receive frame).isManufacturerData =
      if adKind frame.1 = .manufacturer then !(identified frame.2).isEmpty
        else device.isManufacturerData := by
  rw [receive_eq]

/-- Only structures of their own type have manufacturer data. -/
theorem manufacturers_of_other {frame : Frames.Frame} (other : adKind frame.1 ≠ .manufacturer) :
    (contentsOf frame).manufacturers = [] := by
  rw [contentsOf]
  cases kind : adKind frame.1 with
  | manufacturer => exact absurd kind other
  | _ => rfl

/-- A structure keeps the mark true to the map: it is set along with an entry and unset along
with the clearing. -/
theorem receive_flagged (device : BlePeripheralDevice) (frame : Frames.Frame)
    (flagged : Flagged device) :
    Flagged (device.receive frame) := by
  rw [Flagged, manufacturerData_receive, isManufacturerData_receive]
  by_cases kind : adKind frame.1 = .manufacturer
  · have own : (contentsOf frame).manufacturers = identified frame.2 := by simp only [contentsOf, kind]
    rw [if_pos kind, own]
    cases entries : identified frame.2 with
    | nil =>
      have clears : Clears frame := (clears_iff frame).mpr ⟨kind, by rw [entries]; rfl⟩
      simp [clears]
    | cons entry rest =>
      have keeps : ¬ Clears frame := by
        rw [clears_iff, entries]
        exact fun both => Bool.false_ne_true both.2
      refine iff_of_true rfl ⟨entry.1, ?_⟩
      rw [if_neg keeps, find_foldl_putManufacturer]
      cases device.manufacturerData.find entry.1 <;> simp
  · have keeps : ¬ Clears frame := fun clears => kind clears.1
    rw [if_neg kind, if_neg keeps, manufacturers_of_other kind]
    exact flagged

/-- All structures keep the mark true to the map. -/
theorem receiveAll_flagged (device : BlePeripheralDevice) (frames : List Frames.Frame)
    (flagged : Flagged device) :
    Flagged (frames.foldl receive device) := by
  induction frames generalizing device with
  | nil => exact flagged
  | cons frame rest inductionHypothesis =>
    exact inductionHypothesis (device.receive frame) (receive_flagged device frame flagged)

/-! ## Manufacturer data behind a clearing structure -/

/-- What one more structure does to the announced data: it clears all of it, or adds what is
announced for the first time. The runs over many structures are inductions with this step. -/
theorem announced_concat (frames : List Frames.Frame) (frame : Frames.Frame)
    (manufacturerId : UInt16) :
    announced (frames ++ [frame]) manufacturerId =
      if Clears frame then none
      else (announced frames manufacturerId).or
        ((contentsOf frame).manufacturers.find? fun entry => entry.1 = manufacturerId) := by
  have joined (front : List Frames.Frame) : (contents (front ++ [frame])).manufacturers =
      (contents front).manufacturers ++ (contentsOf frame).manufacturers := by
    simp [contents, Contents.concat]
  by_cases clears : Clears frame
  · have empty : behindClears (frames ++ [frame]) = [] :=
      List.rtakeWhile_concat_neg _ frames frame (by simpa using clears)
    rw [if_pos clears, announced, empty]
    rfl
  · have longer : behindClears (frames ++ [frame]) = behindClears frames ++ [frame] :=
      List.rtakeWhile_concat_pos _ frames frame (by simpa using clears)
    rw [if_neg clears, announced, longer, joined, List.find?_append]
    rfl

/-- The manufacturer data after structures, by induction from the last one on: if none of
them clears, those of the device count first. -/
theorem find_receiveAll (device : BlePeripheralDevice) (frames : List Frames.Frame)
    (manufacturerId : UInt16) :
    (frames.foldl receive device).manufacturerData.find manufacturerId =
      (if ∀ frame ∈ frames, ¬ Clears frame then device.manufacturerData.find manufacturerId else none).or
        (announced frames manufacturerId) := by
  induction frames using List.reverseRecOn with
  | nil => simp [announced, behindClears, contents, Contents.concat]
  | append_singleton front last inductionHypothesis =>
    rw [List.foldl_append, List.foldl_cons, List.foldl_nil, manufacturerData_receive, announced_concat]
    by_cases clears : Clears last
    · have some : ¬ ∀ frame ∈ front ++ [last], ¬ Clears frame := fun none => none last (by simp) clears
      rw [if_pos clears, if_pos clears, if_neg some]
      rfl
    · have same : (∀ frame ∈ front ++ [last], ¬ Clears frame) ↔ ∀ frame ∈ front, ¬ Clears frame := by
        simp only [List.mem_append, List.mem_singleton, or_imp, forall_and, forall_eq, clears,
          not_false_eq_true, and_true]
      rw [if_neg clears, if_neg clears, find_foldl_putManufacturer, inductionHypothesis, Option.or_assoc]
      simp only [same]

/-- On a device that has not received anything the announced data are the data. -/
theorem find_receiveAll_fresh (frames : List Frames.Frame) (manufacturerId : UInt16) :
    (frames.foldl receive {}).manufacturerData.find manufacturerId =
      announced frames manufacturerId := by
  have nothing : (({} : BlePeripheralDevice).manufacturerData).find manufacturerId = none := rfl
  rw [find_receiveAll, nothing, ite_self, Option.none_or]

/-- The manufacturer data survive exactly if nothing clears or they are announced again. Whatever
was announced before a structure that clears is lost with it, unless a later one says the same.
-/
theorem manufacturers_kept_iff (earlier later : List Frames.Frame) :
    (∀ manufacturerId entry, (earlier.foldl receive {}).manufacturerData.find manufacturerId = some entry →
      (later.foldl receive (earlier.foldl receive {})).manufacturerData.find manufacturerId =
        some entry) ↔
      KeepsAnnounced earlier later := by
  simp only [find_receiveAll _ later, find_receiveAll_fresh, KeepsAnnounced]
  by_cases none : ∀ frame ∈ later, ¬ Clears frame
  · refine iff_of_true ?_ (.inl none)
    intro manufacturerId entry found
    rw [if_pos none, found, Option.some_or]
  · simp only [if_neg none, Option.none_or, or_iff_right none]
    constructor
    · intro kept manufacturerId present
      obtain ⟨entry, found⟩ := Option.isSome_iff_exists.mp present
      rw [found]
      exact kept manufacturerId entry found
    · intro again manufacturerId entry found
      have present : (announced earlier manufacturerId).isSome := by
        rw [found]
        rfl
      rw [again manufacturerId present, found]

/-- Behind the structures of a first payload more structures keep everything exactly if
they keep the manufacturer data; the flag goes with the data. -/
theorem receiveAll_kept_iff (earlier later : List Frames.Frame) :
    Kept (earlier.foldl receive {}) ((earlier ++ later).foldl receive {}) ↔
      KeepsAnnounced earlier later := by
  have fresh : Flagged {} := by simp [Flagged]
  rw [List.foldl_append, ← manufacturers_kept_iff]
  constructor
  · exact Kept.manufacturerData
  · intro kept
    have flagged := receiveAll_flagged _ earlier fresh
    refine ⟨receiveAll_keptOthers _ later, kept, ?_⟩
    intro set
    obtain ⟨manufacturerId, present⟩ := flagged.mp set
    obtain ⟨entry, found⟩ := Option.isSome_iff_exists.mp present
    refine (receiveAll_flagged _ later flagged).mpr ⟨manufacturerId, ?_⟩
    rw [kept manufacturerId entry found]
    rfl

/-- **Later structures take back nothing but manufacturer data, and those exactly if one is too
short.** Whatever lies behind the two packets, a payload of complete structures and the same
payload with any other behind it are both parsed; the entries and flags of the first are all
there in the second exactly if the other payload has no manufacturer structure with at most
two bytes, or announces the same data again behind the last of them. -/
theorem parse_append_kept_iff (front back : ByteString) (complete : Frames.Complete front)
    (behind behindBoth : Nat → UInt8) :
    ∃ first both, value (parse front {}) (placed front behind) = some first ∧
      value (parse (front ++ back) {}) (placed (front ++ back) behindBoth) = some both ∧
      (Kept first both ↔ KeepsAnnounced (Frames.decode front) (Frames.decode back)) := by
  obtain ⟨first, returned, effect⟩ := parse_unmeasured front behind {}
  obtain ⟨both, returnedBoth, effectBoth⟩ := parse_unmeasured (front ++ back) behindBoth {}
  refine ⟨first, both, returned, returnedBoth, ?_⟩
  rw [Frames.decode_append complete] at effectBoth
  rw [← kept_unmeasured_iff, effect, effectBoth, kept_unmeasured_iff, receiveAll_kept_iff]

/-- A name behind manufacturer data leaves them. -/
theorem parse_append_kept_name :
    ∃ first both, value (parse [4, bleAdManufacturerSpecificType, 1, 0, 5] {})
        (placed [4, bleAdManufacturerSpecificType, 1, 0, 5] fun _ => 0) = some first ∧
      value (parse [4, bleAdManufacturerSpecificType, 1, 0, 5, 2, bleAdTypeNameCmpl, 65] {})
        (placed [4, bleAdManufacturerSpecificType, 1, 0, 5, 2, bleAdTypeNameCmpl, 65] fun _ => 0) =
          some both ∧
      Kept first both := by
  have complete : Frames.Complete [4, bleAdManufacturerSpecificType, 1, 0, 5] :=
    .frame 4 [bleAdManufacturerSpecificType, 1, 0, 5] [] rfl .nil
  obtain ⟨first, both, returned, returnedBoth, kept⟩ := parse_append_kept_iff
    [4, bleAdManufacturerSpecificType, 1, 0, 5] [2, bleAdTypeNameCmpl, 65] complete (fun _ => 0) (fun _ => 0)
  exact ⟨first, both, returned, returnedBoth, kept.mpr (.inl (by decide))⟩

/-- Manufacturer data without a byte behind it clear those of the structure before. -/
theorem short_manufacturer_clears :
    ¬ ∀ (front back : ByteString), Frames.Complete front → ∀ (behind behindBoth : Nat → UInt8)
      (first both : BlePeripheralDevice), value (parse front {}) (placed front behind) =
        some first →
      value (parse (front ++ back) {}) (placed (front ++ back) behindBoth) = some both →
        Kept first both := by
  intro claimed
  have complete : Frames.Complete [4, bleAdManufacturerSpecificType, 1, 0, 5] :=
    .frame 4 [bleAdManufacturerSpecificType, 1, 0, 5] [] rfl .nil
  have kept := claimed [4, bleAdManufacturerSpecificType, 1, 0, 5] [1, bleAdManufacturerSpecificType] complete
    (fun _ => 0) (fun _ => 0) _ _ rfl rfl
  exact absurd (kept.isManufacturerData rfl) (by decide)

end BluetoothFramework.BlePeripheralDevice
