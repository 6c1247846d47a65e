import BluetoothFramework.Advertisement.Structures

/-!
# Parsing stays inside the packet

The walk of `ParseAdvertiserment` visits exactly the complete AD structures of the packet,
which `Frames.decode` lists without any index arithmetic. `parseLoop_rule` is the induction along
the loop, and `parseLoop_parses` carries the value computed and the accesses made along it.

The loop always finishes. It leaves the packet in two ways only: the length byte of an
empty packet is loaded before the length of the packet is looked at, and flags, TX power
and appearance are loaded from structures that are too short for them.
`parse_inside_iff` says that it stays inside for all other packets.
-/

namespace BluetoothFramework.BlePeripheralDevice

open Loads

/-- The load stays in its own range and in the packet. -/
def Within (total : Nat) (access : Access) : Prop :=
  access.Inside ∧ access.index < total

/-- Every structure is as long as its type requires. -/
def WellSized (frames : List Frames.Frame) : Prop :=
  ∀ frame ∈ frames, needed (adKind frame.1) ≤ frame.2.length

instance (frames : List Frames.Frame) : Decidable (WellSized frames) :=
  inferInstanceAs (Decidable (∀ frame ∈ frames, _))

/-- Frames are of sufficient size exactly if the first is and the others are. -/
theorem wellSized_cons (frame : Frames.Frame) (frames : List Frames.Frame) :
    WellSized (frame :: frames) ↔ needed (adKind frame.1) ≤ frame.2.length ∧ WellSized frames := by
  simp [WellSized]

/-- A part of the walk that meets these structures: it finishes, it stays inside exactly
when they are well sized, and then it has their effects in order. -/
structure Parses (memory : Nat → UInt8) (total : Nat)
    (walk : Load UInt8 (Option BlePeripheralDevice))
    (frames : List Frames.Frame) (device : BlePeripheralDevice) : Prop where
  finishes : ∃ parsed, value walk memory = some parsed
  inside : Each (Within total) walk memory ↔ WellSized frames
  effect : WellSized frames → value walk memory = some (frames.foldl receive device)

variable {memory : Nat → UInt8} {total : Nat}

/-- The walk ends. -/
theorem Parses.done (device : BlePeripheralDevice) :
    Parses memory total (pure (some device)) [] device where
  finishes := ⟨device, rfl⟩
  inside := iff_of_true (each_pure _) (by simp [WellSized])
  effect _ := rfl

/-- The walk loads a byte of the packet. -/
theorem Parses.load {index : Nat} {next : UInt8 → Load UInt8 (Option BlePeripheralDevice)}
    {frames : List Frames.Frame} {device : BlePeripheralDevice} (bounded : index < total)
    (parses : Parses memory total (next (memory index)) frames device) :
    Parses memory total (Loads.load ⟨0, total⟩ index >>= next) frames device where
  finishes := parses.finishes
  inside := by
    have here : Within total ⟨index, ⟨0, total⟩⟩ := ⟨⟨Nat.zero_le _, bounded⟩, bounded⟩
    rw [each_bind, each_load, and_iff_right here, value_load]
    exact parses.inside
  effect := parses.effect

/-- The loads of a structure in the packet stay inside it exactly when it is long enough
for its type. -/
theorem within_build_iff (advType : UInt8) (parseAdvData : BlePeripheralDeviceParseAdvData)
    (bounded : parseAdvData.range.limit ≤ total) (device : BlePeripheralDevice) :
    Each (Within total) (buildAdvertiserData advType parseAdvData device) memory ↔
      needed (adKind advType) ≤ parseAdvData.length := by
  have ranges : Each (fun access => access.range.limit ≤ total)
      (buildAdvertiserData advType parseAdvData device) memory :=
    each_build (fun range => range.limit ≤ total) advType parseAdvData device bounded
  have own : Each Access.Inside (buildAdvertiserData advType parseAdvData device) memory ↔
      needed (adKind advType) ≤ parseAdvData.length :=
    inside_build_iff advType parseAdvData device
  rw [← own]
  constructor
  · exact fun within access member => (within access member).1
  · intro inside access member
    have limited : access.range.limit ≤ total := ranges access member
    exact ⟨inside access member, Nat.lt_of_lt_of_le (inside access member).2 limited⟩

/-- The walk hands a structure to `BuildAdvertiserData`. -/
theorem Parses.build {advType : UInt8} {payload : Nat} {data : ByteString}
    {next : BlePeripheralDevice → Load UInt8 (Option BlePeripheralDevice)}
    {frames : List Frames.Frame} {device : BlePeripheralDevice}
    (stored : Stored memory payload data) (bounded : payload + data.length ≤ total)
    (parses : ∀ device, Parses memory total (next device) frames device) :
    Parses memory total (buildAdvertiserData advType ⟨payload, data.length⟩ device >>= next)
      ((advType, data) :: frames) device where
  finishes := (parses _).finishes
  inside := by
    rw [each_bind, within_build_iff advType ⟨payload, data.length⟩ bounded device, wellSized_cons,
      (parses _).inside]
  effect sized := by
    obtain ⟨enough, later⟩ := (wellSized_cons _ _).mp sized
    rw [value_bind, value_build advType payload data stored enough device]
    exact (parses _).effect later

/-- The rule for the loop, by induction on its fuel: what holds where the walk ends and is
kept by a load from the packet and by a structure handed to `BuildAdvertiserData` holds of the
walk and the structures of what is left of the packet. The part of the packet it has not
consumed is never empty at the loop head. -/
theorem parseLoop_rule {holds : Load UInt8 (Option BlePeripheralDevice) → List Frames.Frame →
      BlePeripheralDevice → Prop}
    (done : ∀ device, holds (pure (some device)) [] device)
    (loads : ∀ index next frames device, index < total → holds (next (memory index)) frames device →
      holds (Loads.load ⟨0, total⟩ index >>= next) frames device)
    (builds : ∀ advType payload data next frames device, Stored memory payload data →
      payload + data.length ≤ total → (∀ device, holds (next device) frames device) →
      holds (buildAdvertiserData advType ⟨payload, data.length⟩ device >>= next)
        ((advType, data) :: frames) device)
    (fuel : Nat) (rest : ByteString) (index : Nat) (device : BlePeripheralDevice)
    (stored : Stored memory index rest) (ends : index + rest.length = total) (left : rest ≠ [])
    (enough : rest.length ≤ fuel) :
    holds (parseLoop total fuel index index device) (Frames.decode rest) device := by
  induction fuel generalizing rest index device with
  | zero => exact absurd (List.eq_nil_of_length_eq_zero (by omega)) left
  | succ fuel inductionHypothesis =>
    cases rest with
    | nil => exact absurd rfl left
    | cons length tail =>
      obtain ⟨here, later⟩ := stored
      rw [List.length_cons] at ends enough
      -- What is left behind a structure is the end of the packet or the next loop head.
      have continues (count : Nat) (position : Nat) (reached : position = index + (1 + count))
          (complete : count ≤ tail.length) (device : BlePeripheralDevice) :
          holds
            (if index + (1 + count) ≥ total then pure (some device)
              else parseLoop total fuel position (index + (1 + count)) device)
            (Frames.decode (tail.drop count)) device := by
        have remaining : (tail.drop count).length = tail.length - count := List.length_drop
        by_cases last : index + (1 + count) ≥ total
        · have nothing : tail.drop count = [] := List.eq_nil_of_length_eq_zero (by omega)
          rw [if_pos last, nothing]
          exact done device
        · have behind : Stored memory (index + 1 + count) (tail.drop count) :=
            stored_drop later count complete
          have same : index + 1 + count = index + (1 + count) := Nat.add_assoc _ _ _
          rw [same] at behind
          have more : tail.drop count ≠ [] := by
            intro nothing
            rw [nothing, List.length_nil] at remaining
            omega
          rw [if_neg last, reached]
          exact inductionHypothesis (tail.drop count) _ device behind (by omega) more (by omega)
      apply loads _ _ _ _ (by omega)
      rw [here]
      dsimp only
      by_cases incomplete : length.toNat > tail.length
      · rw [if_pos (by omega), Frames.decode_incomplete length tail incomplete]
        exact done device
      · rw [if_neg (by omega)]
        by_cases empty : length.toNat = 0
        · have zero : length = 0 := UInt8.toNat_inj.mp empty
          rw [if_neg (not_not_intro empty), empty, zero, Frames.decode_zero]
          exact continues 0 (index + 1) rfl (Nat.zero_le _) device
        · rw [if_pos empty]
          cases tail with
          | nil => exact absurd (Nat.le_zero.mp (Nat.le_of_not_gt incomplete)) empty
          | cons advType behind =>
            obtain ⟨data, others, rfl, size⟩ :
                ∃ data others, behind = data ++ others ∧ data.length = length.toNat - 1 := by
              refine ⟨behind.take (length.toNat - 1), behind.drop (length.toNat - 1), ?_, ?_⟩
              · exact (List.take_append_drop _ _).symm
              · rw [List.length_cons] at incomplete
                exact List.length_take_of_le (by omega)
            have counts : length.toNat = data.length + 1 := by omega
            have remaining : (advType :: (data ++ others)).drop length.toNat = others := by
              rw [counts, List.drop_succ_cons]
              exact List.drop_left
            rw [List.length_cons, List.length_append] at ends
            have framed := Frames.decode_frame length advType data others counts
            rw [List.cons_append, List.cons_append] at framed
            rw [framed, ← remaining]
            obtain ⟨typed, placed⟩ := later
            apply loads _ _ _ _ (by omega)
            rw [typed, ← size]
            apply builds _ _ _ _ _ _ (stored_append.mp placed).1 (by omega)
            intro device
            rw [size]
            exact continues length.toNat _ (by omega) (Nat.le_of_not_gt incomplete) device

/-- The loop parses what is left of the packet. -/
theorem parseLoop_parses (fuel : Nat) (rest : ByteString) (index : Nat)
    (device : BlePeripheralDevice)
    (stored : Stored memory index rest) (ends : index + rest.length = total) (left : rest ≠ [])
    (enough : rest.length ≤ fuel) :
    Parses memory total (parseLoop total fuel index index device) (Frames.decode rest) device :=
  parseLoop_rule Parses.done (fun _ _ _ _ => Parses.load) (fun _ _ _ _ _ _ => Parses.build) fuel rest index
    device stored ends left enough

/-- The call on a packet at the start of memory, with a step for each byte and one more. -/
def parse (packet : ByteString) (device : BlePeripheralDevice) :
    Load UInt8 (Option BlePeripheralDevice) :=
  parseAdvertiserment (packet.length + 1) ⟨0, packet.length⟩ device

/-- The device once it has noted where the packet is. -/
def withPacket (packet : ByteString) (device : BlePeripheralDevice) : BlePeripheralDevice :=
  { device with payload := some 0, payloadLen := packet.length }

/-- The call parses a packet with at least its length byte. -/
theorem parse_parses (packet : ByteString) (behind : Nat → UInt8) (device : BlePeripheralDevice)
    (present : packet ≠ []) :
    Parses (placed packet behind) packet.length (parse packet device) (Frames.decode packet)
      (withPacket packet device) :=
  parseLoop_parses (packet.length + 1) packet 0 (withPacket packet device) (stored_placed packet behind)
    (Nat.zero_add _) present (Nat.le_succ _)

/-- The empty packet is left at once, after the load of a length byte it does not have. -/
theorem value_parse_nil (memory : Nat → UInt8) (device : BlePeripheralDevice) :
    value (parse [] device) memory = some (withPacket [] device) := by
  have beyond : 0 + (1 + (memory 0).toNat) > 0 := by omega
  change value (if 0 + (1 + (memory 0).toNat) > 0 then _ else _) memory = _
  rw [if_pos beyond]
  rfl

/-- A packet whose structures are well sized has their effects in order. -/
theorem value_parse (packet : ByteString) (behind : Nat → UInt8) (device : BlePeripheralDevice)
    (sized : WellSized (Frames.decode packet)) :
    value (parse packet device) (placed packet behind) =
      some ((Frames.decode packet).foldl receive (withPacket packet device)) := by
  by_cases present : packet ≠ []
  · exact (parse_parses packet behind device present).effect sized
  · rw [not_ne_iff.mp present]
    exact value_parse_nil _ device

/-- The call returns, and it stays inside the packet and inside each of its structures. -/
structure ParsesInside (packet : ByteString) (behind : Nat → UInt8) (device : BlePeripheralDevice) :
    Prop where
  returns : ∃ parsed, value (parse packet device) (placed packet behind) = some parsed
  within : Each (Within packet.length) (parse packet device) (placed packet behind)

/-- Whatever the packet, what lies behind it and the device parsed into: the call returns
and stays inside exactly when the packet is not empty and its complete structures of flags,
TX power and appearance are as long as the loads of their values. -/
theorem parse_inside_iff (packet : ByteString) (behind : Nat → UInt8)
    (device : BlePeripheralDevice) :
    ParsesInside packet behind device ↔ packet ≠ [] ∧ WellSized (Frames.decode packet) := by
  cases packet with
  | nil =>
    have outside : ¬ ParsesInside [] behind device := by
      intro parses
      have first := parses.within ⟨0, ⟨0, 0⟩⟩ (List.mem_cons_self ..)
      exact absurd first.2 (Nat.not_lt_zero 0)
    exact iff_of_false outside fun claimed => claimed.1 rfl
  | cons length rest =>
    have parses := parse_parses (length :: rest) behind device (List.cons_ne_nil _ _)
    rw [and_iff_right (List.cons_ne_nil _ _), ← parses.inside]
    constructor
    · exact ParsesInside.within
    · exact ParsesInside.mk parses.finishes

/-- TX power without a value: the byte behind the packet is taken for it. -/
theorem tx_power_beyond_packet :
    ¬ ∀ (packet : ByteString) (behind : Nat → UInt8) (device : BlePeripheralDevice),
    ParsesInside packet behind device := by
  intro claimed
  have within := (claimed [1, bleAdTypeTxPwr] (fun _ => 0) {}).within
  have loaded : (⟨2, ⟨2, 2⟩⟩ : Access) ∈
      accesses (parse [1, bleAdTypeTxPwr] {}) (placed [1, bleAdTypeTxPwr] fun _ => 0) := by
    decide
  exact absurd (within _ loaded).2 (Nat.lt_irrefl 2)

end BluetoothFramework.BlePeripheralDevice
