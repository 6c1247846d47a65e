import Mathlib.Tactic.Ring

/-!
# UUIDs and their short forms

`Uuid` is the 128-bit value of the IPC layer, most significant byte first. The Bluetooth
base UUID leaves 32 bits free, and a UUID that differs from it in no other byte has a
16-bit or 32-bit short form. The conversions are those of the source, written with its
masks and shifts; what is proved about them is which of them undo one another.
-/

namespace BluetoothFramework

/-- `Uuid::BASE_UUID` -/
def baseUuid : Vector UInt8 16 :=
  #v[0x00, 0x00, 0x00, 0x00, 0x00, 0x00, 0x10, 0x00, 0x80, 0x00, 0x00, 0x80, 0x5F, 0x9B, 0x34, 0xFB]

/-- `Uuid`, whose default is the base UUID. -/
structure Uuid where
  uuid : Vector UInt8 16 := baseUuid
deriving DecidableEq, Repr

namespace Uuid

/-- `UUID128_BYTES_TYPE` -/
def uuid128BytesType : Nat := 16

/-- `UUID32_BYTES_TYPE` -/
def uuid32BytesType : Nat := 4

/-- `UUID16_BYTES_TYPE` -/
def uuid16BytesType : Nat := 2

/-- `ConvertFrom16Bits` -/
def convertFrom16Bits (uuid : UInt16) : Uuid :=
  ⟨(baseUuid.set 2 ((uuid &&& 0xFF00) >>> 8).toUInt8).set 3 (uuid &&& 0x00FF).toUInt8⟩

/-- `ConvertFrom32Bits` -/
def convertFrom32Bits (uuid : UInt32) : Uuid :=
  ⟨(((baseUuid.set 0 ((uuid &&& 0xFF000000) >>> 24).toUInt8).set 1
    ((uuid &&& 0x00FF0000) >>> 16).toUInt8).set 2
    ((uuid &&& 0x0000FF00) >>> 8).toUInt8).set 3 (uuid &&& 0x000000FF).toUInt8⟩

/-- `ConvertFromBytesLE`. Every caller hands it 16 bytes, so its size check passes. -/
def convertFromBytesLE (uuid : Vector UInt8 16) : Uuid :=
  ⟨uuid.reverse⟩

/-- `ConvertFromMostAndLeastBit`: the first eight bytes from one word, the others from the
other word, each from its highest byte down. -/
def convertFromMostAndLeastBit (mostSigBits leastSigBits : UInt64) : Uuid :=
  ⟨Vector.ofFn fun i : Fin 16 =>
    if i.val < 8 then ((mostSigBits >>> UInt64.ofNat (8 * (8 - i.val - 1))) &&& 0xFF).toUInt8
    else ((leastSigBits >>> UInt64.ofNat (8 * (16 - i.val - 1))) &&& 0xFF).toUInt8⟩

/-- `ConvertTo16Bits` -/
def convertTo16Bits (self : Uuid) : UInt16 :=
  let ret : UInt16 := self.uuid[2].toUInt16 &&& 0xFF
  (ret <<< 8) + self.uuid[3].toUInt16

/-- `ConvertTo32Bits`, a loop over the first four bytes. -/
def convertTo32Bits (self : Uuid) : UInt32 :=
  [self.uuid[0], self.uuid[1], self.uuid[2], self.uuid[3]].foldl
    (fun ret byte => (ret <<< 8) + byte.toUInt32) 0

/-- `ConvertToBytesLE` into a buffer of 16 bytes. -/
def convertToBytesLE (self : Uuid) : Vector UInt8 16 :=
  self.uuid.reverse

/-- `GetUuidType`: the width of the shortest form. -/
def getUuidType (self : Uuid) : Nat :=
  if (List.finRange 16).any (fun i => 4 ≤ i.val && baseUuid[i] != self.uuid[i]) then uuid128BytesType
  else if self.uuid[0] = 0 ∧ self.uuid[1] = 0 then uuid16BytesType
  else uuid32BytesType

/-- The bytes of a UUID, lowest first, are read back to it. -/
theorem convertFromBytesLE_convertToBytesLE (uuid : Uuid) :
    convertFromBytesLE uuid.convertToBytesLE = uuid := by
  simp [convertFromBytesLE, convertToBytesLE]

/-- The bytes outside the short forms are those of the base UUID. -/
def IsShort (uuid : Uuid) : Prop :=
  ∀ i : Fin 16, 4 ≤ i.val → uuid.uuid[i] = baseUuid[i]

/-- A UUID has the long type exactly if it is not one of the short ones, which agree with the
base UUID in all but four bytes. -/
theorem getUuidType_eq_128_iff (uuid : Uuid) :
    uuid.getUuidType = uuid128BytesType ↔ ¬ uuid.IsShort := by
  have differs : (List.finRange 16).any (fun i => 4 ≤ i.val && baseUuid[i] != uuid.uuid[i]) = true ↔
      ¬ uuid.IsShort := by
    simp only [List.any_eq_true, List.mem_finRange, true_and, Bool.and_eq_true, decide_eq_true_eq,
      bne_iff_ne, IsShort, not_forall, exists_prop]
    exact exists_congr fun i => and_congr_right fun _ => ne_comm
  rw [getUuidType]
  by_cases short : uuid.IsShort
  · rw [if_neg (fun found => differs.mp found short)]
    split <;> simp [short, uuid128BytesType, uuid16BytesType, uuid32BytesType]
  · rw [if_pos (differs.mpr short)]
    exact iff_of_true rfl short

/-- A 16-bit form is a 32-bit form whose upper half is zero. -/
theorem getUuidType_eq_16_iff (uuid : Uuid) :
    uuid.getUuidType = uuid16BytesType ↔ uuid.IsShort ∧ uuid.uuid[0] = 0 ∧ uuid.uuid[1] = 0 := by
  by_cases short : uuid.IsShort
  · have not128 : uuid.getUuidType ≠ uuid128BytesType := by
      rw [ne_eq, getUuidType_eq_128_iff]
      exact not_not_intro short
    rw [getUuidType] at not128 ⊢
    split
    · rename_i found
      rw [if_pos found] at not128
      exact absurd rfl not128
    · split <;> simp_all [uuid16BytesType, uuid32BytesType]
  · have is128 := (getUuidType_eq_128_iff uuid).mpr short
    rw [is128]
    exact iff_of_false (by decide) fun claimed => short claimed.1

/-- The low byte of a number is its remainder. -/
theorem low_byte (value : Nat) : value &&& 0xFF = value % 256 :=
  Nat.and_two_pow_sub_one_eq_mod value 8

/-- Selecting one byte by a mask and a shift. -/
theorem masked_byte (value mask shift : Nat) (selects : mask >>> shift = 0xFF) :
    (value &&& mask) >>> shift = value / 2 ^ shift % 256 := by
  rw [Nat.shiftRight_and_distrib, selects, low_byte, Nat.shiftRight_eq_div_pow]

/-- The first four bytes as a number. -/
theorem convertTo32Bits_toNat (uuid : Uuid) :
    uuid.convertTo32Bits.toNat = uuid.uuid[0].toNat * 2 ^ 24 + uuid.uuid[1].toNat * 2 ^ 16 +
      uuid.uuid[2].toNat * 2 ^ 8 + uuid.uuid[3].toNat := by
  have bound0 := uuid.uuid[0].toNat_lt
  have bound1 := uuid.uuid[1].toNat_lt
  have bound2 := uuid.uuid[2].toNat_lt
  have bound3 := uuid.uuid[3].toNat_lt
  simp [convertTo32Bits, Nat.shiftLeft_eq]
  omega

/-- The third and fourth bytes as a number. -/
theorem convertTo16Bits_toNat (uuid : Uuid) :
    uuid.convertTo16Bits.toNat = uuid.uuid[2].toNat * 2 ^ 8 + uuid.uuid[3].toNat := by
  have bound2 := uuid.uuid[2].toNat_lt
  have bound3 := uuid.uuid[3].toNat_lt
  simp [convertTo16Bits, Nat.shiftLeft_eq, low_byte]
  omega

/-- The bytes a 32-bit short form expands to. -/
theorem convertFrom32Bits_bytes (uuid : UInt32) :
    (convertFrom32Bits uuid).uuid[0].toNat = uuid.toNat / 2 ^ 24 % 256 ∧
      (convertFrom32Bits uuid).uuid[1].toNat = uuid.toNat / 2 ^ 16 % 256 ∧
      (convertFrom32Bits uuid).uuid[2].toNat = uuid.toNat / 2 ^ 8 % 256 ∧
      (convertFrom32Bits uuid).uuid[3].toNat = uuid.toNat % 256 := by
  have first := masked_byte uuid.toNat 0xFF000000 24 rfl
  have second := masked_byte uuid.toNat 0xFF0000 16 rfl
  have third := masked_byte uuid.toNat 0xFF00 8 rfl
  have fourth := low_byte uuid.toNat
  refine ⟨?_, ?_, ?_, ?_⟩
  · change ((uuid.toNat &&& 0xFF000000) >>> 24) % 256 = _
    omega
  · change ((uuid.toNat &&& 0x00FF0000) >>> 16) % 256 = _
    omega
  · change ((uuid.toNat &&& 0x0000FF00) >>> 8) % 256 = _
    omega
  · change (uuid.toNat &&& 0xFF) % 256 = _
    omega

/-- The bytes a 16-bit short form expands to. -/
theorem convertFrom16Bits_bytes (uuid : UInt16) :
    (convertFrom16Bits uuid).uuid[2].toNat = uuid.toNat / 2 ^ 8 % 256 ∧
      (convertFrom16Bits uuid).uuid[3].toNat = uuid.toNat % 256 := by
  have third := masked_byte uuid.toNat 0xFF00 8 rfl
  have fourth := low_byte uuid.toNat
  constructor
  · change ((uuid.toNat &&& 0xFF00) >>> 8) % 256 = _
    omega
  · change (uuid.toNat &&& 0xFF) % 256 = _
    omega

/-- A UUID made of 32 bits is a short one. -/
theorem isShort_convertFrom32Bits (uuid : UInt32) : (convertFrom32Bits uuid).IsShort := by
  intro i outside
  simp only [convertFrom32Bits, Fin.getElem_fin]
  rw [Vector.getElem_set_ne _ _ (by omega), Vector.getElem_set_ne _ _ (by omega),
    Vector.getElem_set_ne _ _ (by omega), Vector.getElem_set_ne _ _ (by omega)]

/-- A UUID made of 16 bits is a short one. -/
theorem isShort_convertFrom16Bits (uuid : UInt16) : (convertFrom16Bits uuid).IsShort := by
  intro i outside
  simp only [convertFrom16Bits, Fin.getElem_fin]
  rw [Vector.getElem_set_ne _ _ (by omega), Vector.getElem_set_ne _ _ (by omega)]

/-- UUIDs with short forms agree when their first four bytes do. The other twelve are those of
the base UUID in both. -/
theorem ext_of_isShort {first second : Uuid} (firstShort : first.IsShort)
    (secondShort : second.IsShort)
    (byte0 : first.uuid[0] = second.uuid[0]) (byte1 : first.uuid[1] = second.uuid[1])
    (byte2 : first.uuid[2] = second.uuid[2]) (byte3 : first.uuid[3] = second.uuid[3]) :
    first = second := by
  have bytes : first.uuid = second.uuid := by
    apply Vector.ext
    intro i bound
    by_cases outside : 4 ≤ i
    · have firstBase := firstShort ⟨i, bound⟩ outside
      have secondBase := secondShort ⟨i, bound⟩ outside
      exact firstBase.trans secondBase.symm
    · have position : i = 0 ∨ i = 1 ∨ i = 2 ∨ i = 3 := by omega
      rcases position with rfl | rfl | rfl | rfl <;> assumption
  cases first
  cases second
  simpa using bytes

/-- The 32-bit form loses nothing exactly when the UUID has a short form. -/
theorem convertFrom32Bits_convertTo32Bits_iff (uuid : Uuid) :
    convertFrom32Bits uuid.convertTo32Bits = uuid ↔ uuid.IsShort := by
  constructor
  · intro same
    exact same ▸ isShort_convertFrom32Bits uuid.convertTo32Bits
  · intro short
    obtain ⟨first, second, third, fourth⟩ := convertFrom32Bits_bytes uuid.convertTo32Bits
    rw [convertTo32Bits_toNat] at first second third fourth
    have bound0 := uuid.uuid[0].toNat_lt
    have bound1 := uuid.uuid[1].toNat_lt
    have bound2 := uuid.uuid[2].toNat_lt
    have bound3 := uuid.uuid[3].toNat_lt
    apply ext_of_isShort (isShort_convertFrom32Bits _) short <;> apply UInt8.toNat_inj.mp <;> omega

/-- Expanding the 16-bit form of a UUID that has one gives it back. -/
theorem convertFrom16Bits_convertTo16Bits (uuid : Uuid)
    (width : uuid.getUuidType = uuid16BytesType) :
    convertFrom16Bits uuid.convertTo16Bits = uuid := by
  obtain ⟨short, zero0, zero1⟩ := (getUuidType_eq_16_iff uuid).mp width
  obtain ⟨third, fourth⟩ := convertFrom16Bits_bytes uuid.convertTo16Bits
  rw [convertTo16Bits_toNat] at third fourth
  have bound2 := uuid.uuid[2].toNat_lt
  have bound3 := uuid.uuid[3].toNat_lt
  apply ext_of_isShort (isShort_convertFrom16Bits _) short
  · exact zero0.symm
  · exact zero1.symm
  · apply UInt8.toNat_inj.mp
    omega
  · apply UInt8.toNat_inj.mp
    omega

/-! ## The two 64-bit words of a parcel -/

/-- Eight bytes in one word, the first in the highest place. -/
def bigEndian (b0 b1 b2 b3 b4 b5 b6 b7 : UInt8) : UInt64 :=
  (b0.toUInt64 <<< 56) ||| (b1.toUInt64 <<< 48) ||| (b2.toUInt64 <<< 40) ||| (b3.toUInt64 <<< 32) |||
    (b4.toUInt64 <<< 24) ||| (b5.toUInt64 <<< 16) ||| (b6.toUInt64 <<< 8) ||| b7.toUInt64

/-- `mostSigBits` in `BluetoothUuid::Marshalling` -/
def mostSigBits (self : Uuid) : UInt64 :=
  bigEndian self.uuid[0] self.uuid[1] self.uuid[2] self.uuid[3] self.uuid[4] self.uuid[5]
    self.uuid[6] self.uuid[7]

/-- `leastSigBits` in `BluetoothUuid::Marshalling` -/
def leastSigBits (self : Uuid) : UInt64 :=
  bigEndian self.uuid[8] self.uuid[9] self.uuid[10] self.uuid[11] self.uuid[12] self.uuid[13]
    self.uuid[14] self.uuid[15]

/-- A byte moved to its place in a 64-bit word loses nothing. -/
theorem shifted_byte (byte : UInt8) (shift : Nat) (low : shift ≤ 56) :
    byte.toNat * 2 ^ shift % 2 ^ 64 = byte.toNat * 2 ^ shift := by
  apply Nat.mod_eq_of_lt
  calc byte.toNat * 2 ^ shift < 2 ^ 8 * 2 ^ shift :=
        Nat.mul_lt_mul_of_pos_right byte.toNat_lt (Nat.two_pow_pos shift)
    _ ≤ 2 ^ 64 := by
        rw [← Nat.pow_add]
        exact Nat.pow_le_pow_right (by decide) (by omega)

/-- Where the lower places are free, joining a byte is adding it. -/
theorem or_byte (high : Nat) (byte : UInt8) (shift : Nat) (free : high % 2 ^ (shift + 8) = 0) :
    high ||| byte.toNat * 2 ^ shift = high + byte.toNat * 2 ^ shift := by
  have small : byte.toNat * 2 ^ shift < 2 ^ (shift + 8) := by
    rw [Nat.pow_add, Nat.mul_comm (2 ^ shift)]
    exact Nat.mul_lt_mul_of_pos_right byte.toNat_lt (Nat.two_pow_pos shift)
  obtain ⟨quotient, rfl⟩ := Nat.dvd_of_mod_eq_zero free
  rw [Nat.mul_comm (2 ^ (shift + 8)), ← Nat.shiftLeft_eq quotient, Nat.shiftLeft_add_eq_or_of_lt small]

/-- The number made of eight bytes has them as its digits, highest first. -/
theorem bigEndian_toNat (b0 b1 b2 b3 b4 b5 b6 b7 : UInt8) :
    (bigEndian b0 b1 b2 b3 b4 b5 b6 b7).toNat = b0.toNat * 2 ^ 56 + b1.toNat * 2 ^ 48 +
      b2.toNat * 2 ^ 40 + b3.toNat * 2 ^ 32 + b4.toNat * 2 ^ 24 + b5.toNat * 2 ^ 16 +
      b6.toNat * 2 ^ 8 + b7.toNat * 2 ^ 0 := by
  have joined : (bigEndian b0 b1 b2 b3 b4 b5 b6 b7).toNat =
      (b0.toNat * 2 ^ 56 % 2 ^ 64 ||| b1.toNat * 2 ^ 48 % 2 ^ 64 ||| b2.toNat * 2 ^ 40 % 2 ^ 64 |||
        b3.toNat * 2 ^ 32 % 2 ^ 64 ||| b4.toNat * 2 ^ 24 % 2 ^ 64 ||| b5.toNat * 2 ^ 16 % 2 ^ 64 |||
        b6.toNat * 2 ^ 8 % 2 ^ 64 ||| b7.toNat * 2 ^ 0) := by
    simp [bigEndian, Nat.shiftLeft_eq]
  rw [joined]
  rw [shifted_byte b0 56 (by decide), shifted_byte b1 48 (by decide), shifted_byte b2 40 (by decide),
    shifted_byte b3 32 (by decide), shifted_byte b4 24 (by decide), shifted_byte b5 16 (by decide),
    shifted_byte b6 8 (by decide)]
  rw [or_byte _ b1 48 (by omega), or_byte _ b2 40 (by omega), or_byte _ b3 32 (by omega),
    or_byte _ b4 24 (by omega), or_byte _ b5 16 (by omega), or_byte _ b6 8 (by omega),
    or_byte _ b7 0 (by omega)]


/-- Shifting right and masking selects one byte of the word. -/
theorem selected_byte (bits : UInt64) (shift : Nat) (low : shift < 64) (byte : UInt8)
    (selected : bits.toNat / 2 ^ shift % 256 = byte.toNat) :
    ((bits >>> UInt64.ofNat shift) &&& 0xFF).toUInt8 = byte := by
  apply UInt8.toNat_inj.mp
  simp [Nat.shiftRight_eq_div_pow, ← selected, Nat.mod_eq_of_lt low, low_byte]


/-- The byte at a position comes back from the word. The word is written as a sum of its bytes,
of which the shift drops those behind the position and the mask those before it. -/
theorem byte_bigEndian (b0 b1 b2 b3 b4 b5 b6 b7 : UInt8) (i : Nat) (inside : i < 8) :
    ((bigEndian b0 b1 b2 b3 b4 b5 b6 b7 >>> UInt64.ofNat (8 * (8 - i - 1))) &&& 0xFF).toUInt8 =
      #v[b0, b1, b2, b3, b4, b5, b6, b7][i] := by
  have value := bigEndian_toNat b0 b1 b2 b3 b4 b5 b6 b7
  have bound0 := b0.toNat_lt
  have bound1 := b1.toNat_lt
  have bound2 := b2.toNat_lt
  have bound3 := b3.toNat_lt
  have bound4 := b4.toNat_lt
  have bound5 := b5.toNat_lt
  have bound6 := b6.toNat_lt
  have bound7 := b7.toNat_lt
  apply selected_byte _ _ (by omega)
  rw [value]
  have position : i = 0 ∨ i = 1 ∨ i = 2 ∨ i = 3 ∨ i = 4 ∨ i = 5 ∨ i = 6 ∨ i = 7 := by omega
  rcases position with rfl | rfl | rfl | rfl | rfl | rfl | rfl | rfl
  · change _ = b0.toNat
    omega
  · change _ = b1.toNat
    omega
  · change _ = b2.toNat
    omega
  · change _ = b3.toNat
    omega
  · change _ = b4.toNat
    omega
  · change _ = b5.toNat
    omega
  · change _ = b6.toNat
    omega
  · change _ = b7.toNat
    omega

/-- The two words carry the whole UUID. -/
theorem convertFromMostAndLeastBit_sigBits (uuid : Uuid) :
    convertFromMostAndLeastBit uuid.mostSigBits uuid.leastSigBits = uuid := by
  obtain ⟨uuid⟩ := uuid
  rw [convertFromMostAndLeastBit]
  refine congrArg Uuid.mk (Vector.ext fun i inside => ?_)
  rw [Vector.getElem_ofFn]
  by_cases upper : i < 8
  · rw [if_pos upper, mostSigBits, byte_bigEndian _ _ _ _ _ _ _ _ i upper]
    have position : i = 0 ∨ i = 1 ∨ i = 2 ∨ i = 3 ∨ i = 4 ∨ i = 5 ∨ i = 6 ∨ i = 7 := by omega
    rcases position with rfl | rfl | rfl | rfl | rfl | rfl | rfl | rfl <;> rfl
  · rw [if_neg upper, leastSigBits]
    have shift : 8 * (16 - i - 1) = 8 * (8 - (i - 8) - 1) := by omega
    rw [shift, byte_bigEndian _ _ _ _ _ _ _ _ (i - 8) (by omega)]
    have position : i = 8 ∨ i = 9 ∨ i = 10 ∨ i = 11 ∨ i = 12 ∨ i = 13 ∨ i = 14 ∨ i = 15 := by omega
    rcases position with rfl | rfl | rfl | rfl | rfl | rfl | rfl | rfl <;> rfl
end Uuid
end BluetoothFramework
