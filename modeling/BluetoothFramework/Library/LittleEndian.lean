import Mathlib.Tactic.Ring

/-!
# Little-endian numbers

The bytes of a number, least significant first, and the number some bytes stand for.
-/

namespace LittleEndian

/-- The given count of bytes of a number. -/
def encode : Nat → Nat → List UInt8
  | 0, _ => []
  | count + 1, number => UInt8.ofNat number :: encode count (number / 256)

/-- The number the bytes stand for. -/
def decode : List UInt8 → Nat
  | [] => 0
  | byte :: rest => byte.toNat + 256 * decode rest

/-- As many bytes are written as were asked for, whatever the number is. -/
@[simp] theorem length_encode (count number : Nat) : (encode count number).length = count := by
  induction count generalizing number with
  | zero => rfl
  | succ count inductionHypothesis => simp [encode, inductionHypothesis]

/-- A number that fits is read back. -/
theorem decode_encode (count number : Nat) (fits : number < 256 ^ count) :
    decode (encode count number) = number := by
  induction count generalizing number with
  | zero =>
    have zero : number = 0 := by simpa using fits
    rw [zero]
    rfl
  | succ count inductionHypothesis =>
    have shorter : number / 256 < 256 ^ count := by
      rw [Nat.div_lt_iff_lt_mul (by decide)]
      simpa only [Nat.pow_succ] using fits
    rw [encode, decode, inductionHypothesis _ shorter]
    simp only [UInt8.toNat_ofNat']
    omega

end LittleEndian
