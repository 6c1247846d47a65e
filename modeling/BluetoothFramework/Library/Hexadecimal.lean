import Mathlib.Tactic.Ring

/-!
# Hexadecimal text

Digits, the bytes that pairs of digits stand for, and the integer that C's conversion
functions read at the start of a text: spaces, a sign and a `0x` are passed over before
the digits. Two digits are read as their value (`parse_pair`), bytes written as pairs of
upper-case digits are read back, and a text of pairs is written back in upper case.
-/

namespace Hexadecimal

/-- A hexadecimal digit of either case. -/
def IsDigit (c : UInt8) : Prop :=
  (0x30 ≤ c ∧ c ≤ 0x39) ∨ (0x61 ≤ c ∧ c ≤ 0x66) ∨ (0x41 ≤ c ∧ c ≤ 0x46)

instance (c : UInt8) : Decidable (IsDigit c) :=
  inferInstanceAs (Decidable (_ ∨ _ ∨ _))

/-- The value of a digit. -/
def value (c : UInt8) : Nat :=
  if c ≤ 0x39 then c.toNat - 0x30
  else if 0x61 ≤ c then c.toNat - 0x61 + 10
  else c.toNat - 0x41 + 10

/-- The upper-case digit of a value. -/
def digit (number : Nat) : UInt8 :=
  if number < 10 then UInt8.ofNat (0x30 + number) else UInt8.ofNat (0x41 + (number - 10))

/-- The upper-case form of a character. -/
def upper (c : UInt8) : UInt8 :=
  if 0x61 ≤ c ∧ c ≤ 0x7A then c - 0x20 else c

/-- The hexadecimal digits in numbers, so that facts about them are arithmetic. -/
theorem isDigit_iff (c : UInt8) : IsDigit c ↔
    (0x30 ≤ c.toNat ∧ c.toNat ≤ 0x39) ∨ (0x61 ≤ c.toNat ∧ c.toNat ≤ 0x66) ∨
      (0x41 ≤ c.toNat ∧ c.toNat ≤ 0x46) := by
  simp only [IsDigit, UInt8.le_iff_toNat_le]
  rfl

/-- The value of a digit in numbers. It is given for any byte, and means something for digits
only. -/
theorem value_eq (c : UInt8) : value c =
    if c.toNat ≤ 0x39 then c.toNat - 0x30
    else if 0x61 ≤ c.toNat then c.toNat - 0x61 + 10
    else c.toNat - 0x41 + 10 := by
  simp only [value, UInt8.le_iff_toNat_le]
  rfl

/-- A digit has a value below sixteen. -/
theorem value_lt {c : UInt8} (isDigit : IsDigit c) : value c < 16 := by
  rw [isDigit_iff] at isDigit
  rw [value_eq]
  split
  · omega
  · split <;> omega

/-- The byte of a digit in numbers. The letters are capital. -/
theorem toNat_digit {number : Nat} (small : number < 16) :
    (digit number).toNat = if number < 10 then 0x30 + number else 0x41 + (number - 10) := by
  rw [digit]
  split
  · apply UInt8.toNat_ofNat_of_lt'
    change _ < 256
    omega
  · apply UInt8.toNat_ofNat_of_lt'
    change _ < 256
    omega

/-- What stands for a number below sixteen is a digit. -/
theorem isDigit_digit {number : Nat} (small : number < 16) : IsDigit (digit number) := by
  rw [isDigit_iff, toNat_digit small]
  split <;> omega

/-- A digit that is made from a number has it as its value. -/
theorem value_digit {number : Nat} (small : number < 16) : value (digit number) = number := by
  rw [value_eq, toNat_digit small]
  by_cases decimal : number < 10
  · rw [if_pos decimal, if_pos (by omega)]
    omega
  · rw [if_neg decimal, if_neg (by omega), if_neg (by omega)]
    omega

/-- The capital of a byte in numbers. Only small letters change. -/
theorem toNat_upper (c : UInt8) :
    (upper c).toNat = if 0x61 ≤ c.toNat ∧ c.toNat ≤ 0x7A then c.toNat - 0x20 else c.toNat := by
  have lower : (0x61 ≤ c ∧ c ≤ 0x7A) ↔ (0x61 ≤ c.toNat ∧ c.toNat ≤ 0x7A) := by
    rw [UInt8.le_iff_toNat_le, UInt8.le_iff_toNat_le]
    rfl
  rw [upper]
  by_cases small : 0x61 ≤ c.toNat ∧ c.toNat ≤ 0x7A
  · rw [if_pos small, if_pos (lower.mpr small)]
    apply UInt8.toNat_sub_of_le
    rw [UInt8.le_iff_toNat_le]
    change 0x20 ≤ c.toNat
    omega
  · rw [if_neg small, if_neg (mt lower.mp small)]

/-- Writing the value of a digit gives its upper-case form. The three ranges of digits are gone
through one by one. -/
theorem digit_value {c : UInt8} (isDigit : IsDigit c) : digit (value c) = upper c := by
  have small := value_lt isDigit
  rw [isDigit_iff] at isDigit
  apply UInt8.toNat_inj.mp
  rw [toNat_digit small, toNat_upper]
  rcases isDigit with decimal | lower | capital
  · have number : value c = c.toNat - 0x30 := by
      rw [value_eq, if_pos decimal.2]
    rw [number, if_pos (by omega), if_neg (by omega)]
    omega
  · have number : value c = c.toNat - 0x61 + 10 := by
      rw [value_eq, if_neg (by omega), if_pos lower.1]
    rw [number, if_neg (by omega), if_pos (by omega)]
    omega
  · have number : value c = c.toNat - 0x41 + 10 := by
      rw [value_eq, if_neg (by omega), if_neg (by omega)]
    rw [number, if_neg (by omega), if_neg (by omega)]
    omega

/-! ## Bytes as pairs of digits -/

/-- Two upper-case digits for each byte. -/
def encode (bytes : List UInt8) : List UInt8 :=
  bytes.flatMap fun byte => [digit (byte.toNat / 16), digit (byte.toNat % 16)]

/-- The byte each pair of digits stands for. -/
def decode : List UInt8 → List UInt8
  | high :: low :: rest => UInt8.ofNat (16 * value high + value low) :: decode rest
  | _ => []

/-- Two digits are written for each byte. -/
@[simp] theorem length_encode (bytes : List UInt8) : (encode bytes).length = 2 * bytes.length := by
  induction bytes with
  | nil => rfl
  | cons byte rest inductionHypothesis =>
    rw [encode, List.flatMap_cons, ← encode, List.length_append, inductionHypothesis]
    simp only [List.length_cons, List.length_nil]
    omega

/-- Only digits are written. -/
theorem isDigit_encode (bytes : List UInt8) : ∀ c ∈ encode bytes, IsDigit c := by
  intro c member
  obtain ⟨byte, _, pair⟩ := List.mem_flatMap.mp member
  have bound := byte.toNat_lt
  simp only [List.mem_cons, List.not_mem_nil, or_false] at pair
  rcases pair with rfl | rfl
  · exact isDigit_digit (by omega)
  · exact isDigit_digit (by omega)

/-- Bytes written are read back. -/
theorem decode_encode (bytes : List UInt8) : decode (encode bytes) = bytes := by
  induction bytes with
  | nil => rfl
  | cons byte rest inductionHypothesis =>
    have bound := byte.toNat_lt
    have whole : 16 * (byte.toNat / 16) + byte.toNat % 16 = byte.toNat := by omega
    rw [encode, List.flatMap_cons, ← encode, List.cons_append, List.cons_append, List.nil_append,
      decode, value_digit (by omega), value_digit (by omega), inductionHypothesis, whole,
      UInt8.ofNat_toNat]

/-- A text of one pair more starts with a pair. -/
theorem exists_pair {pairs : Nat} {text : List UInt8} (even : text.length = 2 * (pairs + 1)) :
    ∃ high low rest, text = high :: low :: rest ∧ rest.length = 2 * pairs := by
  rcases text with _ | ⟨high, _ | ⟨low, rest⟩⟩
  · simp at even
  · simp only [List.length_cons, List.length_nil] at even
    omega
  · simp only [List.length_cons] at even
    exact ⟨high, low, rest, rfl, by omega⟩

/-- A text of pairs of digits is written back in upper case. The induction is on the pairs, each
of which is one byte. -/
theorem encode_decode (pairs : Nat) (text : List UInt8) (even : text.length = 2 * pairs)
    (digits : ∀ c ∈ text, IsDigit c) : encode (decode text) = text.map upper := by
  induction pairs generalizing text with
  | zero =>
    have empty : text = [] := List.eq_nil_of_length_eq_zero (by omega)
    subst empty
    rfl
  | succ pairs inductionHypothesis =>
    obtain ⟨high, low, rest, rfl, evenRest⟩ := exists_pair even
    have highDigit : IsDigit high := digits high (by simp)
    have lowDigit : IsDigit low := digits low (by simp)
    have highSmall := value_lt highDigit
    have lowSmall := value_lt lowDigit
    have byte : (UInt8.ofNat (16 * value high + value low)).toNat = 16 * value high + value low := by
      apply UInt8.toNat_ofNat_of_lt'
      change _ < 256
      omega
    have upperHalf : (16 * value high + value low) / 16 = value high := by omega
    have lowerHalf : (16 * value high + value low) % 16 = value low := by omega
    have later := inductionHypothesis rest evenRest fun c member => digits c (by simp [member])
    rw [decode, encode, List.flatMap_cons, ← encode, later, byte, upperHalf, lowerHalf,
      digit_value highDigit, digit_value lowDigit]
    rfl

/-! ## Integers at the start of a text -/

/-- The characters `isspace` accepts. -/
def isSpace (c : UInt8) : Bool :=
  c = 0x20 || (0x09 ≤ c && c ≤ 0x0D)

/-- Pass over `0x` or `0X` if a digit follows. -/
def skipPrefix : List UInt8 → List UInt8
  | zero :: x :: next :: rest =>
      if zero = 0x30 ∧ (x = 0x78 ∨ x = 0x58) ∧ IsDigit next then next :: rest
      else zero :: x :: next :: rest
  | text => text

/-- The number that the digits at the start of a text stand for, if there are any. -/
def parseDigits (text : List UInt8) : Option Nat :=
  match (skipPrefix text).takeWhile (IsDigit ·) with
  | [] => none
  | digits => some (digits.foldl (fun number c => 16 * number + value c) 0)

/-- The integer in base 16 at the start of a text, behind spaces and a sign. -/
def parse (text : List UInt8) : Option Int :=
  match text.dropWhile isSpace with
  | [] => none
  | first :: rest =>
      if first = 0x2D then (parseDigits rest).map fun number => -(number : Int)
      else if first = 0x2B then (parseDigits rest).map fun number => (number : Int)
      else (parseDigits (first :: rest)).map fun number => (number : Int)

/-- What is left behind the integer, or the whole text without one. -/
def unparsed (text : List UInt8) : List UInt8 :=
  match text.dropWhile isSpace with
  | [] => text
  | first :: rest =>
      let body := if first = 0x2D ∨ first = 0x2B then rest else first :: rest
      match parseDigits body with
      | none => text
      | some _ => (skipPrefix body).dropWhile (IsDigit ·)

/-- A digit is neither a space nor a sign. The parsers of numbers skip these before they read, so
nothing is skipped in front of a digit. -/
theorem digit_plain {c : UInt8} (isDigit : IsDigit c) :
    isSpace c = false ∧ c ≠ 0x2D ∧ c ≠ 0x2B := by
  have large : 0x30 ≤ c := by
    rw [isDigit_iff] at isDigit
    rw [UInt8.le_iff_toNat_le]
    change 0x30 ≤ c.toNat
    omega
  refine ⟨?_, ?_, ?_⟩
  · rw [isSpace, Bool.or_eq_false_iff, Bool.and_eq_false_iff]
    constructor
    · apply decide_eq_false
      rintro rfl
      exact absurd large (by decide)
    · apply Or.inr
      apply decide_eq_false
      intro small
      exact absurd (UInt8.le_trans large small) (by decide)
  · rintro rfl
    exact absurd isDigit (by decide)
  · rintro rfl
    exact absurd isDigit (by decide)

/-- Two digits are read as their value. -/
theorem parse_pair {high low : UInt8} (highDigit : IsDigit high) (lowDigit : IsDigit low) :
    parse [high, low] = some ((16 * value high + value low : Nat) : Int) := by
  obtain ⟨notSpace, notMinus, notPlus⟩ := digit_plain highDigit
  have whole : skipPrefix [high, low] = [high, low] := rfl
  rw [parse, List.dropWhile_cons_of_neg (by simp [notSpace])]
  simp [notMinus, notPlus, parseDigits, whole, highDigit, lowDigit]

/-- Nothing is left behind two digits. -/
theorem unparsed_pair {high low : UInt8} (highDigit : IsDigit high) (lowDigit : IsDigit low) :
    unparsed [high, low] = [] := by
  obtain ⟨notSpace, notMinus, notPlus⟩ := digit_plain highDigit
  have whole : skipPrefix [high, low] = [high, low] := rfl
  rw [unparsed, List.dropWhile_cons_of_neg (by simp [notSpace])]
  simp [notMinus, notPlus, parseDigits, whole, highDigit, lowDigit]

end Hexadecimal
