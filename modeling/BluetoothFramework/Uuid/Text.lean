import BluetoothFramework.Library.Hexadecimal
import BluetoothFramework.Uuid.KeyOrder

/-!
# UUIDs as text

`UUID` of the API is written as 32 upper-case digits in five groups, and read from digits
of either case. `Uuid` of the IPC layer is read from the same text by a routine of its
own. Both remove the dashes one by one and read two digits at a time; neither counts the
bytes it stores, and the second reads with `std::stoi`, which may throw. So a conversion
here either gives a UUID or says what went wrong.
-/

namespace BluetoothFramework

open Hexadecimal

/-- What may go wrong in a conversion from text. -/
inductive TextFault where
  /-- A byte is stored behind the array. -/
  | outOfBounds
  /-- `std::stoi` throws `std::invalid_argument`. -/
  | invalidArgument
  /-- `std::stoi` throws `std::out_of_range`. -/
  | outOfRange
deriving DecidableEq, Repr

/-- The character `-`. -/
def dash : UInt8 := 0x2D

/-- `UUID_STRING_LENGTH` -/
def uuidStringLength : Nat := 36

/-- `IS_DASH_POSITION` -/
def isDashPosition : List Bool :=
  [false, false, false, false, false, false, false, false, true,
    false, false, false, false, true,
    false, false, false, false, true,
    false, false, false, false, true,
    false, false, false, false, false, false, false, false, false, false, false, false]

/-- The loop body of `IsValidUuid` at one position. -/
def isValidAt (position : Bool × UInt8) : Bool :=
  if position.1 then position.2 = dash else IsDigit position.2

/-- `IsValidUuid` -/
def isValidUuid (uuid : List UInt8) : Bool :=
  uuid.length = uuidStringLength && (isDashPosition.zip uuid).all isValidAt

/-- The loop that replaces each dash by nothing. -/
def removeDashes (tmp : List UInt8) : List UInt8 :=
  match _found : tmp.findIdx? (· = dash) with
  | none => tmp
  | some pos => removeDashes (tmp.eraseIdx pos)
termination_by tmp.length
decreasing_by
  have inside := (List.findIdx?_eq_some_iff_getElem.mp _found).1
  rw [List.length_eraseIdx_of_lt inside]
  omega

/-- `std::strtol` in base 16, with no value where it reports `ERANGE`. -/
def strtol (text : List UInt8) : Option Int :=
  match parse text with
  | none => some 0
  | some num => if -2 ^ 63 ≤ num ∧ num < 2 ^ 63 then some num else none

/-- `std::stoi` in base 16. -/
def stoi (text : List UInt8) : Except TextFault Int :=
  match parse text with
  | none => throw .invalidArgument
  | some num => if -2 ^ 31 ≤ num ∧ num < 2 ^ 31 then pure num else throw .outOfRange

/-- Store a byte of the array. -/
def store (uuid : Vector UInt8 16) (i : Nat) (byte : UInt8) : Except TextFault (Vector UInt8 16) :=
  if _inside : i < 16 then pure (uuid.set i byte) else throw .outOfBounds

/-- The loop over pairs of characters, with the index of the byte; it ends early where a
pair has no number. -/
def storePairs (convert : List UInt8 → Except TextFault (Option Int)) :
    Nat → List UInt8 → Vector UInt8 16 → Except TextFault (Vector UInt8 16)
  | i, first :: second :: rest, uuid => do
      match ← convert [first, second] with
      | none => pure uuid
      | some num => do
          let uuid ← store uuid i (UInt8.ofInt num)
          storePairs convert (i + 1) rest uuid
  | _, _, uuid => pure uuid

/-- `UUID::FromString` -/
def UUID.fromString (name : List UInt8) : Except TextFault UUID :=
  let ret : UUID := {}
  if name.isEmpty || !isValidUuid name then pure ret
  else do
    let uuid ← storePairs (fun text => pure (strtol text)) 0 (removeDashes name) ret.uuid
    pure ⟨uuid⟩

/-- The character of `hex` for four bits. -/
def hexCharacter (bits : UInt8) : UInt8 :=
  [0x30, 0x31, 0x32, 0x33, 0x34, 0x35, 0x36, 0x37, 0x38, 0x39,
    0x41, 0x42, 0x43, 0x44, 0x45, 0x46].getD bits.toNat 0

/-- The groups of a text with dashes between them. -/
def withDashes (tmp : List UInt8) : List UInt8 :=
  tmp.take 8 ++ [dash] ++ (tmp.drop 8).take 4 ++ [dash] ++ (tmp.drop 12).take 4 ++ [dash] ++
    (tmp.drop 16).take 4 ++ [dash] ++ tmp.drop 20

/-- `UUID::ToString` -/
def UUID.toString (self : UUID) : List UInt8 :=
  withDashes (self.uuid.toList.foldl (fun tmp (byte : UInt8) =>
    tmp ++ [hexCharacter ((byte >>> 4) &&& 0xF)] ++ [hexCharacter (byte &&& 0xF)]) [])

/-- `UUID::ConvertTo128Bits` -/
def UUID.convertTo128Bits (self : UUID) : Vector UInt8 16 :=
  Vector.ofFn fun i => self.uuid.get i

/-- `Uuid::ConvertFromString` -/
def Uuid.convertFromString (name : List UInt8) : Except TextFault Uuid := do
  let ret : Uuid := {}
  let uuid ← storePairs (fun text => some <$> stoi text) 0 (removeDashes name) ret.uuid
  pure ⟨uuid⟩

/-- `Uuid::ConvertTo128Bits` -/
def Uuid.convertTo128Bits (self : Uuid) : Vector UInt8 16 :=
  self.uuid

/-! ## The shape of a valid text -/

/-- Removing the dashes one by one removes them all. The loop looks for the first dash again
after each removal, and ends when there is none. -/
theorem removeDashes_eq (tmp : List UInt8) : removeDashes tmp = tmp.filter (· ≠ dash) := by
  rw [removeDashes]
  split
  · rename_i absent
    symm
    rw [List.filter_eq_self]
    intro c member
    simpa using List.findIdx?_eq_none_iff.mp absent c member
  · rename_i pos found
    obtain ⟨inside, here, _⟩ := List.findIdx?_eq_some_iff_getElem.mp found
    have shorter : (tmp.eraseIdx pos).length < tmp.length := by
      rw [List.length_eraseIdx_of_lt inside]
      omega
    have whole : tmp = tmp.take pos ++ tmp[pos] :: tmp.drop (pos + 1) := by simp
    rw [removeDashes_eq (tmp.eraseIdx pos), List.eraseIdx_eq_take_drop_succ, List.filter_append]
    conv_rhs => rw [whole]
    rw [List.filter_append, List.filter_cons_of_neg (by simpa using here)]
termination_by tmp.length

/-- Five groups with dashes between them. -/
def grouped (a b c d e : List UInt8) : List UInt8 :=
  a ++ dash :: (b ++ dash :: (c ++ dash :: (d ++ dash :: e)))

/-- Thirty-two digits in five groups. -/
structure Groups (a b c d e : List UInt8) : Prop where
  lengths : a.length = 8 ∧ b.length = 4 ∧ c.length = 4 ∧ d.length = 4 ∧ e.length = 12
  digits : ∀ x ∈ a ++ b ++ c ++ d ++ e, IsDigit x

/-- Five groups of the right lengths with dashes between them are the text of their digits. -/
theorem withDashes_append {a b c d e : List UInt8}
    (lengths : a.length = 8 ∧ b.length = 4 ∧ c.length = 4 ∧ d.length = 4 ∧ e.length = 12) :
    withDashes (a ++ b ++ c ++ d ++ e) = grouped a b c d e := by
  obtain ⟨la, lb, lc, ld, le⟩ := lengths
  simp [withDashes, grouped, List.drop_append, List.drop_eq_nil_of_le, la, lb, lc, ld]

/-- A digit is no dash. -/
theorem ne_dash_of_isDigit {x : UInt8} (isDigit : IsDigit x) : x ≠ dash := by
  rintro rfl
  exact absurd isDigit (by decide)

/-- Removing the dashes of a grouped text leaves its digits. -/
theorem removeDashes_grouped {a b c d e : List UInt8} (groups : Groups a b c d e) :
    removeDashes (grouped a b c d e) = a ++ b ++ c ++ d ++ e := by
  have kept : (a ++ b ++ c ++ d ++ e).filter (· ≠ dash) = a ++ b ++ c ++ d ++ e := by
    rw [List.filter_eq_self]
    intro x member
    simpa using ne_dash_of_isDigit (groups.digits x member)
  have removed : [dash].filter (· ≠ dash) = [] := rfl
  rw [removeDashes_eq]
  conv_rhs => rw [← kept]
  simp [grouped, List.filter_append]

/-- A group is accepted exactly if all its characters are digits. -/
theorem all_zip_digits (group : List UInt8) :
    (List.zip (List.replicate group.length false) group).all isValidAt = true ↔
      ∀ x ∈ group, IsDigit x := by
  induction group with
  | nil => simp
  | cons x rest inductionHypothesis =>
    rw [List.length_cons, List.replicate_succ, List.zip_cons_cons, List.all_cons, Bool.and_eq_true,
      inductionHypothesis, List.forall_mem_cons]
    simp [isValidAt]

/-- The positions of five groups with four characters between them: the table asks for a dash at
exactly these four, and for a digit everywhere else. -/
theorem all_zip_positions {a b c d e : List UInt8}
    (lengths : a.length = 8 ∧ b.length = 4 ∧ c.length = 4 ∧ d.length = 4 ∧ e.length = 12)
    (w x y z : UInt8) :
    (isDashPosition.zip (a ++ w :: (b ++ x :: (c ++ y :: (d ++ z :: e))))).all isValidAt = true ↔
      (w = dash ∧ x = dash ∧ y = dash ∧ z = dash) ∧ ∀ q ∈ a ++ b ++ c ++ d ++ e, IsDigit q := by
  obtain ⟨la, lb, lc, ld, le⟩ := lengths
  have positions : isDashPosition = List.replicate a.length false ++ true ::
      (List.replicate b.length false ++ true :: (List.replicate c.length false ++ true ::
        (List.replicate d.length false ++ true :: List.replicate e.length false))) := by
    rw [la, lb, lc, ld, le]
    rfl
  have split (group rest : List UInt8) (further : List Bool) :
      ((List.replicate group.length false ++ further).zip (group ++ rest)).all isValidAt = true ↔
        (∀ q ∈ group, IsDigit q) ∧ (further.zip rest).all isValidAt = true := by
    rw [List.zip_append (by simp), List.all_append, Bool.and_eq_true, all_zip_digits]
  have mark (q : UInt8) (rest : List UInt8) (further : List Bool) :
      ((true :: further).zip (q :: rest)).all isValidAt = true ↔
        q = dash ∧ (further.zip rest).all isValidAt = true := by
    simp [isValidAt]
  rw [positions, split, mark, split, mark, split, mark, split, mark, all_zip_digits]
  simp only [List.mem_append]
  constructor
  · rintro ⟨ha, hw, hb, hx, hc, hy, hd, hz, he⟩
    refine ⟨⟨hw, hx, hy, hz⟩, ?_⟩
    rintro q ((((inA | inB) | inC) | inD) | inE)
    · exact ha q inA
    · exact hb q inB
    · exact hc q inC
    · exact hd q inD
    · exact he q inE
  · rintro ⟨⟨hw, hx, hy, hz⟩, digits⟩
    exact ⟨fun q inA => digits q (by simp [inA]), hw, fun q inB => digits q (by simp [inB]), hx,
      fun q inC => digits q (by simp [inC]), hy, fun q inD => digits q (by simp [inD]), hz,
      fun q inE => digits q (by simp [inE])⟩

/-- A valid text is thirty-two digits in five groups. This is the form that the conversions need,
since they take the dashes out and read the digits in pairs. -/
theorem isValidUuid_iff_groups (uuid : List UInt8) :
    isValidUuid uuid = true ↔ ∃ a b c d e, Groups a b c d e ∧ uuid = grouped a b c d e := by
  rw [isValidUuid, Bool.and_eq_true, decide_eq_true_eq]
  constructor
  · rintro ⟨length, positions⟩
    have cut (text : List UInt8) (size : Nat) (inside : size < text.length) :
        ∃ group x rest, text = group ++ x :: rest ∧ group.length = size := by
      refine ⟨text.take size, text[size], text.drop (size + 1), by simp, ?_⟩
      exact List.length_take_of_le (Nat.le_of_lt inside)
    rw [uuidStringLength] at length
    obtain ⟨a, w, afterA, rfl, la⟩ := cut uuid 8 (by omega)
    rw [List.length_append, List.length_cons] at length
    obtain ⟨b, x, afterB, rfl, lb⟩ := cut afterA 4 (by omega)
    rw [List.length_append, List.length_cons] at length
    obtain ⟨c, y, afterC, rfl, lc⟩ := cut afterB 4 (by omega)
    rw [List.length_append, List.length_cons] at length
    obtain ⟨d, z, e, rfl, ld⟩ := cut afterC 4 (by omega)
    rw [List.length_append, List.length_cons] at length
    have lengths : a.length = 8 ∧ b.length = 4 ∧ c.length = 4 ∧ d.length = 4 ∧ e.length = 12 :=
      ⟨la, lb, lc, ld, by omega⟩
    obtain ⟨⟨rfl, rfl, rfl, rfl⟩, digits⟩ := (all_zip_positions lengths w x y z).mp positions
    exact ⟨a, b, c, d, e, ⟨lengths, digits⟩, rfl⟩
  · rintro ⟨a, b, c, d, e, ⟨lengths, digits⟩, rfl⟩
    constructor
    · obtain ⟨la, lb, lc, ld, le⟩ := lengths
      simp [grouped, uuidStringLength, la, lb, lc, ld, le]
    · exact (all_zip_positions lengths dash dash dash dash).mpr ⟨⟨rfl, rfl, rfl, rfl⟩, digits⟩

/-- A valid text, position by position, as the table of the source says it: a dash at four places
and a digit at the others. -/
theorem isValidUuid_iff (uuid : List UInt8) :
    isValidUuid uuid = true ↔ uuid.length = 36 ∧
      ∀ i : Fin uuid.length, if i.val = 8 ∨ i.val = 13 ∨ i.val = 18 ∨ i.val = 23
        then uuid.get i = dash else IsDigit (uuid.get i) := by
  rw [isValidUuid, Bool.and_eq_true, decide_eq_true_eq, uuidStringLength]
  apply and_congr_right
  intro length
  have table : ∀ i, (inside : i < isDashPosition.length) →
      isDashPosition[i] = decide (i = 8 ∨ i = 13 ∨ i = 18 ∨ i = 23) := by
    decide
  have positions : isDashPosition.length = 36 := rfl
  have position (i : Nat) (c : UInt8) :
      isValidAt (decide (i = 8 ∨ i = 13 ∨ i = 18 ∨ i = 23), c) = true ↔
        if i = 8 ∨ i = 13 ∨ i = 18 ∨ i = 23 then c = dash else IsDigit c := by
    by_cases here : i = 8 ∨ i = 13 ∨ i = 18 ∨ i = 23 <;> simp [isValidAt, here]
  rw [List.all_eq_true, List.forall_mem_iff_forall_getElem]
  constructor
  · intro valid i
    have inside : i.val < (isDashPosition.zip uuid).length := by
      have inText := i.isLt
      rw [List.length_zip]
      omega
    have here := valid i.val inside
    rw [List.getElem_zip, table] at here
    exact (position i.val _).mp here
  · intro valid i inside
    have inText : i < uuid.length := by
      rw [List.length_zip] at inside
      omega
    rw [List.getElem_zip, table]
    exact (position i _).mpr (valid ⟨i, inText⟩)

/-! ## Storing the bytes -/

/-- Storing the bytes of pairs of digits one after another. The bytes before and behind those
that are stored stay, so that what one turn has stored is still there after the others. -/
theorem storePairs_eq (convert : List UInt8 → Except TextFault (Option Int))
    (converts : ∀ high low, IsDigit high → IsDigit low →
      convert [high, low] = pure (some ((16 * value high + value low : Nat) : Int)))
    (pairs i : Nat) (text : List UInt8) (uuid : Vector UInt8 16) (length : text.length = 2 * pairs)
    (digits : ∀ c ∈ text, IsDigit c) (fits : i + pairs ≤ 16) :
    ∃ stored, storePairs convert i text uuid = pure stored ∧
      stored.toList = uuid.toList.take i ++ decode text ++ uuid.toList.drop (i + pairs) := by
  induction pairs generalizing i text uuid with
  | zero =>
    have empty : text = [] := List.eq_nil_of_length_eq_zero (by omega)
    subst empty
    refine ⟨uuid, rfl, ?_⟩
    simp [decode]
  | succ pairs inductionHypothesis =>
    obtain ⟨high, low, rest, rfl, lengthRest⟩ := exists_pair length
    have inside : i < 16 := by omega
    let byte := UInt8.ofNat (16 * value high + value low)
    obtain ⟨stored, loop, bytes⟩ := inductionHypothesis (i + 1) rest (uuid.set i byte) lengthRest
      (fun c member => digits c (by simp [member])) (by omega)
    refine ⟨stored, ?_, ?_⟩
    · have narrowed : UInt8.ofInt ((16 * value high + value low : Nat) : Int) = byte := by
        apply UInt8.toNat_inj.mp
        simp [UInt8.ofInt, byte]
        omega
      rw [storePairs, converts high low (digits high (by simp)) (digits low (by simp))]
      simp only [pure_bind, narrowed]
      rw [store, dif_pos inside, pure_bind]
      exact loop
    · have size : uuid.toList.length = 16 := Vector.length_toList
      have taken : (uuid.toList.set i byte).take (i + 1) = uuid.toList.take i ++ [byte] := by
        rw [List.set_eq_take_append_cons_drop, if_pos (by omega), List.take_append,
          List.length_take_of_le (by omega)]
        simp [List.take_take]
      rw [bytes, decode, Vector.toList_set, taken, List.drop_set_of_lt (by omega), List.append_assoc,
        List.append_assoc, List.append_assoc, Nat.add_assoc, Nat.add_comm 1 pairs]
      rfl

/-- The bytes a routine reads from a valid text are those its digits stand for. Both routines are
cases of it, as they differ in the conversion of a pair only. -/
theorem storePairs_grouped (convert : List UInt8 → Except TextFault (Option Int))
    (converts : ∀ high low, IsDigit high → IsDigit low →
      convert [high, low] = pure (some ((16 * value high + value low : Nat) : Int)))
    {a b c d e : List UInt8} (groups : Groups a b c d e) (uuid : Vector UInt8 16) :
    ∃ stored, storePairs convert 0 (removeDashes (grouped a b c d e)) uuid = pure stored ∧
      stored.toList = decode (a ++ b ++ c ++ d ++ e) := by
  have length : (a ++ b ++ c ++ d ++ e).length = 2 * 16 := by
    obtain ⟨la, lb, lc, ld, le⟩ := groups.lengths
    simp [la, lb, lc, ld, le]
  have size : uuid.toList.length = 16 := Vector.length_toList
  obtain ⟨stored, loop, bytes⟩ := storePairs_eq convert converts 16 0 _ uuid length groups.digits
    (by decide)
  refine ⟨stored, ?_, ?_⟩
  · rw [removeDashes_grouped groups]
    exact loop
  · rw [bytes, List.take_zero, List.nil_append, List.drop_eq_nil_of_le (by omega), List.append_nil]

/-- Two digits are read as the number that they stand for, the first one being worth sixteen
times as much. -/
theorem strtol_pair (high low : UInt8) (highDigit : IsDigit high) (lowDigit : IsDigit low) :
    strtol [high, low] = some ((16 * value high + value low : Nat) : Int) := by
  have highSmall := value_lt highDigit
  have lowSmall := value_lt lowDigit
  rw [strtol, parse_pair highDigit lowDigit]
  dsimp only
  rw [if_pos (by omega)]

/-- Two digits are within the bounds of an integer, so `stoi` gives their number and does not
throw. -/
theorem stoi_pair (high low : UInt8) (highDigit : IsDigit high) (lowDigit : IsDigit low) :
    stoi [high, low] = pure ((16 * value high + value low : Nat) : Int) := by
  have highSmall := value_lt highDigit
  have lowSmall := value_lt lowDigit
  rw [stoi, parse_pair highDigit lowDigit]
  dsimp only
  rw [if_pos (by omega)]

/-- `FromString` of a valid text. -/
theorem UUID.fromString_grouped {a b c d e : List UInt8} (groups : Groups a b c d e) :
    ∃ uuid : UUID, UUID.fromString (grouped a b c d e) = .ok uuid ∧
      uuid.uuid.toList = decode (a ++ b ++ c ++ d ++ e) := by
  obtain ⟨stored, loop, bytes⟩ := storePairs_grouped (fun text => pure (strtol text))
    (fun high low highDigit lowDigit => congrArg pure (strtol_pair high low highDigit lowDigit)) groups
    ({} : UUID).uuid
  have valid : isValidUuid (grouped a b c d e) = true :=
    (isValidUuid_iff_groups _).mpr ⟨a, b, c, d, e, groups, rfl⟩
  have nonempty : (grouped a b c d e).isEmpty = false := by
    cases a <;> rfl
  refine ⟨⟨stored⟩, ?_, bytes⟩
  rw [UUID.fromString, valid, nonempty]
  simp only [Bool.not_true, Bool.or_self, Bool.false_eq_true, if_false]
  rw [loop]
  rfl

/-- `ConvertFromString` of a valid text. -/
theorem Uuid.convertFromString_grouped {a b c d e : List UInt8} (groups : Groups a b c d e) :
    ∃ uuid : Uuid, Uuid.convertFromString (grouped a b c d e) = .ok uuid ∧
      uuid.uuid.toList = decode (a ++ b ++ c ++ d ++ e) := by
  obtain ⟨stored, loop, bytes⟩ := storePairs_grouped (fun text => some <$> stoi text)
    (fun high low highDigit lowDigit => by rw [stoi_pair high low highDigit lowDigit]; rfl) groups
    ({} : Uuid).uuid
  refine ⟨⟨stored⟩, ?_, bytes⟩
  rw [Uuid.convertFromString]
  dsimp only
  rw [loop]
  rfl

/-! ## Writing -/

/-- The character of four bits is their digit. -/
theorem hexCharacter_eq (bits : UInt8) (small : bits.toNat < 16) :
    hexCharacter bits = digit bits.toNat := by
  have table : ∀ number < 16, [0x30, 0x31, 0x32, 0x33, 0x34, 0x35, 0x36, 0x37, 0x38, 0x39,
      0x41, 0x42, 0x43, 0x44, 0x45, 0x46].getD number (0 : UInt8) = digit number := by
    decide
  exact table bits.toNat small

/-- The two characters of a byte. -/
theorem hexCharacters_byte (byte : UInt8) :
    hexCharacter ((byte >>> 4) &&& 0xF) = digit (byte.toNat / 16) ∧
      hexCharacter (byte &&& 0xF) = digit (byte.toNat % 16) := by
  have bound := byte.toNat_lt
  have high : ((byte >>> 4) &&& 0xF).toNat = byte.toNat / 16 := by
    have masked : byte.toNat / 16 &&& 0xF = byte.toNat / 16 % 16 := Nat.and_two_pow_sub_one_eq_mod _ 4
    simp [Nat.shiftRight_eq_div_pow, masked]
    omega
  have low : (byte &&& 0xF).toNat = byte.toNat % 16 :=
    Nat.and_two_pow_sub_one_eq_mod _ 4
  rw [hexCharacter_eq _ (by omega), hexCharacter_eq _ (by omega), high, low]
  exact ⟨rfl, rfl⟩

/-- `ToString` writes the digits of the bytes in groups. -/
theorem UUID.toString_eq (self : UUID) : self.toString = withDashes (encode self.uuid.toList) := by
  have pushed (bytes tmp : List UInt8) : bytes.foldl (fun tmp (byte : UInt8) =>
      tmp ++ [hexCharacter ((byte >>> 4) &&& 0xF)] ++ [hexCharacter (byte &&& 0xF)]) tmp =
        tmp ++ encode bytes := by
    induction bytes generalizing tmp with
    | nil => simp [encode]
    | cons byte rest inductionHypothesis =>
      obtain ⟨high, low⟩ := hexCharacters_byte byte
      rw [List.foldl_cons, inductionHypothesis, high, low, encode, encode, List.flatMap_cons,
        List.append_assoc, List.append_assoc]
      rfl
  rw [UUID.toString, pushed, List.nil_append]

/-- Thirty-two digits can be cut into the five groups. The cuts are at fixed places, so every
such list of digits is the list of one text. -/
theorem digits_in_groups (digits : List UInt8) (length : digits.length = 32)
    (all : ∀ c ∈ digits, IsDigit c) :
    ∃ a b c d e, Groups a b c d e ∧ digits = a ++ b ++ c ++ d ++ e := by
  refine ⟨digits.take 8, (digits.drop 8).take 4, (digits.drop 12).take 4, (digits.drop 16).take 4,
    digits.drop 20, ?_⟩
  have joined : digits = digits.take 8 ++ (digits.drop 8).take 4 ++ (digits.drop 12).take 4 ++
      (digits.drop 16).take 4 ++ digits.drop 20 := by
    have cut (start : Nat) :
        (digits.drop start).take 4 ++ digits.drop (start + 4) = digits.drop start := by
      rw [← List.drop_drop, List.take_append_drop]
    rw [List.append_assoc, cut 16, List.append_assoc, cut 12, List.append_assoc, cut 8,
      List.take_append_drop]
  refine ⟨⟨?_, ?_⟩, joined⟩
  · simp [length]
  · rw [← joined]
    exact all

/-- The text of a UUID is valid, and its digits stand for its bytes. -/
theorem UUID.toString_grouped (self : UUID) :
    ∃ a b c d e, Groups a b c d e ∧ self.toString = grouped a b c d e ∧
      decode (a ++ b ++ c ++ d ++ e) = self.uuid.toList := by
  have length : (encode self.uuid.toList).length = 32 := by
    rw [length_encode, Vector.length_toList]
  obtain ⟨a, b, c, d, e, groups, joined⟩ :=
    digits_in_groups _ length (isDigit_encode self.uuid.toList)
  refine ⟨a, b, c, d, e, groups, ?_, ?_⟩
  · rw [UUID.toString_eq, joined, withDashes_append groups.lengths]
  · rw [← joined, decode_encode]

/-- Two UUIDs with the same bytes are the same. -/
theorem UUID.eq_of_toList {first second : UUID} (same : first.uuid.toList = second.uuid.toList) :
    first = second := by
  cases first
  cases second
  exact congrArg UUID.mk (Vector.toList_inj.mp same)

/-- The text of a UUID is read back to it. -/
theorem UUID.fromString_toString (self : UUID) : UUID.fromString self.toString = .ok self := by
  obtain ⟨a, b, c, d, e, groups, text, bytes⟩ := self.toString_grouped
  obtain ⟨read, converted, stored⟩ := UUID.fromString_grouped groups
  rw [text, converted, UUID.eq_of_toList (stored.trans bytes)]

/-- A valid text is written back in upper case. -/
theorem UUID.toString_fromString (name : List UInt8) (valid : isValidUuid name = true) :
    ∃ uuid : UUID, UUID.fromString name = .ok uuid ∧ uuid.toString = name.map upper := by
  obtain ⟨a, b, c, d, e, groups, rfl⟩ := (isValidUuid_iff_groups name).mp valid
  obtain ⟨uuid, converted, stored⟩ := UUID.fromString_grouped groups
  obtain ⟨la, lb, lc, ld, le⟩ := groups.lengths
  have length : (a ++ b ++ c ++ d ++ e).length = 2 * 16 := by
    simp [la, lb, lc, ld, le]
  refine ⟨uuid, converted, ?_⟩
  rw [UUID.toString_eq, stored, encode_decode 16 _ length groups.digits]
  simp only [List.map_append]
  rw [withDashes_append (by simp [la, lb, lc, ld, le])]
  simp only [grouped, List.map_append, List.map_cons]
  rfl

/-- A text that is not valid gives the UUID of zeros, and not an error. -/
theorem UUID.fromString_invalid (name : List UInt8) (invalid : isValidUuid name = false) :
    UUID.fromString name = .ok {} := by
  rw [UUID.fromString, invalid]
  simp only [Bool.not_false, Bool.or_true, if_true]
  rfl

/-- The IPC layer reads the bytes of a UUID from its text. -/
theorem Uuid.convertFromString_toString (self : UUID) :
    ∃ uuid : Uuid, Uuid.convertFromString self.toString = .ok uuid ∧
      uuid.convertTo128Bits = self.convertTo128Bits := by
  obtain ⟨a, b, c, d, e, groups, text, bytes⟩ := self.toString_grouped
  obtain ⟨uuid, converted, stored⟩ := Uuid.convertFromString_grouped groups
  refine ⟨uuid, text ▸ converted, ?_⟩
  have same : uuid.uuid = self.uuid := Vector.toList_inj.mp (stored.trans bytes)
  rw [Uuid.convertTo128Bits, UUID.convertTo128Bits, same]
  apply Vector.ext
  intro i inside
  rw [Vector.getElem_ofFn]
  rfl

/-- The text form of UUIDs. `IsValidUuid` accepts the texts of 36 characters with dashes at
four positions and digits elsewhere; a UUID is read back from its text; a valid text is
written back in upper case, and any other gives the UUID of zeros; and the IPC layer
reads the same bytes from the text of a UUID, with no byte stored behind the array and no
exception. -/
theorem uuid_text_codec :
    (∀ name : List UInt8, isValidUuid name = true ↔ name.length = 36 ∧
      ∀ i : Fin name.length, if i.val = 8 ∨ i.val = 13 ∨ i.val = 18 ∨ i.val = 23
        then name.get i = dash else IsDigit (name.get i)) ∧
    (∀ uuid : UUID, UUID.fromString uuid.toString = .ok uuid) ∧
    (∀ name : List UInt8, ∃ uuid : UUID, UUID.fromString name = .ok uuid ∧
      if isValidUuid name then uuid.toString = name.map upper
      else uuid.uuid = Vector.replicate 16 0) ∧
    (∀ uuid : UUID, ∃ read : Uuid, Uuid.convertFromString uuid.toString = .ok read ∧
      read.convertTo128Bits = uuid.convertTo128Bits) := by
  refine ⟨isValidUuid_iff, UUID.fromString_toString, ?_, Uuid.convertFromString_toString⟩
  intro name
  by_cases valid : isValidUuid name = true
  · obtain ⟨uuid, converted, written⟩ := UUID.toString_fromString name valid
    exact ⟨uuid, converted, by rw [if_pos valid]; exact written⟩
  · have invalid : isValidUuid name = false := by simpa using valid
    exact ⟨{}, UUID.fromString_invalid name invalid, by rw [if_neg valid]⟩

end BluetoothFramework
