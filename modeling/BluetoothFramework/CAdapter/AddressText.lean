import BluetoothFramework.Library.Hexadecimal
import BluetoothFramework.Library.Strides
import BluetoothFramework.Common.Types

/-!
# The text of a device address

Three functions print the six bytes of an address as pairs of digits between colons, two of
them in the order of the array and `RawAddress` in reverse; two functions read such a text.
A function that reads is the list of its writes into the output, in order, so a write
outside the six bytes can be told.

`GetAddrFromString` counts its writes and not the bytes of its output; its index is an
`unsigned int`. `ConvertToUint8` stores a byte before it looks at what follows the digits.
`codecs_agree_iff` says which texts both read as they should; `Strides.Fits` is the
condition of the first, and the second needs six tokens to store anything at all.
-/

namespace BluetoothFramework.CAdapter

open Hexadecimal Relation

/-- The six bytes of an address. -/
abbrev Address : Type :=
  Vector UInt8 6

/-- A write into the output: the index and the byte. -/
abbrev Write : Type :=
  Nat × UInt8

/-- `':'` -/
def colon : UInt8 := 0x3A

/-- `BT_ADDRESS_STR_LEN` -/
def btAddressStrLen : Nat := 17

/-- `BT_ADDRESS_BYTE_LEN` -/
def btAddressByteLen : Nat := 6

/-- The output after the writes. -/
def store (out : Address) (writes : List Write) : Address :=
  writes.foldl (fun out write => out.setIfInBounds write.1 write.2) out

/-! ## Printing -/

/-- `"%02X"` for each byte, with `':'` between them. -/
def printBytes : List UInt8 → ByteString
  | [] => []
  | [last] => encode [last]
  | first :: next :: rest => encode [first] ++ colon :: printBytes (next :: rest)

/-- `ConvertAddr` -/
def convertAddr (addr : Address) : ByteString :=
  printBytes [addr[0], addr[1], addr[2], addr[3], addr[4], addr[5]]

/-- `GetAddrFromByte` -/
def getAddrFromByte (addr : Address) : ByteString :=
  printBytes [addr[0], addr[1], addr[2], addr[3], addr[4], addr[5]]

/-- `RawAddress::ConvertToString`, for a source of so many bytes as `size` says. -/
def convertToString (src : List UInt8) : ByteString :=
  match src with
  | napLow :: napHigh :: uap :: lapLow :: lapMiddle :: lapHigh :: _ =>
      printBytes [lapHigh, lapMiddle, lapLow, uap, napHigh, napLow]
  | _ => []

/-! ## `GetAddrFromString` -/

/-- The variables of `GetAddrFromString` and what it has written. -/
structure Reading where
  i : UInt32 := 0
  j : Nat := 0
  writes : List Write := []
deriving DecidableEq

/-- One turn of its loop, as long as there is one. -/
def Reading.turn (text : ByteString) (reading : Reading) : Option Reading :=
  match text[reading.i.toNat]? with
  | none => none
  | some c =>
      if c ≠ colon then
        let pair := (text.drop reading.i.toNat).take 2
        some
          { i := reading.i + 2 + 1
            j := reading.j + 1
            writes := reading.writes ++ [(reading.j, UInt8.ofInt ((parse pair).getD 0))] }
      else some { reading with i := reading.i + 1 }

/-- The turns that the loop has taken so far. -/
def Reading.Turns (text : ByteString) : Reading → Reading → Prop :=
  ReflTransGen fun before after => before.turn text = some after

/-- `GetAddrFromString` returns with these writes. -/
def GetAddrFromString (text : ByteString) (writes : List Write) : Prop :=
  ∃ last : Reading, Reading.Turns text {} last ∧ last.turn text = none ∧ last.writes = writes

/-! ## `RawAddress::ConvertToUint8` -/

/-- The tokens between colons, of a text and what the current token has so far. Behind a
colon at the very end there is none. -/
def tokens (current : ByteString) : ByteString → List ByteString
  | [] => if current = [] then [] else [current]
  | c :: rest => if c = colon then current :: tokens [] rest else tokens (current ++ [c]) rest

/-- `tmp[0]` is the end of the token. -/
def parsedWhole (token : ByteString) : Bool :=
  match unparsed token with
  | [] => true
  | next :: _ => next = 0

/-- The loop over the tokens, the last one first. The byte is stored before the check. A token
has at most twelve characters, so `strtol` does not leave a `long`. -/
def storeTokens (i : Nat) : List ByteString → List Write
  | [] => []
  | token :: rest =>
      (i, UInt8.ofInt ((parse token).getD 0)) :: if parsedWhole token then storeTokens (i + 1) rest else []

/-- `RawAddress::ConvertToUint8` -/
def convertToUint8 (address : ByteString) (isNull : Bool) (size : Nat) : List Write :=
  if isNull = false ∧ address.length = btAddressStrLen ∧ size ≥ btAddressByteLen then
    let token := tokens [] address
    if token.length ≠ btAddressByteLen then [] else storeTokens 0 token.reverse
  else []

/-! ## What is asked of the functions -/

/-- Six colon-separated groups of two hexadecimal digits. -/
def IsAddress (text : ByteString) : Prop :=
  text.length = btAddressStrLen ∧
    ∀ i ∈ List.range btAddressStrLen,
      if i % 3 = 2 then text[i]? = some colon else text[i]?.any (IsDigit ·) = true

instance (text : ByteString) : Decidable (IsAddress text) :=
  inferInstanceAs (Decidable (_ ∧ _))

/-- An address is read back from what is printed of it, and the two orders are opposite. -/
structure RoundTrips (addr : Address) : Prop where
  fromByte : ∃ writes, GetAddrFromString (getAddrFromByte addr) writes ∧ ∀ out, store out writes = addr
  fromAddr : ∃ writes, GetAddrFromString (convertAddr addr) writes ∧ ∀ out, store out writes = addr
  fromRaw : ∀ dst, store dst (convertToUint8 (convertToString addr.toList) false btAddressByteLen) = addr
  reversed : convertToString addr.toList = getAddrFromByte addr.reverse

/-- Reading a text writes inside the six bytes, and nothing if it is none of an address. -/
structure ReadSafely (text : ByteString) : Prop where
  fromString : ∀ reading : Reading, Reading.Turns text {} reading →
    ∀ write ∈ reading.writes, write.1 < btAddressByteLen
  toUint8 : ∀ isNull size, ∀ write ∈ convertToUint8 text isNull size, write.1 < btAddressByteLen
  unchanged : ¬ IsAddress text → ∀ isNull size dst, store dst (convertToUint8 text isNull size) = dst

/-- The colons cut the text into six tokens. -/
def SixTokens (text : ByteString) : Prop :=
  text.count colon + (if text.getLast? = some colon then 0 else 1) = btAddressByteLen

/-- The colons of a text are its gaps. -/
def isColon (c : UInt8) : Bool :=
  c = colon

/-! ## Printed addresses -/

/-- No hexadecimal digit is a colon, so digits are never taken for separators. -/
theorem digit_ne_colon {c : UInt8} (isDigit : IsDigit c) : c ≠ colon := by
  rintro rfl
  exact absurd isDigit (by decide)

/-- A byte that is widened and cut again is the byte. -/
theorem ofInt_toNat (byte : UInt8) : UInt8.ofInt byte.toNat = byte := by
  have bound := byte.toNat_lt
  apply UInt8.toNat_inj.mp
  simp only [UInt8.ofInt, UInt8.toNat_ofNat']
  omega

/-- A byte is printed as two digits, which are read as the byte. -/
theorem encode_byte (byte : UInt8) :
    ∃ high low, encode [byte] = [high, low] ∧ IsDigit high ∧ IsDigit low ∧
      UInt8.ofInt ((parse [high, low]).getD 0) = byte := by
  have bound := byte.toNat_lt
  have high : IsDigit (digit (byte.toNat / 16)) := isDigit_digit (by omega)
  have low : IsDigit (digit (byte.toNat % 16)) := isDigit_digit (by omega)
  have whole : 16 * (byte.toNat / 16) + byte.toNat % 16 = byte.toNat := by omega
  refine ⟨_, _, rfl, high, low, ?_⟩
  simp [parse_pair high low, value_digit (show byte.toNat / 16 < 16 by omega),
    value_digit (show byte.toNat % 16 < 16 by omega), whole, ofInt_toNat]

/-- The loop of `GetAddrFromString` reads the bytes that are left of a printed text. The
induction is on these bytes, and each of them is one turn over two digits and a colon. -/
theorem turns_printBytes {text : ByteString} (short : text.length + 3 < 2 ^ 32) (bytes : List UInt8)
    (reading : Reading) (left : text.drop reading.i.toNat = printBytes bytes) :
    ∃ last : Reading, Reading.Turns text reading last ∧ last.turn text = none ∧
      last.writes = reading.writes ++ (List.range' reading.j bytes.length).zip bytes := by
  induction bytes generalizing reading with
  | nil =>
    have ended : text[reading.i.toNat]? = none := by
      simpa [printBytes] using left
    refine ⟨reading, ReflTransGen.refl, ?_, by simp⟩
    simp [Reading.turn, ended]
  | cons byte rest inductionHypothesis =>
    obtain ⟨high, low, encoded, highDigit, lowDigit, value⟩ := encode_byte byte
    obtain ⟨more, split⟩ : ∃ more, printBytes (byte :: rest) = high :: low :: more := by
      cases rest with
      | nil => exact ⟨[], encoded⟩
      | cons next rest => exact ⟨_, by simp [printBytes, encoded]; rfl⟩
    have here : text[reading.i.toNat]? = some high := by
      have first := congrArg List.head? (left.trans split)
      simpa [List.head?_drop] using first
    have pair : (text.drop reading.i.toNat).take 2 = [high, low] := by
      simp [left, split]
    have inside : reading.i.toNat < text.length := (List.getElem?_eq_some_iff.mp here).1
    have index : (reading.i + 2 + 1).toNat = reading.i.toNat + 3 := by
      simp only [UInt32.toNat_add]
      have two : (2 : UInt32).toNat = 2 := rfl
      have one : (1 : UInt32).toNat = 1 := rfl
      omega
    have behind : text.drop (reading.i + 2 + 1).toNat = printBytes rest := by
      have dropped : (text.drop reading.i.toNat).drop 3 = printBytes rest := by
        cases rest with
        | nil => simp [left, printBytes, encoded]
        | cons next rest => simp [left, printBytes, encoded]
      simpa [index, List.drop_drop] using dropped
    obtain ⟨last, turns, ended, writes⟩ := inductionHypothesis
      { i := reading.i + 2 + 1, j := reading.j + 1, writes := reading.writes ++ [(reading.j, byte)] } behind
    refine ⟨last, turns.head ?_, ended, ?_⟩
    · simp only [Reading.turn, here, pair, value, if_pos (digit_ne_colon highDigit)]
    · simp [writes, List.range'_succ]

/-- Storing six bytes in order gives the address. -/
theorem store_bytes (out addr : Address) :
    store out ((List.range' 0 6).zip [addr[0], addr[1], addr[2], addr[3], addr[4], addr[5]]) =
      addr := by
  ext i within
  obtain rfl | rfl | rfl | rfl | rfl | rfl : i = 0 ∨ i = 1 ∨ i = 2 ∨ i = 3 ∨ i = 4 ∨ i = 5 := by omega
  all_goals simp [store, List.range']

/-- The tokens of a printed text. -/
theorem tokens_printBytes (first : UInt8) (rest : List UInt8) :
    tokens [] (printBytes (first :: rest)) = (first :: rest).map fun byte => encode [byte] := by
  induction rest generalizing first with
  | nil =>
    obtain ⟨high, low, encoded, highDigit, lowDigit, -⟩ := encode_byte first
    simp [printBytes, encoded, tokens, digit_ne_colon highDigit, digit_ne_colon lowDigit]
  | cons next rest inductionHypothesis =>
    obtain ⟨high, low, encoded, highDigit, lowDigit, -⟩ := encode_byte first
    simp [printBytes, encoded, tokens, digit_ne_colon highDigit, digit_ne_colon lowDigit, inductionHypothesis]

/-- Printed bytes are stored one after another. -/
theorem storeTokens_encode (i : Nat) (bytes : List UInt8) :
    storeTokens i (bytes.map fun byte => encode [byte]) =
      (List.range' i bytes.length).zip bytes := by
  induction bytes generalizing i with
  | nil => rfl
  | cons byte rest inductionHypothesis =>
    obtain ⟨high, low, encoded, highDigit, lowDigit, value⟩ := encode_byte byte
    have whole : parsedWhole [high, low] = true := by
      simp [parsedWhole, unparsed_pair highDigit lowDigit]
    simp [storeTokens, encoded, value, whole, inductionHypothesis, List.range'_succ]

/-- The length of a printed text. -/
theorem length_printBytes (first : UInt8) (rest : List UInt8) :
    (printBytes (first :: rest)).length = 3 * rest.length + 2 := by
  induction rest generalizing first with
  | nil => rfl
  | cons next rest inductionHypothesis =>
    simp only [printBytes, List.length_append, List.length_cons, inductionHypothesis, length_encode,
      List.length_nil]
    omega

/-- An address is the list of its six bytes, which a loop over it takes in this order. -/
theorem toList_address (addr : Address) :
    addr.toList = [addr[0], addr[1], addr[2], addr[3], addr[4], addr[5]] := by
  apply List.ext_getElem
  · simp
  · intro i within _
    have small : i < 6 := by simpa using within
    obtain rfl | rfl | rfl | rfl | rfl | rfl : i = 0 ∨ i = 1 ∨ i = 2 ∨ i = 3 ∨ i = 4 ∨ i = 5 := by omega
    all_goals simp

/-- Every address survives each way of printing and reading it. The printed text has six groups
of two digits, and all readers agree on such a text. -/
theorem roundTrips (addr : Address) : RoundTrips addr := by
  have short : (getAddrFromByte addr).length + 3 < 2 ^ 32 := by
    simp [getAddrFromByte, length_printBytes]
  obtain ⟨last, turns, ended, writes⟩ := turns_printBytes short
    [addr[0], addr[1], addr[2], addr[3], addr[4], addr[5]] {} rfl
  have read : ∃ writes, GetAddrFromString (getAddrFromByte addr) writes ∧
      ∀ out, store out writes = addr := by
    refine ⟨last.writes, ⟨last, turns, ended, rfl⟩, ?_⟩
    intro out
    simpa [writes] using store_bytes out addr
  have printed : convertToString addr.toList =
      printBytes [addr[5], addr[4], addr[3], addr[2], addr[1], addr[0]] := by
    rw [toList_address, convertToString]
  refine ⟨read, read, ?_, ?_⟩
  · intro dst
    have length : (convertToString addr.toList).length = btAddressStrLen := by
      rw [printed, length_printBytes]
      rfl
    have token := tokens_printBytes addr[5] [addr[4], addr[3], addr[2], addr[1], addr[0]]
    rw [convertToUint8, if_pos ⟨rfl, length, Nat.le_refl _⟩, printed, token]
    have stored := storeTokens_encode 0 [addr[0], addr[1], addr[2], addr[3], addr[4], addr[5]]
    simpa [btAddressByteLen] using (congrArg (store dst) stored).trans (store_bytes dst addr)
  · simp [printed, getAddrFromByte]

/-- Addresses that are printed alike are the same. -/
theorem getAddrFromByte_injective {first second : Address}
    (same : getAddrFromByte first = getAddrFromByte second) :
    first = second := by
  have printed : ∀ addr : Address, convertToString addr.reverse.toList = getAddrFromByte addr := by
    intro addr
    simpa using (roundTrips addr.reverse).reversed
  have read := (roundTrips first.reverse).fromRaw first
  rw [printed, same, ← printed, (roundTrips second.reverse).fromRaw] at read
  exact (Vector.reverse_inj.mp read).symm

/-! ## Any text -/

/-- A turn of the loop moves the index and counts the writes. So the loop is a reading in groups,
and what is known of these can be used for it. -/
theorem turn_moves {text : ByteString} {before after : Reading}
    (turned : before.turn text = some after) :
    Strides.Moves isColon text (2 ^ 32) (before.i.toNat, before.j) (after.i.toNat, after.j) ∧
      (before.writes.map Prod.fst = List.range before.j →
        after.writes.map Prod.fst = List.range after.j) := by
  unfold Reading.turn at turned
  cases here : text[before.i.toNat]? with
  | none => simp [here] at turned
  | some c =>
    by_cases isGap : c = colon
    · have next : after = { before with i := before.i + 1 } := by simpa [here, isGap] using turned.symm
      subst next
      refine ⟨⟨c, here, ?_, ?_⟩, id⟩
      · simp [Strides.stride, isColon, isGap, UInt32.toNat_add]
      · simp [isColon, isGap]
    · simp only [here, ne_eq, isGap, not_false_eq_true, ↓reduceIte, Option.some.injEq] at turned
      subst turned
      refine ⟨⟨c, here, ?_, ?_⟩, ?_⟩
      · simp [Strides.stride, isColon, isGap, UInt32.toNat_add, Nat.add_assoc]
      · simp [isColon, isGap]
      · intro counted
        simp [counted, List.range_succ]

/-- And every such move is a turn. -/
theorem moves_turn {text : ByteString} {before : Reading} {goal : Nat × Nat}
    (move : Strides.Moves isColon text (2 ^ 32) (before.i.toNat, before.j) goal) :
    ∃ after, before.turn text = some after ∧ (after.i.toNat, after.j) = goal := by
  obtain ⟨c, here, index, count⟩ := id move
  obtain ⟨after, turned⟩ : ∃ after, before.turn text = some after := by
    apply Option.ne_none_iff_exists'.mp
    simp only [Reading.turn, here]
    split <;> simp
  obtain ⟨⟨other, there, otherIndex, otherCount⟩, -⟩ := turn_moves turned
  have same : other = c := by simpa [here] using there.symm
  subst same
  exact ⟨after, turned, Prod.ext (otherIndex.trans index.symm) (otherCount.trans count.symm)⟩

/-- The rounds of the loop are moves between places of the text. What is written goes to the
places from zero on, in order. -/
theorem turns_moves {text : ByteString} {reading : Reading}
    (turns : Reading.Turns text {} reading) :
    ReflTransGen (Strides.Moves isColon text (2 ^ 32)) (0, 0) (reading.i.toNat, reading.j) ∧
      reading.writes.map Prod.fst = List.range reading.j := by
  induction turns with
  | refl => exact ⟨ReflTransGen.refl, rfl⟩
  | tail _ turned inductionHypothesis =>
    obtain ⟨moves, counted⟩ := inductionHypothesis
    obtain ⟨move, counts⟩ := turn_moves turned
    exact ⟨moves.tail move, counts counted⟩

/-- Moves between places of the text are rounds of the loop, so the two descriptions reach the
same places. -/
theorem moves_turns {text : ByteString} {goal : Nat × Nat}
    (moves : ReflTransGen (Strides.Moves isColon text (2 ^ 32)) (0, 0) goal) :
    ∃ reading : Reading, Reading.Turns text {} reading ∧ (reading.i.toNat, reading.j) = goal := by
  induction moves with
  | refl => exact ⟨{}, ReflTransGen.refl, rfl⟩
  | tail _ move inductionHypothesis =>
    obtain ⟨reading, turns, rfl⟩ := inductionHypothesis
    obtain ⟨after, turned, reached⟩ := moves_turn move
    exact ⟨after, turns.tail turned, reached⟩

/-- `GetAddrFromString` stays inside its output exactly if the text has at most six groups. In a
text long enough for the index to return to the beginning groups are met without end, and only
one without any stays inside. -/
theorem fromString_iff (text : ByteString) :
    (∀ reading : Reading, Reading.Turns text {} reading →
      ∀ write ∈ reading.writes, write.1 < btAddressByteLen) ↔
      Strides.Fits isColon text (2 ^ 32) 6 := by
  have wide : 5 * 6 + 8 ≤ 2 ^ 32 := by decide
  rw [← Strides.bounded_iff wide]
  constructor
  · intro inside after moves
    obtain ⟨reading, turns, reached⟩ := moves_turns moves
    have counted := (turns_moves turns).2
    by_contra many
    have sixth : 6 ∈ reading.writes.map Prod.fst := by
      have large : 6 < reading.j := by
        have count := congrArg Prod.snd reached
        dsimp only at count
        omega
      simpa [counted] using large
    obtain ⟨write, member, index⟩ := List.mem_map.mp sixth
    have small := inside reading turns write member
    simp [index, btAddressByteLen] at small
  · intro bounded reading turns write member
    obtain ⟨moves, counted⟩ := turns_moves turns
    have few : reading.j ≤ 6 := bounded _ moves
    have listed : write.1 ∈ reading.writes.map Prod.fst := List.mem_map_of_mem member
    have small : write.1 < reading.j := by simpa [counted] using listed
    exact Nat.lt_of_lt_of_le small few

/-- The bytes are stored from an index on, one for each token at most. -/
theorem storeTokens_inside (i : Nat) (token : List ByteString) :
    ∀ write ∈ storeTokens i token, i ≤ write.1 ∧ write.1 < i + token.length := by
  induction token generalizing i with
  | nil => simp [storeTokens]
  | cons first rest inductionHypothesis =>
    intro write member
    obtain rfl | later := List.mem_cons.mp member
    · simp
    · have further : write ∈ storeTokens (i + 1) rest := by
        cases whole : parsedWhole first with
        | true => simpa [whole] using later
        | false => simp [whole] at later
      have inside := inductionHypothesis (i + 1) write further
      simp only [List.length_cons]
      omega

/-- Whatever the text is, the bytes are stored inside the six of the address. The loop checks
the place, not the text. -/
theorem toUint8_inside (text : ByteString) (isNull : Bool) (size : Nat) :
    ∀ write ∈ convertToUint8 text isNull size, write.1 < btAddressByteLen := by
  intro write member
  unfold convertToUint8 at member
  split at member
  · dsimp only at member
    split at member
    · cases member
    · rename_i six
      have inside := storeTokens_inside 0 _ write member
      simp only [List.length_reverse, not_not.mp six] at inside
      omega
  · cases member

/-- Colons end tokens, and so does the text unless a colon does. Empty tokens between two colons
are kept, and an empty one behind the last is not. -/
theorem length_tokens (current text : ByteString) :
    (tokens current text).length = text.count colon +
      if text.getLast? = some colon ∨ (text = [] ∧ current = []) then 0 else 1 := by
  induction text generalizing current with
  | nil => by_cases empty : current = [] <;> simp [tokens, empty]
  | cons c rest inductionHypothesis =>
    by_cases isGap : c = colon
    · subst isGap
      have cut : (tokens current (colon :: rest)).length = (tokens [] rest).length + 1 := by
        rw [tokens, if_pos rfl, List.length_cons]
      cases rest with
      | nil => simp [tokens]
      | cons next rest =>
        simp only [cut, inductionHypothesis, List.getLast?_cons_cons, List.count_cons_self]
        simp
        omega
    · have uncut : tokens current (c :: rest) = tokens (current ++ [c]) rest := by
        rw [tokens, if_neg isGap]
      cases rest with
      | nil => simp [tokens, isGap]
      | cons next rest =>
        simp only [uncut, inductionHypothesis, List.getLast?_cons_cons, List.count_cons_of_ne isGap]
        simp

/-- A text has six tokens exactly if cutting it at its colons gives six. The length of the text
leaves no room for more. -/
theorem sixTokens_iff {text : ByteString} (long : text.length = btAddressStrLen) :
    SixTokens text ↔ (tokens [] text).length = btAddressByteLen := by
  have filled : text ≠ [] := by
    rintro rfl
    cases long
  simp [SixTokens, length_tokens, filled]

/-- Stores at other indices keep a byte. -/
theorem store_other (out : Address) (writes : List Write) {i : Nat} (within : i < 6)
    (others : ∀ write ∈ writes, write.1 ≠ i) : (store out writes)[i] = out[i] := by
  induction writes generalizing out with
  | nil => rfl
  | cons first rest inductionHypothesis =>
    have later := inductionHypothesis (out.setIfInBounds first.1 first.2)
      fun write member => others write (List.mem_cons_of_mem first member)
    have different : first.1 ≠ i := others first (List.mem_cons_self ..)
    calc (store out (first :: rest))[i] = (out.setIfInBounds first.1 first.2)[i] := later
      _ = out[i] := by simp [different]

/-- Whatever is stored, some output changes if anything is. The output is chosen to differ in the
first byte that is written. -/
theorem store_changes {token : List ByteString} (filled : token ≠ []) :
    ∃ dst, store dst (storeTokens 0 token) ≠ dst := by
  cases token with
  | nil => exact absurd rfl filled
  | cons first rest =>
    generalize stored : UInt8.ofInt ((parse first).getD 0) = byte
    refine ⟨Vector.replicate 6 (byte + 1), ?_⟩
    intro same
    have others : ∀ write ∈ (if parsedWhole first then storeTokens 1 rest else []), write.1 ≠ 0 := by
      intro write member
      split at member
      · have inside := storeTokens_inside 1 rest write member
        omega
      · cases member
    have kept := store_other ((Vector.replicate 6 (byte + 1)).setIfInBounds 0 byte) _
      (show 0 < 6 by decide) others
    have now := congrArg (fun out : Address => out[0]) same
    have written : (store (Vector.replicate 6 (byte + 1)) (storeTokens 0 (first :: rest)))[0] = byte := by
      simpa [storeTokens, stored, store] using kept
    have bound := byte.toNat_lt
    have number := congrArg UInt8.toNat (written.symm.trans now)
    simp only [Vector.getElem_replicate, UInt8.toNat_add, UInt8.toNat_one] at number
    omega

/-- `ConvertToUint8` leaves every output unchanged exactly if it finds no six tokens in a text
of the right length. -/
theorem unchanged_iff (text : ByteString) :
    (∀ isNull size dst, store dst (convertToUint8 text isNull size) = dst) ↔
      text.length ≠ btAddressStrLen ∨ ¬ SixTokens text := by
  constructor
  · intro unchanged
    by_contra both
    obtain ⟨long, six⟩ := not_or.mp both
    have length := (sixTokens_iff (not_not.mp long)).mp (not_not.mp six)
    have filled : (tokens [] text).reverse ≠ [] := by
      intro empty
      simp [List.reverse_eq_nil_iff.mp empty, btAddressByteLen] at length
    obtain ⟨dst, changed⟩ := store_changes filled
    have kept := unchanged false btAddressByteLen dst
    simp only [convertToUint8, not_not.mp long, length, ge_iff_le, Nat.le_refl, and_self, ↓reduceIte, ne_eq,
      not_true_eq_false] at kept
    exact changed kept
  · intro none isNull size dst
    have nothing : convertToUint8 text isNull size = [] := by
      unfold convertToUint8
      split
      · rename_i given
        obtain other | fewer := none
        · exact absurd given.2.1 other
        · exact if_pos fun length => fewer ((sixTokens_iff given.2.1).mpr length)
      · rfl
    simp [nothing, store]

/-- **The text of an address survives, and reading is safe, exactly for these texts.** Every
address is read back from what each function prints of it. A text is read without a write
outside the six bytes, and without any if it is none of an address, exactly if it has at most
six groups in the reading of `GetAddrFromString`, and is of an address or not of seventeen
characters or not cut into six tokens by its colons. -/
theorem codecs_agree_iff (text : ByteString) :
    ((∀ addr, RoundTrips addr) ∧ ReadSafely text) ↔
      Strides.Fits isColon text (2 ^ 32) 6 ∧
        (IsAddress text ∨ text.length ≠ btAddressStrLen ∨ ¬ SixTokens text) := by
  constructor
  · rintro ⟨-, fromString, -, unchanged⟩
    refine ⟨(fromString_iff text).mp fromString, ?_⟩
    by_cases isAddress : IsAddress text
    · exact Or.inl isAddress
    · exact Or.inr ((unchanged_iff text).mp (unchanged isAddress))
  · rintro ⟨fits, condition⟩
    refine ⟨roundTrips, (fromString_iff text).mpr fits, toUint8_inside text, ?_⟩
    intro noAddress
    exact (unchanged_iff text).mpr (condition.resolve_left noAddress)

/-- `AA:BB:CC:DD:EE:FF:00`, an address with a seventh group. -/
def sevenGroups : ByteString :=
  [0x41, 0x41, 0x3A, 0x42, 0x42, 0x3A, 0x43, 0x43, 0x3A, 0x44, 0x44, 0x3A, 0x45, 0x45, 0x3A,
    0x46, 0x46, 0x3A, 0x30, 0x30]

/-- `11:22:33:44:55:6G`, whose last group is no number. -/
def brokenGroup : ByteString :=
  [0x31, 0x31, 0x3A, 0x32, 0x32, 0x3A, 0x33, 0x33, 0x3A, 0x34, 0x34, 0x3A, 0x35, 0x35, 0x3A, 0x36, 0x47]

/-- The seventh group is written behind the output, and the broken one after its first digit
has been stored. -/
theorem read_unsafely : ¬ ReadSafely sevenGroups ∧ ¬ ReadSafely brokenGroup := by
  constructor
  · intro safe
    have fits := (fromString_iff sevenGroups).mp safe.fromString
    unfold Strides.Fits at fits
    have short : sevenGroups.length < 2 ^ 32 := by decide
    simp only [short, ↓reduceIte] at fits
    exact absurd fits.1 (by decide)
  · intro safe
    have noAddress : ¬ IsAddress brokenGroup := by decide
    have kept := safe.unchanged noAddress false btAddressByteLen (Vector.replicate 6 0)
    have first := congrArg (fun out : Address => out[0]) kept
    exact absurd first (by decide)

end BluetoothFramework.CAdapter
