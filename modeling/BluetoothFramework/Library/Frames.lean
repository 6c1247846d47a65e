import Mathlib.Tactic.Common

/-!
# Length-prefixed frames

A frame is a type byte and data, sent behind a byte that counts both. `decode` walks a
byte string and lists the complete frames; a count of zero is a frame without a type and
is passed over, and an incomplete frame ends the walk. `decode_encodeAll` is the framing
law: what is decoded from encoded frames followed by anything else starts with them.
`decode_append` says the same of any byte string that consists of complete frames.

`chunks` cuts a byte string into pieces of one width, and undoes the concatenation of
such pieces.
-/

namespace Frames

/-- A frame: its type and its data. -/
abbrev Frame : Type :=
  UInt8 × List UInt8

/-- The walk with a bound on its steps. -/
def decodeWithin : Nat → List UInt8 → List Frame
  | 0, _ => []
  | _, [] => []
  | fuel + 1, length :: rest =>
      if length.toNat > rest.length then []
      else
        match rest.take length.toNat with
        | [] => decodeWithin fuel (rest.drop length.toNat)
        | type :: data => (type, data) :: decodeWithin fuel (rest.drop length.toNat)

/-- The complete frames of a byte string, in order. -/
def decode (bytes : List UInt8) : List Frame :=
  decodeWithin bytes.length bytes

/-- Steps beyond the length of the byte string make no difference. Every structure takes at least
one byte, so the decoding has ended before. -/
theorem decodeWithin_enough (fuel : Nat) (bytes : List UInt8) (enough : bytes.length ≤ fuel) :
    decodeWithin fuel bytes = decode bytes := by
  have agree (least more : Nat) (bytes : List UInt8) (within : bytes.length ≤ least)
      (order : least ≤ more) : decodeWithin more bytes = decodeWithin least bytes := by
    induction least generalizing more bytes with
    | zero =>
      have empty : bytes = [] := List.eq_nil_of_length_eq_zero (by omega)
      subst empty
      cases more <;> rfl
    | succ least inductionHypothesis =>
      obtain ⟨extra, rfl⟩ : ∃ extra, more = extra + 1 := ⟨more - 1, by omega⟩
      cases bytes with
      | nil => rfl
      | cons length rest =>
        have shorter : (rest.drop length.toNat).length ≤ least := by
          simp only [List.length_cons, List.length_drop] at within ⊢
          omega
        have same := inductionHypothesis extra (rest.drop length.toNat) shorter (by omega)
        simp only [decodeWithin, same]
  exact agree bytes.length fuel bytes (Nat.le_refl _) enough

/-- No bytes hold no frames. -/
@[simp] theorem decode_nil : decode [] = [] :=
  rfl

/-- An incomplete frame ends the walk. -/
theorem decode_incomplete (length : UInt8) (rest : List UInt8)
    (incomplete : length.toNat > rest.length) :
    decode (length :: rest) = [] := by
  rw [decode, List.length_cons, decodeWithin, if_pos incomplete]

/-- A count of zero is passed over. -/
theorem decode_zero (rest : List UInt8) : decode (0 :: rest) = decode rest := by
  rw [decode, List.length_cons, decodeWithin]
  exact decodeWithin_enough rest.length rest (Nat.le_refl _)

/-- A complete frame is listed, and the decoding goes on behind it. The length byte counts the
type and the data. -/
theorem decode_frame (length type : UInt8) (data rest : List UInt8)
    (counts : length.toNat = data.length + 1) :
    decode (length :: type :: data ++ rest) = (type, data) :: decode rest := by
  have complete : ¬ length.toNat > (type :: data ++ rest).length := by
    simp only [List.cons_append, List.length_cons, List.length_append]
    omega
  have taken : (type :: data ++ rest).take length.toNat = type :: data := by
    rw [counts, ← List.length_cons (a := type)]
    exact List.take_left
  have dropped : (type :: data ++ rest).drop length.toNat = rest := by
    rw [counts, ← List.length_cons (a := type)]
    exact List.drop_left
  rw [decode, List.cons_append, List.length_cons, decodeWithin, if_neg complete, taken, dropped,
    decodeWithin_enough]
  simp only [List.cons_append, List.length_cons, List.length_append]
  omega

/-- A byte string that consists of complete frames, a count of zero being one without a
type. -/
inductive Complete : List UInt8 → Prop
  | nil : Complete []
  | frame (length : UInt8) (body rest : List UInt8) (counts : length.toNat = body.length)
      (others : Complete rest) : Complete (length :: body ++ rest)

/-- Behind complete frames the walk goes on as at the start. -/
theorem decode_append {front : List UInt8} (complete : Complete front) (back : List UInt8) :
    decode (front ++ back) = decode front ++ decode back := by
  induction complete with
  | nil => rfl
  | frame length body rest counts _ inductionHypothesis =>
    cases body with
    | nil =>
      have zero : length = 0 := UInt8.toNat_inj.mp counts
      rw [zero, List.cons_append, List.nil_append, List.cons_append, decode_zero, decode_zero]
      exact inductionHypothesis
    | cons type data =>
      have framed := decode_frame length type data rest counts
      have framedBoth := decode_frame length type data (rest ++ back) counts
      rw [framed, List.append_assoc, framedBoth, inductionHypothesis, List.cons_append]

/-- A frame behind its count. The count is stored in a byte. -/
def encode (frame : Frame) : List UInt8 :=
  UInt8.ofNat (frame.2.length + 1) :: frame.1 :: frame.2

/-- Frames one after another. -/
def encodeAll (frames : List Frame) : List UInt8 :=
  frames.flatMap encode

/-- The count of a frame fits into its byte. -/
def Fits (frame : Frame) : Prop :=
  frame.2.length + 1 ≤ 255

/-- Encoded frames are decoded in order, whatever follows them. -/
theorem decode_encodeAll (frames : List Frame) (rest : List UInt8)
    (fit : ∀ frame ∈ frames, Fits frame) :
    decode (encodeAll frames ++ rest) = frames ++ decode rest := by
  induction frames with
  | nil => rfl
  | cons frame others inductionHypothesis =>
    have bound : frame.2.length + 1 ≤ 255 := fit frame (by simp)
    have counts : (UInt8.ofNat (frame.2.length + 1)).toNat = frame.2.length + 1 := by
      rw [UInt8.toNat_ofNat']
      omega
    have later := inductionHypothesis fun other member => fit other (List.mem_cons_of_mem frame member)
    have framed := decode_frame _ frame.1 frame.2 (encodeAll others ++ rest) counts
    rw [encodeAll, List.flatMap_cons, List.append_assoc]
    exact framed.trans (congrArg _ later)

/-- Cut into pieces of one width, leaving out what does not fill a piece. -/
def chunks (width : Nat) (bytes : List UInt8) : List (List UInt8) :=
  (List.range (bytes.length / width)).map fun piece => (bytes.drop (piece * width)).take width

/-- Cutting undoes the concatenation of pieces of that width. -/
theorem chunks_flatMap {α : Type} (width : Nat) (positive : 0 < width) (piece : α → List UInt8)
    (elements : List α) (wide : ∀ element ∈ elements, (piece element).length = width) :
    chunks width (elements.flatMap piece) = elements.map piece := by
  induction elements with
  | nil => simp [chunks]
  | cons element rest inductionHypothesis =>
    have here : (piece element).length = width := wide element (by simp)
    have later := inductionHypothesis fun other member => wide other (List.mem_cons_of_mem element member)
    have count : ((piece element) ++ rest.flatMap piece).length / width =
        (rest.flatMap piece).length / width + 1 := by
      rw [List.length_append, here, Nat.add_comm, Nat.add_div_right _ positive]
    have first : ((piece element ++ rest.flatMap piece).drop (0 * width)).take width = piece element := by
      rw [Nat.zero_mul, List.drop_zero, ← here]
      exact List.take_left
    have others : ((List.range ((rest.flatMap piece).length / width)).map Nat.succ).map
        (fun index => ((piece element ++ rest.flatMap piece).drop (index * width)).take width) =
          chunks width (rest.flatMap piece) := by
      rw [List.map_map, chunks]
      apply List.map_congr_left
      intro index _
      have shifted : (index + 1) * width = (piece element).length + index * width := by
        rw [here, Nat.succ_mul, Nat.add_comm]
      simp only [Function.comp_apply, Nat.succ_eq_add_one, shifted, List.drop_length_add_append]
    rw [List.flatMap_cons, chunks, count, List.range_succ_eq_map, List.map_cons, first, others, later,
      List.map_cons]

end Frames
