import BluetoothFramework.Library.SearchTree
import BluetoothFramework.Uuid.Conversion

/-!
# UUIDs as map keys

Service data is kept in maps keyed by UUIDs: `Uuid` in the IPC layer and `UUID` in the
API. Both classes overload `operator<` for that, and both overloads say of two UUIDs
that the first is less whenever they differ.

`uuid_keys_iff` says what that costs. For a sequence of insertions the comparison is a
strict order on the inserted keys, and the map holds each key once and finds it again,
exactly when all the keys are the same UUID. Either half fails by itself as soon as
two keys differ.
-/

namespace BluetoothFramework

/-- `OHOS::Bluetooth::UUID`, whose default is zero. -/
structure UUID where
  uuid : Vector UInt8 16 := Vector.replicate 16 0
deriving DecidableEq, Repr

namespace UUID

/-- `Equals`: a loop over the bytes that returns at the first difference. -/
def equals (self val : UUID) : Bool :=
  (List.finRange 16).all (fun i => self.uuid.get i == val.uuid.get i)

/-- `operator<` -/
def less (self uuid : UUID) : Bool :=
  !self.equals uuid

/-- Two UUIDs are equal exactly if the comparison of their bytes says so. -/
theorem equals_iff (self val : UUID) : self.equals val = true ↔ self = val := by
  simp only [equals, List.all_eq_true, List.mem_finRange, beq_iff_eq, forall_const]
  constructor
  · intro bytes
    have same : self.uuid = val.uuid := Vector.ext fun i bound => bytes ⟨i, bound⟩
    cases self
    cases val
    simpa using same
  · rintro rfl _
    rfl

end UUID

/-- `operator<` -/
def Uuid.less (self uuid : Uuid) : Bool :=
  self != uuid

namespace KeyOrder

open SearchTree

universe u v
variable {Key : Type u} {Value : Type v}

/-- The comparison says less whenever the keys differ. -/
def Differs (lt : Key → Key → Bool) : Prop :=
  ∀ first second, lt first second = true ↔ first ≠ second

/-- The comparison of the short form says less whenever the two differ, in either direction. -/
theorem differs_uuid : Differs Uuid.less := by
  intro first second
  simp [Uuid.less]

/-- The comparison of the application's form does the same. -/
theorem differs_UUID : Differs UUID.less := by
  intro first second
  rw [UUID.less, Bool.not_eq_true', ← Bool.not_eq_true, UUID.equals_iff]

/-- The keys of the entries, in the order of insertion. -/
def inserted (entries : List (Key × Value)) : List Key :=
  entries.map Prod.fst

/-- After the insertions the map has at most one entry for each key and finds each
inserted key. -/
structure MapHolds (lt : Key → Key → Bool) (entries : List (Key × Value)) : Prop where
  once : ((ColorTree.nil : ColorTree Key Value).emplaceAll lt entries).keys.Nodup
  finds : ∀ key ∈ inserted entries,
    ∃ value, ((ColorTree.nil : ColorTree Key Value).emplaceAll lt entries).find lt key = some (key, value)

/-- The keys are ordered strictly, and the map they are inserted into is one. -/
structure KeysHold (lt : Key → Key → Bool) (entries : List (Key × Value)) : Prop where
  ordered : StrictOrderOn lt (· ∈ inserted entries)
  map : MapHolds lt entries

/-- All keys are one key. -/
def SameKey (entries : List (Key × Value)) : Prop :=
  ∀ first ∈ inserted entries, ∀ second ∈ inserted entries, first = second

/-- A strict order on the inserted keys makes the map one. Nothing is asked of the comparison on
other keys. -/
theorem mapHolds_of_ordered [DecidableEq Key] (lt : Key → Key → Bool) (entries : List (Key × Value))
    (order : StrictOrderOn lt (· ∈ inserted entries)) : MapHolds lt entries := by
  have inside : ∀ entry ∈ entries, entry.1 ∈ inserted entries :=
    fun entry member => List.mem_map_of_mem member
  obtain ⟨within, sorted, found⟩ := ColorTree.find_emplaceAll order entries inside .nil
    (by simp [ColorTree.Within, ColorTree.toList]) List.Pairwise.nil
  refine ⟨ColorTree.nodup_keys order _ within sorted, ?_⟩
  intro key member
  obtain ⟨entry, listed, rfl⟩ := List.mem_map.mp member
  cases search : entries.find? (fun candidate => candidate.1 = entry.1) with
  | none => exact absurd (List.find?_eq_none.mp search entry listed) (by simp)
  | some first =>
    have same : first.1 = entry.1 := by simpa using List.find?_some search
    refine ⟨first.2, ?_⟩
    rw [found entry.1 member, search, ← same]
    rfl

/-- Where all keys are one key any comparison by inequality is a strict order. -/
theorem ordered_of_sameKey (lt : Key → Key → Bool) (differs : Differs lt)
    (entries : List (Key × Value)) (same : SameKey entries) :
    StrictOrderOn lt (· ∈ inserted entries) where
  irreflexive a _ := by
    rw [← Bool.not_eq_true, differs]
    exact not_not_intro rfl
  asymmetric a b first second less := absurd (same a first b second) ((differs a b).mp less)
  transitive a b _ first second _ less _ := absurd (same a first b second) ((differs a b).mp less)
  separates a b first second _ _ := same a first b second

/-- Two different keys are each less than the other. -/
theorem sameKey_of_ordered (lt : Key → Key → Bool) (differs : Differs lt)
    (entries : List (Key × Value)) (order : StrictOrderOn lt (· ∈ inserted entries)) :
    SameKey entries := by
  intro first firstMember second secondMember
  by_contra different
  have less := (differs first second).mpr different
  have greater := (differs second first).mpr (Ne.symm different)
  rw [order.asymmetric first second firstMember secondMember less] at greater
  cases greater

/-- The left subtree is empty only when the right one is. -/
def Leaning : ColorTree Key Value → Prop
  | .nil => True
  | .node _ left _ _ right => left = .nil → right = .nil

/-- The repair on the left keeps the tree leaning: a rotation moves entries to the right only
from a left part that is not empty. -/
theorem leaning_fixLeft (color : Color) (left : ColorTree Key Value) (key : Key) (value : Value)
    (right : ColorTree Key Value) (nonempty : left ≠ .nil) :
    Leaning (ColorTree.fixLeft color left key value right) := by
  unfold ColorTree.fixLeft
  split <;> intro empty
  · cases empty
  · cases empty
  · cases empty
  · cases empty
  · exact absurd empty nonempty

/-- A tree into which a key was inserted is not empty. -/
theorem grow_ne_nil (lt : Key → Key → Bool) (key : Key) (value : Value) (tree : ColorTree Key Value)
    (new : tree.meets lt key = false) : tree.grow lt key value ≠ .nil := by
  intro empty
  obtain ⟨before, after, _, grown⟩ := ColorTree.toList_grow lt key value tree new
  rw [empty] at grown
  simp [ColorTree.toList] at grown

/-- New keys are always attached on the left, so the tree keeps leaning to the left. The repair
after an insertion may rotate, but leaves no node with a right subtree only. -/
theorem leaning_emplace (lt : Key → Key → Bool) (differs : Differs lt) (key : Key) (value : Value)
    (tree : ColorTree Key Value) (leaning : Leaning tree) :
      Leaning (tree.emplace lt key value) := by
  rw [ColorTree.emplace]
  cases met : tree.meets lt key with
  | true => exact leaning
  | false =>
    rw [if_neg (by simp)]
    have grown : Leaning (tree.grow lt key value) := by
      cases tree with
      | nil => exact fun _ => rfl
      | node color left other otherValue right =>
        rw [ColorTree.grow]
        unfold ColorTree.meets at met
        by_cases less : lt key other = true
        · rw [if_pos less] at met ⊢
          exact leaning_fixLeft color _ other otherValue right (grow_ne_nil lt key value left met)
        · have same : key = other := by
            by_contra different
            exact less ((differs key other).mpr different)
          have notGreater : ¬ lt other key = true := by
            rw [same]
            exact fun greater => (differs other other).mp greater rfl
          rw [if_neg less, if_neg notGreater] at met
          cases met
    revert grown
    cases tree.grow lt key value with
    | nil => exact id
    | node color left other otherValue right => exact id

/-- A tree that starts leaning stays so through any list of insertions. -/
theorem leaning_emplaceAll (lt : Key → Key → Bool) (differs : Differs lt)
    (entries : List (Key × Value)) (tree : ColorTree Key Value) (leaning : Leaning tree) :
      Leaning (tree.emplaceAll lt entries) := by
  induction entries generalizing tree with
  | nil => exact leaning
  | cons entry rest inductionHypothesis =>
    exact inductionHypothesis _ (leaning_emplace lt differs entry.1 entry.2 tree leaning)

/-- Lookup passes by every key of the left subtree: the root's key is less than it. -/
theorem left_not_found (lt : Key → Key → Bool) (differs : Differs lt) (color : Color)
    (left right : ColorTree Key Value) (key : Key) (value : Value)
    (once : (ColorTree.node color left key value right).keys.Nodup) (entry : Key × Value)
    (listed : entry ∈ left.toList) (found : Value) :
    (ColorTree.node color left key value right).find lt entry.1 ≠ some (entry.1, found) := by
  intro claimed
  have bound := ColorTree.lowerBound_of_find lt _ _ _ claimed
  rw [ColorTree.keys, ColorTree.toList, List.map_append, List.map_cons] at once
  obtain ⟨_, _, apart⟩ := List.nodup_append.mp once
  have inLeft : entry.1 ∈ left.toList.map Prod.fst := List.mem_map_of_mem listed
  have passed : lt key entry.1 = true :=
    (differs key entry.1).mpr (apart entry.1 inLeft key (by simp)).symm
  rw [ColorTree.lowerBound, if_pos passed] at bound
  have inRight := ColorTree.mem_of_lowerBound lt entry.1 right _ bound
  exact apart entry.1 inLeft entry.1 (List.mem_cons_of_mem _ (List.mem_map.mpr ⟨_, inRight, rfl⟩)) rfl

/-- A map that holds each of its keys once and finds it has one key at most. With two keys the
lookup of one of them leaves the tree on the side where nothing is. -/
theorem sameKey_of_mapHolds (lt : Key → Key → Bool) (differs : Differs lt)
    (entries : List (Key × Value)) (holds : MapHolds lt entries) : SameKey entries := by
  have leaning : Leaning ((ColorTree.nil : ColorTree Key Value).emplaceAll lt entries) :=
    leaning_emplaceAll lt differs entries .nil trivial
  obtain ⟨once, finds⟩ := holds
  have fromInsertion (key : Key) := ColorTree.mem_keys_emplaceAll lt entries .nil key
  generalize (ColorTree.nil : ColorTree Key Value).emplaceAll lt entries =
    tree at leaning once finds fromInsertion
  cases tree with
  | nil =>
    intro first firstMember
    obtain ⟨_, found⟩ := finds first firstMember
    cases found
  | node color left key value right =>
    have leftEmpty : left = .nil := by
      cases left with
      | nil => rfl
      | node leftColor a other otherValue b =>
        have listed : (other, otherValue) ∈ (ColorTree.node leftColor a other otherValue b).toList := by
          simp [ColorTree.toList]
        have present : other ∈ inserted entries := by
          rcases fromInsertion other (by simp [ColorTree.keys, ColorTree.toList]) with none | inside
          · cases none
          · exact inside
        obtain ⟨found, lookup⟩ := finds other present
        exact absurd lookup (left_not_found lt differs color _ right key value once _ listed found)
    have rightEmpty : right = .nil := leaning leftEmpty
    have only (candidate : Key) (member : candidate ∈ inserted entries) : candidate = key := by
      obtain ⟨found, lookup⟩ := finds candidate member
      have listed := ColorTree.mem_of_lowerBound lt candidate _ _ (ColorTree.lowerBound_of_find lt _ _ _ lookup)
      simp only [leftEmpty, rightEmpty, ColorTree.toList, List.nil_append, List.mem_singleton,
        Prod.mk.injEq] at listed
      exact listed.1
    intro first firstMember second secondMember
    exact (only first firstMember).trans (only second secondMember).symm

/-- With a comparison by inequality either half holds exactly for insertions of one
key. -/
theorem halves_iff [DecidableEq Key] (lt : Key → Key → Bool) (differs : Differs lt)
    (entries : List (Key × Value)) :
    (StrictOrderOn lt (· ∈ inserted entries) ↔ SameKey entries) ∧
      (MapHolds lt entries ↔ SameKey entries) := by
  have ordered := ordered_of_sameKey lt differs entries
  refine ⟨⟨sameKey_of_ordered lt differs entries, ordered⟩,
    ⟨sameKey_of_mapHolds lt differs entries, ?_⟩⟩
  intro same
  exact mapHolds_of_ordered lt entries (ordered same)

/-- For both classes and every sequence of insertions: `operator<` is a strict order on
the keys, and the map holds each key once and finds it, exactly when all the keys are
the same UUID. -/
theorem uuid_keys_iff :
    (∀ entries : List (Uuid × Value), KeysHold Uuid.less entries ↔ SameKey entries) ∧
      (∀ entries : List (UUID × Value), KeysHold UUID.less entries ↔ SameKey entries) := by
  constructor
  · intro entries
    obtain ⟨order, map⟩ := halves_iff Uuid.less differs_uuid entries
    exact ⟨fun holds => order.mp holds.ordered, fun same => ⟨order.mpr same, map.mpr same⟩⟩
  · intro entries
    obtain ⟨order, map⟩ := halves_iff UUID.less differs_UUID entries
    exact ⟨fun holds => order.mp holds.ordered, fun same => ⟨order.mpr same, map.mpr same⟩⟩

/-- The battery and heart rate services are each less than the other. A map they are
both inserted into does not find the second, and after a third service and the first
again it has two entries for the first. -/
theorem battery_and_heart_rate :
    ¬ StrictOrderOn Uuid.less (fun _ => True) ∧ ¬ StrictOrderOn UUID.less (fun _ => True) ∧
      (¬ ∀ entries : List (Uuid × String), MapHolds Uuid.less entries) ∧
      ¬ ∀ entries : List (UUID × String), MapHolds UUID.less entries := by
  let battery := Uuid.convertFrom16Bits 0x180F
  let heartRate := Uuid.convertFrom16Bits 0x180D
  let device := Uuid.convertFrom16Bits 0x180A
  refine ⟨?_, ?_, ?_, ?_⟩
  · intro order
    have one_way := order.asymmetric battery heartRate trivial trivial (by decide)
    exact absurd one_way (by decide)
  · intro order
    have one_way := order.asymmetric ⟨battery.uuid⟩ ⟨heartRate.uuid⟩ trivial trivial (by decide)
    exact absurd one_way (by decide)
  · intro claimed
    have holds := claimed [(battery, "a"), (heartRate, "b"), (device, "c"), (battery, "d")]
    exact absurd holds.once (by decide)
  · intro claimed
    have holds := claimed [(⟨battery.uuid⟩, "a"), (⟨heartRate.uuid⟩, "b")]
    obtain ⟨value, found⟩ := holds.finds ⟨heartRate.uuid⟩ (by decide)
    have lookup : ((ColorTree.nil : ColorTree UUID String).emplaceAll UUID.less
        [(⟨battery.uuid⟩, "a"), (⟨heartRate.uuid⟩, "b")]).find UUID.less ⟨heartRate.uuid⟩ = none := by
      decide
    rw [lookup] at found
    cases found

end KeyOrder
end BluetoothFramework
