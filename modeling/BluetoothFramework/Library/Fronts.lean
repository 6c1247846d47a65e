import BluetoothFramework.Library.Fifo

/-!
# Readers that take a front of the queue

A reader that is built from single items, sequences, checks and counted loops takes a front of
the queue and does not depend on what follows it. The class `TakesFront` says so, and its
instances follow the structure of a reader, so that it is inferred for one that is written in
`do` notation.

Such a reader fails on every shorter queue than the one that it reads completely
(`Reads.short`). `Refuses` is the opposite of `Reads`: the reader fails on the items whatever
follows them. `Admits` says under which condition a reader reads the items and that it refuses
them otherwise; its rules follow the structure of a reader, too.
-/

namespace Fifo

universe u
variable {Item α β σ ι : Type u}

/-- What is read is a front of the queue, and it is read in the same way before anything else. -/
class TakesFront (reader : Reader Item α) : Prop where
  front : ∀ items value rest, reader.run items = some (value, rest) →
    ∃ front, items = front ++ rest ∧ Reads reader front value

instance takesFront_pure (value : α) : TakesFront (pure value : Reader Item α) where
  front items _ _ done := by
    cases Option.some.inj (done : some (value, items) = some _)
    exact ⟨[], rfl, Reads.pure value⟩

instance takesFront_failure : TakesFront (failure : Reader Item α) where
  front _ _ _ done := by cases done

instance takesFront_take (select : Item → Option α) : TakesFront (take select) where
  front items value rest done := by
    cases items with
    | nil => cases done
    | cons item later =>
      change (select item).map (fun value => (value, later)) = some (value, rest) at done
      cases selected : select item with
      | none => simp [selected] at done
      | some found =>
        simp only [selected, Option.map_some, Option.some.injEq, Prod.mk.injEq] at done
        obtain ⟨rfl, rfl⟩ := done
        exact ⟨[item], rfl, Reads.take select item found selected⟩

instance takesFront_bind {first : Reader Item α} {next : α → Reader Item β}
    [before : TakesFront first]
    [after : ∀ value, TakesFront (next value)] : TakesFront (first >>= next) where
  front items value rest done := by
    rw [StateT.run_bind] at done
    cases read : first.run items with
    | none => simp [read] at done
    | some found =>
      obtain ⟨middle, later⟩ := found
      rw [read] at done
      obtain ⟨front, split, reads⟩ := before.front items middle later read
      obtain ⟨more, laterSplit, readsMore⟩ := (after middle).front later value rest done
      exact ⟨front ++ more, by rw [split, laterSplit, List.append_assoc], Reads.bind reads readsMore⟩

instance takesFront_ite {condition : Prop} [Decidable condition] {yes no : Reader Item α}
    [taken : TakesFront yes]
    [skipped : TakesFront no] : TakesFront (if condition then yes else no) := by
  split
  · exact taken
  · exact skipped

instance takesFront_iterate {body : σ → Reader Item σ} [each : ∀ state, TakesFront (body state)]
    (count : Nat) (state : σ) : TakesFront (iterate body count state) := by
  induction count generalizing state with
  | zero => exact takesFront_pure state
  | succ count inductionHypothesis =>
    have later (next : σ) : TakesFront (iterate body count next) := inductionHypothesis next
    exact takesFront_bind

/-- What is read of a shorter queue is read of the longer one. -/
theorem TakesFront.longer {reader : Reader Item α} [takes : TakesFront reader]
    {shorter rest : List Item} {value : α}
    (read : reader.run shorter = some (value, rest)) (missing : List Item) :
    reader.run (shorter ++ missing) = some (value, rest ++ missing) := by
  obtain ⟨front, split, reads⟩ := takes.front shorter value rest read
  rw [split, List.append_assoc]
  exact reads (rest ++ missing)

/-- **A queue that ends early is not read.** -/
theorem Reads.short {reader : Reader Item α} [takes : TakesFront reader]
    {items shorter : List Item} {value : α}
    (reads : Reads reader items value) (isPrefix : shorter <+: items)
    (different : shorter ≠ items) :
    reader.run shorter = none := by
  cases read : reader.run shorter with
  | none => rfl
  | some found =>
    obtain ⟨missing, split⟩ := isPrefix
    have longer := TakesFront.longer read missing
    have whole := reads []
    rw [List.append_nil, ← split, longer] at whole
    have nothing : found.2 ++ missing = [] := congrArg Prod.snd (Option.some.inj whole)
    rw [(List.append_eq_nil_iff.mp nothing).2, List.append_nil] at split
    exact absurd split different

/-- The reader fails on the items, whatever follows them. -/
def Refuses (reader : Reader Item α) (items : List Item) : Prop :=
  ∀ rest, reader.run (items ++ rest) = none

/-- A later part is refused. -/
theorem Refuses.after {first : Reader Item α} {next : α → Reader Item β}
    {items more : List Item} {value : α}
    (reads : Reads first items value) (refuses : Refuses (next value) more) :
    Refuses (first >>= next) (items ++ more) := by
  intro rest
  rw [StateT.run_bind, List.append_assoc, reads (more ++ rest)]
  exact refuses rest

/-- The first part is refused. -/
theorem Refuses.first {first : Reader Item α} {next : α → Reader Item β} {items : List Item}
    (more : List Item)
    (refuses : Refuses first items) : Refuses (first >>= next) (items ++ more) := by
  intro rest
  rw [StateT.run_bind, List.append_assoc, refuses (more ++ rest)]
  rfl

/-- A check that does not pass. -/
theorem Refuses.check {reader : Reader Item α} {check : Prop} [Decidable check] (holds : check)
    (items : List Item) :
    Refuses (if check then failure else reader) items := by
  rw [if_pos holds]
  exact fun _ => rfl

/-- The reader reads the items if they are accepted and refuses them otherwise. -/
structure Admits (reader : Reader Item α) (items : List Item) (accepted : Prop)
    (value : α) : Prop where
  reads : accepted → Reads reader items value
  refuses : ¬ accepted → Refuses reader items

/-- A reader that reads the items admits them without a condition. -/
theorem Reads.admits {reader : Reader Item α} {items : List Item} {value : α}
    (reads : Reads reader items value) :
    Admits reader items True value where
  reads _ := reads
  refuses rejected := absurd trivial rejected

/-- A reader of fronts reads no shorter part of items that it admits. Where a shorter part were
read, so would the whole be, with something left. -/
theorem Admits.short {reader : Reader Item α} [takes : TakesFront reader]
    {items shorter : List Item}
    {accepted : Prop} {value : α} (admits : Admits reader items accepted value)
    (isPrefix : shorter <+: items) (different : shorter ≠ items) : reader.run shorter = none := by
  by_cases here : accepted
  · exact (admits.reads here).short isPrefix different
  · obtain ⟨missing, split⟩ := isPrefix
    cases read : reader.run shorter with
    | none => rfl
    | some found =>
      have longer := TakesFront.longer read missing
      have refused := admits.refuses here []
      rw [List.append_nil, ← split, longer] at refused
      cases refused

/-- The condition may be replaced by an equivalent one, so that records can name theirs in words
of their own. -/
theorem Admits.congr {reader : Reader Item α} {items : List Item}
    {accepted other : Prop} {value : α}
    (admits : Admits reader items accepted value) (same : accepted ↔ other) :
      Admits reader items other value :=
  propext same ▸ admits

/-- Both parts have to be accepted. -/
theorem Admits.bind {first : Reader Item α} {next : α → Reader Item β} {items more : List Item}
    {accepted acceptedNext : Prop} {value : α} {result : β}
    (admits : Admits first items accepted value)
    (continues : Admits (next value) more acceptedNext result) :
    Admits (first >>= next) (items ++ more) (accepted ∧ acceptedNext) result where
  reads both := Reads.bind (admits.reads both.1) (continues.reads both.2)
  refuses rejected := by
    by_cases here : accepted
    · apply Refuses.after (admits.reads here)
      exact continues.refuses fun there => rejected ⟨here, there⟩
    · exact Refuses.first more (admits.refuses here)

/-- One item that is always read, then the rest. -/
theorem Admits.next {first : Reader Item α} {next : α → Reader Item β} {item : Item}
    {more : List Item} {accepted : Prop} {value : α} {result : β} (reads : Reads first [item] value)
    (continues : Admits (next value) more accepted result) :
    Admits (first >>= next) (item :: more) accepted result :=
  (Admits.bind reads.admits continues).congr (by rw [true_and])

/-- The check has to pass, too. -/
theorem Admits.unless {reader : Reader Item α} {items : List Item} {accepted check : Prop}
    [Decidable check] {value : α} (admits : Admits reader items accepted value) :
    Admits (if check then failure else reader) items (¬ check ∧ accepted) value where
  reads both := Reads.unless both.1 (admits.reads both.2)
  refuses rejected := by
    by_cases holds : check
    · exact Refuses.check holds items
    · rw [if_neg holds]
      exact admits.refuses fun there => rejected ⟨holds, there⟩

end Fifo
