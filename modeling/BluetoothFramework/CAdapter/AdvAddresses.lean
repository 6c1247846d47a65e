import BluetoothFramework.Library.Expiry
import BluetoothFramework.Library.OrderedSet
import BluetoothFramework.Common.Types
import Mathlib.Data.List.Lex

/-!
# Reuse of advertising addresses

An address may be advertised for fifteen minutes after it was first used, and then not again
until an hour has passed. The adapter remembers the addresses in a map, which compares them
without regard to case, and their times in a queue, which has room for 128.

`Window` is one first use of an address, and a history is the list of all windows so far.
`refused_iff` reads the answer off the history, for every sequence of checks at times that do
not decrease: an address is refused exactly if one of the last 128 windows is its own, was
open when the check began and is older than fifteen minutes.
-/

namespace BluetoothFramework.CAdapter

open SearchTree

/-- `MAX_ADV_ADDR_MAP_SIZE` -/
def maxAdvAddrMapSize : Nat := 128

/-- `ADV_ADDR_TIMEOUT` -/
def advAddrTimeout : UInt64 := 60 * 60 * 1000

/-- `ADV_ADDR_TIME_THRESHOLD` -/
def advAddrTimeThreshold : UInt64 := 15 * 60 * 1000

/-- What `clock_gettime(CLOCK_BOOTTIME)` writes. The milliseconds are computed in a `long`. -/
structure Timespec where
  tvSec : Nat
  tvNsec : Nat
  fits : tvSec * 1000 + tvNsec / 1000000 < 2 ^ 63
deriving DecidableEq

namespace Timespec

def millis (ts : Timespec) : Nat :=
  ts.tvSec * 1000 + ts.tvNsec / 1000000

/-- `GetBootMillis` -/
def getBootMillis (ts : Timespec) : UInt64 :=
  UInt64.ofNat ts.millis

/-- The milliseconds since boot fit the counter, so nothing is lost in reading the clock. -/
theorem toNat_getBootMillis (ts : Timespec) : ts.getBootMillis.toNat = ts.millis := by
  have fits := ts.fits
  rw [getBootMillis, UInt64.toNat_ofNat', Nat.mod_eq_of_lt]
  rw [millis]
  omega

end Timespec

/-- `tolower` in the C locale. -/
def tolower (c : UInt8) : UInt8 :=
  if 65 ≤ c ∧ c ≤ 90 then c + 32 else c

/-- `CaseInsensitiveCompare` -/
def caseInsensitiveCompare (s1 s2 : ByteString) : Bool :=
  s1.map tolower < s2.map tolower

/-- An address and the time of its first use. -/
abbrev AddrTime : Type :=
  ByteString × UInt64

/-- The comparison of the entries of the map. -/
def compareAddr (first second : AddrTime) : Bool :=
  caseInsensitiveCompare first.1 second.1

/-- The same address but for the case of its letters. -/
def SameAddr (first second : ByteString) : Prop :=
  first.map tolower = second.map tolower

instance (first second : ByteString) : Decidable (SameAddr first second) :=
  inferInstanceAs (Decidable (_ = _))

instance : StrictPartialOrder compareAddr where
  irreflexive := by
    intro entry
    exact decide_eq_false (List.lt_irrefl _)
  transitive := by
    intro first second third less greater
    exact decide_eq_true (List.lt_trans (of_decide_eq_true less) (of_decide_eq_true greater))

/-- The comparison meets an entry exactly if the addresses are the same. The times in the keys
take no part in it. -/
theorem meetsKey_compareAddr (key other : AddrTime) :
    meetsKey compareAddr key other = true ↔ SameAddr key.1 other.1 := by
  simp only [meetsKey, compareAddr, caseInsensitiveCompare, SameAddr, Bool.and_eq_true, Bool.not_eq_true',
    decide_eq_false_iff_not]
  constructor
  · rintro ⟨notAfter, notBefore⟩
    exact List.le_antisymm (List.not_lt.mp notAfter) (List.not_lt.mp notBefore)
  · intro same
    rw [same]
    exact ⟨List.lt_irrefl _, List.lt_irrefl _⟩

/-- `g_advAddrMap` and `g_advTimeQueue`, oldest first. -/
structure AdvAddresses where
  advAddrMap : OrderedSet compareAddr := {}
  advTimeQueue : List AddrTime := []

namespace AdvAddresses

/-- `std::map::erase` of a key. -/
def eraseAddr (advAddrMap : OrderedSet compareAddr) (addrStr : ByteString) :
    OrderedSet compareAddr :=
  match advAddrMap.find (addrStr, 0) with
  | some addrTime => advAddrMap.erase addrTime
  | none => advAddrMap

/-- The front of the queue and its entry in the map go. -/
def pop (addresses : AdvAddresses) : AdvAddresses :=
  match addresses.advTimeQueue with
  | [] => addresses
  | front :: rest => ⟨eraseAddr addresses.advAddrMap front.1, rest⟩

/-- The loop of `RemoveTimeoutAdvAddr`. -/
def removeTimeout (currentMillis : UInt64) (advAddrMap : OrderedSet compareAddr) :
    List AddrTime → AdvAddresses
  | [] => ⟨advAddrMap, []⟩
  | front :: rest =>
      if currentMillis ≥ front.2 + advAddrTimeout then
        removeTimeout currentMillis (eraseAddr advAddrMap front.1) rest
      else ⟨advAddrMap, front :: rest⟩

/-- `RemoveTimeoutAdvAddr` -/
def removeTimeoutAdvAddr (addresses : AdvAddresses) (ts : Timespec) : AdvAddresses :=
  removeTimeout ts.getBootMillis addresses.advAddrMap addresses.advTimeQueue

/-- `CanStartAdv` -/
def canStartAdv (addresses : AdvAddresses) (addrStr : ByteString) (ts : Timespec) :
    Bool × AdvAddresses :=
  let currentMillis := ts.getBootMillis
  match addresses.advAddrMap.find (addrStr, 0) with
  | some addrTime =>
      if currentMillis ≥ addrTime.2 + advAddrTimeThreshold then (false, addresses) else (true, addresses)
  | none =>
      let room := if maxAdvAddrMapSize ≤ addresses.advTimeQueue.length then addresses.pop else addresses
      (true, ⟨room.advAddrMap.emplace (addrStr, currentMillis),
        room.advTimeQueue ++ [(addrStr, currentMillis)]⟩)

end AdvAddresses

/-- One check of an address as `StartAdvAddrTimer` makes it; the clock is read twice. -/
structure Check where
  addrStr : ByteString
  removed : Timespec
  started : Timespec
deriving DecidableEq

namespace AdvAddresses

/-- The answer of a check. -/
def check (addresses : AdvAddresses) (given : Check) : Bool × AdvAddresses :=
  (addresses.removeTimeoutAdvAddr given.removed).canStartAdv given.addrStr given.started

/-- The addresses after a sequence of checks. -/
def after (checks : List Check) : AdvAddresses :=
  checks.foldl (fun addresses given => (addresses.check given).2) {}

end AdvAddresses

/-- The clock readings of a sequence of checks do not decrease. -/
def NonDecreasing (checks : List Check) : Prop :=
  (checks.flatMap fun given => [given.removed.millis, given.started.millis]).Pairwise (· ≤ ·)

instance (checks : List Check) : Decidable (NonDecreasing checks) :=
  inferInstanceAs (Decidable (List.Pairwise _ _))

/-! ## The rule -/

/-- An address was accepted as new at this time. -/
structure Window where
  addr : ByteString
  time : Nat
deriving DecidableEq

namespace Window

/-- Sixty minutes. -/
def lifetime : Nat := 60 * 60 * 1000

/-- Fifteen minutes. -/
def threshold : Nat := 15 * 60 * 1000

/-- One of the windows that are kept is of the address and still open. -/
def isOpen (keep : List Window → List Window) (windows : List Window) (given : Check) : Bool :=
  (keep windows).any fun window =>
    SameAddr window.addr given.addrStr && Expiry.live time lifetime given.removed.millis window

/-- An address without an open window is accepted as new. -/
def accept (keep : List Window → List Window) (windows : List Window) (given : Check) :
    List Window :=
  if isOpen keep windows given then windows else windows ++ [⟨given.addrStr, given.started.millis⟩]

/-- The windows of a sequence of checks. -/
def accepted (keep : List Window → List Window) (checks : List Check) : List Window :=
  checks.foldl (accept keep) []

/-- An open window of the address is older than fifteen minutes. -/
def Refuses (keep : List Window → List Window) (windows : List Window) (given : Check) : Prop :=
  ∃ window ∈ keep windows, SameAddr window.addr given.addrStr ∧
    given.removed.millis < window.time + lifetime ∧ window.time + threshold ≤ given.started.millis

/-- The last 128 windows. -/
def lastWindows (windows : List Window) : List Window :=
  windows.rtake maxAdvAddrMapSize

/-- An entry as a window. -/
def ofEntry (entry : AddrTime) : Window :=
  ⟨entry.1, entry.2.toNat⟩

end Window

namespace AdvAddresses

/-- The map and the queue hold the same pairs, each address once, the queue ordered by time. -/
structure InStep (addresses : AdvAddresses) : Prop where
  same : ∀ entry, entry ∈ addresses.advAddrMap.elements ↔ entry ∈ addresses.advTimeQueue
  once : addresses.advTimeQueue.Pairwise fun first second => ¬ SameAddr first.1 second.1
  ordered : addresses.advTimeQueue.Pairwise fun first second => first.2 ≤ second.2

/-! ## The two containers -/

/-- The entry that the map finds for an address. -/
theorem find_some {advAddrMap : OrderedSet compareAddr} {addrStr : ByteString} {entry : AddrTime}
    (found : advAddrMap.find (addrStr, 0) = some entry) :
    entry ∈ advAddrMap.elements ∧ SameAddr addrStr entry.1 := by
  obtain ⟨member, met⟩ := OrderedSet.find_mem found
  exact ⟨member, (meetsKey_compareAddr _ _).mp met⟩

/-- An address that is not found is in no entry. -/
theorem find_none {advAddrMap : OrderedSet compareAddr} {addrStr : ByteString}
    (missing : advAddrMap.find (addrStr, 0) = none) :
    ∀ entry ∈ advAddrMap.elements, ¬ SameAddr addrStr entry.1 := by
  intro entry member same
  have unmet := (OrderedSet.find_eq_none_iff _ _).mp missing entry member
  rw [(meetsKey_compareAddr (addrStr, 0) entry).mpr same] at unmet
  cases unmet

/-- Two entries of one address are the same. -/
theorem eq_of_sameAddr {advAddrMap : OrderedSet compareAddr} {first second : AddrTime}
    (member : first ∈ advAddrMap.elements) (other : second ∈ advAddrMap.elements)
    (same : SameAddr first.1 second.1) : first = second := by
  by_contra different
  have met := (meetsKey_compareAddr first second).mpr same
  simp only [meetsKey, Bool.and_eq_true, Bool.not_eq_true'] at met
  obtain less | greater := OrderedSet.less_or_greater advAddrMap member other different
  · rw [met.2] at less
    cases less
  · rw [met.1] at greater
    cases greater

/-- Erasing the address of an entry erases the entry. -/
theorem mem_eraseAddr {advAddrMap : OrderedSet compareAddr} {entry : AddrTime}
    (member : entry ∈ advAddrMap.elements) (other : AddrTime) :
    other ∈ (eraseAddr advAddrMap entry.1).elements ↔
      other ≠ entry ∧ other ∈ advAddrMap.elements := by
  rw [eraseAddr]
  cases found : advAddrMap.find (entry.1, 0) with
  | none => exact absurd rfl (find_none found entry member)
  | some met =>
    obtain ⟨metMember, same⟩ := find_some found
    rw [eq_of_sameAddr member metMember same]
    exact OrderedSet.mem_erase _ _ _

/-- Dropping the oldest entry from queue and map keeps the two in step. The addresses of the
queue are distinct, so the map loses no other entry. -/
theorem inStep_pop {addresses : AdvAddresses} (inStep : InStep addresses) :
    InStep addresses.pop := by
  obtain ⟨advAddrMap, advTimeQueue⟩ := addresses
  cases advTimeQueue with
  | nil => exact inStep
  | cons front rest =>
    obtain ⟨same, once, ordered⟩ := inStep
    refine ⟨?_, once.of_cons, ordered.of_cons⟩
    intro entry
    have front_mem : front ∈ advAddrMap.elements := (same front).mpr (List.mem_cons_self ..)
    have fresh : front ∉ rest := fun again => (List.pairwise_cons.mp once).1 front again rfl
    rw [pop, mem_eraseAddr front_mem, same entry, List.mem_cons]
    constructor
    · rintro ⟨different, rfl | later⟩
      · exact absurd rfl different
      · exact later
    · intro later
      exact ⟨fun equal => fresh (equal ▸ later), Or.inr later⟩

/-- An entry has expired exactly if its window has. -/
theorem expired_iff {entry : AddrTime} (small : entry.2.toNat < 2 ^ 63) (ts : Timespec) :
    ts.getBootMillis ≥ entry.2 + advAddrTimeout ↔
      ¬ Expiry.live Window.time Window.lifetime ts.millis (Window.ofEntry entry) = true := by
  have hour : advAddrTimeout.toNat = Window.lifetime := rfl
  have sum : (entry.2 + advAddrTimeout).toNat = entry.2.toNat + Window.lifetime := by
    rw [UInt64.toNat_add, hour, Nat.mod_eq_of_lt]
    rw [Window.lifetime]
    omega
  rw [ge_iff_le, UInt64.le_iff_toNat_le, sum, Timespec.toNat_getBootMillis, Expiry.live,
    decide_eq_true_eq, not_lt]
  rfl

/-- The loop removes the expired entries at the front. The queue is sorted by time, so these are
all the expired ones; map and queue lose the same addresses. -/
theorem removeTimeout_spec (ts : Timespec) (advAddrMap : OrderedSet compareAddr)
    (queue : List AddrTime)
    (inStep : InStep ⟨advAddrMap, queue⟩) (small : ∀ entry ∈ queue, entry.2.toNat < 2 ^ 63) :
    let removed := removeTimeout ts.getBootMillis advAddrMap queue
    InStep removed ∧ (∀ entry ∈ removed.advTimeQueue, entry ∈ queue) ∧
      removed.advTimeQueue.map Window.ofEntry = (queue.map Window.ofEntry).dropWhile
        (fun window => !Expiry.live Window.time Window.lifetime ts.millis window) := by
  induction queue generalizing advAddrMap with
  | nil => exact ⟨inStep, fun _ member => member, rfl⟩
  | cons front rest inductionHypothesis =>
    have expired := expired_iff (small front (List.mem_cons_self ..)) ts
    rw [removeTimeout]
    split
    · rename_i gone
      obtain ⟨stays, fewer, listed⟩ :=
        inductionHypothesis (eraseAddr advAddrMap front.1) (inStep_pop inStep)
        fun entry member => small entry (List.mem_cons_of_mem front member)
      refine ⟨stays, fun entry member => List.mem_cons_of_mem front (fewer entry member), ?_⟩
      rw [List.map_cons, List.dropWhile_cons_of_pos (by simpa using expired.mp gone)]
      exact listed
    · rename_i lives
      refine ⟨inStep, fun _ member => member, ?_⟩
      rw [List.map_cons, List.dropWhile_cons_of_neg]
      simpa using not_not.mp (mt expired.mpr lives)

/-! ## The containers and the history -/

/-- From a time on, the containers hold what still counts of the windows so far. -/
structure Follows (since : Nat) (addresses : AdvAddresses) (windows : List Window) : Prop where
  inStep : InStep addresses
  keeps : Expiry.Keeps Window.time Window.lifetime maxAdvAddrMapSize since
    (addresses.advTimeQueue.map Window.ofEntry) windows
  ordered : windows.Pairwise fun first second => first.time ≤ second.time
  past : ∀ window ∈ windows, window.time ≤ since
  small : ∀ entry ∈ addresses.advTimeQueue, entry.2.toNat < 2 ^ 63

/-- What follows the windows at one time does so later: a window that has ended stays ended. -/
theorem Follows.later {since now : Nat} {addresses : AdvAddresses} {windows : List Window}
    (follows : Follows since addresses windows) (later : since ≤ now) :
      Follows now addresses windows where
  inStep := follows.inStep
  keeps := ⟨follows.keeps.fits, fun next after => follows.keeps.same next (later.trans after)⟩
  ordered := follows.ordered
  past := fun window member => (follows.past window member).trans later
  small := follows.small

/-- The queue is in the order of its times, since the clock does not go back and entries are
added at the end. -/
theorem ordered_windows {addresses : AdvAddresses} (inStep : InStep addresses) :
    (addresses.advTimeQueue.map Window.ofEntry).Pairwise fun first second => first.time ≤
      second.time := by
  rw [List.pairwise_map]
  exact inStep.ordered.imp fun less => UInt64.le_iff_toNat_le.mp less

/-- `RemoveTimeoutAdvAddr` leaves the live windows. It takes entries from the front only, and as
the queue is ordered by time nothing that has expired is left behind. -/
theorem follows_removed {since : Nat} {addresses : AdvAddresses} {windows : List Window}
    {ts : Timespec} (follows : Follows since addresses windows) (later : since ≤ ts.millis) :
    Follows ts.millis (addresses.removeTimeoutAdvAddr ts) windows ∧
      ∀ entry ∈ (addresses.removeTimeoutAdvAddr ts).advTimeQueue,
        Expiry.live Window.time Window.lifetime ts.millis (Window.ofEntry entry) = true := by
  obtain ⟨inStep, fewer, listed⟩ := removeTimeout_spec ts addresses.advAddrMap addresses.advTimeQueue
    follows.inStep follows.small
  rw [Expiry.dropWhile_expired ts.millis (ordered_windows follows.inStep)] at listed
  constructor
  · refine ⟨inStep, ?_, follows.ordered, ?_, ?_⟩
    · rw [removeTimeoutAdvAddr, listed]
      exact Expiry.keeps_expire later follows.keeps
    · intro window member
      exact (follows.past window member).trans later
    · intro entry member
      exact follows.small entry (fewer entry member)
  · intro entry member
    have kept : Window.ofEntry entry ∈ (addresses.advTimeQueue.map Window.ofEntry).filter
        (Expiry.live Window.time Window.lifetime ts.millis) := by
      rw [← listed]
      exact List.mem_map_of_mem member
    exact (List.mem_filter.mp kept).2

/-- The windows that are kept and live are those of the queue. -/
theorem mem_lastWindows_iff {now : Nat} {addresses : AdvAddresses} {windows : List Window}
    (follows : Follows now addresses windows)
    (allLive : ∀ entry ∈ addresses.advTimeQueue,
      Expiry.live Window.time Window.lifetime now (Window.ofEntry entry) = true) (window : Window) :
    window ∈ Window.lastWindows windows ∧
      Expiry.live Window.time Window.lifetime now window = true ↔
      ∃ entry ∈ addresses.advTimeQueue, Window.ofEntry entry = window := by
  have same := follows.keeps.same now (Nat.le_refl _)
  rw [Window.lastWindows, ← List.mem_filter, ← same, List.mem_filter, List.mem_map]
  constructor
  · rintro ⟨listed, -⟩
    exact listed
  · rintro ⟨entry, member, rfl⟩
    exact ⟨⟨entry, member, rfl⟩, allLive entry member⟩

/-- An address is open in the history exactly if the map has it. -/
theorem isOpen_iff {addresses : AdvAddresses} {windows : List Window} {given : Check}
    (follows : Follows given.removed.millis addresses windows)
    (allLive : ∀ entry ∈ addresses.advTimeQueue,
      Expiry.live Window.time Window.lifetime given.removed.millis (Window.ofEntry entry) = true) :
    Window.isOpen Window.lastWindows windows given = true ↔
      ∃ entry ∈ addresses.advTimeQueue, SameAddr entry.1 given.addrStr := by
  have listed := mem_lastWindows_iff follows allLive
  simp only [Window.isOpen, List.any_eq_true, Bool.and_eq_true, decide_eq_true_eq]
  constructor
  · rintro ⟨window, member, same, lives⟩
    obtain ⟨entry, queued, rfl⟩ := (listed window).mp ⟨member, lives⟩
    exact ⟨entry, queued, same⟩
  · rintro ⟨entry, queued, same⟩
    obtain ⟨member, lives⟩ := (listed _).mpr ⟨entry, queued, rfl⟩
    exact ⟨_, member, same, lives⟩

/-- The answer for an address that the map has. Its entry in the queue is its last window, and
the address is refused as soon as a quarter of an hour has passed since that was opened. -/
theorem refuses_iff {addresses : AdvAddresses} {windows : List Window} {given : Check}
    {entry : AddrTime} (follows : Follows given.removed.millis addresses windows)
    (allLive : ∀ entry ∈ addresses.advTimeQueue,
      Expiry.live Window.time Window.lifetime given.removed.millis (Window.ofEntry entry) = true)
    (queued : entry ∈ addresses.advTimeQueue) (same : SameAddr given.addrStr entry.1) :
    Window.Refuses Window.lastWindows windows given ↔
      given.started.getBootMillis ≥ entry.2 + advAddrTimeThreshold := by
  have listed := mem_lastWindows_iff follows allLive
  have quarter : advAddrTimeThreshold.toNat = Window.threshold := rfl
  have small := follows.small entry queued
  have sum : (entry.2 + advAddrTimeThreshold).toNat = entry.2.toNat + Window.threshold := by
    rw [UInt64.toNat_add, quarter, Nat.mod_eq_of_lt]
    rw [Window.threshold]
    omega
  rw [ge_iff_le, UInt64.le_iff_toNat_le, sum, Timespec.toNat_getBootMillis]
  constructor
  · rintro ⟨window, member, sameWindow, lives, old⟩
    obtain ⟨other, otherQueued, rfl⟩ := (listed window).mp ⟨member, decide_eq_true lives⟩
    have equal : other = entry := eq_of_sameAddr ((follows.inStep.same other).mpr otherQueued)
      ((follows.inStep.same entry).mpr queued) (sameWindow.trans same)
    exact equal ▸ old
  · intro old
    obtain ⟨member, lives⟩ := (listed _).mpr ⟨entry, queued, rfl⟩
    exact ⟨_, member, same.symm, of_decide_eq_true lives, old⟩

/-- Making room keeps queue and map in step, whether an entry has to go or not. -/
theorem inStep_room {addresses : AdvAddresses} (inStep : InStep addresses) :
    InStep (if maxAdvAddrMapSize ≤ addresses.advTimeQueue.length then addresses.pop else addresses) := by
  split
  · exact inStep_pop inStep
  · exact inStep

/-- Dropping the oldest entry takes the first of the queue. -/
theorem queue_pop (addresses : AdvAddresses) :
    addresses.pop.advTimeQueue = addresses.advTimeQueue.tail := by
  rw [pop]
  split
  · rename_i empty
    rw [empty, List.tail_nil]
  · rename_i front rest filled
    rw [filled, List.tail_cons]

/-- A new address enters both containers. It is new to the queue and therefore to the map, and
its time is the latest, so that the order of the queue is kept. -/
theorem inStep_insert {addresses : AdvAddresses} {entry : AddrTime} (inStep : InStep addresses)
    (new : ∀ other ∈ addresses.advTimeQueue, ¬ SameAddr entry.1 other.1)
    (latest : ∀ other ∈ addresses.advTimeQueue, other.2 ≤ entry.2) :
    InStep ⟨addresses.advAddrMap.emplace entry, addresses.advTimeQueue ++ [entry]⟩ := by
  have unmet : ∀ other ∈ addresses.advAddrMap.elements, meetsKey compareAddr entry other = false := by
    intro other member
    rw [← Bool.not_eq_true, meetsKey_compareAddr]
    exact new other ((inStep.same other).mp member)
  refine ⟨?_, ?_, ?_⟩
  · intro other
    rw [OrderedSet.mem_emplace_new _ _ unmet, inStep.same, List.mem_append, List.mem_singleton, or_comm]
  · rw [List.pairwise_append]
    refine ⟨inStep.once, List.pairwise_singleton _ _, ?_⟩
    intro other member last lastMember same
    rw [List.mem_singleton.mp lastMember] at same
    exact new other member same.symm
  · rw [List.pairwise_append]
    refine ⟨inStep.ordered, List.pairwise_singleton _ _, ?_⟩
    intro other member last lastMember
    rw [List.mem_singleton.mp lastMember]
    exact latest other member

/-- A new address opens a window. If the map is full, the oldest window is given up first, so
that the queue again holds the last windows of the history. -/
theorem follows_insert {addresses : AdvAddresses} {windows : List Window} {given : Check}
    (follows : Follows given.removed.millis addresses windows)
    (allLive : ∀ entry ∈ addresses.advTimeQueue,
      Expiry.live Window.time Window.lifetime given.removed.millis (Window.ofEntry entry) = true)
    (order : given.removed.millis ≤ given.started.millis)
    (new : ∀ entry ∈ addresses.advTimeQueue, ¬ SameAddr given.addrStr entry.1) :
    let room := if maxAdvAddrMapSize ≤
      addresses.advTimeQueue.length then addresses.pop else addresses
    Follows given.started.millis
      ⟨room.advAddrMap.emplace (given.addrStr, given.started.getBootMillis),
        room.advTimeQueue ++ [(given.addrStr, given.started.getBootMillis)]⟩
      (windows ++ [⟨given.addrStr, given.started.millis⟩]) := by
  intro room
  have queue : room.advTimeQueue =
      if maxAdvAddrMapSize ≤ addresses.advTimeQueue.length then addresses.advTimeQueue.tail
      else addresses.advTimeQueue := by
    rw [← queue_pop, ← apply_ite advTimeQueue]
  have fewer : ∀ entry ∈ room.advTimeQueue, entry ∈ addresses.advTimeQueue := by
    intro entry member
    rw [queue] at member
    split at member
    · exact List.mem_of_mem_tail member
    · exact member
  have window : Window.ofEntry (given.addrStr, given.started.getBootMillis) =
      ⟨given.addrStr, given.started.millis⟩ := by
    rw [Window.ofEntry, Timespec.toNat_getBootMillis]
  have earlier : ∀ entry ∈ addresses.advTimeQueue, entry.2.toNat ≤ given.started.millis := by
    intro entry member
    have listed := (mem_lastWindows_iff follows allLive _).mpr ⟨entry, member, rfl⟩
    have past := follows.past _ (List.mem_of_mem_drop listed.1)
    exact past.trans order
  refine ⟨?_, ?_, ?_, ?_, ?_⟩
  · apply inStep_insert (inStep_room follows.inStep)
    · intro other member
      exact new other (fewer other member)
    · intro other member
      rw [UInt64.le_iff_toNat_le, Timespec.toNat_getBootMillis]
      exact earlier other (fewer other member)
  · have liveWindows : ∀ kept ∈ addresses.advTimeQueue.map Window.ofEntry,
        Expiry.live Window.time Window.lifetime given.removed.millis kept = true := by
      intro kept member
      obtain ⟨entry, queued, rfl⟩ := List.mem_map.mp member
      exact allLive entry queued
    have entered := @Expiry.keeps_enter _ Window.time Window.lifetime 127 given.removed.millis
      (addresses.advTimeQueue.map Window.ofEntry) windows ⟨given.addrStr, given.started.millis⟩ follows.ordered
      liveWindows follows.keeps
    have listed : (room.advTimeQueue ++ [(given.addrStr, given.started.getBootMillis)]).map Window.ofEntry =
        (if 127 + 1 ≤ (addresses.advTimeQueue.map Window.ofEntry).length then
          (addresses.advTimeQueue.map Window.ofEntry).tail else addresses.advTimeQueue.map Window.ofEntry) ++
          [⟨given.addrStr, given.started.millis⟩] := by
      rw [List.map_append, List.map_singleton, window, queue, List.length_map, ← List.map_tail,
        apply_ite (List.map _)]
      rfl
    rw [listed]
    exact ⟨entered.fits, fun next after => entered.same next (order.trans after)⟩
  · rw [List.pairwise_append]
    refine ⟨follows.ordered, List.pairwise_singleton _ _, ?_⟩
    intro earlierWindow member last lastMember
    rw [List.mem_singleton.mp lastMember]
    exact (follows.past earlierWindow member).trans order
  · intro earlierWindow member
    rw [List.mem_append, List.mem_singleton] at member
    obtain before | rfl := member
    · exact (follows.past earlierWindow before).trans order
    · exact Nat.le_refl _
  · intro entry member
    rw [List.mem_append, List.mem_singleton] at member
    obtain before | rfl := member
    · exact follows.small entry (fewer entry before)
    · rw [Timespec.toNat_getBootMillis]
      exact given.started.fits

/-- A check answers by the rule, and the containers go on following the history. Both halves are
needed at once: the rule speaks of the history, and the code looks only at the containers. -/
theorem check_spec {since : Nat} {addresses : AdvAddresses} {windows : List Window} {given : Check}
    (follows : Follows since addresses windows) (later : since ≤ given.removed.millis)
    (order : given.removed.millis ≤ given.started.millis) :
    InStep (addresses.removeTimeoutAdvAddr given.removed) ∧
      ((addresses.check given).1 = false ↔ Window.Refuses Window.lastWindows windows given) ∧
      Follows given.started.millis (addresses.check given).2
        (Window.accept Window.lastWindows windows given) := by
  obtain ⟨removed, allLive⟩ := follows_removed follows later
  refine ⟨removed.inStep, ?_⟩
  have opened := isOpen_iff removed allLive
  rw [check, canStartAdv, Window.accept]
  cases found : (addresses.removeTimeoutAdvAddr given.removed).advAddrMap.find (given.addrStr, 0) with
  | some entry =>
    obtain ⟨member, same⟩ := find_some found
    have queued := (removed.inStep.same entry).mp member
    rw [refuses_iff removed allLive queued same, if_pos (opened.mpr ⟨entry, queued, same.symm⟩)]
    by_cases old : given.started.getBootMillis ≥ entry.2 + advAddrTimeThreshold
    · exact ⟨by simp [old], by simpa [old] using removed.later order⟩
    · exact ⟨by simp [old], by simpa [old] using removed.later order⟩
  | none =>
    have new : ∀ entry ∈ (addresses.removeTimeoutAdvAddr given.removed).advTimeQueue,
        ¬ SameAddr given.addrStr entry.1 := by
      intro entry member
      exact find_none found entry ((removed.inStep.same entry).mpr member)
    have notOpen : ¬ Window.isOpen Window.lastWindows windows given = true := by
      intro isOpen
      obtain ⟨entry, queued, same⟩ := opened.mp isOpen
      exact new entry queued same.symm
    have notRefused : ¬ Window.Refuses Window.lastWindows windows given := by
      rintro ⟨window, member, same, lives, -⟩
      obtain ⟨entry, queued, rfl⟩ :=
        (mem_lastWindows_iff removed allLive window).mp ⟨member, decide_eq_true lives⟩
      exact new entry queued same.symm
    rw [if_neg notOpen]
    refine ⟨iff_of_false (by simp) notRefused, ?_⟩
    exact follows_insert removed allLive order new

/-! ## Sequences of checks -/

/-- A sequence of checks in the order of time is one without its last, and none of the others
comes after it. -/
theorem nonDecreasing_concat {checks : List Check} {given : Check}
    (order : NonDecreasing (checks ++ [given])) :
    NonDecreasing checks ∧ (∀ earlier ∈ checks, earlier.started.millis ≤ given.removed.millis) ∧
      given.removed.millis ≤ given.started.millis := by
  rw [NonDecreasing, List.flatMap_append, List.pairwise_append] at order
  obtain ⟨before, last, across⟩ := order
  refine ⟨before, ?_, ?_⟩
  · intro earlier member
    apply across
    · exact List.mem_flatMap.mpr ⟨earlier, member, by simp⟩
    · simp
  · simpa using last

/-- The state after one check more is the state before with that check made. -/
theorem after_concat (checks : List Check) (given : Check) :
    after (checks ++ [given]) = ((after checks).check given).2 := by
  rw [after, List.foldl_append, ← after, List.foldl_cons, List.foldl_nil]

/-- The windows after one check more are those before with that check judged. Stated for any
rule of keeping windows, since two are compared. -/
theorem accepted_concat (keep : List Window → List Window) (checks : List Check) (given : Check) :
    Window.accepted keep (checks ++ [given]) =
      Window.accept keep (Window.accepted keep checks) given := by
  rw [Window.accepted, List.foldl_append, ← Window.accepted, List.foldl_cons, List.foldl_nil]

/-- After checks in the order of time the code's queue follows the last windows. The induction
takes the checks from their end. -/
theorem follows_after {checks : List Check} (order : NonDecreasing checks) {since : Nat}
    (past : ∀ given ∈ checks, given.started.millis ≤ since) :
    Follows since (after checks) (Window.accepted Window.lastWindows checks) := by
  induction checks using List.reverseRecOn generalizing since with
  | nil =>
    refine ⟨⟨?_, List.Pairwise.nil, List.Pairwise.nil⟩, ⟨Nat.zero_le _, ?_⟩, List.Pairwise.nil, ?_, ?_⟩
    · intro entry
      exact Iff.rfl
    · intro now _
      rw [Window.accepted, List.foldl_nil, List.rtake_nil]
      rfl
    · intro window member
      cases member
    · intro entry member
      cases member
  | append_singleton checks given inductionHypothesis =>
    obtain ⟨before, earlier, reads⟩ := nonDecreasing_concat order
    obtain ⟨-, -, follows⟩ := check_spec (inductionHypothesis before earlier) (Nat.le_refl _) reads
    rw [after_concat, accepted_concat]
    exact follows.later (past given (by simp))

/-- **An address is refused exactly between fifteen and sixty minutes after its first use.**
For every sequence of checks at times that do not decrease, the next check is refused exactly
if one of the last 128 windows is of its address, was open at the first reading of the clock
and is fifteen minutes old at the second. Throughout, the map and the queue hold the same
pairs, each address once, the queue ordered by time. -/
theorem refused_iff (checks : List Check) (given : Check)
    (order : NonDecreasing (checks ++ [given])) :
    (((after checks).check given).1 = false ↔
      Window.Refuses Window.lastWindows (Window.accepted Window.lastWindows checks) given) ∧
    InStep ((after checks).removeTimeoutAdvAddr given.removed) ∧
      InStep ((after checks).check given).2 := by
  obtain ⟨before, earlier, reads⟩ := nonDecreasing_concat order
  obtain ⟨removed, answer, follows⟩ := check_spec (follows_after before earlier) (Nat.le_refl _) reads
  exact ⟨answer, removed, follows.inStep⟩

/-- The minutes a caller may ask for fit a signed counter of milliseconds. -/
theorem minutes_fit (minutes : UInt8) : minutes.toNat * 60 * 1000 + 0 / 1000000 < 2 ^ 63 := by
  have small := minutes.toNat_lt
  omega

/-- A check so many minutes after the boot. -/
def checkAt (addrStr : ByteString) (minutes : UInt8) : Check where
  addrStr := addrStr
  removed := ⟨minutes.toNat * 60, 0, minutes_fit minutes⟩
  started := ⟨minutes.toNat * 60, 0, minutes_fit minutes⟩

/-- An address in lower case is refused sixteen minutes after its first use in upper case. -/
theorem refused_after_sixteen :
    ((after [checkAt [65] 0]).check (checkAt [97] 16)).1 = false := by
  have refuses : Window.Refuses Window.lastWindows (Window.accepted Window.lastWindows [checkAt [65] 0])
      (checkAt [97] 16) :=
    ⟨⟨[65], 0⟩, by decide, by decide, by decide, by decide⟩
  exact (refused_iff [checkAt [65] 0] (checkAt [97] 16) (by decide)).1.mpr refuses

/-- A window stays in the history. -/
theorem mem_accepted_append (keep : List Window → List Window) (checks more : List Check)
    {window : Window} (member : window ∈ Window.accepted keep checks) :
      window ∈ Window.accepted keep (checks ++ more) := by
  induction more using List.reverseRecOn with
  | nil => rwa [List.append_nil]
  | append_singleton more given inductionHypothesis =>
    rw [← List.append_assoc, accepted_concat, Window.accept]
    split
    · exact inductionHypothesis
    · exact List.mem_append_left _ inductionHypothesis

/-- 128 addresses at once. -/
def crowd : List Check :=
  (List.range 128).map fun i => checkAt [UInt8.ofNat (254 - i)] 0

/-- The crowd of addresses comes in the order of time. -/
theorem crowd_nonDecreasing : NonDecreasing ([checkAt [255] 0] ++ crowd ++ [checkAt [255] 20]) := by
  rw [NonDecreasing, ← List.isChain_iff_pairwise]
  decide +kernel

/-- An address that the crowd has pushed out is accepted again before its time. -/
theorem crowd_displaces :
    ((after ([checkAt [255] 0] ++ crowd)).check (checkAt [255] 20)).1 = true := by
  decide +kernel

/-- An address that comes before the crowd is accepted again after it, although its window is
twenty minutes old: the crowd has displaced it. -/
theorem accepted_after_crowd :
    ¬ ∀ (checks : List Check) (given : Check), NonDecreasing (checks ++ [given]) →
      (((after checks).check given).1 = false ↔
        Window.Refuses id (Window.accepted id checks) given) := by
  intro rule
  have first : (⟨[255], 0⟩ : Window) ∈ Window.accepted id [checkAt [255] 0] := by decide
  have refuses : Window.Refuses id (Window.accepted id ([checkAt [255] 0] ++ crowd)) (checkAt [255] 20) := by
    simp only [Window.Refuses, id_eq]
    refine ⟨_, mem_accepted_append id _ crowd first, ?_, ?_, ?_⟩
    · decide
    · decide
    · decide
  have refused := (rule _ (checkAt [255] 20) crowd_nonDecreasing).mpr refuses
  exact Bool.noConfusion (crowd_displaces.symm.trans refused)

end AdvAddresses
end BluetoothFramework.CAdapter
