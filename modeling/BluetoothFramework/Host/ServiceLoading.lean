import BluetoothFramework.Library.Runs

/-!
# Loading the Bluetooth service

`LoadBluetoothHostService` requests the load of the service, and waits until there is a host
proxy, the load is said to have failed, or the time is over. What the notifications say is
kept in one status, which tells nothing of whose load it was. It is written without the
mutex, and set back only by an attempt whose wait has ended in time.

`attempts_report_iff` says when the results are right: it is enough that the attempts come one
by one, that a failure arrives while its own attempt waits, and that no success follows a
failure (`InTurn`). In terms of the status, an attempt that finds it failed must have had its
own failure, or be out of time without a proxy, and one that does not must have had a proxy.
-/

namespace BluetoothFramework.Host.ServiceLoading

open Runs

/-- `SaManagerStatus` -/
inductive SaManagerStatus where
  | waitNotify
  | loadFail
  | loadSuccess
deriving DecidableEq, Repr

/-- `ERR_OK` -/
def errOk : Int32 := 0

/-- How far an attempt has come: it has found no host; it waits for the load it has requested;
its wait has ended in time; it has looked at the status, and so decided on its result; it has
returned; it has returned since no load could be requested. -/
inductive Phase where
  | begun
  | waiting
  | passed
  | decided (result : Bool)
  | returned (result : Bool)
  | refused
deriving DecidableEq, Repr

/-- An attempt, and what happened up to its decision: there was a host proxy, the failure of
its load was notified, the time was over while there was no proxy. -/
structure Attempt where
  phase : Phase
  available : Bool
  failed : Bool := false
  expired : Bool := false
deriving DecidableEq, Repr

namespace Attempt

def underWay (attempt : Attempt) : Bool :=
  match attempt.phase with
  | .begun | .waiting | .passed | .decided _ => true
  | .returned _ | .refused => false

def undecided (attempt : Attempt) : Bool :=
  match attempt.phase with
  | .begun | .waiting | .passed => true
  | .decided _ | .returned _ | .refused => false

/-- An attempt without a decision is under way. -/
theorem underWay_of_undecided {attempt : Attempt} (undecided : attempt.undecided = true) :
    attempt.underWay = true := by
  obtain ⟨phase, available, failed, expired⟩ := attempt
  cases phase <;> first | rfl | cases undecided

/-- What the attempt returns. -/
def result (attempt : Attempt) : Option Bool :=
  match attempt.phase with
  | .begun | .waiting | .passed => none
  | .decided result | .returned result => some result
  | .refused => some false

/-- The result is that of the attempt's own load. -/
def Reports (attempt : Attempt) : Prop :=
  (attempt.result = some true → attempt.available = true) ∧
    (attempt.result = some false → attempt.phase = .refused ∨ attempt.failed = true ∨ attempt.expired = true)

instance (attempt : Attempt) : Decidable attempt.Reports :=
  inferInstanceAs (Decidable (_ ∧ _))

/-- The failure of the attempt's load is notified. -/
def fail (attempt : Attempt) : Attempt :=
  if attempt.undecided then { attempt with failed := true } else attempt

/-- The host proxy comes or goes. -/
def see (proxy : Bool) (attempt : Attempt) : Attempt :=
  if attempt.undecided && proxy then { attempt with available := true } else attempt

end Attempt

namespace Attempt

/-- A failed status is the attempt's: the failure was notified, or the status is about to be
set back. -/
def Owns (attempt : Attempt) : Prop :=
  (attempt.phase = .waiting ∨ attempt.phase = .passed) ∧ attempt.failed = true ∨
    ∃ result, attempt.phase = .decided result

/-- An attempt that owns the status is under way. -/
theorem Owns.underWay {attempt : Attempt} (owns : attempt.Owns) : attempt.underWay = true := by
  rw [Attempt.underWay]
  rcases owns with ⟨waiting | passed, -⟩ | ⟨result, decided⟩
  · rw [waiting]
  · rw [passed]
  · rw [decided]

/-- An attempt that has just begun does not own the status, for it waits for nothing yet. -/
theorem Owns.ne_begun {attempt : Attempt} (owns : attempt.Owns) : attempt.phase ≠ .begun := by
  intro begun
  rcases owns with ⟨waiting | passed, -⟩ | ⟨result, decided⟩
  · cases begun.symm.trans waiting
  · cases begun.symm.trans passed
  · cases begun.symm.trans decided

/-- An attempt that owns the status behind its wait has failed, which is why the status says so.
-/
theorem Owns.failed_of_passed {attempt : Attempt} (owns : attempt.Owns)
    (passed : attempt.phase = .passed) :
    attempt.failed = true := by
  rcases owns with ⟨-, failed⟩ | ⟨result, decided⟩
  · exact failed
  · cases passed.symm.trans decided

end Attempt

/-- The status, whether the host proxy can be had, the attempt that has `proxyMutex_`, and all
attempts so far. An attempt is named by its place. -/
structure State where
  saManagerStatus : SaManagerStatus := .waitNotify
  proxy : Bool := false
  holder : Option Nat := none
  attempts : List Attempt := []
deriving DecidableEq, Repr

/-- What can happen. A failure is that of an attempt's load, or of another start. -/
inductive Label where
  | begins (samgrProxy : Bool)
  | requests (id : Nat) (ret : Int32)
  | evaluates (id : Nat) (timedOut : Bool)
  | checks (id : Nat)
  | resets (id : Nat)
  | loadSystemAbilitySuccess
  | loadSystemAbilityFail (origin : Option Nat)
  | proxyChanges (proxy : Bool)
deriving DecidableEq, Repr

namespace State

/-- The attempt, if it has come as far as the phase. -/
def attemptIn (state : State) (id : Nat) (phase : Phase) : Option Attempt :=
  state.attempts[id]?.filter fun attempt => attempt.phase = phase

/-- The attempt goes on, with the mutex or without it. -/
def proceed (state : State) (id : Nat) (attempt : Attempt) (holder : Option Nat) : State :=
  { state with attempts := state.attempts.set id attempt, holder := holder }

/-- `LoadBluetoothHostService` up to the request. -/
def begin (state : State) (samgrProxy : Bool) : State :=
  if !samgrProxy then
    { state with attempts := state.attempts ++ [{ phase := .refused, available := state.proxy }] }
  else if state.proxy then
    { state with attempts := state.attempts ++ [{ phase := .returned true, available := true }] }
  else
    { state with
      attempts := state.attempts ++ [{ phase := .begun, available := false }]
      holder := some state.attempts.length }

/-- The condition of the wait. It is looked at once before the mutex is given up, then
whenever the attempt wakes, and a last time when the time is over. -/
def evaluate (state : State) (id : Nat) (timedOut : Bool) (attempt : Attempt) : State :=
  let expired := attempt.expired || (timedOut && !state.proxy)
  if state.proxy || state.saManagerStatus = .loadFail then
    state.proceed id { attempt with phase := .passed, expired := expired } (some id)
  else if timedOut then state.proceed id { attempt with phase := .returned false, expired := expired } none
  else state.proceed id { attempt with expired := expired } none

/-- One step. -/
def step (state : State) : Label → Option State
  | .begins samgrProxy => if state.holder = none then some (state.begin samgrProxy) else none
  | .requests id ret =>
      (state.attemptIn id .begun).map fun attempt =>
        if ret ≠ errOk then state.proceed id { attempt with phase := .refused } none
        else state.proceed id { attempt with phase := .waiting } state.holder
  | .evaluates id timedOut =>
      if state.holder = none ∨ (state.holder = some id ∧ timedOut = false) then
        (state.attemptIn id .waiting).map (state.evaluate id timedOut)
      else none
  | .checks id =>
      (state.attemptIn id .passed).map fun attempt =>
        state.proceed id { attempt with phase := .decided (state.saManagerStatus ≠ .loadFail) } state.holder
  | .resets id =>
      match state.attempts[id]? with
      | some ⟨.decided result, available, failed, expired⟩ =>
          some { state.proceed id ⟨.returned result, available, failed, expired⟩ none with
            saManagerStatus := .waitNotify }
      | _ => none
  | .loadSystemAbilitySuccess => some { state with saManagerStatus := .loadSuccess }
  | .loadSystemAbilityFail origin =>
      some { state with
        saManagerStatus := .loadFail
        attempts := match origin with
          | none => state.attempts
          | some id => state.attempts.modify id Attempt.fail }
  | .proxyChanges proxy =>
    some { state with proxy := proxy, attempts := state.attempts.map (Attempt.see proxy) }

/-- Every attempt reports on its own load. -/
def Reports (state : State) : Prop :=
  ∀ attempt ∈ state.attempts, attempt.Reports

instance (state : State) : Decidable state.Reports :=
  inferInstanceAs (Decidable (∀ attempt ∈ state.attempts, attempt.Reports))

/-- An attempt that is about to find the status failed has had its own failure or is out of
time without a proxy, and one that is about to find it otherwise has had a proxy. -/
def FindsItsOwn (state : State) : Label → Prop
  | .checks id => ∀ attempt ∈ state.attemptIn id .passed,
      if state.saManagerStatus = .loadFail then attempt.failed = true ∨ attempt.expired = true
      else attempt.available = true
  | _ => True

/-- The attempts come one by one, failures arrive while their own attempt waits or is about to
look at the status, and no success follows a failure. -/
def InTurn (state : State) : Label → Prop
  | .begins _ => ∀ attempt ∈ state.attempts, attempt.underWay = false
  | .loadSystemAbilitySuccess => state.saManagerStatus ≠ .loadFail
  | .loadSystemAbilityFail origin => ∃ id ∈ origin, ∃ attempt ∈ state.attempts[id]?,
      attempt.phase = .waiting ∨ attempt.phase = .passed
  | _ => True

/-! ## Results are right as long as the status is found rightly -/

/-- The attempt in a phase is the one with the number, if it is in that phase. -/
theorem attemptIn_eq_some_iff (state : State) (id : Nat) (phase : Phase) (attempt : Attempt) :
    state.attemptIn id phase = some attempt ↔
      state.attempts[id]? = some attempt ∧ attempt.phase = phase := by
  rw [attemptIn, Option.filter_eq_some_iff, decide_eq_true_eq]

/-- The attempt that goes on decides. -/
theorem reports_proceed {state : State} {id : Nat} {before attempt : Attempt}
    (reports : state.Reports) (found : state.attempts[id]? = some before) (holder : Option Nat) :
    (state.proceed id attempt holder).Reports ↔ attempt.Reports := by
  obtain ⟨inside, -⟩ := List.getElem?_eq_some_iff.mp found
  constructor
  · intro after
    exact after attempt (List.mem_set inside attempt)
  · intro right other member
    rcases List.mem_or_eq_of_mem_set member with old | rfl
    · exact reports other old
    · exact right

/-- An attempt more whose result is right leaves all results right. -/
theorem reports_append {state : State} (reports : state.Reports) {attempt : Attempt}
    (right : attempt.Reports) :
    ∀ other ∈ state.attempts ++ [attempt], other.Reports := by
  intro other member
  rcases List.mem_append.mp member with old | new
  · exact reports other old
  · exact List.mem_singleton.mp new ▸ right

/-- Nothing is asked of an attempt that has not decided. -/
theorem reports_of_undecided {attempt : Attempt} (undecided : attempt.result = none) :
    attempt.Reports := by
  rw [Attempt.Reports, undecided]
  exact ⟨nofun, nofun⟩

/-- The notification of a failure makes no result wrong. -/
theorem reports_fail {attempt : Attempt} (reports : attempt.Reports) : attempt.fail.Reports := by
  obtain ⟨phase, available, failed, expired⟩ := attempt
  cases phase <;> first | exact reports_of_undecided rfl | exact reports

/-- The change of the proxy makes no result wrong. -/
theorem reports_see {attempt : Attempt} (reports : attempt.Reports) (proxy : Bool) :
    (attempt.see proxy).Reports := by
  obtain ⟨phase, available, failed, expired⟩ := attempt
  cases phase <;> cases proxy <;> first | exact reports_of_undecided rfl | exact reports

/-- A wait ends with a result only if the time is over and there is no proxy. -/
theorem reports_evaluate {state : State} {id : Nat} {attempt : Attempt} (reports : state.Reports)
    (found : state.attempts[id]? = some attempt) (waits : attempt.phase = .waiting)
    (timedOut : Bool) :
    (state.evaluate id timedOut attempt).Reports := by
  rw [evaluate]
  split
  · exact (reports_proceed reports found _).mpr (reports_of_undecided rfl)
  · rename_i goesOn
    split
    · rename_i expires
      refine (reports_proceed reports found _).mpr ⟨nofun, fun _ => .inr (.inr ?_)⟩
      cases proxy : state.proxy with
      | true => exact absurd (by rw [proxy]; rfl) goesOn
      | false => simp [expires]
    · exact (reports_proceed reports found _).mpr (reports_of_undecided (by rw [Attempt.result, waits]))

/-- An attempt that looks at the status reports on its own load exactly when the status is found
rightly. -/
theorem reports_checks_iff {state : State} {id : Nat} {attempt : Attempt} (reports : state.Reports)
    (found : state.attemptIn id .passed = some attempt) :
    (state.proceed id { attempt with phase := .decided (state.saManagerStatus ≠ .loadFail) }
        state.holder).Reports ↔
      state.FindsItsOwn (.checks id) := by
  have place := ((attemptIn_eq_some_iff ..).mp found).1
  rw [reports_proceed reports place, FindsItsOwn, found]
  simp only [Option.mem_some_iff, forall_eq']
  by_cases fails : state.saManagerStatus = .loadFail
  · simp [Attempt.Reports, Attempt.result, fails]
  · simp [Attempt.Reports, Attempt.result, fails]

/-- A step keeps the results right exactly when the status is found rightly. Only the steps that
read the status can spoil a result, and the condition names what they must find there. -/
theorem reports_step_iff (state : State) (label : Label) (next : State) (reports : state.Reports)
    (enabled : state.step label = some next) : next.Reports ↔ state.FindsItsOwn label := by
  cases label with
  | begins samgrProxy =>
    refine iff_of_true ?_ trivial
    rw [step] at enabled
    split at enabled
    · obtain rfl := Option.some.inj enabled
      rw [begin]
      split
      · exact reports_append reports ⟨nofun, fun _ => .inl rfl⟩
      · split
        · exact reports_append reports ⟨fun _ => rfl, nofun⟩
        · exact reports_append reports (reports_of_undecided rfl)
    · cases enabled
  | requests id ret =>
    refine iff_of_true ?_ trivial
    obtain ⟨attempt, found, rfl⟩ := Option.map_eq_some_iff.mp enabled
    have place := ((attemptIn_eq_some_iff ..).mp found).1
    split
    · exact (reports_proceed reports place _).mpr ⟨nofun, fun _ => .inl rfl⟩
    · exact (reports_proceed reports place _).mpr (reports_of_undecided rfl)
  | evaluates id timedOut =>
    refine iff_of_true ?_ trivial
    rw [step] at enabled
    split at enabled
    · obtain ⟨attempt, found, rfl⟩ := Option.map_eq_some_iff.mp enabled
      obtain ⟨place, waits⟩ := (attemptIn_eq_some_iff ..).mp found
      exact reports_evaluate reports place waits timedOut
    · cases enabled
  | checks id =>
    obtain ⟨attempt, found, rfl⟩ := Option.map_eq_some_iff.mp enabled
    exact reports_checks_iff reports found
  | resets id =>
    refine iff_of_true ?_ trivial
    rw [step] at enabled
    split at enabled
    · rename_i result available failed expired place
      obtain rfl := Option.some.inj enabled
      have decided := reports _ (List.mem_of_getElem? place)
      have returned : Attempt.Reports ⟨.returned result, available, failed, expired⟩ := by
        refine ⟨decided.1, fun fails => .inr ?_⟩
        exact (decided.2 fails).resolve_left nofun
      exact (reports_proceed reports place none).mpr returned
    · cases enabled
  | loadSystemAbilitySuccess =>
    obtain rfl := Option.some.inj enabled
    exact iff_of_true reports trivial
  | loadSystemAbilityFail origin =>
    obtain rfl := Option.some.inj enabled
    refine iff_of_true (fun attempt member => ?_) trivial
    cases origin with
    | none => exact reports attempt member
    | some id =>
      obtain ⟨place, there⟩ := List.mem_iff_getElem?.mp member
      rw [List.getElem?_modify] at there
      obtain ⟨before, found, rfl⟩ := Option.map_eq_some_iff.mp there
      have right := reports before (List.mem_of_getElem? found)
      split
      · exact reports_fail right
      · exact right
  | proxyChanges proxy =>
    obtain rfl := Option.some.inj enabled
    refine iff_of_true (fun attempt member => ?_) trivial
    obtain ⟨before, old, rfl⟩ := List.mem_map.mp member
    exact reports_see (reports before old) proxy

/-! ## One attempt at a time finds its own -/

/-- What holds as long as all happens in turn. Only the last attempt is under way, a failed
status is that of the attempt under way, and an attempt whose wait has ended has had a proxy
or finds the status failed. -/
structure Serial (state : State) : Prop where
  last : ∀ id attempt, state.attempts[id]? = some attempt → attempt.underWay = true →
    id + 1 = state.attempts.length
  owned : state.saManagerStatus = .loadFail →
    ∃ (id : Nat) (attempt : Attempt), state.attempts[id]? = some attempt ∧ attempt.Owns
  passed : ∀ attempt ∈ state.attempts, attempt.phase = .passed →
    attempt.available = true ∨ state.saManagerStatus = .loadFail
  seen : state.proxy = true → ∀ attempt ∈ state.attempts, attempt.undecided = true →
    attempt.available = true

/-- Before the first attempt there is nothing that could overlap. -/
theorem serial_start (proxy : Bool) : Serial { proxy := proxy } where
  last := nofun
  owned := nofun
  passed := nofun
  seen _ := nofun

/-- An attempt that goes on leaves all in turn if it keeps a failed status, or has returned
without one. -/
theorem serial_proceed {state : State} {id : Nat} {before attempt : Attempt} (serial : state.Serial)
    (found : state.attempts[id]? = some before) (underWay : before.underWay = true)
    (owns : state.saManagerStatus = .loadFail → before.Owns → attempt.Owns)
    (passed : attempt.phase = .passed → attempt.available = true ∨ state.saManagerStatus = .loadFail)
    (seen : state.proxy = true → attempt.undecided = true → attempt.available = true)
    (holder : Option Nat) :
    (state.proceed id attempt holder).Serial where
  last other placed there still := by
    rw [proceed, List.length_set]
    rw [proceed, List.getElem?_set] at there
    split at there
    · rename_i same
      exact same ▸ serial.last id before found underWay
    · exact serial.last other placed there still
  owned fails := by
    obtain ⟨other, owner, there, owned⟩ := serial.owned fails
    have alone : other = id := by
      have lastOwner := serial.last other owner there owned.underWay
      have lastFound := serial.last id before found underWay
      omega
    subst alone
    obtain rfl := Option.some.inj (there.symm.trans found)
    obtain ⟨inside, -⟩ := List.getElem?_eq_some_iff.mp found
    exact ⟨other, attempt, List.getElem?_set_self inside, owns fails owned⟩
  passed other member ends := by
    rcases List.mem_or_eq_of_mem_set member with old | rfl
    · exact serial.passed other old ends
    · exact passed ends
  seen proxy other member undecided := by
    rcases List.mem_or_eq_of_mem_set member with old | rfl
    · exact serial.seen proxy other old undecided
    · exact seen proxy undecided

/-- A new attempt is the last one, and those before it are over. An attempt that begins in turn
finds no other under way, so it is the only one that can wait. -/
theorem serial_append {state : State} {attempt : Attempt} (serial : state.Serial)
    (ended : ∀ other ∈ state.attempts, other.underWay = false) (notPassed : attempt.phase ≠ .passed)
    (seen : state.proxy = true → attempt.undecided = true → attempt.available = true)
    (holder : Option Nat) :
    Serial { state with attempts := state.attempts ++ [attempt], holder := holder } where
  last id placed there still := by
    rw [List.getElem?_append] at there
    split at there
    · rw [ended placed (List.mem_of_getElem? there)] at still
      cases still
    · have first := List.getElem?_eq_some_iff.mp there
      obtain ⟨inside, -⟩ := first
      rw [List.length_append] at *
      simp only [List.length_singleton] at inside ⊢
      omega
  owned fails := by
    obtain ⟨id, owner, there, owned⟩ := serial.owned fails
    have still := owned.underWay
    rw [ended owner (List.mem_of_getElem? there)] at still
    cases still
  passed other member ends := by
    rcases List.mem_append.mp member with old | new
    · exact serial.passed other old ends
    · exact absurd (List.mem_singleton.mp new ▸ ends) notPassed
  seen proxy other member undecided := by
    rcases List.mem_append.mp member with old | new
    · exact serial.seen proxy other old undecided
    · obtain rfl := List.mem_singleton.mp new
      exact seen proxy undecided

/-- The attempt under way finds the status rightly. It is the only one, so a failed status is
that of its own load, and any other means that it has seen a proxy. -/
theorem findsItsOwn_of_serial (state : State) (label : Label) (serial : state.Serial) :
    state.FindsItsOwn label := by
  cases label with
  | checks id =>
    intro attempt found
    obtain ⟨place, passed⟩ := (attemptIn_eq_some_iff ..).mp found
    by_cases fails : state.saManagerStatus = .loadFail
    · rw [if_pos fails]
      obtain ⟨other, owner, there, owned⟩ := serial.owned fails
      have alone : other = id := by
        have lastOwner := serial.last other owner there owned.underWay
        have lastPassed := serial.last id attempt place (by rw [Attempt.underWay, passed])
        omega
      subst alone
      obtain rfl := Option.some.inj (there.symm.trans place)
      exact .inl (owned.failed_of_passed passed)
    · rw [if_neg fails]
      exact (serial.passed attempt (List.mem_of_getElem? place) passed).resolve_right fails
  | begins | requests | evaluates | resets | loadSystemAbilitySuccess | loadSystemAbilityFail | proxyChanges =>
    trivial

/-- The condition of the wait is as it has to be for an attempt that goes on. The attempt goes on
if there is a proxy or the status has failed, and one of the two is what it must have seen. -/
theorem serial_evaluate {state : State} {id : Nat} {attempt : Attempt} (serial : state.Serial)
    (found : state.attempts[id]? = some attempt) (waits : attempt.phase = .waiting)
    (timedOut : Bool) :
    (state.evaluate id timedOut attempt).Serial := by
  have undecided : attempt.undecided = true := by rw [Attempt.undecided, waits]
  have underWay := Attempt.underWay_of_undecided undecided
  have hasSeen : state.proxy = true → attempt.available = true := fun proxy =>
    serial.seen proxy attempt (List.mem_of_getElem? found) undecided
  rw [evaluate]
  split
  · rename_i ends
    apply serial_proceed serial found underWay
    · intro _ owns
      rcases owns with ⟨-, failed⟩ | ⟨result, decided⟩
      · exact .inl ⟨.inr rfl, failed⟩
      · cases waits.symm.trans decided
    · intro _
      rcases Bool.or_eq_true_iff.mp ends with proxy | fails
      · exact .inl (hasSeen proxy)
      · exact .inr (of_decide_eq_true fails)
    · exact fun proxy _ => hasSeen proxy
  · rename_i goesOn
    have unfailed : state.saManagerStatus ≠ .loadFail := fun fails => goesOn (by simp [fails])
    split
    · apply serial_proceed serial found underWay
      · exact fun fails _ => absurd fails unfailed
      · exact fun ends => nomatch ends
      · exact fun _ undecided => nomatch undecided
    · apply serial_proceed serial found underWay
      · exact fun fails _ => absurd fails unfailed
      · intro ends
        cases waits.symm.trans ends
      · exact fun proxy _ => hasSeen proxy

/-- Setting the status back ends the attempt that was under way. No failed status is left that
the next attempt could take for its own. -/
theorem serial_resets {state : State} {id : Nat} {before attempt : Attempt} (serial : state.Serial)
    (found : state.attempts[id]? = some before) (underWay : before.underWay = true)
    (ended : attempt.underWay = false) (holder : Option Nat) :
    Serial { state.proceed id attempt holder with saManagerStatus := .waitNotify } := by
  have others : ∀ other ∈ state.attempts.set id attempt, other.underWay = false := by
    intro other member
    obtain ⟨place, there⟩ := List.mem_iff_getElem?.mp member
    rw [List.getElem?_set] at there
    split at there
    · split at there
      · exact Option.some.inj there ▸ ended
      · cases there
    · rename_i apart
      by_contra still
      have lastOther := serial.last place other there (by simpa using still)
      have lastFound := serial.last id before found underWay
      omega
  constructor
  · intro other placed there still
    rw [others placed (List.mem_of_getElem? there)] at still
    cases still
  · exact nofun
  · intro other member passed
    have still : other.underWay = true := by rw [Attempt.underWay, passed]
    rw [others other member] at still
    cases still
  · intro _ other member undecided
    have still := Attempt.underWay_of_undecided undecided
    rw [others other member] at still
    cases still

/-- What notifications and the proxy leave as it is. -/
structure Marks (before after : Attempt) : Prop where
  phase : after.phase = before.phase
  failed : before.failed = true → after.failed = true
  available : before.available = true → after.available = true

namespace Marks

variable {before after : Attempt}

/-- Noting nothing marks an attempt in no way. -/
theorem refl (attempt : Attempt) : Marks attempt attempt :=
  ⟨rfl, id, id⟩

/-- A mark does not end an attempt. -/
theorem underWay (marks : Marks before after) : after.underWay = before.underWay := by
  rw [Attempt.underWay, Attempt.underWay, marks.phase]

/-- A mark decides nothing. -/
theorem undecided (marks : Marks before after) : after.undecided = before.undecided := by
  rw [Attempt.undecided, Attempt.undecided, marks.phase]

/-- An attempt that owned the status still does after a mark. -/
theorem owns (marks : Marks before after) (owned : before.Owns) : after.Owns := by
  rcases owned with ⟨waits, failed⟩ | decided
  · exact .inl ⟨marks.phase ▸ waits, marks.failed failed⟩
  · exact .inr (marks.phase ▸ decided)

end Marks

/-- The notification of a failure is a mark: it tells an attempt what has happened and does
nothing else to it. -/
theorem marks_fail (attempt : Attempt) : Marks attempt attempt.fail := by
  rw [Attempt.fail]
  split
  · exact ⟨rfl, fun _ => rfl, id⟩
  · exact .refl attempt

/-- The change of the proxy is a mark. -/
theorem marks_see (proxy : Bool) (attempt : Attempt) : Marks attempt (attempt.see proxy) := by
  rw [Attempt.see]
  split
  · exact ⟨rfl, id, fun _ => rfl⟩
  · exact .refl attempt

/-- Where the attempts are only marked, what happens in turn is left to the status and the
proxy. -/
theorem serial_marked {state next : State} {mark : Nat → Attempt → Attempt} (serial : state.Serial)
    (marked : ∀ id, next.attempts[id]? = state.attempts[id]?.map (mark id))
    (marks : ∀ id attempt, Marks attempt (mark id attempt))
    (length : next.attempts.length = state.attempts.length)
    (owned : next.saManagerStatus = .loadFail →
      ∃ (id : Nat) (attempt : Attempt), next.attempts[id]? = some attempt ∧ attempt.Owns)
    (status : state.saManagerStatus = .loadFail → next.saManagerStatus = .loadFail)
    (seen : next.proxy = true → ∀ id attempt, state.attempts[id]? = some attempt →
      attempt.undecided = true →
      (mark id attempt).available = true) : next.Serial where
  last id attempt there still := by
    rw [marked] at there
    obtain ⟨before, found, rfl⟩ := Option.map_eq_some_iff.mp there
    rw [(marks id before).underWay] at still
    rw [length]
    exact serial.last id before found still
  owned := owned
  passed attempt member ends := by
    obtain ⟨id, there⟩ := List.mem_iff_getElem?.mp member
    rw [marked] at there
    obtain ⟨before, found, rfl⟩ := Option.map_eq_some_iff.mp there
    rw [(marks id before).phase] at ends
    exact (serial.passed before (List.mem_of_getElem? found) ends).imp (marks id before).available status
  seen proxy attempt member undecided := by
    obtain ⟨id, there⟩ := List.mem_iff_getElem?.mp member
    rw [marked] at there
    obtain ⟨before, found, rfl⟩ := Option.map_eq_some_iff.mp there
    rw [(marks id before).undecided] at undecided
    exact seen proxy id before found undecided

/-- A failure is the attempt's that it is notified to. The attempt still waits or is about to
look at the status, so it is the one that will find it. -/
theorem serial_fails {state : State} {id : Nat} {attempt : Attempt} (serial : state.Serial)
    (found : state.attempts[id]? = some attempt)
    (waits : attempt.phase = .waiting ∨ attempt.phase = .passed) :
    Serial { state with saManagerStatus := .loadFail, attempts := state.attempts.modify id Attempt.fail } := by
  have undecided : attempt.undecided = true := by
    rcases waits with waiting | passed
    · rw [Attempt.undecided, waiting]
    · rw [Attempt.undecided, passed]
  have failed : attempt.fail.failed = true := by rw [Attempt.fail, if_pos undecided]
  have marks (place : Nat) (other : Attempt) : Marks other (if id = place then other.fail else other) := by
    split
    · exact marks_fail other
    · exact .refl other
  refine serial_marked serial (fun place => ?_) marks (List.length_modify _ _ _) (fun _ => ?_) (fun _ => rfl)
    fun proxy place other there undecided => ?_
  · rw [List.getElem?_modify]
    split <;> rfl
  · refine ⟨id, attempt.fail, ?_, .inl ⟨(marks_fail attempt).phase ▸ waits, failed⟩⟩
    rw [List.getElem?_modify_eq, found]
    rfl
  · exact (marks place other).available (serial.seen proxy other (List.mem_of_getElem? there) undecided)

/-- What happens in turn leaves all in turn. One case for each label, where the attempts before
the last are over and the last one is as far as its phase says. -/
theorem serial_step (state : State) (label : Label) (next : State) (serial : state.Serial)
    (turn : state.InTurn label) (enabled : state.step label = some next) : next.Serial := by
  cases label with
  | begins samgrProxy =>
    rw [step] at enabled
    split at enabled
    · obtain rfl := Option.some.inj enabled
      rw [begin]
      split
      · apply serial_append serial turn
        · exact Phase.noConfusion
        · exact fun _ undecided => nomatch undecided
      · split
        · apply serial_append serial turn
          · exact Phase.noConfusion
          · exact fun _ _ => rfl
        · rename_i noProxy
          apply serial_append serial turn
          · exact Phase.noConfusion
          · exact fun proxy _ => absurd proxy noProxy
    · cases enabled
  | requests id ret =>
    obtain ⟨attempt, found, rfl⟩ := Option.map_eq_some_iff.mp enabled
    obtain ⟨place, begun⟩ := (attemptIn_eq_some_iff ..).mp found
    have undecided : attempt.undecided = true := by rw [Attempt.undecided, begun]
    have underWay := Attempt.underWay_of_undecided undecided
    split
    · apply serial_proceed serial place underWay
      · exact fun _ owns => absurd begun owns.ne_begun
      · exact fun ends => nomatch ends
      · exact fun _ undecided => nomatch undecided
    · apply serial_proceed serial place underWay
      · exact fun _ owns => absurd begun owns.ne_begun
      · exact fun ends => nomatch ends
      · exact fun proxy _ => serial.seen proxy attempt (List.mem_of_getElem? place) undecided
  | evaluates id timedOut =>
    rw [step] at enabled
    split at enabled
    · obtain ⟨attempt, found, rfl⟩ := Option.map_eq_some_iff.mp enabled
      obtain ⟨place, waits⟩ := (attemptIn_eq_some_iff ..).mp found
      exact serial_evaluate serial place waits timedOut
    · cases enabled
  | checks id =>
    obtain ⟨attempt, found, rfl⟩ := Option.map_eq_some_iff.mp enabled
    obtain ⟨place, passed⟩ := (attemptIn_eq_some_iff ..).mp found
    have underWay : attempt.underWay = true := by rw [Attempt.underWay, passed]
    apply serial_proceed serial place underWay
    · exact fun _ _ => .inr ⟨_, rfl⟩
    · exact fun ends => nomatch ends
    · exact fun _ undecided => nomatch undecided
  | resets id =>
    rw [step] at enabled
    split at enabled
    · rename_i result available failed expired place
      obtain rfl := Option.some.inj enabled
      exact serial_resets serial place rfl rfl none
    · cases enabled
  | loadSystemAbilitySuccess =>
    obtain rfl := Option.some.inj enabled
    refine serial_marked serial (fun id => ?_) (fun _ => Marks.refl) rfl nofun (fun fails => absurd fails turn)
      fun proxy id attempt there => serial.seen proxy attempt (List.mem_of_getElem? there)
    exact Option.map_id'.symm
  | loadSystemAbilityFail origin =>
    obtain rfl := Option.some.inj enabled
    obtain ⟨id, rfl, attempt, found, waits⟩ := turn
    exact serial_fails serial found waits
  | proxyChanges proxy =>
    obtain rfl := Option.some.inj enabled
    refine serial_marked serial (fun id => List.getElem?_map) (fun _ => marks_see proxy) (List.length_map _)
      (fun fails => ?_) id fun there id attempt found undecided => ?_
    · obtain ⟨id, attempt, found, owns⟩ := serial.owned fails
      refine ⟨id, attempt.see proxy, ?_, (marks_see proxy attempt).owns owns⟩
      rw [List.getElem?_map, found]
      rfl
    · have proxySeen : proxy = true := there
      rw [Attempt.see, undecided, proxySeen]
      rfl

/-- **When attempts report on their own load.** All results are right in every run in which the
attempts come one by one, failures arrive while their own attempt waits, and no success follows
a failure. That is a condition on what happens and in which order. The other half says what it
protects: a run has right results throughout exactly if each attempt that looks at the status
finds there what is true of its own load. -/
theorem attempts_report_iff (proxy : Bool) (labels : List Label) :
    (Always step Reports { proxy := proxy } labels ↔
      Meets step FindsItsOwn { proxy := proxy } labels) ∧
      (Meets step InTurn { proxy := proxy } labels → Always step Reports { proxy := proxy } labels) := by
  have characterized :
      Always step Reports { proxy := proxy } labels ↔ Meets step FindsItsOwn { proxy := proxy } labels :=
    always_iff_meets (fun _ _ _ _ _ => trivial)
      (fun state label next _ reports enabled => reports_step_iff state label next reports enabled)
      _ labels trivial nofun
  refine ⟨characterized, fun turn => characterized.mpr ?_⟩
  exact guarded_steps
    (fun state label next serial turn enabled => serial_step state label next serial turn enabled)
    (fun state label _ serial _ _ => findsItsOwn_of_serial state label serial) _ labels
      (serial_start proxy) turn

/-- The failure of a load that has been given up ends the next attempt. -/
def lateFailure : List Label :=
  [.begins true, .requests 0 errOk, .evaluates 0 false, .evaluates 0 true, .loadSystemAbilityFail (some 0),
    .begins true, .requests 1 errOk, .evaluates 1 false, .checks 1, .resets 1]

/-- Not all results are right in all runs: the failure of the first attempt's load ends the
second attempt. -/
theorem late_failure_reported :
    ¬ ∀ (proxy : Bool) (labels : List Label), Always step Reports { proxy := proxy } labels := by
  intro always
  exact absurd (always false lateFailure) (by decide)

end State

end BluetoothFramework.Host.ServiceLoading
