import BluetoothFramework.Library.Runs
import BluetoothFramework.Host.BleCentralManager

/-!
# What reaches the service about a scanner

A record is faithful to a mode if every registration carries the mode, a registration
succeeds only where no id is held, and every other request carries the id that is held: the
one of the last successful registration since the last reset.

The second and the third hold in every run, because the id is tested and replaced inside one
critical section. The mode is another matter. It is stored after `RegisterFunc` has made the
turn-on function known, so a registration in between carries the default.
`registrations_faithful_iff` says that nothing else can go wrong.
-/

namespace BluetoothFramework.Host

open Runs

/-- The id a request makes use of. -/
def Sent.usedId : Sent → Option Int32
  | .registerBleCentralManagerCallback _ _ => none
  | .startScan scannerId .. | .stopScan scannerId | .removeScanFilter scannerId
  | .setScanReportChannelToLpDevice scannerId _ | .changeScanParams scannerId ..
  | .flushBatchScanResults scannerId | .isValidScannerId scannerId => some scannerId

/-- The id held after an event. A registration that leaves `BLE_SCAN_INVALID_ID` has failed. -/
def nextHolder (holder : Option Int32) : Event → Option Int32
  | .sent (.registerBleCentralManagerCallback _ scannerId) =>
      if scannerId = bleScanInvalidId then holder else some scannerId
  | .sent _ => holder
  | .reset => none

/-- The id of the last successful registration since the last reset. -/
def holder (events : List Event) : Option Int32 :=
  events.foldl nextHolder none

/-- An event is as it should be for a manager of the mode that holds the id. -/
def Respects (enableRandomAddrMode : Bool) (holder : Option Int32) : Event → Prop
  | .sent (.registerBleCentralManagerCallback mode scannerId) =>
      mode = enableRandomAddrMode ∧ (scannerId ≠ bleScanInvalidId → holder = none)
  | .sent request => ∀ scannerId ∈ request.usedId, holder = some scannerId
  | .reset => True

/-- Every event is as it should be after those before it. -/
def FaithfulFrom (enableRandomAddrMode : Bool) : Option Int32 → List Event → Prop
  | _, [] => True
  | held, event :: rest => Respects enableRandomAddrMode held event ∧
      FaithfulFrom enableRandomAddrMode (nextHolder held event) rest

/-- The record is faithful to the mode. -/
def Faithful (enableRandomAddrMode : Bool) (manager : BleCentralManager) : Prop :=
  FaithfulFrom enableRandomAddrMode none manager.events

instance (mode : Bool) (held : Option Int32) (event : Event) :
    Decidable (Respects mode held event) :=
  match event with
  | .sent (.registerBleCentralManagerCallback _ _) => inferInstanceAs (Decidable (_ ∧ _))
  | .sent (.startScan ..) | .sent (.stopScan _) | .sent (.removeScanFilter _)
  | .sent (.setScanReportChannelToLpDevice ..) | .sent (.changeScanParams ..)
  | .sent (.flushBatchScanResults _) | .sent (.isValidScannerId _) =>
      inferInstanceAs (Decidable (∀ scannerId ∈ some _, held = some scannerId))
  | .reset => isTrue trivial

instance decidableFaithfulFrom (mode : Bool) : (held : Option Int32) → (events : List Event) →
    Decidable (FaithfulFrom mode held events)
  | _, [] => isTrue trivial
  | held, event :: rest =>
      have := decidableFaithfulFrom mode (nextHolder held event) rest
      inferInstanceAs (Decidable (_ ∧ _))

instance (mode : Bool) (manager : BleCentralManager) : Decidable (Faithful mode manager) :=
  decidableFaithfulFrom mode none manager.events

/-- One more event. -/
theorem faithfulFrom_snoc (mode : Bool) (held : Option Int32) (events : List Event)
    (event : Event) :
    FaithfulFrom mode held (events ++ [event]) ↔
      FaithfulFrom mode held events ∧ Respects mode (events.foldl nextHolder held) event := by
  induction events generalizing held with
  | nil => simp [FaithfulFrom]
  | cons first rest inductionHypothesis =>
    simp only [List.cons_append, FaithfulFrom, List.foldl_cons, inductionHypothesis, and_assoc]

/-- Who holds the registration after an event more follows from who held it before. -/
theorem holder_snoc (events : List Event) (event : Event) :
    holder (events ++ [event]) = nextHolder (holder events) event := by
  rw [holder, List.foldl_append]
  rfl

namespace BleCentralManager

/-- `scannerId_` is the id that the record says is held. -/
structure Accords (manager : BleCentralManager) : Prop where
  scannerId : manager.scannerId = (holder manager.events).getD bleScanInvalidId
  valid : holder manager.events ≠ some bleScanInvalidId

namespace Accords

variable {manager : BleCentralManager}

/-- An id other than the invalid one is held. -/
theorem held (accords : Accords manager) (has : manager.scannerId ≠ bleScanInvalidId) :
    holder manager.events = some manager.scannerId := by
  rw [accords.scannerId] at has ⊢
  cases known : holder manager.events with
  | none => exact absurd (by rw [known]; rfl) has
  | some scannerId => rfl

/-- The invalid id means that none is held. -/
theorem free (accords : Accords manager) (lacks : manager.scannerId = bleScanInvalidId) :
    holder manager.events = none := by
  cases known : holder manager.events with
  | none => rfl
  | some scannerId =>
    have valid := accords.valid
    rw [accords.scannerId, known] at lacks
    exact absurd (known.trans (congrArg some lacks)) valid

end Accords

/-- What a step of the scanner keeps once the mode is stored. -/
structure Kept (mode : Bool) (before after : BleCentralManager) : Prop where
  accords : Accords after
  faithful : Faithful mode before → Faithful mode after
  mode : after.enableRandomAddrMode = before.enableRandomAddrMode
  construction : after.construction = before.construction

variable {mode : Bool} {manager middle after : BleCentralManager}

/-- Doing nothing keeps the mode. -/
theorem Kept.refl (accords : Accords manager) : Kept mode manager manager :=
  ⟨accords, id, rfl, rfl⟩

/-- Keeping the mode is transitive, so the calls that a call is made of can be taken one by one.
-/
theorem Kept.trans (first : Kept mode manager middle) (second : Kept mode middle after) :
    Kept mode manager after :=
  ⟨second.accords, second.faithful ∘ first.faithful, second.mode.trans first.mode,
    second.construction.trans first.construction⟩

/-- A request that carries the id which is held. Nothing of the registration is changed by it,
and the id is valid by assumption. -/
theorem kept_send (accords : Accords manager) (has : manager.scannerId ≠ bleScanInvalidId)
    (request : Sent) (uses : request.usedId = some manager.scannerId) :
      Kept mode manager (manager.send request) where
  accords := by
    have same : nextHolder (holder manager.events) (.sent request) = holder manager.events := by
      cases request <;> simp [Sent.usedId] at uses <;> rfl
    constructor
    · simp only [send, holder_snoc, same]
      exact accords.scannerId
    · simp only [send, holder_snoc, same]
      exact accords.valid
  faithful faithful := by
    refine (faithfulFrom_snoc mode none manager.events (.sent request)).mpr ⟨faithful, ?_⟩
    have held : manager.events.foldl nextHolder none = some manager.scannerId := accords.held has
    cases request <;> simp_all [Respects, Sent.usedId]
  mode := rfl
  construction := rfl

/-- Giving up the id keeps the mode, since a new registration takes the stored one. -/
theorem kept_reset : Kept mode manager manager.resetScannerId where
  accords := by
    constructor
    · simp [resetScannerId, holder_snoc, nextHolder]
    · simp [resetScannerId, holder_snoc, nextHolder]
  faithful faithful := (faithfulFrom_snoc mode none manager.events .reset).mpr ⟨faithful, trivial⟩
  mode := rfl
  construction := rfl

/-- A registration where no id is held leaves `scannerId_` in accord with the record. -/
theorem accords_register (accords : Accords manager) (lacks : manager.scannerId = bleScanInvalidId)
    (scannerId : Int32) : Accords (manager.registerCallback (some scannerId)) := by
  have free := accords.free lacks
  constructor
  · simp only [registerCallback, send, holder_snoc, free, nextHolder]
    split
    · rename_i failed
      exact failed
    · rfl
  · simp only [registerCallback, send, holder_snoc, free, nextHolder]
    split
    · simp
    · rename_i succeeded
      exact fun same => succeeded (Option.some.inj same)

/-- A registration where no id is held is faithful exactly when the mode it carries is the
manager's. -/
theorem faithful_register (accords : Accords manager) (lacks : manager.scannerId = bleScanInvalidId)
    (scannerId : Int32) :
    Faithful mode (manager.registerCallback (some scannerId)) ↔
      Faithful mode manager ∧ manager.enableRandomAddrMode = mode := by
  have free : manager.events.foldl nextHolder none = none := accords.free lacks
  simp [Faithful, registerCallback, send, faithfulFrom_snoc, Respects, free]

/-- A registration once the mode is stored. -/
theorem kept_register (accords : Accords manager) (lacks : manager.scannerId = bleScanInvalidId)
    (stored : manager.enableRandomAddrMode = mode) (registered : Option Int32) :
    Kept mode manager (manager.registerCallback registered) := by
  cases registered with
  | none => exact Kept.refl accords
  | some scannerId =>
    exact ⟨accords_register accords lacks scannerId,
      fun faithful => (faithful_register accords lacks scannerId).mpr ⟨faithful, stored⟩, rfl, rfl⟩

/-- The test in front of a request leaves an id if it answers yes. -/
theorem kept_hasScannerId (accords : Accords manager) (stored : manager.enableRandomAddrMode = mode)
    (answers : Answers) : Kept mode manager (manager.hasScannerId answers).1 ∧
      ((manager.hasScannerId answers).2 = true →
        (manager.hasScannerId answers).1.scannerId ≠ bleScanInvalidId) := by
  rw [hasScannerId]
  split
  · rename_i lacks
    rw [initScannerId]
    split
    · exact ⟨Kept.refl accords, by simp⟩
    · rw [if_neg (not_not.mpr lacks)]
      refine ⟨kept_register accords lacks stored answers.registered, ?_⟩
      simp
  · rename_i has
    exact ⟨Kept.refl accords, fun _ => has⟩

/-- A request behind that test. -/
theorem kept_sendReady (accords : Accords manager) (stored : manager.enableRandomAddrMode = mode)
    (answers : Answers) (ready : ¬ (!(manager.hasScannerId answers).2) = true) (request : Sent)
    (uses : request.usedId = some (manager.hasScannerId answers).1.scannerId) :
    Kept mode manager ((manager.hasScannerId answers).1.send request) ∧
      ((manager.hasScannerId answers).1.send request).scannerId ≠ bleScanInvalidId := by
  obtain ⟨kept, has⟩ := kept_hasScannerId accords stored answers
  have ready : (manager.hasScannerId answers).2 = true := by simpa using ready
  exact ⟨kept.trans (kept_send kept.accords (has ready) request uses), has ready⟩

/-- Starting a scan keeps the mode. It registers where there is no id, with the mode that is
stored. -/
theorem kept_startScan (accords : Accords manager) (stored : manager.enableRandomAddrMode = mode)
    (settings : ScanSettings) (filters : List BleScanFilter) (answers : Answers) :
    Kept mode manager (manager.startScan settings filters answers).1 := by
  have kept := (kept_hasScannerId accords stored answers).1
  rw [startScan]
  split
  · exact Kept.refl accords
  · simp only
    split
    · exact Kept.refl accords
    · split
      · exact kept
      · rename_i ready
        split
        · exact kept
        · split
          · exact kept
          · exact (kept_sendReady accords stored answers ready _ rfl).1

/-- Stopping a scan keeps the mode, and gives up the id that it removes. -/
theorem kept_stopScan (accords : Accords manager) (stored : manager.enableRandomAddrMode = mode)
    (answers : Answers) : Kept mode manager (manager.stopScan answers).1 := by
  have kept := (kept_hasScannerId accords stored answers).1
  rw [stopScan]
  split
  · exact Kept.refl accords
  · simp only
    split
    · exact kept
    · rename_i ready
      split
      · exact kept
      · obtain ⟨stopped, has⟩ := kept_sendReady accords stored answers ready
          (.stopScan (manager.hasScannerId answers).1.scannerId) rfl
        exact stopped.trans (kept_send stopped.accords has _ rfl)

/-- Setting the report channel keeps the mode. -/
theorem kept_setScanReportChannel (accords : Accords manager)
    (stored : manager.enableRandomAddrMode = mode) (enable : Bool) (answers : Answers) :
    Kept mode manager (manager.setScanReportChannelToLpDevice enable answers).1 := by
  have kept := (kept_hasScannerId accords stored answers).1
  rw [setScanReportChannelToLpDevice]
  split
  · exact Kept.refl accords
  · simp only
    split
    · exact kept
    · rename_i ready
      split
      · exact kept
      · exact (kept_sendReady accords stored answers ready _ rfl).1

/-- Changing the parameters of a scan keeps the mode. It never registers, so it needs no
condition on the mode that is found. -/
theorem kept_changeScanParams (accords : Accords manager) (settings : ScanSettings)
    (filters : List BleScanFilter) (filterAction : UInt32) (answers : Answers) :
    Kept mode manager (manager.changeScanParams settings filters filterAction answers).1 := by
  rw [changeScanParams]
  split
  · exact Kept.refl accords
  · split
    · exact Kept.refl accords
    · rename_i has
      simp only
      split
      · exact Kept.refl accords
      · split
        · exact Kept.refl accords
        · split
          · exact Kept.refl accords
          · exact kept_send accords has _ rfl

/-- Flushing results keeps the mode. It never registers. -/
theorem kept_flushBatchScanResults (accords : Accords manager) (answers : Answers) :
    Kept mode manager (manager.flushBatchScanResults answers).1 := by
  rw [flushBatchScanResults]
  split
  · exact Kept.refl accords
  · split
    · exact Kept.refl accords
    · rename_i has
      split
      · exact Kept.refl accords
      · exact kept_send accords has _ rfl

/-- Checking the id keeps the mode: an id the service does not know is given up. -/
theorem kept_checkValidScannerId (accords : Accords manager) (answers : Answers) :
    Kept mode manager (manager.checkValidScannerId answers) := by
  rw [checkValidScannerId]
  split
  · exact Kept.refl accords
  · split
    · exact Kept.refl accords
    · rename_i has
      have asked : Kept mode manager (manager.isValidScannerId answers).1 := by
        rw [isValidScannerId]
        split
        · exact Kept.refl accords
        · exact kept_send accords has _ rfl
      simp only
      split
      · exact asked.trans kept_reset
      · exact asked

/-- The turn-on function sends a registration. -/
def Registers (manager : BleCentralManager) (answers : Answers) : Prop :=
  answers.registrationProxy ∧ answers.registered.isSome ∧ manager.scannerId = bleScanInvalidId

/-- The turn-on function keeps the record in accord, and faithful exactly when it sends no
registration or the manager's mode is the stored one. -/
theorem bleTurnOnFunc_faithful (mode : Bool) (accords : Accords manager) (answers : Answers) :
    Accords (manager.bleTurnOnFunc answers) ∧
      (manager.bleTurnOnFunc answers).enableRandomAddrMode = manager.enableRandomAddrMode ∧
      (manager.bleTurnOnFunc answers).construction = manager.construction ∧
      (Faithful mode (manager.bleTurnOnFunc answers) ↔ Faithful mode manager ∧
        (manager.Registers answers → manager.enableRandomAddrMode = mode)) := by
  rw [bleTurnOnFunc]
  split
  · rename_i noProxy
    have quiet : ¬ manager.Registers answers := fun registers => by simp_all [Registers]
    exact ⟨accords, rfl, rfl, by simp [quiet]⟩
  · split
    · rename_i proxy lacks
      cases registered : answers.registered with
      | none =>
        have quiet : ¬ manager.Registers answers := fun registers => by simp_all [Registers]
        exact ⟨accords, rfl, rfl, by simp [registerCallback, quiet]⟩
      | some scannerId =>
        have registers : manager.Registers answers := by simp_all [Registers]
        refine ⟨accords_register accords lacks scannerId, rfl, rfl, ?_⟩
        rw [faithful_register accords lacks scannerId, forall_prop_of_true registers]
    · rename_i has
      have quiet : ¬ manager.Registers answers := fun registers => has registers.2.2
      exact ⟨accords, rfl, rfl, by simp [quiet]⟩

/-- The mode is the default until the constructor stores the one it was given. -/
structure Placed (mode : Bool) (manager : BleCentralManager) : Prop where
  accords : Accords manager
  mode : manager.enableRandomAddrMode = if manager.construction = .finished then mode else true

/-- A registration that a turn-on sends finds the mode stored, or the mode is the default. -/
def FindsMode (mode : Bool) (manager : BleCentralManager) : Label → Prop
  | .turnsOn answers | .turnOn answers =>
      manager.Registers answers → manager.construction = .finished ∨ mode = true
  | _ => True

/-- A step of the application's. -/
theorem call_faithful {function : BleCentralManager → BleCentralManager}
    (placed : Placed mode manager) (called : manager.call function = some after)
    (kept : manager.enableRandomAddrMode = mode → Kept mode manager (function manager)) :
    Placed mode after ∧ (Faithful mode manager → Faithful mode after) := by
  rw [call] at called
  split at called
  · rename_i finished
    cases called
    have stored : manager.enableRandomAddrMode = mode := by rw [placed.mode, if_pos finished]
    have kept := kept stored
    refine ⟨⟨kept.accords, ?_⟩, kept.faithful⟩
    rw [kept.mode, kept.construction]
    exact placed.mode
  · cases called

/-- One step: the invariant goes on, and a faithful record stays faithful exactly when the
step's registration, if any, finds its mode. -/
theorem step_faithful {label : Label} (placed : Placed mode manager)
    (taken : step mode manager label = some after) :
    Placed mode after ∧ (Faithful mode manager →
      (Faithful mode after ↔ FindsMode mode manager label)) := by
  have application {function : BleCentralManager → BleCentralManager}
      (called : manager.call function = some after)
      (kept : manager.enableRandomAddrMode = mode → Kept mode manager (function manager)) :
      Placed mode after ∧ (Faithful mode manager → (Faithful mode after ↔ True)) := by
    obtain ⟨placed, faithful⟩ := call_faithful placed called kept
    exact ⟨placed, fun before => iff_of_true (faithful before) trivial⟩
  have accords := placed.accords
  cases label with
  | inserts =>
    rw [step] at taken
    split at taken
    · rename_i begun
      cases taken
      refine ⟨⟨⟨accords.scannerId, accords.valid⟩, ?_⟩, fun faithful => iff_of_true faithful trivial⟩
      simp [placed.mode, begun]
    · cases taken
  | looks isBluetoothServiceOn remote isBleEnabled =>
    rw [step] at taken
    split at taken
    · rename_i inserted
      cases taken
      refine ⟨⟨⟨accords.scannerId, accords.valid⟩, ?_⟩, fun faithful => iff_of_true faithful trivial⟩
      cases isBluetoothServiceOn && remote && isBleEnabled <;> simp [placed.mode, inserted]
    · cases taken
  | turnsOn answers =>
    rw [step] at taken
    split at taken
    · rename_i turningOn
      cases taken
      obtain ⟨accordsAfter, sameMode, _, faithful⟩ := bleTurnOnFunc_faithful mode accords answers
      have default : manager.enableRandomAddrMode = true := by simp [placed.mode, turningOn]
      refine ⟨⟨⟨accordsAfter.scannerId, accordsAfter.valid⟩, by simp [sameMode, default]⟩, fun before => ?_⟩
      refine faithful.trans ?_
      simp [before, default, FindsMode, turningOn, eq_comm]
    · cases taken
  | stores =>
    rw [step] at taken
    split at taken
    · cases taken
      exact ⟨⟨⟨accords.scannerId, accords.valid⟩, by simp⟩, fun faithful => iff_of_true faithful trivial⟩
    · cases taken
  | turnOn answers =>
    rw [step] at taken
    split at taken
    · cases taken
      obtain ⟨accordsAfter, sameMode, samePlace, faithful⟩ :=
        bleTurnOnFunc_faithful mode accords answers
      refine ⟨⟨accordsAfter, by rw [sameMode, samePlace]; exact placed.mode⟩, fun before => ?_⟩
      rw [faithful, and_iff_right before, placed.mode]
      by_cases finished : manager.construction = .finished <;> simp [FindsMode, finished, eq_comm]
    · cases taken
  | turnOff =>
    rw [step] at taken
    split at taken
    · cases taken
      have kept : Kept mode manager manager.bluetoothTurnOffFunc := kept_reset
      exact ⟨⟨kept.accords, placed.mode⟩, fun before => iff_of_true (kept.faithful before) trivial⟩
    · cases taken
  | setNewApiFlag =>
    rw [step] at taken
    exact application taken fun _ => ⟨⟨accords.scannerId, accords.valid⟩, id, rfl, rfl⟩
  | startScan settings filters answers =>
    rw [step] at taken
    exact application taken fun stored => kept_startScan accords stored settings filters answers
  | stopScan answers =>
    rw [step] at taken
    exact application taken fun stored => kept_stopScan accords stored answers
  | setScanReportChannelToLpDevice enable answers =>
    rw [step] at taken
    exact application taken fun stored => kept_setScanReportChannel accords stored enable answers
  | changeScanParams settings filters filterAction answers =>
    rw [step] at taken
    exact application taken fun _ => kept_changeScanParams accords settings filters filterAction answers
  | flushBatchScanResults answers =>
    rw [step] at taken
    exact application taken fun _ => kept_flushBatchScanResults accords answers
  | checkValidScannerId answers =>
    rw [step] at taken
    exact application taken fun _ => kept_checkValidScannerId accords answers

/-- In every run of a manager, what reaches the service is faithful to the mode given to the
constructor exactly when every registration that a turn-on sends finds the mode stored, or
the mode is the default. -/
theorem registrations_faithful_iff (enableRandomAddrMode : Bool) (labels : List Label) :
    Always (step enableRandomAddrMode) (Faithful enableRandomAddrMode) {} labels ↔
      Meets (step enableRandomAddrMode) (FindsMode enableRandomAddrMode) {} labels := by
  apply @always_iff_meets _ _ (step enableRandomAddrMode) (Faithful enableRandomAddrMode)
    (Placed enableRandomAddrMode) (FindsMode enableRandomAddrMode)
  · exact fun manager label after placed taken => (step_faithful placed taken).1
  · exact fun manager label after placed faithful taken => (step_faithful placed taken).2 faithful
  · exact ⟨⟨rfl, by simp [holder]⟩, rfl⟩
  · trivial

/-- A manager constructed with BLE on and the mode off registers with the mode on. -/
theorem constructor_registers_default :
    ¬ Always (step false) (Faithful false) {}
      [.inserts, .looks true true true, .turnsOn { registered := some 1 }, .stores] := by
  decide

end BleCentralManager
end BluetoothFramework.Host
