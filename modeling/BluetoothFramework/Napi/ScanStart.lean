import BluetoothFramework.Napi.ScanRequests

/-!
# The scans that the service is asked for

A call of `startBLEScan` asks the service for the scan that its arguments stand for, if the scanner
can be used and a scan that reports what is found and lost has no empty filter. It asks for nothing
else. Together with what the parser accepts this says which scans a script can make at all.
-/

namespace BluetoothFramework.Napi

open Meanings Host BluetoothBleScanFilter

/-- The scans that were asked for, in order. -/
def asked (events : List Event) : List (ScanSettings × List BluetoothBleScanFilter) :=
  events.filterMap fun event => match event with
    | .sent (.startScan _ settings filters _) => some (settings, filters)
    | _ => none

/-- Bluetooth is on, there is an id for the scanner, and the service can be reached. -/
def canStart (manager : BleCentralManager) (checking starting : Answers) : Bool :=
  starting.isBleEnabled && ((manager.checkValidScannerId checking).hasScannerId starting).2 &&
    starting.proxy

/-- What is found and lost is not reported for every advertiser. -/
def Reportable (scan : List BleScanFilter × ScanSettings) : Prop :=
  scan.2.callbackType = bleScanCallbackTypeFirstAndLostMatch → BleScanFilter.new ∉ scan.1

instance (scan : List BleScanFilter × ScanSettings) : Decidable (Reportable scan) :=
  inferInstanceAs (Decidable (_ → _))

/-- The scan as it is sent. -/
def sentScan (scan : List BleScanFilter × ScanSettings) :
    ScanSettings × List BluetoothBleScanFilter :=
  (scan.2, scan.1.map converted)

/-! ## What the manager sends -/

/-- What was asked for in a list of events is what was asked for in its parts. -/
theorem asked_append (events more : List Event) :
    asked (events ++ more) = asked events ++ asked more :=
  List.filterMap_append

/-- To register the callback asks for no scan. -/
theorem asked_registerCallback (manager : BleCentralManager) (registered : Option Int32) :
    asked (manager.registerCallback registered).events = asked manager.events := by
  cases registered with
  | none => rfl
  | some scannerId => exact (asked_append _ _).trans (List.append_nil _)

/-- To look whether there is a scanner id asks for no scan. -/
theorem asked_hasScannerId (manager : BleCentralManager) (answers : Answers) :
    asked (manager.hasScannerId answers).1.events = asked manager.events := by
  rw [BleCentralManager.hasScannerId]
  split
  · rw [BleCentralManager.initScannerId]
    split
    · rfl
    · split
      · rfl
      · exact asked_registerCallback manager answers.registered
  · rfl

/-- To get a scanner id, registering where there is none, asks for no scan. -/
theorem asked_checkValidScannerId (manager : BleCentralManager) (answers : Answers) :
    asked (manager.checkValidScannerId answers).events = asked manager.events := by
  have checked : asked (manager.isValidScannerId answers).1.events = asked manager.events := by
    rw [BleCentralManager.isValidScannerId]
    split
    · rfl
    · exact (asked_append _ _).trans (List.append_nil _)
  rw [BleCentralManager.checkValidScannerId]
  split
  · rfl
  · split
    · rfl
    · simp only
      split
      · exact ((asked_append _ _).trans (List.append_nil _)).trans checked
      · exact checked

/-- `StartScan` asks for the scan it is given, or not at all, and never throws. It needs
Bluetooth to be on, a scanner id, a proxy and a scan that passes the check; each is missing in a
case of its own. -/
theorem startScan_asks (manager : BleCentralManager) (scan : List BleScanFilter × ScanSettings)
    (answers : Answers) (ok : checkScanParams scan.2 scan.1 true = btNoError ↔ Reportable scan) :
    asked (manager.startScan scan.2 scan.1 answers).1.events = asked manager.events ++
        (if (answers.isBleEnabled && (manager.hasScannerId answers).2 && answers.proxy) = true ∧
          Reportable scan
          then [sentScan scan] else []) ∧
      ∃ ret, (manager.startScan scan.2 scan.1 answers).2 = .ok ret := by
  have kept := asked_hasScannerId manager answers
  rw [BleCentralManager.startScan]
  cases enabled : answers.isBleEnabled with
  | false => simp
  | true =>
    by_cases reportable : Reportable scan
    · rw [if_neg (by simp), if_neg (by simp [ok.mpr reportable])]
      cases ready : (manager.hasScannerId answers).2 with
      | false => simp [ready, kept]
      | true =>
        cases proxy : answers.proxy with
        | false => simp [ready, kept, convertBleScanFilter_eq]
        | true =>
          simp only [ready, convertBleScanFilter_eq, Bool.not_true, Bool.false_eq_true, ↓reduceIte,
            Bool.and_self,
            reportable, and_self, Except.ok.injEq, exists_eq', and_true]
          rw [BleCentralManager.send, asked_append, kept]
          rfl
    · rw [if_neg (by simp), if_pos (mt ok.mp reportable)]
      simp [reportable]

/-! ## What scripts ask for -/

/-- A script asks with at least one filter: an empty list is refused, and null stands for one
filter. -/
theorem ne_nil_of_scanFiltersOf {value : JsValue} {filters : List BleScanFilter}
    (filtered : ScanFiltersOf value filters) : filters ≠ [] := by
  cases filtered with
  | all => exact List.cons_ne_nil _ _
  | some elements filters nonempty each =>
    rintro rfl
    exact nonempty (List.forall₂_nil_right_iff.mp each)

/-- The parts of a scan that a script stands for. -/
theorem scanOf_cases {arguments : List JsValue} {scan : List BleScanFilter × ScanSettings}
    (of : ScanOf arguments scan) :
    scan.1 ≠ [] ∧ ∃ scanOptions : ScanOptions, scan.2 = scanOptions.settings ∧
      (scanOptions = {} ∨ ∃ value, ScanOptionsOf value scanOptions) := by
  cases of with
  | plain value filters filtered => exact ⟨ne_nil_of_scanFiltersOf filtered, {}, rfl, Or.inl rfl⟩
  | withOptions value options filters scanOptions filtered chosen =>
    exact ⟨ne_nil_of_scanFiltersOf filtered, scanOptions, rfl, Or.inr ⟨options, chosen⟩⟩

/-- Of the checks of the manager only one can fail for a script. -/
theorem checkScanParams_iff {arguments : List JsValue} {scan : List BleScanFilter × ScanSettings}
    (of : ScanOf arguments scan) : checkScanParams scan.2 scan.1 true = btNoError ↔
      Reportable scan := by
  obtain ⟨nonempty, scanOptions, settings, -⟩ := scanOf_cases of
  obtain ⟨filters, given⟩ := scan
  simp only at nonempty settings
  subst settings
  have blank : (filters = [] ∨ BleScanFilter.new ∈ filters) ↔ BleScanFilter.new ∈ filters :=
    or_iff_right nonempty
  rw [Reportable, checkScanParams]
  simp only [blank]
  cases mode : scanOptions.reportMode <;> by_cases empty : BleScanFilter.new ∈ filters <;>
    simp [ScanOptions.settings, mode, cbTypeSensMode, empty, bleScanCallbackTypeAllMatch,
      bleScanCallbackTypeFirstMatch, bleScanCallbackTypeLostMatch, bleScanCallbackTypeFirstAndLostMatch,
      btNoError, btErrInvalidParam, oneMatchTrackAdv, maxMatchTrackAdv] <;> decide

/-- A filter of a script arrives as it was converted. -/
theorem arrived_filter (params : FilterParams) :
    Arrived params.filter (converted params.filter) := by
  have unset (param : Option Int32) : (if param.isSome then param.getD bleScanMinRssiThreshold
      else bleScanMinRssiThreshold) = param.getD bleScanMinRssiThreshold := by
    cases param <;> rfl
  have threshold : (converted params.filter).rssiThreshold = params.filter.rssiThreshold :=
    unset params.rssiThreshold
  exact ⟨rfl, rfl, rfl, rfl, rfl, rfl, rfl, rfl, rfl, rfl, rfl, rfl, rfl, rfl, rfl, rfl, rfl, rfl, rfl, rfl,
    threshold, rfl⟩

/-- The filters of the scan arrive at the service, one for each that the script gave. -/
theorem arrived_of_scanOf {arguments : List JsValue} {scan : List BleScanFilter × ScanSettings}
    (of : ScanOf arguments scan) : List.Forall₂ Arrived scan.1 (scan.1.map converted) := by
  have each {value : JsValue} {filters : List BleScanFilter} (filtered : ScanFiltersOf value filters) :
      List.Forall₂ Arrived filters (filters.map converted) := by
    rw [List.forall₂_map_right_iff, List.forall₂_same]
    intro filter member
    cases filtered with
    | all =>
      rw [List.mem_singleton.mp member]
      exact arrived_filter {}
    | some elements filters nonempty each =>
      obtain ⟨element, -, params, -, -, rfl⟩ := exists_meaning each member
      exact arrived_filter params
  cases of with
  | plain value filters filtered => exact each filtered
  | withOptions value options filters scanOptions filtered chosen => exact each filtered

/-- Arguments that stand for no scan are refused. -/
theorem startBLEScan_refuses {arguments : List JsValue} (none : ¬∃ scan, ScanOf arguments scan)
    (manager : BleCentralManager) (checking starting : Answers) :
    startBLEScan manager arguments checking starting = (manager, .threw btErrInvalidParam) := by
  obtain ⟨exit, refused, isStatus⟩ := (means_checkBleScanParams arguments).refuses_iff.mpr none
  cases exit with
  | status status => rw [startBLEScan, refused]
  | _ => exact isStatus.elim

/-- What is asked for by arguments that stand for a scan: the scan itself, if the manager can
start and the service would report it, and otherwise nothing. -/
theorem startBLEScan_sends {arguments : List JsValue} {scan : List BleScanFilter × ScanSettings}
    (of : ScanOf arguments scan) (manager : BleCentralManager) (checking starting : Answers) :
    asked (startBLEScan manager arguments checking starting).1.events = asked manager.events ++
        (if canStart manager checking starting = true ∧ Reportable scan then [sentScan scan] else []) ∧
      ∀ exit, (startBLEScan manager arguments checking starting).2 ≠ .fault exit := by
  have parsed : checkBleScanParams arguments = .ok scan :=
    ((means_checkBleScanParams arguments).eq_ok_iff scan).mpr of
  obtain ⟨asks, ret, answered⟩ := startScan_asks (manager.checkValidScannerId checking) scan starting
    (checkScanParams_iff of)
  obtain ⟨after, started⟩ :
    ∃ after, (manager.checkValidScannerId checking).startScan scan.2 scan.1 starting =
      (after, .ok ret) := ⟨_, Prod.ext rfl answered⟩
  have began : (startBLEScan manager arguments checking starting).1 = after ∧
      ∀ exit, (startBLEScan manager arguments checking starting).2 ≠ .fault exit := by
    rw [startBLEScan, parsed]
    simp only [started]
    split
    · exact ⟨rfl, fun _ => nofun⟩
    · exact ⟨rfl, fun _ => nofun⟩
  rw [started, asked_checkValidScannerId] at asks
  refine ⟨?_, began.2⟩
  rw [began.1, asks]
  rfl

/-- **The service is asked for what the script says.** If the arguments stand for no scan, an error
is thrown and nothing changes. If they stand for one, the service is asked for it exactly if the
scanner can start and the scan is reportable, everything the filters say arrives, and the text of no
UUID makes the call throw. -/
theorem startBLEScan_asks (manager : BleCentralManager) (arguments : List JsValue)
    (checking starting : Answers) :
    ((¬∃ scan, ScanOf arguments scan) →
      startBLEScan manager arguments checking starting = (manager, .threw btErrInvalidParam)) ∧
    ∀ scan, ScanOf arguments scan →
      asked (startBLEScan manager arguments checking starting).1.events = asked manager.events ++
          (if canStart manager checking starting = true ∧ Reportable scan then [sentScan scan] else []) ∧
        List.Forall₂ Arrived scan.1 (sentScan scan).2 ∧
        ∀ exit, (startBLEScan manager arguments checking starting).2 ≠ .fault exit := by
  refine ⟨fun none => startBLEScan_refuses none manager checking starting, fun scan of => ?_⟩
  obtain ⟨sends, undisturbed⟩ := startBLEScan_sends of manager checking starting
  exact ⟨sends, arrived_of_scanOf of, undisturbed⟩

/-! ## Which scans scripts make -/

/-- The settings could be made by a script: of the numbers of the modes only those with a name, a
delay of at least five seconds for reports in batches, and an enhanced mode with a positive timeout
of at most 2.5 seconds, or none. The track of matches is not for a script to set. -/
structure SettingsByScript (settings : ScanSettings) : Prop where
  scanMode : settings.scanMode ∈ [0, 1, 2]
  phy : settings.phy ∈ [1, 2, 3, 255]
  report : (settings.reportMode, settings.callbackType, settings.sensitivityMode) ∈
    [(1, 1, 1), (2, 1, 1), (10, 6, 2), (11, 6, 1)]
  reportDelay : ∃ interval : Int32, settings.reportDelayMillis = interval.toInt64 ∧
    (settings.reportMode = 2 → 5000 ≤ interval)
  matchTrackAdvType : settings.matchTrackAdvType = maxMatchTrackAdv
  enhanceMode : settings.enhanceMode = {} ∨ settings.enhanceMode.mode ∈ [0, 1, 2, 3] ∧
    ∃ timeout : Int32, settings.enhanceMode.timeout = timeout.toInt64 ∧ 0 < timeout ∧ timeout ≤ 2500

/-- The scan could be asked for by a script. -/
def AskedByScript (sent : ScanSettings × List BluetoothBleScanFilter) : Prop :=
  ∃ filters : List BleScanFilter, filters ≠ [] ∧ (∀ filter ∈ filters, MadeByScript filter) ∧
    SettingsByScript sent.1 ∧ Reportable (filters, sent.1) ∧ sent.2 = filters.map converted

/-- The mode of acceptable parameters is one of the four, and the time is positive and at most
the greatest one. The service reads both without another check. -/
theorem enhanceMode_byScript {enhance : EnhanceParams} (acceptable : enhance.Acceptable) :
    enhance.mode.mode.toInt32 ∈ ([0, 1, 2, 3] : List Int32) ∧
      ∃ timeout : Int32, enhance.mode.timeout = timeout.toInt64 ∧ 0 < timeout ∧ timeout ≤ 2500 := by
  constructor
  · obtain ⟨number, named, member⟩ := acceptable.enhanceMode
    have converted : enhance.mode.mode = convertScanEnhanceMode .invalid (some number) := by
      rw [EnhanceParams.mode, named]
    rw [converted]
    simp only [List.mem_cons, List.not_mem_nil, or_false] at member
    rcases member with rfl | rfl | rfl | rfl <;> decide
  · rw [EnhanceParams.mode]
    cases given : enhance.timeout with
    | none => exact ⟨2500, rfl, by decide, by decide⟩
    | some timeout =>
      have positive := acceptable.timeout timeout given
      simp only [Option.map_some, Option.getD_some]
      split
      · exact ⟨2500, rfl, by decide, by decide⟩
      · rename_i small
        refine ⟨timeout, rfl, positive, ?_⟩
        have bound : timeout.toInt64 ≤ scanEnhanceModeMaxTimeoutMs := Int64.not_lt.mp small
        rw [Int64.le_iff_toInt_le, Int32.toInt_toInt64] at bound
        rw [Int32.le_iff_toInt_le]
        exact bound

/-- The settings of a script are among those that scripts can make: each option is converted to
one of the values that it names. -/
theorem settingsByScript_settings (params : OptionParams)
    (acceptable : ∀ enhance ∈ params.scanEnhanceMode, enhance.Acceptable) :
    SettingsByScript params.options.settings := by
  refine ⟨?_, ?_, ?_, ?_, rfl, ?_⟩
  · change params.options.dutyMode.toInt32 ∈ _
    cases params.options.dutyMode <;> decide
  · change params.options.phyType.toInt32 ∈ _
    cases params.options.phyType <;> decide
  · change (params.options.reportMode.toInt32, (cbTypeSensMode params.options.reportMode).1,
      (cbTypeSensMode params.options.reportMode).2) ∈ _
    cases params.options.reportMode <;> decide
  · change ∃ interval : Int32, reportDelay params.options = interval.toInt64 ∧
      (params.options.reportMode.toInt32 = 2 → 5000 ≤ interval)
    rw [reportDelay]
    split
    · exact ⟨5000, rfl, fun _ => Int32.le_refl _⟩
    · rename_i late
      refine ⟨params.options.interval, rfl, fun batch => ?_⟩
      have isBatch : params.options.reportMode = .batch := by
        cases mode : params.options.reportMode with
        | batch => rfl
        | _ => rw [mode] at batch; exact absurd batch (by decide)
      have bound : (5000 : Int64) ≤ params.options.interval.toInt64 :=
        Int64.not_lt.mp fun early => late ⟨isBatch, early⟩
      rw [Int64.le_iff_toInt_le, Int32.toInt_toInt64] at bound
      rw [Int32.le_iff_toInt_le]
      exact bound
  · change (⟨params.options.scanEnhanceMode.mode.toInt32, params.options.scanEnhanceMode.timeout⟩ :
      BleScanEnhanceMode) = {} ∨ _
    rw [OptionParams.options]
    cases given : params.scanEnhanceMode with
    | none => exact Or.inl rfl
    | some enhance => exact Or.inr (enhanceMode_byScript (acceptable enhance given))

/-- The object of the enhanced mode. -/
def EnhanceParams.object (params : EnhanceParams) : JsValue :=
  objectOf
    [("enhanceMode", params.enhanceMode.map fun number => .number number.toInt),
     ("timeout", params.timeout.map fun number => .number number.toInt)]

/-- The object of the options. -/
def OptionParams.object (params : OptionParams) : JsValue :=
  objectOf
    [("interval", params.interval.map fun number => .number number.toInt),
     ("dutyMode", params.dutyMode.map fun number => .number number.toInt),
     ("matchMode", params.matchMode.map fun number => .number number.toInt),
     ("phyType", params.phyType.map fun number => .number number.toInt),
     ("reportMode", params.reportMode.map fun number => .number number.toInt),
     ("isExtended", params.isExtended.map .boolean),
     ("scanEnhanceMode", params.scanEnhanceMode.map EnhanceParams.object)]

/-- The object made of the parameters of the mode is parsed to them. -/
theorem enhanceParamsOf_object (params : EnhanceParams) : EnhanceParamsOf params.object params := by
  have distinct : ["enhanceMode", "timeout"].Nodup := by decide
  exact ⟨onlyProperties_objectOf _, optionally_objectOf distinct rfl int32Of_number,
    optionally_objectOf distinct rfl int32Of_number⟩

/-- The object made of the options is parsed to them. -/
theorem optionParamsOf_object (params : OptionParams) : OptionParamsOf params.object params := by
  have distinct : scanOptionNames.Nodup := by decide
  exact ⟨onlyProperties_objectOf _, optionally_objectOf distinct rfl int32Of_number,
    optionally_objectOf distinct rfl int32Of_number, optionally_objectOf distinct rfl int32Of_number,
    optionally_objectOf distinct rfl int32Of_number, optionally_objectOf distinct rfl int32Of_number,
    optionally_objectOf distinct rfl fun _ => rfl, optionally_objectOf distinct rfl enhanceParamsOf_object⟩

/-- An enhanced mode is made of its numbers. Those outside of the bounds are not, which is why
the bounds are assumed. -/
theorem exists_enhance {mode : BleScanEnhanceMode} (named : mode.mode ∈ ([0, 1, 2, 3] : List Int32))
    {timeout : Int32} (timed : mode.timeout = timeout.toInt64) (positive : 0 < timeout)
    (small : timeout ≤ 2500) :
    ∃ enhance : EnhanceParams, enhance.Acceptable ∧
      (⟨enhance.mode.mode.toInt32, enhance.mode.timeout⟩ : BleScanEnhanceMode) = mode := by
  refine ⟨⟨some mode.mode, some timeout⟩, ⟨⟨_, rfl, named⟩, ?_⟩, ?_⟩
  · rintro _ ⟨⟩
    exact positive
  · obtain ⟨number, time⟩ := mode
    simp only at named timed
    subst timed
    have bound : ¬scanEnhanceModeMaxTimeoutMs < timeout.toInt64 := by
      rw [Int64.not_lt, Int64.le_iff_toInt_le, Int32.toInt_toInt64]
      exact Int32.le_iff_toInt_le.mp small
    have converted : (convertScanEnhanceMode .invalid (some number)).toInt32 = number := by
      simp only [List.mem_cons, List.not_mem_nil, or_false] at named
      rcases named with rfl | rfl | rfl | rfl <;> decide
    simp [EnhanceParams.mode, bound, converted]

/-- Such settings are made by a script. For each of them a value of the option is found by going
through the values that it can have. -/
theorem exists_options {settings : ScanSettings} (made : SettingsByScript settings) :
    ∃ params : OptionParams, (∀ enhance ∈ params.scanEnhanceMode, enhance.Acceptable) ∧
      params.options.settings = settings := by
  obtain ⟨duty, scanMode⟩ : ∃ duty : ScanDuty, settings.scanMode = duty.toInt32 := by
    have named := made.scanMode
    simp only [List.mem_cons, List.not_mem_nil, or_false] at named
    rcases named with named | named | named
    · exact ⟨.lowPower, named⟩
    · exact ⟨.balanced, named⟩
    · exact ⟨.lowLatency, named⟩
  obtain ⟨phyType, phy⟩ : ∃ phyType : PhyType, settings.phy = phyType.toInt32 := by
    have named := made.phy
    simp only [List.mem_cons, List.not_mem_nil, or_false] at named
    rcases named with named | named | named | named
    · exact ⟨.le1M, named⟩
    · exact ⟨.le2M, named⟩
    · exact ⟨.leCoded, named⟩
    · exact ⟨.leAllSupported, named⟩
  obtain ⟨report, reportMode, callbackType, sensitivityMode⟩ : ∃ report : ScanReportMode,
      settings.reportMode = report.toInt32 ∧ settings.callbackType = (cbTypeSensMode report).1 ∧
        settings.sensitivityMode = (cbTypeSensMode report).2 := by
    have named := made.report
    simp only [List.mem_cons, List.not_mem_nil, or_false, Prod.mk.injEq] at named
    rcases named with named | named | named | named
    · exact ⟨.normal, named⟩
    · exact ⟨.batch, named⟩
    · exact ⟨.fenceSensitivityLow, named⟩
    · exact ⟨.fenceSensitivityHigh, named⟩
  obtain ⟨enhance, acceptable, enhanceMode⟩ : ∃ enhance : Option EnhanceParams,
      (∀ given ∈ enhance, given.Acceptable) ∧
        settings.enhanceMode = ⟨((enhance.map EnhanceParams.mode).getD {}).mode.toInt32,
          ((enhance.map EnhanceParams.mode).getD {}).timeout⟩ := by
    rcases made.enhanceMode with default | ⟨named, timeout, timed, positive, small⟩
    · exact ⟨none, nofun, default⟩
    · obtain ⟨enhance, acceptable, same⟩ := exists_enhance named timed positive small
      refine ⟨some enhance, ?_, same.symm⟩
      rintro _ ⟨⟩
      exact acceptable
  obtain ⟨interval, delay, slow⟩ := made.reportDelay
  have dutyMode : convertDutyMode .lowPower (some duty.toInt32) = duty := by cases duty <;> decide
  have phyMode : convertPhyType .le1M (some phyType.toInt32) = phyType := by cases phyType <;> decide
  have scanReportMode : convertScanReportMode .normal (some report.toInt32) = report := by
    cases report <;> decide
  have notEarly : ¬(report = .batch ∧ interval.toInt64 < 5000) := by
    rintro ⟨rfl, early⟩
    have late := slow reportMode
    rw [Int64.lt_iff_toInt_lt, Int32.toInt_toInt64] at early
    exact absurd early (Int.not_lt.mpr (Int32.le_iff_toInt_le.mp late))
  refine ⟨{ interval := some interval
            dutyMode := some duty.toInt32
            phyType := some phyType.toInt32
            reportMode := some report.toInt32
            isExtended := some (!settings.legacy)
            scanEnhanceMode := enhance }, acceptable, ?_⟩
  simp only [ScanOptions.settings, OptionParams.options, reportDelay, dutyMode, phyMode, scanReportMode,
    Option.getD_some, if_neg notEarly, Bool.not_not]
  rw [← delay, ← reportMode, ← scanMode, ← phy, ← enhanceMode, ← callbackType, ← sensitivityMode,
    ← made.matchTrackAdvType]

/-- The filters of a script: any list that is not empty, of filters that can be made. Null is no
further case, for it stands for one filter without properties. -/
theorem exists_scanFiltersOf_iff (filters : List BleScanFilter) :
    (∃ value, ScanFiltersOf value filters) ↔
      filters ≠ [] ∧ ∀ filter ∈ filters, MadeByScript filter := by
  constructor
  · rintro ⟨value, filtered⟩
    refine ⟨ne_nil_of_scanFiltersOf filtered, fun filter member => ?_⟩
    cases filtered with
    | all =>
      rw [List.mem_singleton.mp member]
      exact @madeByScript_filter {} ⟨nofun, nofun, nofun, nofun, nofun⟩
    | some elements filters nonempty each =>
      obtain ⟨element, -, of⟩ := exists_meaning each member
      exact (exists_scanFilterOf_iff filter).mp ⟨element, of⟩
  · rintro ⟨nonempty, made⟩
    have each : List.Forall₂ ScanFilterOf (filters.map fun filter => (paramsOf filter).object) filters := by
      rw [List.forall₂_map_left_iff, List.forall₂_same]
      exact fun filter member => ⟨paramsOf filter, filterParamsOf_object _,
        acceptable_paramsOf (made filter member),
        (filter_paramsOf (made filter member)).symm⟩
    exact ⟨_, .some _ filters (by simpa using nonempty) each⟩

/-- **Which scans scripts can ask for.** A script can make the service be asked for a scan if and
only if the scanner can start, there are filters, each of them could be made by a script, so that an
IRK comes with a real address which is public or static, the settings could be made by a script, and
the scan is reportable. A filter for a virtual address is among them, though the parser refuses the
number of that type. -/
theorem asked_iff (manager : BleCentralManager) (checking starting : Answers)
    (sent : ScanSettings × List BluetoothBleScanFilter) :
    (∃ arguments, asked (startBLEScan manager arguments checking starting).1.events =
        asked manager.events ++ [sent]) ↔
      canStart manager checking starting = true ∧ AskedByScript sent := by
  constructor
  · rintro ⟨arguments, asks⟩
    by_cases means : ∃ scan, ScanOf arguments scan
    · obtain ⟨scan, of⟩ := means
      have sends := (startBLEScan_sends of manager checking starting).1
      rw [asks, List.append_cancel_left_eq] at sends
      split at sends
      · rename_i goes
        rw [List.singleton_inj] at sends
        obtain ⟨nonempty, scanOptions, settings, source⟩ := scanOf_cases of
        have byScript : SettingsByScript scan.2 := by
          rw [settings]
          rcases source with rfl | ⟨value, params, -, acceptable, rfl⟩
          · exact settingsByScript_settings {} nofun
          · exact settingsByScript_settings params acceptable
        have made : ∀ filter ∈ scan.1, MadeByScript filter := by
          cases of with
          | plain value filters filtered =>
            exact ((exists_scanFiltersOf_iff filters).mp ⟨value, filtered⟩).2
          | withOptions value options filters scanOptions filtered chosen =>
            exact ((exists_scanFiltersOf_iff filters).mp ⟨value, filtered⟩).2
        subst sends
        exact ⟨goes.1, scan.1, nonempty, made, byScript, goes.2, rfl⟩
      · cases sends
    · rw [startBLEScan_refuses means] at asks
      exact absurd (List.append_right_eq_self.mp asks.symm) (List.cons_ne_nil _ _)
  · rintro ⟨start, filters, nonempty, made, byScript, reportable, same⟩
    obtain ⟨value, filtered⟩ := (exists_scanFiltersOf_iff filters).mpr ⟨nonempty, made⟩
    obtain ⟨params, acceptable, settings⟩ := exists_options byScript
    have of : ScanOf [value, params.object] (filters, sent.1) := by
      rw [← settings]
      exact .withOptions _ _ _ _ filtered ⟨params, optionParamsOf_object params, acceptable, rfl⟩
    have sends := (startBLEScan_sends of manager checking starting).1
    rw [if_pos ⟨start, reportable⟩] at sends
    refine ⟨_, sends.trans ?_⟩
    rw [sentScan, ← same]

/-- The filter of a virtual address. -/
example : MadeByScript
    { BleScanFilter.new with
      deviceId := [0x30, 0x30, 0x3A, 0x30, 0x30, 0x3A, 0x30, 0x30, 0x3A, 0x30, 0x30, 0x3A, 0x30,
        0x30, 0x3A, 0x30, 0x30]
      addressType := virtualAddress } :=
  ⟨Or.inr (by decide), by decide, by decide, by decide, by decide, by decide,
    by decide, by decide, by decide, rfl, rfl⟩

end BluetoothFramework.Napi
