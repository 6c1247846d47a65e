import BluetoothFramework.Host.BleCentralManager
import BluetoothFramework.Napi.ScanFilters

/-!
# Scans that scripts start

`startBLEScan` of a script takes filters, or `null` for all advertisers, and options. The options
become settings; a mode that is no value of its enumeration leaves the default. `matchMode` has to
be a number and goes no further.

`startBLEScan_asks` says that the service is asked for the scan that the arguments stand for, and
for none if they stand for none. `asked_iff` says which scans scripts can ask for at all.
-/

namespace BluetoothFramework.Napi

open Meanings Host

/-! ## Options -/

inductive ScanDuty where
  | lowPower
  | balanced
  | lowLatency
deriving DecidableEq

inductive MatchMode where
  | aggressive
  | sticky
deriving DecidableEq

inductive PhyType where
  | le1M
  | le2M
  | leCoded
  | leAllSupported
deriving DecidableEq

inductive ScanReportMode where
  | normal
  | batch
  | fenceSensitivityLow
  | fenceSensitivityHigh
deriving DecidableEq

inductive EnhanceModeOption where
  | balanced
  | medium
  | fast
  | ultraFast
  | butt
  | invalid
deriving DecidableEq

def ScanDuty.toInt32 : ScanDuty → Int32
  | .lowPower => 0
  | .balanced => 1
  | .lowLatency => 2

def MatchMode.toInt32 : MatchMode → Int32
  | .aggressive => 1
  | .sticky => 2

def PhyType.toInt32 : PhyType → Int32
  | .le1M => 1
  | .le2M => 2
  | .leCoded => 3
  | .leAllSupported => 255

def ScanReportMode.toInt32 : ScanReportMode → Int32
  | .normal => 1
  | .batch => 2
  | .fenceSensitivityLow => 10
  | .fenceSensitivityHigh => 11

def EnhanceModeOption.toInt32 : EnhanceModeOption → Int32
  | .balanced => 0
  | .medium => 1
  | .fast => 2
  | .ultraFast => 3
  | .butt => 4
  | .invalid => 0xFF

/-- `SCAN_ENHANCE_MODE_MAX_TIMEOUT_MS` -/
def scanEnhanceModeMaxTimeoutMs : Int64 := 2500

/-- `ScanEnhanceMode` -/
structure ScanEnhanceMode where
  mode : EnhanceModeOption := .invalid
  timeout : Int64 := scanEnhanceModeMaxTimeoutMs
deriving DecidableEq

/-- `ScanOptions` -/
structure ScanOptions where
  interval : Int32 := 0
  dutyMode : ScanDuty := .lowPower
  matchMode : MatchMode := .aggressive
  phyType : PhyType := .le1M
  reportMode : ScanReportMode := .normal
  isExtended : Bool := false
  scanEnhanceMode : ScanEnhanceMode := {}
deriving DecidableEq

/-- A switch over the values of an enumeration. Without a number, or with one of no value, the
current value stays. -/
def convertMode {α : Type} (values : List α) (toInt32 : α → Int32) (current : α)
    (mode : Option Int32) : α :=
  (mode.bind fun mode => values.find? fun value => toInt32 value = mode).getD current

/-- `ConvertDutyMode` -/
def convertDutyMode : ScanDuty → Option Int32 → ScanDuty :=
  convertMode [.lowPower, .balanced, .lowLatency] ScanDuty.toInt32

/-- `ConvertMatchMode` -/
def convertMatchMode : MatchMode → Option Int32 → MatchMode :=
  convertMode [.aggressive, .sticky] MatchMode.toInt32

/-- `ConvertPhyType` -/
def convertPhyType : PhyType → Option Int32 → PhyType :=
  convertMode [.le1M, .le2M, .leCoded, .leAllSupported] PhyType.toInt32

/-- `ConvertScanReportMode` -/
def convertScanReportMode : ScanReportMode → Option Int32 → ScanReportMode :=
  convertMode [.normal, .batch, .fenceSensitivityLow, .fenceSensitivityHigh] ScanReportMode.toInt32

/-- `ConvertScanEnhanceMode` -/
def convertScanEnhanceMode : EnhanceModeOption → Option Int32 → EnhanceModeOption :=
  convertMode [.balanced, .medium, .fast, .ultraFast] EnhanceModeOption.toInt32

/-- `IsValidBleScanEnhanceMode`, with the mode whose timeout it has cut down. -/
def isValidBleScanEnhanceMode (scanEnhanceMode : ScanEnhanceMode) : Option ScanEnhanceMode :=
  if EnhanceModeOption.butt.toInt32 ≤ scanEnhanceMode.mode.toInt32 ∨
    scanEnhanceMode.mode.toInt32 < 0 then none
  else if scanEnhanceMode.timeout ≤ 0 then none
  else if scanEnhanceModeMaxTimeoutMs < scanEnhanceMode.timeout then
    some { scanEnhanceMode with timeout := scanEnhanceModeMaxTimeoutMs }
  else some scanEnhanceMode

/-- `ParseScanEnhanceModeParameters` -/
def parseScanEnhanceModeParameters (scanArg : JsValue) (params : ScanOptions) :
    Parsed ScanOptions := do
  napiCheckObjectPropertiesName scanArg ["enhanceMode", "timeout"]
  let enhanceMode ← parseInt32Params scanArg "enhanceMode"
  let timeout ← parseInt32Params scanArg "timeout"
  let given : ScanEnhanceMode :=
    { mode := convertScanEnhanceMode params.scanEnhanceMode.mode enhanceMode
      timeout := (timeout.map Int32.toInt64).getD params.scanEnhanceMode.timeout }
  match isValidBleScanEnhanceMode given with
  | none => throw (.status .invalidArg)
  | some scanEnhanceMode => pure { params with scanEnhanceMode }

/-- `GetPropertyValueByNamed` for an object. A property of another type is taken as `null`. -/
def getObjectByNamed (object : JsValue) (propertyName : String) : Option JsValue :=
  (object.namedProperty propertyName).map fun value => if value.isObject then value else .null

/-- `ParseScanParameters`, with new options. -/
def parseScanParameters (scanArg : JsValue) : Parsed ScanOptions := do
  napiCheckObjectPropertiesName scanArg
    ["interval", "dutyMode", "matchMode", "phyType", "reportMode", "isExtended", "scanEnhanceMode"]
  let params : ScanOptions := {}
  let interval ← parseInt32Params scanArg "interval"
  let params := { params with interval := interval.getD params.interval }
  let dutyMode ← parseInt32Params scanArg "dutyMode"
  let params := { params with dutyMode := convertDutyMode params.dutyMode dutyMode }
  let matchMode ← parseInt32Params scanArg "matchMode"
  let params := { params with matchMode := convertMatchMode params.matchMode matchMode }
  let phyType ← parseInt32Params scanArg "phyType"
  let params := { params with phyType := convertPhyType params.phyType phyType }
  let scanReportMode ← parseInt32Params scanArg "reportMode"
  let params := { params with reportMode := convertScanReportMode params.reportMode scanReportMode }
  let isExtended ← parseBooleanParams scanArg "isExtended"
  let params := { params with isExtended := isExtended.getD params.isExtended }
  match getObjectByNamed scanArg "scanEnhanceMode" with
  | none => pure params
  | some scanEnhanceModeArg => parseScanEnhanceModeParameters scanEnhanceModeArg params

/-! ## Settings -/

/-- `SetReportDelay` -/
def reportDelay (scanOptions : ScanOptions) : Int64 :=
  let reportDelayFloorValueBatch : Int64 := 5000
  if scanOptions.reportMode = .batch ∧ scanOptions.interval.toInt64 < reportDelayFloorValueBatch then
    reportDelayFloorValueBatch
  else scanOptions.interval.toInt64

/-- `SetCbTypeSensMode`: the type of the callback and the sensitivity. -/
def cbTypeSensMode : ScanReportMode → UInt8 × UInt8
  | .normal => (bleScanCallbackTypeAllMatch, 1)
  | .batch => (bleScanCallbackTypeAllMatch, 1)
  | .fenceSensitivityLow => (bleScanCallbackTypeFirstAndLostMatch, 2)
  | .fenceSensitivityHigh => (bleScanCallbackTypeFirstAndLostMatch, 1)

/-- The setters that `CheckBleScanParams` calls. -/
def ScanOptions.settings (scanOptions : ScanOptions) : ScanSettings where
  reportDelayMillis := reportDelay scanOptions
  reportMode := scanOptions.reportMode.toInt32
  scanMode := scanOptions.dutyMode.toInt32
  phy := scanOptions.phyType.toInt32
  enhanceMode := ⟨scanOptions.scanEnhanceMode.mode.toInt32, scanOptions.scanEnhanceMode.timeout⟩
  callbackType := (cbTypeSensMode scanOptions.reportMode).1
  sensitivityMode := (cbTypeSensMode scanOptions.reportMode).2
  legacy := !scanOptions.isExtended

/-- The filters that `CheckBleScanParams` takes from its first argument. -/
def scanFilters : JsValue → Parsed (List BleScanFilter)
  | .null => pure [BleScanFilter.new]
  | filters => parseScanFilterParameters filters

/-- `CheckBleScanParams` -/
def checkBleScanParams : List JsValue → Parsed (List BleScanFilter × ScanSettings)
  | [filters] => do pure (← scanFilters filters, {})
  | [filters, options] => do
      let scanfilters ← scanFilters filters
      let scanOptions ← parseScanParameters options
      pure (scanfilters, scanOptions.settings)
  | _ => throw (.status .invalidArg)

/-- `BT_ERR_BLE_SCAN_ALREADY_STARTED` -/
def btErrBleScanAlreadyStarted : Int32 := 2902050

/-- How a call of a script ends: it returns `undefined`, an error is thrown with the code, or the
text of a UUID makes it throw. -/
inductive ScriptEnd where
  | undefined
  | threw (errCode : Int32)
  | fault (exit : ParseExit)
deriving DecidableEq

/-- `StartBLEScan`. The environment answers the check of the id and the start. -/
def startBLEScan (manager : BleCentralManager) (arguments : List JsValue)
    (checking starting : Answers) :
    BleCentralManager × ScriptEnd :=
  match checkBleScanParams arguments with
  | .error (.status _) => (manager, .threw btErrInvalidParam)
  | .error exit => (manager, .fault exit)
  | .ok (scanfilters, settings) =>
      match (manager.checkValidScannerId checking).startScan settings scanfilters starting with
      | (manager, .error fault) => (manager, .fault (.fault fault))
      | (manager, .ok ret) =>
          if ret = btNoError ∨ ret = btErrBleScanAlreadyStarted then (manager, .undefined)
          else (manager, .threw ret)

/-! ## What the arguments say -/

/-- The properties of `scanEnhanceMode`. -/
structure EnhanceParams where
  enhanceMode : Option Int32 := none
  timeout : Option Int32 := none
deriving DecidableEq

/-- The properties of the options. -/
structure OptionParams where
  interval : Option Int32 := none
  dutyMode : Option Int32 := none
  matchMode : Option Int32 := none
  phyType : Option Int32 := none
  reportMode : Option Int32 := none
  isExtended : Option Bool := none
  scanEnhanceMode : Option EnhanceParams := none
deriving DecidableEq

/-- The names the options may have. -/
def scanOptionNames : List String :=
  ["interval", "dutyMode", "matchMode", "phyType", "reportMode", "isExtended", "scanEnhanceMode"]

/-- An object with these properties and no others. -/
structure EnhanceParamsOf (value : JsValue) (params : EnhanceParams) : Prop where
  names : OnlyProperties value ["enhanceMode", "timeout"]
  enhanceMode : Optionally value "enhanceMode" Int32Of params.enhanceMode
  timeout : Optionally value "timeout" Int32Of params.timeout

/-- An object with these properties and no others. -/
structure OptionParamsOf (value : JsValue) (params : OptionParams) : Prop where
  names : OnlyProperties value scanOptionNames
  interval : Optionally value "interval" Int32Of params.interval
  dutyMode : Optionally value "dutyMode" Int32Of params.dutyMode
  matchMode : Optionally value "matchMode" Int32Of params.matchMode
  phyType : Optionally value "phyType" Int32Of params.phyType
  reportMode : Optionally value "reportMode" Int32Of params.reportMode
  isExtended : Optionally value "isExtended" BooleanOf params.isExtended
  scanEnhanceMode : Optionally value "scanEnhanceMode" EnhanceParamsOf params.scanEnhanceMode

/-- A mode has to be named, and a timeout to be positive. -/
structure EnhanceParams.Acceptable (params : EnhanceParams) : Prop where
  enhanceMode : ∃ enhanceMode ∈ params.enhanceMode, enhanceMode ∈ [0, 1, 2, 3]
  timeout : ∀ timeout ∈ params.timeout, 0 < timeout

/-- The mode with the properties. -/
def EnhanceParams.mode (params : EnhanceParams) : ScanEnhanceMode where
  mode := convertScanEnhanceMode .invalid params.enhanceMode
  timeout :=
    let timeout := (params.timeout.map Int32.toInt64).getD scanEnhanceModeMaxTimeoutMs
    if scanEnhanceModeMaxTimeoutMs < timeout then scanEnhanceModeMaxTimeoutMs else timeout

/-- The options with the properties. -/
def OptionParams.options (params : OptionParams) : ScanOptions where
  interval := params.interval.getD 0
  dutyMode := convertDutyMode .lowPower params.dutyMode
  matchMode := convertMatchMode .aggressive params.matchMode
  phyType := convertPhyType .le1M params.phyType
  reportMode := convertScanReportMode .normal params.reportMode
  isExtended := params.isExtended.getD false
  scanEnhanceMode := (params.scanEnhanceMode.map EnhanceParams.mode).getD {}

/-- What the options of a script stand for. -/
def ScanOptionsOf (value : JsValue) (scanOptions : ScanOptions) : Prop :=
  ∃ params : OptionParams, OptionParamsOf value params ∧
    (∀ enhance ∈ params.scanEnhanceMode, enhance.Acceptable) ∧ scanOptions = params.options

/-- What the filters of a script stand for. -/
inductive ScanFiltersOf : JsValue → List BleScanFilter → Prop where
  | all : ScanFiltersOf .null [BleScanFilter.new]
  | some (elements : List JsValue) (filters : List BleScanFilter) (nonempty : elements ≠ [])
      (each : List.Forall₂ ScanFilterOf elements filters) : ScanFiltersOf (.array elements) filters

/-- What the arguments of `startBLEScan` stand for. -/
inductive ScanOf : List JsValue → List BleScanFilter × ScanSettings → Prop where
  | plain (value : JsValue) (filters : List BleScanFilter) (filtered : ScanFiltersOf value filters) :
      ScanOf [value] (filters, {})
  | withOptions (value options : JsValue) (filters : List BleScanFilter) (scanOptions : ScanOptions)
      (filtered : ScanFiltersOf value filters) (chosen : ScanOptionsOf options scanOptions) :
      ScanOf [value, options] (filters, scanOptions.settings)

/-! ## The steps of the parser -/

/-- The modes with a name are the first four. A number without a name is converted to a mode that
the check refuses. -/
theorem named_iff (mode : Option Int32) :
    ((convertScanEnhanceMode .invalid mode).toInt32 < EnhanceModeOption.butt.toInt32 ∧
        0 ≤ (convertScanEnhanceMode .invalid mode).toInt32) ↔
      ∃ enhanceMode ∈ mode, enhanceMode ∈ [0, 1, 2, 3] := by
  cases mode with
  | none => exact iff_of_false (by decide) nofun
  | some mode =>
    by_cases named : mode ∈ ([0, 1, 2, 3] : List Int32)
    · refine iff_of_true ?_ ⟨mode, rfl, named⟩
      simp only [List.mem_cons, List.not_mem_nil, or_false] at named
      rcases named with rfl | rfl | rfl | rfl <;> decide
    · refine iff_of_false ?_ ?_
      · have invalid : convertScanEnhanceMode .invalid (some mode) = .invalid := by
          simp only [List.mem_cons, List.not_mem_nil, or_false, not_or] at named
          simp [convertScanEnhanceMode, convertMode, EnhanceModeOption.toInt32, Ne.symm named.1,
            Ne.symm named.2.1,
            Ne.symm named.2.2.1, Ne.symm named.2.2.2]
        rw [invalid]
        decide
      · rintro ⟨_, ⟨⟩, member⟩
        exact named member

/-- The wider number is positive exactly if the one the script gave is. -/
theorem toInt64_pos (timeout : Int32) : 0 < timeout.toInt64 ↔ 0 < timeout := by
  simp [Int64.lt_iff_toInt_lt, Int32.lt_iff_toInt_lt]

/-- The mode is valid if it is named and its timeout is positive, and is then cut down. A timeout
that is not given is the greatest one, which is accepted as it is. -/
theorem isValidBleScanEnhanceMode_eq_some_iff (params : EnhanceParams) (mode : ScanEnhanceMode) :
    isValidBleScanEnhanceMode
        { mode := convertScanEnhanceMode .invalid params.enhanceMode
          timeout := (params.timeout.map Int32.toInt64).getD scanEnhanceModeMaxTimeoutMs } = some mode ↔
      params.Acceptable ∧ mode = params.mode := by
  have named := named_iff params.enhanceMode
  have positive : 0 < (params.timeout.map Int32.toInt64).getD scanEnhanceModeMaxTimeoutMs ↔
      ∀ timeout ∈ params.timeout, 0 < timeout := by
    cases params.timeout with
    | none => exact iff_of_true (by decide) nofun
    | some timeout => simp [toInt64_pos]
  have acceptable : params.Acceptable ↔ (∃ enhanceMode ∈ params.enhanceMode, enhanceMode ∈ [0, 1, 2, 3]) ∧
      ∀ timeout ∈ params.timeout, 0 < timeout := ⟨fun ⟨h, t⟩ => ⟨h, t⟩, fun ⟨h, t⟩ => ⟨h, t⟩⟩
  rw [acceptable, ← named, ← positive, isValidBleScanEnhanceMode, EnhanceParams.mode]
  split
  · rename_i unnamed
    refine iff_of_false nofun ?_
    rintro ⟨⟨⟨below, above⟩, -⟩, -⟩
    exact unnamed.elim (Int32.not_le.mpr below) (Int32.not_lt.mpr above)
  · rename_i isNamed
    rw [not_or, Int32.not_le, Int32.not_lt] at isNamed
    split
    · rename_i late
      refine iff_of_false nofun ?_
      rintro ⟨⟨-, early⟩, -⟩
      exact Int64.not_le.mpr early late
    · rename_i early
      rw [Int64.not_le] at early
      simp only [isNamed, early, and_self, true_and]
      split <;> simp only [Option.some.injEq, eq_comm]

/-- The mode is optional, and its parts are refused outside of their bounds. The parser starts
with the default mode, which is what an absent part leaves. -/
theorem means_scanEnhanceMode (value : JsValue) (params : ScanOptions)
    (fresh : params.scanEnhanceMode = {}) :
    Means (parseScanEnhanceModeParameters value params) fun result =>
      ∃ enhance, EnhanceParamsOf value enhance ∧ enhance.Acceptable ∧
        result = { params with scanEnhanceMode := enhance.mode } := by
  have checked (enhance : EnhanceParams) :
      Means (match isValidBleScanEnhanceMode
          { mode := convertScanEnhanceMode params.scanEnhanceMode.mode enhance.enhanceMode
            timeout := (enhance.timeout.map Int32.toInt64).getD params.scanEnhanceMode.timeout } with
        | none => throw (.status .invalidArg)
        | some scanEnhanceMode => pure { params with scanEnhanceMode }) fun result : ScanOptions =>
          enhance.Acceptable ∧ result = { params with scanEnhanceMode := enhance.mode } := by
    have valid := isValidBleScanEnhanceMode_eq_some_iff enhance
    rw [fresh]
    cases answer : isValidBleScanEnhanceMode
        { mode := convertScanEnhanceMode .invalid enhance.enhanceMode
          timeout := (enhance.timeout.map Int32.toInt64).getD scanEnhanceModeMaxTimeoutMs } with
    | none =>
      refine Understands.fail trivial fun result accepted => ?_
      have given := (valid enhance.mode).mpr ⟨accepted.1, rfl⟩
      cases answer.symm.trans given
    | some mode =>
      obtain ⟨acceptable, same⟩ := (valid mode).mp answer
      subst same
      exact (Understands.pure _).congr fun result => by simp [acceptable]
  refine ((means_checkNames value ["enhanceMode", "timeout"]).bind fun _ names =>
    (means_ofObject names.1 (means_parseInt32Params value "enhanceMode")).bind fun enhanceMode _ =>
    (means_ofObject names.1 (means_parseInt32Params value "timeout")).bind fun timeout _ =>
    checked ⟨enhanceMode, timeout⟩).congr fun result => ?_
  constructor
  · rintro ⟨-, names, enhanceMode, modeOf, timeout, timeoutOf, acceptable, rfl⟩
    exact ⟨⟨enhanceMode, timeout⟩, ⟨names, modeOf, timeoutOf⟩, acceptable, rfl⟩
  · rintro ⟨enhance, of, acceptable, rfl⟩
    exact ⟨(), of.names, enhance.enhanceMode, of.enhanceMode, enhance.timeout, of.timeout, acceptable, rfl⟩

/-- A mode of another type than an object is `null`, and that is refused. Only a mode that is
absent leaves the default. -/
theorem means_enhanceModeOf (value : JsValue) (params : ScanOptions)
    (fresh : params.scanEnhanceMode = {}) :
    Means (match getObjectByNamed value "scanEnhanceMode" with
      | none => pure params
      | some scanEnhanceModeArg =>
        parseScanEnhanceModeParameters scanEnhanceModeArg params) fun result =>
        ∃ enhance, Optionally value "scanEnhanceMode" EnhanceParamsOf enhance ∧
          (∀ given ∈ enhance, given.Acceptable) ∧
          result = { params with scanEnhanceMode := (enhance.map EnhanceParams.mode).getD {} } := by
  rw [getObjectByNamed]
  cases found : value.namedProperty "scanEnhanceMode" with
  | none =>
    refine (Understands.pure params).congr fun result => ?_
    constructor
    · rintro rfl
      refine ⟨none, found, nofun, ?_⟩
      rw [Option.map_none, Option.getD_none, ← fresh]
    · rintro ⟨enhance, given, -, rfl⟩
      cases enhance with
      | none => rw [Option.map_none, Option.getD_none, ← fresh]
      | some enhance =>
        obtain ⟨property, present, -⟩ := given
        cases found.symm.trans present
  | some property =>
    rw [Option.map_some]
    refine (means_scanEnhanceMode _ params fresh).congr fun result => ?_
    constructor
    · rintro ⟨enhance, of, acceptable, rfl⟩
      have isObject : property.isObject = true := by
        by_contra other
        rw [if_neg other] at of
        exact absurd of.names.1 (by decide)
      rw [if_pos isObject] at of
      exact ⟨some enhance, ⟨property, found, of⟩, fun _ same => Option.some.inj same ▸ acceptable, rfl⟩
    · rintro ⟨enhance, given, acceptable, rfl⟩
      cases enhance with
      | none => cases found.symm.trans given
      | some enhance =>
        obtain ⟨other, present, of⟩ := given
        cases found.symm.trans present
        rw [if_pos of.names.1]
        exact ⟨enhance, of, acceptable enhance rfl, rfl⟩

/-- The options of a scan are parsed to what the script asked for, each option by its own rule.
-/
theorem means_parseScanParameters (value : JsValue) :
    Means (parseScanParameters value) (ScanOptionsOf value) := by
  refine ((means_checkNames value scanOptionNames).bind fun _ names =>
    (means_ofObject names.1 (means_parseInt32Params value "interval")).bind fun interval _ =>
    (means_ofObject names.1 (means_parseInt32Params value "dutyMode")).bind fun dutyMode _ =>
    (means_ofObject names.1 (means_parseInt32Params value "matchMode")).bind fun matchMode _ =>
    (means_ofObject names.1 (means_parseInt32Params value "phyType")).bind fun phyType _ =>
    (means_ofObject names.1 (means_parseInt32Params value "reportMode")).bind fun reportMode _ =>
    (means_ofObject names.1 (means_parseBooleanParams value "isExtended")).bind fun isExtended _ =>
    means_enhanceModeOf value _ rfl).congr fun result => ?_
  constructor
  · rintro ⟨-, names, interval, intervalOf, dutyMode, dutyModeOf, matchMode, matchModeOf, phyType, phyTypeOf,
      reportMode, reportModeOf, isExtended, isExtendedOf, scanEnhanceMode, enhanceOf, acceptable, rfl⟩
    exact ⟨{ interval, dutyMode, matchMode, phyType, reportMode, isExtended, scanEnhanceMode },
      ⟨names, intervalOf, dutyModeOf, matchModeOf, phyTypeOf, reportModeOf, isExtendedOf, enhanceOf⟩,
      acceptable, rfl⟩
  · rintro ⟨params, of, acceptable, rfl⟩
    exact ⟨(), of.names, _, of.interval, _, of.dutyMode, _, of.matchMode, _, of.phyType, _, of.reportMode,
      _, of.isExtended, _, of.scanEnhanceMode, acceptable, rfl⟩

/-- The filters of a scan are parsed to the filters the script asked for: null gives one empty
filter, and a list gives one for each element. -/
theorem means_scanFilters (value : JsValue) : Means (scanFilters value) (ScanFiltersOf value) := by
  cases value with
  | null =>
    refine (Understands.pure [BleScanFilter.new]).congr fun filters => ?_
    constructor
    · rintro rfl
      exact .all
    · rintro ⟨⟩
      rfl
  | array elements =>
    have each (element : JsValue) : Means (do napiIsObject element; parseScanFilter element)
        (ScanFilterOf element) := by
      refine ((means_napiIsObject element).bind fun _ _ => means_parseScanFilter element).congr fun filter => ?_
      refine ⟨fun ⟨_, _, of⟩ => of, fun of => ⟨(), ?_, of⟩⟩
      obtain ⟨params, paramsOf, -⟩ := of
      exact paramsOf.names.1
    refine ((means_returnIf elements.isEmpty .invalidArg).bind fun _ _ =>
      Understands.mapM elements fun element _ => each element).congr fun filters => ?_
    constructor
    · rintro ⟨-, filled, each⟩
      exact .some elements filters (by simpa using filled) each
    · rintro (_ | ⟨_, _, nonempty, each⟩)
      exact ⟨(), by simpa using nonempty, each⟩
  | _ => exact Understands.fail trivial fun filters => by rintro ⟨⟩

/-- The arguments are taken for the scan they stand for. One or two of them are accepted, and
without the second the settings are the default ones. -/
theorem means_checkBleScanParams (arguments : List JsValue) :
    Means (checkBleScanParams arguments) (ScanOf arguments) := by
  match arguments with
  | [] => exact Understands.fail trivial fun scan => by rintro ⟨⟩
  | [value] =>
    refine ((means_scanFilters value).bind
      fun filters _ => .pure (filters, ({} : ScanSettings))).congr fun scan => ?_
    constructor
    · rintro ⟨filters, filtered, rfl⟩
      exact .plain value filters filtered
    · rintro (⟨_, filters, filtered⟩ | _)
      exact ⟨filters, filtered, rfl⟩
  | [value, options] =>
    refine ((means_scanFilters value).bind fun filters _ => (means_parseScanParameters options).bind
      fun scanOptions _ => .pure (filters, scanOptions.settings)).congr fun scan => ?_
    constructor
    · rintro ⟨filters, filtered, scanOptions, chosen, rfl⟩
      exact .withOptions value options filters scanOptions filtered chosen
    · rintro (_ | ⟨_, _, filters, scanOptions, filtered, chosen⟩)
      exact ⟨filters, filtered, scanOptions, chosen, rfl⟩
  | _ :: _ :: _ :: _ => exact Understands.fail trivial fun scan => by rintro ⟨⟩

end BluetoothFramework.Napi
