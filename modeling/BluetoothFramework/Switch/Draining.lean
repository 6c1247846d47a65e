import BluetoothFramework.Switch.System
import Mathlib.Data.List.DropRight

/-!
# Draining the cache

Suppose no further request arrives, every replayed action succeeds and each action is
followed by its own completion event. The module then alternates between the
completion of the action in progress and the replay that completion posted.

The requests have a plain meaning on the adapter: ENABLE gives ON, DISABLE gives OFF,
and ENABLE_TO_RESTRICE gives HALF unless the adapter is ON. `drain_outcome` compares
the two. The module always becomes idle with an empty cache, and the state reached is
that of the requests performed one after another, but for one pattern. Deduplication
erases everything up to the last request that repeats the action in progress. When
that is ENABLE_TO_RESTRICE, an ENABLE among the erased requests would have left the
adapter ON, and the module leaves it HALF.
-/

namespace BluetoothFramework.Switch.Draining

open BluetoothSwitchModule

variable {Tag : Type}

/-- The states of the adapter the completion events stand for. -/
inductive AdapterState where
  | on
  | off
  | half
deriving DecidableEq, Repr

/-- The meaning of a request. Restrict mode leaves an adapter that is on unchanged. -/
def AdapterState.apply : AdapterState → SwitchRequest → AdapterState
  | _, .enable => .on
  | _, .disable => .off
  | .on, .restrict => .on
  | _, .restrict => .half

/-- The state a completed action is reported in. -/
def reached : SwitchRequest → AdapterState
  | .enable => .on
  | .disable => .off
  | .restrict => .half

/-- The request a call on `switchAction_` executes. -/
def request : SwitchCall → SwitchRequest
  | .enableBluetooth .. => .enable
  | .disableBluetooth .. => .disable
  | .enableBluetoothToRestrictMode .. => .restrict

/-- The request of a call is entered under the event of the call. -/
theorem request_event (call : SwitchCall) : (request call).event = call.event := by
  cases call <;> rfl

/-- A request is known from its event. -/
theorem event_injective {first second : SwitchRequest} (same : first.event = second.event) :
    first = second := by
  cases first <;> cases second <;> first | rfl | cases same

/-- The module together with the state of the adapter last reported to it. -/
structure State (Tag : Type) where
  module : BluetoothSwitchModule Tag
  adapter : AdapterState
deriving DecidableEq

/-- The only step left when no request arrives and no timeout fires: the action in
progress completes, or else the oldest replay runs and succeeds. -/
def drainStep (state : State Tag) : Option (State Tag) :=
  match state.module.inProgress with
  | some action =>
      (state.module.step (.event action.call.completion "" false false action.tag {})).map
        fun next => ⟨next, reached (request action.call)⟩
  | none => (state.module.step (.replay {})).map fun next => ⟨next, state.adapter⟩

/-- Take such steps until there is none; `none` if the fuel runs out before that. -/
def drain : Nat → State Tag → Option (State Tag)
  | 0, _ => none
  | fuel + 1, state =>
      match drainStep state with
      | none => some state
      | some next => drain fuel next

/-! ## The requests a completion leaves -/

/-- The requests a completed action is expected to be followed by. -/
def expected : SwitchRequest → List SwitchRequest
  | .enable => [.disable]
  | .disable => [.enable, .restrict]
  | .restrict => [.enable, .disable]

/-- What the completion of the current request leaves to replay: what follows its
last repetition, from the first expected request on. -/
def pending (current : SwitchRequest) (cached : List SwitchRequest) : List SwitchRequest :=
  (cached.rtakeWhile (· ≠ current)).dropWhile (fun request => !(expected current).contains request)

/-- The pattern in which an erased ENABLE matters: the last request is
ENABLE_TO_RESTRICE, the last other one is ENABLE, and the action in progress is
ENABLE_TO_RESTRICE or will be, as the first request after the last DISABLE. -/
def LosesEnable (current : SwitchRequest) (cached : List SwitchRequest) : Prop :=
  cached.getLast? = some .restrict ∧
    (cached.filter (· ≠ .restrict)).getLast? = some .enable ∧
    (current = .restrict ∨
      (current = .disable ∧ (cached.rtakeWhile (· ≠ .disable)).head? = some .restrict))

instance (current : SwitchRequest) (cached : List SwitchRequest) :
    Decidable (LosesEnable current cached) :=
  inferInstanceAs (Decidable (_ ∧ _))

/-- The state draining reaches. -/
def outcome (current : SwitchRequest) (cached : List SwitchRequest) : AdapterState :=
  if LosesEnable current cached then .half else cached.foldl AdapterState.apply (reached current)

/-- A list of requests splits at the last repetition of the current one. -/
theorem split_at_last (current : SwitchRequest) (cached : List SwitchRequest) :
    ∃ erased kept, cached = erased ++ kept ∧ cached.rtakeWhile (· ≠ current) = kept ∧
      (∀ request ∈ kept, request ≠ current) ∧ (erased = [] ∨ erased.getLast? = some current) := by
  refine ⟨cached.rdropWhile (· ≠ current), _,
    (List.rdropWhile_append_rtakeWhile (p := (· ≠ current))).symm, rfl, ?_, ?_⟩
  · intro request member
    simpa using List.mem_rtakeWhile_imp member
  · by_cases empty : cached.rdropWhile (· ≠ current) = []
    · exact .inl empty
    · have last := List.rdropWhile_last_not (p := (· ≠ current)) cached empty
      right
      rw [List.getLast?_eq_some_getLast empty]
      simpa using last

/-- Conversely such a split determines what is kept. -/
theorem rtakeWhile_of_split (current : SwitchRequest) (erased kept : List SwitchRequest)
    (others : ∀ request ∈ kept, request ≠ current)
    (ends : ∀ request ∈ erased.getLast?, request = current) :
    (erased ++ kept).rtakeWhile (· ≠ current) = kept := by
  induction kept using List.reverseRecOn with
  | nil =>
    rw [List.append_nil, List.rtakeWhile_eq_nil_iff]
    intro nonempty
    have last := ends _ (List.getLast?_eq_some_getLast nonempty)
    simpa using last
  | append_singleton front last inductionHypothesis =>
    have differs : decide (last ≠ current) = true := by simpa using others last (by simp)
    rw [← List.append_assoc, List.rtakeWhile_concat_pos (· ≠ current) _ _ differs, inductionHypothesis]
    intro request member
    exact others request (List.mem_append_left _ member)

/-- Everything but the current request is expected, except ENABLE_TO_RESTRICE after
ENABLE. -/
theorem expected_contains (current request : SwitchRequest) :
    (expected current).contains request = true ↔
      request ≠ current ∧ ¬ (current = .enable ∧ request = .restrict) := by
  cases current <;> cases request <;> decide

/-- Performing requests that end with one other than ENABLE_TO_RESTRICE reaches the
state of that one. -/
theorem foldl_last (state : AdapterState) (requests : List SwitchRequest) (last : SwitchRequest)
    (ends : requests.getLast? = some last) (switches : last ≠ .restrict) :
    requests.foldl AdapterState.apply state = reached last := by
  obtain ⟨front, rfl⟩ := List.getLast?_eq_some_iff.mp ends
  rw [List.foldl_append]
  cases last with
  | enable => rfl
  | disable => rfl
  | restrict => exact absurd rfl switches

/-- The adapter ends up ON exactly when the last request other than
ENABLE_TO_RESTRICE is ENABLE, or there is none and it was ON before. -/
theorem foldl_on_iff (state : AdapterState) (requests : List SwitchRequest) :
    requests.foldl AdapterState.apply state = .on ↔
      (requests.filter (· ≠ .restrict)).getLast? = some .enable ∨
        ((requests.filter (· ≠ .restrict)).getLast? = none ∧ state = .on) := by
  induction requests using List.reverseRecOn with
  | nil => simp
  | append_singleton front last inductionHypothesis =>
    rw [List.foldl_append, List.filter_append]
    cases last with
    | enable => simp [AdapterState.apply]
    | disable => simp [AdapterState.apply]
    | restrict =>
      have unchanged : (front.foldl AdapterState.apply state).apply .restrict = .on ↔
          front.foldl AdapterState.apply state = .on := by
        cases front.foldl AdapterState.apply state <;> simp [AdapterState.apply]
      simpa [unchanged] using inductionHypothesis

/-- Requests that end with ENABLE_TO_RESTRICE reach HALF unless they reach ON. -/
theorem foldl_restrict (state : AdapterState) (requests : List SwitchRequest)
    (ends : requests.getLast? = some .restrict)
    (notOn : requests.foldl AdapterState.apply state ≠ .on) :
    requests.foldl AdapterState.apply state = .half := by
  obtain ⟨front, rfl⟩ := List.getLast?_eq_some_iff.mp ends
  rw [List.foldl_append] at notOn ⊢
  revert notOn
  cases front.foldl AdapterState.apply state with
  | on => exact fun notOn => absurd rfl notOn
  | off => exact fun _ => rfl
  | half => exact fun _ => rfl

/-- Up to the last repetition of the current request nothing changes, unless that is
ENABLE_TO_RESTRICE. -/
theorem foldl_erased (current : SwitchRequest) (erased : List SwitchRequest)
    (ends : erased = [] ∨ erased.getLast? = some current) (switches : current ≠ .restrict) :
    erased.foldl AdapterState.apply (reached current) = reached current := by
  rcases ends with rfl | last
  · rfl
  · exact foldl_last _ erased current last switches

/-- Requests that are all ENABLE_TO_RESTRICE leave an adapter that is on alone. -/
theorem foldl_restricts_on (requests : List SwitchRequest)
    (restricts : ∀ request ∈ requests, request = .restrict) :
    requests.foldl AdapterState.apply .on = .on := by
  have none : requests.filter (· ≠ .restrict) = [] := by
    simpa using restricts
  exact (foldl_on_iff .on requests).mpr (.inr ⟨by rw [none]; rfl, rfl⟩)

/-- Where nothing is left to replay the state of the current request is the outcome. What is
behind its last repetition changes nothing in that state, so the adapter stays where it is. -/
theorem outcome_of_pending_nil (current : SwitchRequest) (cached : List SwitchRequest)
    (done : pending current cached = []) : outcome current cached = reached current := by
  obtain ⟨erased, kept, rfl, suffix, others, ends⟩ := split_at_last current cached
  rw [pending, suffix] at done
  have skipped (request : SwitchRequest) (member : request ∈ kept) :
      current = .enable ∧ request = .restrict := by
    have unexpected := List.dropWhile_eq_nil_iff.mp done request member
    rw [Bool.not_eq_true', ← Bool.not_eq_true, expected_contains] at unexpected
    by_contra other
    exact unexpected ⟨others request member, other⟩
  by_cases enabling : current = .enable
  · subst enabling
    have harmless : ¬ LosesEnable .enable (erased ++ kept) := by simp [LosesEnable]
    rw [outcome, if_neg harmless, List.foldl_append, foldl_erased .enable erased ends (by simp)]
    exact foldl_restricts_on kept fun request member => (skipped request member).2
  · have empty : kept = [] := by
      apply List.eq_nil_iff_forall_not_mem.mpr
      intro request member
      exact enabling (skipped request member).1
    subst empty
    rw [List.append_nil]
    rcases ends with rfl | last
    · have harmless : ¬ LosesEnable current [] := by simp [LosesEnable]
      rw [outcome, if_neg harmless]
      rfl
    · cases current with
      | enable => exact absurd rfl enabling
      | disable =>
        have harmless : ¬ LosesEnable .disable erased := by simp [LosesEnable, last]
        rw [outcome, if_neg harmless]
        exact foldl_last _ erased .disable last (by simp)
      | restrict =>
        by_cases lost : LosesEnable .restrict erased
        · rw [outcome, if_pos lost]
          rfl
        · rw [outcome, if_neg lost]
          apply foldl_restrict _ erased last
          rw [ne_eq, foldl_on_iff]
          rintro (enabled | ⟨_, on⟩)
          · exact lost ⟨last, enabled, .inl rfl⟩
          · cases on

/-- What precedes the request replayed next: the erased requests, then the skipped
ones, which are ENABLE_TO_RESTRICE after ENABLE. -/
theorem pending_split (current next : SwitchRequest) (cached rest : List SwitchRequest)
    (left : pending current cached = next :: rest) :
    ∃ erased skipped, cached = erased ++ (skipped ++ next :: rest) ∧
      cached.rtakeWhile (· ≠ current) = skipped ++ next :: rest ∧
      (erased = [] ∨ erased.getLast? = some current) ∧
      (∀ request ∈ skipped, current = .enable ∧ request = .restrict) ∧
      (∀ request ∈ next :: rest, request ≠ current) ∧
      ¬ (current = .enable ∧ next = .restrict) := by
  obtain ⟨erased, kept, rfl, suffix, others, ends⟩ := split_at_last current cached
  rw [pending, suffix] at left
  have whole := List.takeWhile_append_dropWhile
    (p := fun request => !(expected current).contains request) (l := kept)
  rw [left] at whole
  have first := List.head?_dropWhile_not (fun request => !(expected current).contains request) kept
  simp only [left, List.head?_cons, Bool.not_eq_false', expected_contains] at first
  refine ⟨erased, _, by rw [whole], by rw [whole, suffix], ends, ?_, ?_, first.2⟩
  · intro request member
    have unexpected := List.mem_takeWhile_imp member
    rw [Bool.not_eq_true', ← Bool.not_eq_true, expected_contains] at unexpected
    have other : request ≠ current :=
      others request (whole ▸ List.mem_append_left _ member)
    tauto
  · intro request member
    exact others request (whole ▸ List.mem_append_right _ member)

/-- Requests without ENABLE lose none. -/
theorem not_losesEnable_of_absent {current : SwitchRequest} {cached : List SwitchRequest}
    (absent : .enable ∉ cached) : ¬ LosesEnable current cached := by
  rintro ⟨_, enabled, _⟩
  exact absent (List.mem_filter.mp (List.mem_of_getLast? enabled)).1

/-- Requests without ENABLE_TO_RESTRICE lose none. -/
theorem not_losesEnable_of_plain {current : SwitchRequest} {cached : List SwitchRequest}
    (plain : .restrict ∉ cached) : ¬ LosesEnable current cached :=
  fun lost => plain (List.mem_of_getLast? lost.1)

/-- After DISABLE the first request is replayed whatever it is. If that is
ENABLE_TO_RESTRICE, the pattern carries over to what follows. -/
theorem losesEnable_disable_iff (erased rest : List SwitchRequest)
    (suffix : (erased ++ .restrict :: rest).rtakeWhile (· ≠ .disable) = .restrict :: rest)
    (ends : erased = [] ∨ erased.getLast? = some .disable)
    (others : ∀ request ∈ rest, request ≠ .disable) :
    LosesEnable .disable (erased ++ .restrict :: rest) ↔ LosesEnable .restrict rest := by
  by_cases enabling : .enable ∈ rest
  · have nonempty : rest ≠ [] := List.ne_nil_of_mem enabling
    have switched : rest.filter (· ≠ .restrict) ≠ [] :=
      List.ne_nil_of_mem (List.mem_filter.mpr ⟨enabling, by decide⟩)
    have last : (erased ++ .restrict :: rest).getLast? = rest.getLast? := by
      rw [List.append_cons, List.getLast?_append_of_ne_nil _ nonempty]
    have switch : ((erased ++ .restrict :: rest).filter (· ≠ .restrict)).getLast? =
        (rest.filter (· ≠ .restrict)).getLast? := by
      rw [List.append_cons, List.filter_append, List.getLast?_append_of_ne_nil _ switched]
    unfold LosesEnable
    rw [last, switch, suffix]
    simp
  · have absent : ¬ LosesEnable .restrict rest := not_losesEnable_of_absent enabling
    refine iff_of_false ?_ absent
    rintro ⟨_, switch, _⟩
    have restricts : rest.filter (· ≠ .restrict) = [] := by
      apply List.filter_eq_nil_iff.mpr
      intro request member
      have other := others request member
      cases request with
      | enable => exact absurd member enabling
      | disable => exact absurd rfl other
      | restrict => decide
    rw [List.append_cons, List.filter_append, restricts, List.append_nil, List.filter_append] at switch
    rcases ends with rfl | last
    · simp at switch
    · obtain ⟨front, rfl⟩ := List.getLast?_eq_some_iff.mp last
      simp at switch

/-- Otherwise the outcome is that of the request replayed next. The requests that are skipped
before it are not expected after the current one, and none of them would change the state that it
reaches. -/
theorem outcome_of_pending_cons (current next : SwitchRequest) (cached rest : List SwitchRequest)
    (left : pending current cached = next :: rest) :
    outcome current cached = outcome next rest := by
  obtain ⟨erased, skipped, rfl, suffix, ends, restricts, others, possible⟩ :=
    pending_split current next cached rest left
  by_cases enabling : current = .enable
  · subst enabling
    have disabling : next = .disable := by
      have other := others next (by simp)
      cases next <;> simp_all
    have absent : .enable ∉ rest := fun member => others .enable (List.mem_cons_of_mem _ member) rfl
    have stays : skipped.foldl AdapterState.apply (reached .enable) = .on :=
      foldl_restricts_on skipped fun request member => (restricts request member).2
    subst disabling
    rw [outcome, if_neg (by simp [LosesEnable]), outcome, if_neg (not_losesEnable_of_absent absent),
      List.foldl_append, foldl_erased .enable erased ends (by simp), List.foldl_append, stays]
    rfl
  · have none : skipped = [] := by
      apply List.eq_nil_iff_forall_not_mem.mpr
      intro request member
      exact enabling (restricts request member).1
    subst none
    rw [List.nil_append] at suffix ⊢
    cases current with
    | enable => exact absurd rfl enabling
    | disable =>
      have performed : (erased ++ next :: rest).foldl AdapterState.apply (reached .disable) =
          rest.foldl AdapterState.apply (reached next) := by
        rw [List.foldl_append, foldl_erased .disable erased ends (by simp)]
        cases next <;> rfl
      cases next with
      | enable =>
        have harmless : ¬ LosesEnable .disable (erased ++ .enable :: rest) := by
          rintro ⟨_, _, restricting | ⟨_, first⟩⟩
          · cases restricting
          · rw [suffix] at first
            simp at first
        rw [outcome, if_neg harmless, outcome, if_neg (by simp [LosesEnable])]
        exact performed
      | disable => exact absurd rfl (others .disable (by simp))
      | restrict =>
        have carried := losesEnable_disable_iff erased rest suffix ends
          fun request member => others request (List.mem_cons_of_mem _ member)
        simp only [outcome, carried, performed]
    | restrict =>
      have plain : .restrict ∉ rest := fun member =>
        others .restrict (List.mem_cons_of_mem _ member) rfl
      have switches : next ≠ .restrict := others next (by simp)
      have harmless : ¬ LosesEnable .restrict (erased ++ next :: rest) := by
        rintro ⟨last, _⟩
        rw [List.getLast?_append_cons] at last
        exact others .restrict (List.mem_of_getLast? last) rfl
      rw [outcome, if_neg harmless, outcome, if_neg (not_losesEnable_of_plain plain),
        List.foldl_append, List.foldl_cons]
      cases next with
      | enable => rfl
      | disable => rfl
      | restrict => exact absurd rfl switches

/-! ## The module drains its cache this way -/

/-- The action in progress executes the current request, the cached entries are the
cached requests in order, and no replay is posted. -/
structure Holds (current : SwitchRequest) (cached : List SwitchRequest)
    (module : BluetoothSwitchModule Tag) : Prop where
  action : ∃ action, module.inProgress = some action ∧ request action.call = current
  cache : module.cachedEventVec.map BluetoothSwitchCacheEvent.event =
    cached.map SwitchRequest.event
  replays : module.ffrtQueue.replays = []

/-- Nothing is in progress, cached or posted. -/
structure Idle (module : BluetoothSwitchModule Tag) : Prop where
  flag : module.isBtSwitchProcessing = false
  cache : module.cachedEventVec = []
  replays : module.ffrtQueue.replays = []

/-- Deduplication keeps the entries of the requests after the last repetition. It is stated for
the requests alone, since an entry also carries who called and with which tag. -/
theorem deduplicate_map (current : SwitchRequest) (cached : List SwitchRequest)
    (entries : List (BluetoothSwitchCacheEvent Tag))
    (same : entries.map BluetoothSwitchCacheEvent.event = cached.map SwitchRequest.event) :
    (deduplicateCacheEvent current.event entries).map BluetoothSwitchCacheEvent.event =
      (cached.rtakeWhile (· ≠ current)).map SwitchRequest.event := by
  obtain ⟨dropped, split, others, ends⟩ := deduplicate_spec current.event entries
  rw [split, List.map_append] at same
  obtain ⟨erased, kept, rfl, erasedSame, keptSame⟩ := List.map_eq_append_iff.mp same.symm
  have suffix : (erased ++ kept).rtakeWhile (· ≠ current) = kept := by
    apply rtakeWhile_of_split
    · intro request member
      have present : request.event ∈ kept.map SwitchRequest.event := List.mem_map_of_mem member
      rw [keptSame] at present
      obtain ⟨entry, inside, event⟩ := List.mem_map.mp present
      rintro rfl
      exact others entry inside event
    · intro request member
      have last : request.event ∈ (erased.map SwitchRequest.event).getLast? := by
        rw [List.getLast?_map]
        exact Option.mem_map_of_mem _ member
      rw [erasedSame, List.getLast?_map] at last
      obtain ⟨entry, inside, event⟩ := Option.map_eq_some_iff.mp last
      exact event_injective (event.symm.trans (ends entry inside))
  rw [suffix, keptSame]

/-- A posted replay and the cached requests behind it, with nothing in progress. -/
structure Posted (next : SwitchRequest) (rest : List SwitchRequest)
    (module : BluetoothSwitchModule Tag) : Prop where
  flag : module.isBtSwitchProcessing = false
  cache : module.cachedEventVec.map BluetoothSwitchCacheEvent.event = rest.map SwitchRequest.event
  replays : ∃ task, module.ffrtQueue.replays = [task] ∧ task.event = next.event

/-- The completion of the current request leaves the module idle, or posts the first
pending request and keeps the others cached. -/
theorem action_end_pending (current : SwitchRequest) (cached : List SwitchRequest)
    (module : BluetoothSwitchModule Tag) (holds : Holds current cached module) :
    let after := (module.processBluetoothSwitchActionEnd current.event
      ((expected current).map SwitchRequest.event)).2
    (pending current cached = [] ∧ Idle after) ∨
      ∃ next rest, pending current cached = next :: rest ∧ Posted next rest after := by
  have kept := deduplicate_map current cached module.cachedEventVec holds.cache
  have expects (request : SwitchRequest) :
      ((expected current).map SwitchRequest.event).contains request.event =
        (expected current).contains request := by
    cases current <;> cases request <;> rfl
  have remaining : ((deduplicateCacheEvent current.event module.cachedEventVec).dropWhile
      (fun entry => !((expected current).map SwitchRequest.event).contains entry.event)).map
        BluetoothSwitchCacheEvent.event = (pending current cached).map SwitchRequest.event := by
    have mapped := congrArg (List.dropWhile
      fun event => !((expected current).map SwitchRequest.event).contains event) kept
    rw [List.dropWhile_map, List.dropWhile_map] at mapped
    simpa only [pending, Function.comp_def, expects] using mapped
  intro after
  revert after
  rw [processBluetoothSwitchActionEnd]
  dsimp only
  split
  · rename_i it rest found
    rw [found, List.map_cons] at remaining
    obtain ⟨next, others, left, event, cache⟩ := List.map_eq_cons_iff.mp remaining.symm
    refine .inr ⟨next, others, left, rfl, cache.symm, it, ?_, event.symm⟩
    simp [processBluetoothSwitchCachedEvent, FfrtQueue.submitReplay, FfrtQueue.cancel, holds.replays]
  · rename_i found
    rw [found, List.map_nil] at remaining
    refine .inl ⟨List.map_eq_nil_iff.mp remaining.symm, rfl, rfl, ?_⟩
    simp [FfrtQueue.cancel, holds.replays]

/-- The completion event of the action in progress is the end of its request. -/
theorem completion_event (call : SwitchCall) (callingName : String) (tag : Tag)
    (module : BluetoothSwitchModule Tag) :
    module.processBluetoothSwitchEvent call.completion callingName false false tag {} =
      module.processBluetoothSwitchActionEnd (request call).event
        ((expected (request call)).map SwitchRequest.event) := by
  cases call <;> rfl

/-- One completion from a busy module. -/
theorem drainStep_completion (current : SwitchRequest) (cached : List SwitchRequest)
    (state : State Tag) (holds : Holds current cached state.module) :
    ∃ next, drainStep state = some next ∧ next.adapter = reached current ∧
      ((pending current cached = [] ∧ Idle next.module) ∨
        ∃ request rest, pending current cached = request :: rest ∧
          Posted request rest next.module) := by
  obtain ⟨action, progress, executes⟩ := holds.action
  have stepped : drainStep state = some ⟨(state.module.processBluetoothSwitchActionEnd current.event
      ((expected current).map SwitchRequest.event)).2, reached current⟩ := by
    rw [drainStep, progress]
    simp only [step, completion_event, executes, Option.map_some]
  exact ⟨_, stepped, rfl, action_end_pending current cached state.module holds⟩

/-- One replay from a module with a posted task. The task starts the action of its request, and
the rest stays in the cache behind it. -/
theorem drainStep_replay (request : SwitchRequest) (rest : List SwitchRequest)
    (state : State Tag) (posted : Posted request rest state.module) :
    ∃ next, drainStep state = some next ∧ Holds request rest next.module := by
  obtain ⟨task, replays, event⟩ := posted.replays
  have stepped : drainStep state =
      some ⟨((state.module.withReplays []).runReplay task {}).2, state.adapter⟩ := by
    rw [drainStep, idle_inProgress posted.flag]
    simp only [step, replays, Option.map_some]
  have started : Started (state.module.withReplays [])
      ((state.module.withReplays []).runReplay task {}).2 task.event task.tag {} := by
    rcases request_cases task.event (event ▸ request.event_isRequest) task.callingName false false
      task.tag {} (state.module.withReplays []) with cached | started
    · have busy : state.module.isBtSwitchProcessing = true := cached.busy
      simp [posted.flag] at busy
    · exact started
  refine ⟨_, stepped, ?_, ?_, ?_⟩
  · obtain ⟨call, executes, log⟩ := started.log
    have progress : ((state.module.withReplays []).runReplay task {}).2.inProgress =
        some ⟨task.tag, call, (state.module.withReplays []).ffrtQueue.nextHandle, btNoError⟩ := by
      simp [inProgress, started.flag, log]
    exact ⟨_, progress, event_injective ((request_event call).trans (executes.trans event))⟩
  · rw [started.cache]
    exact posted.cache
  · rw [started.replays]
    rfl

/-- Nothing is left to do in an idle module. -/
theorem drain_idle (fuel : Nat) (state : State Tag) (idle : Idle state.module) :
    drain (fuel + 1) state = some state := by
  have finished : drainStep state = none := by
    simp [drainStep, idle_inProgress idle.flag, step, idle.replays]
  simp [drain, finished]

/-- The replayed requests are fewer than the cached ones. -/
theorem pending_length (current next : SwitchRequest) (cached rest : List SwitchRequest)
    (left : pending current cached = next :: rest) : rest.length < cached.length := by
  obtain ⟨erased, skipped, rfl, _⟩ := pending_split current next cached rest left
  simp only [List.length_append, List.length_cons]
  omega

/-- Draining a busy module, by induction on the number of requests that may still be
replayed. Each of them takes a completion and a replay. -/
theorem drain_holds (count : Nat) (current : SwitchRequest) (cached : List SwitchRequest)
    (few : cached.length ≤ count) (state : State Tag) (holds : Holds current cached state.module) :
    ∃ last, drain (2 * count + 2) state = some last ∧ Idle last.module ∧
      last.adapter = outcome current cached := by
  induction count generalizing current cached state with
  | zero =>
    obtain ⟨next, stepped, adapter, ⟨done, idle⟩ | ⟨request, rest, left, _⟩⟩ :=
      drainStep_completion current cached state holds
    · refine ⟨next, ?_, idle, adapter.trans (outcome_of_pending_nil current cached done).symm⟩
      rw [drain, stepped]
      exact drain_idle 0 next idle
    · have shorter := pending_length current request cached rest left
      omega
  | succ count inductionHypothesis =>
    obtain ⟨next, stepped, adapter, ⟨done, idle⟩ | ⟨request, rest, left, posted⟩⟩ :=
      drainStep_completion current cached state holds
    · refine ⟨next, ?_, idle, adapter.trans (outcome_of_pending_nil current cached done).symm⟩
      rw [drain, stepped]
      exact drain_idle _ next idle
    · obtain ⟨later, replayed, held⟩ := drainStep_replay request rest next posted
      have shorter := pending_length current request cached rest left
      obtain ⟨last, drained, idle, final⟩ := inductionHypothesis request rest (by omega) later held
      refine ⟨last, ?_, idle, ?_⟩
      · rw [show 2 * (count + 1) + 2 = 2 * count + 2 + 1 + 1 by omega, drain, stepped]
        simp only [drain, replayed]
        exact drained
      · rw [final, outcome_of_pending_cons current request cached rest left]

/-- More fuel changes nothing. -/
theorem drain_mono (fuel more : Nat) (state last : State Tag)
    (finished : drain fuel state = some last) :
    drain (fuel + more) state = some last := by
  induction fuel generalizing state with
  | zero => cases finished
  | succ fuel inductionHypothesis =>
    rw [Nat.succ_add_eq_add_succ, Nat.add_succ]
    cases stepped : drainStep state with
    | none => simpa [drain, stepped] using finished
    | some next =>
      have continued : drain fuel next = some last := by simpa [drain, stepped] using finished
      simpa [drain, stepped] using inductionHypothesis next continued

/-- The module becomes idle with an empty cache, after at most one replay for each
cached request. The adapter is then in the state of the requests performed one after
another, except where an erased ENABLE would have kept it ON; there it is HALF. -/
theorem drain_outcome (current : SwitchRequest) (cached : List SwitchRequest)
    (module : BluetoothSwitchModule Tag) (adapter : AdapterState)
    (holds : Holds current cached module) :
    ∃ last, drain (2 * cached.length + 2) ⟨module, adapter⟩ = some last ∧ Idle last.module ∧
      last.adapter = if LosesEnable current cached then .half
        else cached.foldl AdapterState.apply (reached current) :=
  drain_holds cached.length current cached (Nat.le_refl _) ⟨module, adapter⟩ holds

/-- ENABLE_TO_RESTRICE in progress and ENABLE, ENABLE_TO_RESTRICE cached behind it. -/
def restrictInProgress : BluetoothSwitchModule Unit :=
  (Runs.run step {} [
    .event .enableBluetoothToRestriceMode "a" false false () {},
    .event .enableBluetooth "b" false false () {},
    .event .enableBluetoothToRestriceMode "b" false false () {}]).getD {}

/-- A restriction that is in progress holds the queue of the trace. -/
theorem restrictInProgress_holds : Holds .restrict [.enable, .restrict] restrictInProgress :=
  ⟨⟨⟨(), .enableBluetoothToRestrictMode "a" false, 0, btNoError⟩, by decide, rfl⟩, by decide, rfl⟩

/-- There the cache drains to HALF. -/
theorem drain_outcome_restrict :
    ∃ last, drain 6 ⟨restrictInProgress, .off⟩ = some last ∧ Idle last.module ∧
      last.adapter = .half :=
  drain_outcome .restrict [.enable, .restrict] restrictInProgress .off restrictInProgress_holds

/-- Performing the two requests one after another would leave the adapter ON. -/
theorem erased_enable_matters :
    ¬ ∀ (current : SwitchRequest) (cached : List SwitchRequest) (module : BluetoothSwitchModule Unit)
      (adapter : AdapterState), Holds current cached module →
        ∃ fuel last, drain fuel ⟨module, adapter⟩ = some last ∧ Idle last.module ∧
          last.adapter = cached.foldl AdapterState.apply (reached current) := by
  intro claimed
  obtain ⟨fuel, last, drained, _, adapter⟩ :=
    claimed .restrict [.enable, .restrict] restrictInProgress .off restrictInProgress_holds
  have finished : drain 6 ⟨restrictInProgress, .off⟩ =
      some ⟨((drain 6 ⟨restrictInProgress, .off⟩).getD ⟨{}, .off⟩).module, .half⟩ := by
    decide
  have longer := drain_mono fuel 6 _ last drained
  rw [Nat.add_comm, drain_mono 6 fuel _ _ finished] at longer
  rw [← Option.some.inj longer] at adapter
  exact absurd adapter (by decide)

end BluetoothFramework.Switch.Draining
