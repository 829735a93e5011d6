import Mathlib.Data.List.Nodup
import RankRent.Library.PyString
import RankRent.Library.Table
import RankRent.Provider.CallRows

/-!
# Planned requests and the rows they are made on

`_planned_call` and `_reserve_api_call` of `integrations/dataforseo/live.py` for a
scan with a plan: which planned request a call is made for, and which row of
`api_calls` it gets. The reading part (`selectCall`) and the writing part
(`commitCall`) are apart, since other sessions may commit between them.
-/

namespace RankRent.Provider

/-- A row of `scan_plan_calls`. `save_scan_plan_calls` gives every row its
`planned_request_id`. -/
structure ScanPlanCall where
  scanRunId : Nat
  plannedRequestId : String
  provider : String
  endpoint : String
  cacheKey : String
  requestKnown : Bool
  estimatedCost : Usd
  deriving DecidableEq

/-- A request of a scan: where it goes and its `_cache_key`. -/
structure CallSite where
  scan : Nat
  provider : String
  endpoint : String
  key : String
  deriving DecidableEq

/-- `matching` of `_planned_call`. -/
def matching (plan : List ScanPlanCall) (site : CallSite) : List ScanPlanCall :=
  plan.filter fun call => call.scanRunId = site.scan ∧ call.provider = site.provider ∧
    call.endpoint = site.endpoint

/-- The planned request of the scan that a row stands for. -/
def standsFor (row : ApiCall) (scan : Nat) (id : String) : Bool :=
  row.scanRunId = some scan ∧ row.plannedRequestId = some id

/-- Membership in `consumed_ids`. -/
def consumed (calls : List ApiCall) (scan : Nat) (id : String) : Bool :=
  calls.any fun row => standsFor row scan id && !row.status.retryable

/-- `_planned_call`. -/
def plannedCall (plan : List ScanPlanCall) (calls : List ApiCall) (site : CallSite) :
    Option ScanPlanCall :=
  let unused := (matching plan site).filter fun call =>
    !consumed calls site.scan call.plannedRequestId
  match unused.find? fun call => call.requestKnown && call.cacheKey = site.key with
  | some call => some call
  | none =>
    if (matching plan site).any ScanPlanCall.requestKnown then none
    else unused.find? fun call => !call.requestKnown

/-- What `_reserve_api_call` decides on: an earlier row that answers a cache
hit, a failed row to use again, or a new row. -/
inductive Selection
  | existing (i : Nat)
  | retry (i : Nat) (row : ApiCall)
  | insert (call : ScanPlanCall)

/-- The first row that satisfies a condition, with its id. -/
def firstRow (calls : List ApiCall) (p : ApiCall → Bool) : Option (ApiCall × Nat) :=
  calls.zipIdx.find? fun entry => p entry.1

/-- The row that answers a cache hit for which no planned request is left. -/
def answers (row : ApiCall) (site : CallSite) : Bool :=
  row.scanRunId = some site.scan ∧ row.endpoint = site.endpoint ∧ row.cacheKey = site.key ∧
    (row.status = .completed ∨ row.status = .cacheHit)

/-- The queries of `_reserve_api_call`; `none` is the refusal with
`record_unexpected_call` and `DataForSEOPlanError`. -/
def selectCall (plan : List ScanPlanCall) (calls : List ApiCall) (site : CallSite)
    (cacheHit : Bool) : Option Selection :=
  match plannedCall plan calls site with
  | none =>
    if cacheHit then (firstRow calls fun row => answers row site).map fun entry => .existing entry.2
    else none
  | some call =>
    match firstRow calls fun row => standsFor row site.scan call.plannedRequestId &&
        row.status.retryable with
    | some (row, i) => some (.retry i row)
    | none => some (.insert call)

/-- The row a new call gets. -/
def ScanPlanCall.row (call : ScanPlanCall) (site : CallSite) (p : Preparation) : ApiCall :=
  .new (some site.scan) (some call.plannedRequestId) site.provider site.endpoint site.key
    call.estimatedCost p

/-- The commit of `_reserve_api_call`: the rows after it, the row that was taken
and the instance the session holds of it; `none` is the `IntegrityError` of
`uq_api_calls_scan_planned_request`. -/
def commitCall (calls : List ApiCall) (site : CallSite) (p : Preparation) :
    Selection → Option (List ApiCall × Nat × ApiCall)
  | .existing i => calls[i]?.map fun row => (calls, i, row)
  | .retry i seen => calls[i]?.map fun stored =>
      (calls.set i (ApiCall.flush seen (seen.retry p) stored), i, seen.retry p)
  | .insert call =>
    if calls.any fun row => standsFor row site.scan call.plannedRequestId then none
    else some (calls ++ [call.row site p], calls.length, call.row site p)

/-! ## Lookups -/

theorem firstRow_some {calls : List ApiCall} {p : ApiCall → Bool} {row : ApiCall} {i : Nat}
    (found : firstRow calls p = some (row, i)) : calls[i]? = some row ∧ p row = true := by
  have member := List.mem_of_find?_eq_some found
  rw [List.mem_zipIdx_iff_getElem?] at member
  exact ⟨member, by simpa using List.find?_some found⟩

theorem firstRow_none {calls : List ApiCall} {p : ApiCall → Bool} (none : firstRow calls p = none) :
    ∀ row ∈ calls, p row = false := by
  intro row member
  obtain ⟨i, bound, rfl⟩ := List.getElem_of_mem member
  have entry : (calls[i], i) ∈ calls.zipIdx := by
    rw [List.mem_zipIdx_iff_getElem?]
    exact List.getElem?_eq_getElem bound
  have refused := List.find?_eq_none.mp none _ entry
  simpa using refused

theorem consumed_iff {calls : List ApiCall} {scan : Nat} {id : String} :
    consumed calls scan id = true ↔
      ∃ row ∈ calls, standsFor row scan id = true ∧ row.status.retryable = false := by
  simp [consumed]

theorem standsFor_iff {row : ApiCall} {scan : Nat} {id : String} :
    standsFor row scan id = true ↔
      row.scanRunId = some scan ∧ row.plannedRequestId = some id := by
  simp [standsFor]

/-- A planned request that is chosen is one of the endpoint's and unused. -/
theorem plannedCall_some {plan : List ScanPlanCall} {calls : List ApiCall} {site : CallSite}
    {call : ScanPlanCall} (chosen : plannedCall plan calls site = some call) :
    call ∈ matching plan site ∧ consumed calls site.scan call.plannedRequestId = false := by
  unfold plannedCall at chosen
  simp only at chosen
  have unused {p : ScanPlanCall → Bool} (found : ((matching plan site).filter fun call =>
      !consumed calls site.scan call.plannedRequestId).find? p = some call) :
      call ∈ matching plan site ∧ consumed calls site.scan call.plannedRequestId = false := by
    have member := List.mem_of_find?_eq_some found
    simpa using List.mem_filter.mp member
  split at chosen
  · rename_i exact_
    cases chosen
    exact unused exact_
  · split at chosen
    · cases chosen
    · exact unused chosen

/-- The row of a planned request is written: a new one, or a failed one of its
own. -/
inductive Placed (scan : Nat) (calls : List ApiCall) (call : ScanPlanCall) (row : ApiCall) :
    List ApiCall → Prop
  | inserted (free : ∀ other ∈ calls, standsFor other scan call.plannedRequestId = false) :
      Placed scan calls call row (calls ++ [row])
  | reset {i : Nat} {old : ApiCall} (found : calls[i]? = some old)
      (stands : standsFor old scan call.plannedRequestId = true)
      (failed : old.status.retryable = true) : Placed scan calls call row (calls.set i row)

section Placed
variable {scan : Nat} {calls left : List ApiCall} {call : ScanPlanCall} {new : ApiCall}

/-- Where each request of a scan has one row, a row that is placed is the only one of its request. -/
theorem Placed.mem (placed : Placed scan calls call new left)
    (mine : ∀ row ∈ calls, row.scanRunId = some scan) (unique : (calls.map ApiCall.plannedRequestId).Nodup)
    {row : ApiCall} : row ∈ left ↔ row = new ∨
      row ∈ calls ∧ row.plannedRequestId ≠ some call.plannedRequestId := by
  cases placed with
  | inserted free =>
    rw [List.mem_append, List.mem_singleton, or_comm]
    refine or_congr_right ⟨fun member => ⟨member, fun same => ?_⟩, And.left⟩
    have stands := standsFor_iff.mpr ⟨mine row member, same⟩
    rw [free row member] at stands
    cases stands
  | reset found stands failed =>
    rw [Table.mem_set_unique ApiCall.plannedRequestId unique found, (standsFor_iff.mp stands).2]

theorem Placed.unique (placed : Placed scan calls call new left)
    (mine : ∀ row ∈ calls, row.scanRunId = some scan) (unique : (calls.map ApiCall.plannedRequestId).Nodup)
    (own : new.plannedRequestId = some call.plannedRequestId) :
    (left.map ApiCall.plannedRequestId).Nodup := by
  cases placed with
  | inserted free =>
    rw [List.map_append, List.nodup_append]
    refine ⟨unique, by simp, ?_⟩
    intro id member other single same
    rw [List.map_singleton, List.mem_singleton, own] at single
    obtain ⟨row, there, rfl⟩ := List.mem_map.mp member
    have stands := standsFor_iff.mpr ⟨mine row there, same.trans single⟩
    rw [free row there] at stands
    cases stands
  | reset found stands failed =>
    rw [List.map_set, own, Table.set_same]
    · exact unique
    · rw [List.getElem?_map, found, Option.map_some, (standsFor_iff.mp stands).2]

end Placed

/-- What `_reserve_api_call` leaves for a planned request: the prepared row, and
where it stands. -/
structure Prepared (plan : List ScanPlanCall) (calls : List ApiCall) (site : CallSite)
    (call : ScanPlanCall) (p : Preparation) (hit : Bool) (i : Nat) (row : ApiCall)
    (left : List ApiCall) : Prop where
  run : row.scanRunId = some site.scan
  id : row.plannedRequestId = some call.plannedRequestId
  status : row.status = p.status
  unsent : row.networkStartedAt = none
  there : i < left.length
  place : (∀ other ∈ calls, standsFor other site.scan call.plannedRequestId = false) ∧
      i = calls.length ∧ row = call.row site p ∧ left = calls ++ [row] ∨
    ∃ old, calls[i]? = some old ∧ standsFor old site.scan call.plannedRequestId = true ∧
      old.status.retryable = true ∧ row = old.retry p ∧ left = calls.set i row ∧
      selectCall plan calls site hit = some (.retry i old)

/-- The prepared row is replaced where it stands. -/
theorem Prepared.placed {plan : List ScanPlanCall} {calls left : List ApiCall} {site : CallSite}
    {call : ScanPlanCall} {p : Preparation} {hit : Bool} {i : Nat} {row : ApiCall}
    (prepared : Prepared plan calls site call p hit i row left) (new : ApiCall) :
    Placed site.scan calls call new (left.set i new) := by
  rcases prepared.place with ⟨free, rfl, -, rfl⟩ | ⟨old, there, stands, failed, -, rfl, -⟩
  · rw [List.set_append_right _ _ (Nat.le_refl _), Nat.sub_self, List.set_cons_zero]
    exact .inserted free
  · rw [List.set_set]
    exact .reset there stands failed

/-- A request with a planned call gets a row. -/
theorem prepared_of_chosen {plan : List ScanPlanCall} {calls : List ApiCall} {site : CallSite}
    {call : ScanPlanCall} (chosen : plannedCall plan calls site = some call) (p : Preparation)
    (hit : Bool) :
    ∃ selection i row left, selectCall plan calls site hit = some selection ∧
      commitCall calls site p selection = some (left, i, row) ∧
      Prepared plan calls site call p hit i row left := by
  obtain ⟨-, unused⟩ := plannedCall_some chosen
  cases found : firstRow calls fun row =>
      standsFor row site.scan call.plannedRequestId && row.status.retryable with
  | some entry =>
    obtain ⟨old, i⟩ := entry
    obtain ⟨there, holds⟩ := firstRow_some found
    simp only [Bool.and_eq_true] at holds
    obtain ⟨mine, named⟩ := standsFor_iff.mp holds.1
    have selected : selectCall plan calls site hit = some (.retry i old) := by
      simp only [selectCall, chosen, found]
    refine ⟨.retry i old, i, old.retry p, calls.set i (old.retry p), selected, ?_, mine, named, rfl,
      rfl, ?_, Or.inr ⟨old, there, holds.1, holds.2, rfl, rfl, selected⟩⟩
    · simp only [commitCall, there, Option.map_some, ApiCall.flush_self]
    · rw [List.length_set]
      exact (List.getElem?_eq_some_iff.mp there).1
  | none =>
    have free : ∀ other ∈ calls, standsFor other site.scan call.plannedRequestId = false := by
      intro other member
      refine Bool.eq_false_iff.mpr fun stands => ?_
      have failed := firstRow_none found other member
      simp only [stands, Bool.true_and] at failed
      rw [consumed_iff.mpr ⟨other, member, stands, failed⟩] at unused
      cases unused
    have none_stands : (calls.any fun row =>
        standsFor row site.scan call.plannedRequestId) = false := by
      rw [List.any_eq_false]
      intro other member
      rw [free other member]
      exact Bool.false_ne_true
    refine ⟨.insert call, calls.length, call.row site p, calls ++ [call.row site p], ?_, ?_, rfl, rfl,
      rfl, rfl, by simp, Or.inl ⟨free, rfl, rfl, rfl⟩⟩
    · simp only [selectCall, chosen, found]
    · simp only [commitCall, none_stands, Bool.false_eq_true, ↓reduceIte]

end RankRent.Provider

/-!
## Cost ledger of a scan

`build_api_cost_ledger` of `services/discovery_report.py`: the planned calls of a
scan against the rows it has. The payloads of the single calls are left out.
-/

namespace RankRent.Provider

/-- The totals `build_api_cost_ledger` returns. -/
structure ApiCostLedger where
  scanRunId : Option Nat
  ledgerComplete : Bool
  callCount : Nat
  plannedCallCount : Nat
  executedCallCount : Nat
  networkCallCount : Nat
  cacheHitCount : Nat
  failedCallCount : Nat
  unexecutedCallCount : Nat
  unexpectedCallCount : Nat
  estimatedCost : Usd
  actualCost : Usd

/-- `build_api_cost_ledger`. -/
def buildApiCostLedger (plan : List ScanPlanCall) (calls : List ApiCall) (scanRunId : Option Nat) :
    ApiCostLedger :=
  let rows : List ApiCall := match scanRunId with
    | none => []
    | some scan => calls.filter fun row => row.scanRunId = some scan
  let plannedRows : List ScanPlanCall := match scanRunId with
    | none => []
    | some scan => plan.filter fun call => call.scanRunId = scan
  let estimated := if plannedRows.isEmpty then rows.map ApiCall.estimatedCost
    else plannedRows.map ScanPlanCall.estimatedCost
  let executed := rows.filterMap ApiCall.plannedRequestId
  let plannedIds := plannedRows.map ScanPlanCall.plannedRequestId
  let unexecuted := plannedRows.filter fun call => call.plannedRequestId ∉ executed
  let unexpected := if plannedRows.isEmpty then [] else rows.filter fun row =>
    match row.plannedRequestId with
    | none => true
    | some id => id ∉ plannedIds
  { scanRunId := scanRunId
    ledgerComplete := unexecuted.isEmpty && unexpected.isEmpty && rows.all fun row =>
      row.status = .cacheHit || row.status = .completed || row.status = .failed
    callCount := rows.length
    plannedCallCount := plannedRows.length
    executedCallCount := rows.length
    networkCallCount := rows.countP fun row =>
      !row.cacheHit && (row.status = .completed || row.status = .failed)
    cacheHitCount := rows.countP ApiCall.cacheHit
    failedCallCount := rows.countP fun row => row.status = .failed
    unexecutedCallCount := unexecuted.length
    unexpectedCallCount := unexpected.length
    estimatedCost := PyString.rounded 6 estimated.sum
    actualCost := PyString.rounded 6 (rows.map ApiCall.actualCost).sum }

end RankRent.Provider
