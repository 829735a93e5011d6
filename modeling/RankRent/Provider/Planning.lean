import Mathlib.Data.List.Nodup
import RankRent.Library.PyString
import RankRent.Provider.Slots

/-!
# The plan of a live scan

The calls `build_scan_plan` of `planning.py` plans, as `save_scan_plan_calls`
stores them. The cache keys are hashes of request parameters that nothing here
looks into.
-/

namespace RankRent.Provider

/-- `request_id` of `_append_call`. -/
def requestId (n : Nat) : String := "req-" ++ PyString.zeroPadded 3 n

def keywordEndpoint : String := "/v3/dataforseo_labs/google/keyword_suggestions/live"
def metricsEndpoint : String := "/v3/dataforseo_labs/google/historical_search_volume/live"
def serpEndpoint : String := "/v3/serp/google/organic/live/advanced"
def backlinksEndpoint : String := "/v3/backlinks/summary/live"
def listingsEndpoint : String := "/v3/business_data/business_listings/search/live"

/-- The arguments of `_append_call` that are stored. -/
structure CallDraft where
  endpoint : String
  key : String
  cost : Usd
  known : Bool
  deriving DecidableEq

section Build
variable (scan : Nat) (provider : String)

/-- `_append_call`. -/
def appendCall (planned : List ScanPlanCall) (draft : CallDraft) : List ScanPlanCall :=
  planned ++ [⟨scan, requestId (planned.length + 1), provider, draft.endpoint, draft.key,
    draft.known, draft.cost⟩]

/-- What differs between two plans of a profile: the keyword requests and the
cache keys. -/
structure PlanKeys where
  keywords : List String
  metrics : String
  serp : Nat → String
  backlinks : Nat → String
  listings : String

/-- The calls of `build_scan_plan` in order; `free` is `free_sandbox`. -/
def drafts (profile : ScanProfile) (free : Bool) (keys : PlanKeys) : List CallDraft :=
  let cost (usd : Usd) : Usd := if free then 0 else usd
  (keys.keywords.map fun key => ⟨keywordEndpoint, key, cost 0.012, true⟩) ++
    [⟨metricsEndpoint, keys.metrics, cost 0.012, false⟩] ++
    ((List.range (if profile = .testing then 1 else 3)).map fun slot =>
      ⟨serpEndpoint, keys.serp slot, cost 0.002, false⟩) ++
    ((List.range (if profile = .testing then 0 else 5)).map fun slot =>
      ⟨backlinksEndpoint, keys.backlinks slot, cost 0.02, false⟩) ++
    [⟨listingsEndpoint, keys.listings, cost 0.01, true⟩]

def buildScanPlan (profile : ScanProfile) (free : Bool) (keys : PlanKeys) : List ScanPlanCall :=
  (drafts profile free keys).foldl (appendCall scan provider) []

end Build

/-! ## Plans -/

/-- A plan as `save_scan_plan_calls` stores it: the ids are unique and an
endpoint's requests are all known or all unknown. -/
structure Planned (plan : List ScanPlanCall) (scan : Nat) (provider : String) : Prop where
  mine : ∀ call ∈ plan, call.scanRunId = scan ∧ call.provider = provider
  distinct : (plan.map ScanPlanCall.plannedRequestId).Nodup
  uniform : ∀ a ∈ plan, ∀ b ∈ plan, a.endpoint = b.endpoint → a.requestKnown = b.requestKnown

section Build
variable {scan : Nat} {provider : String}

theorem requestId_injective : Function.Injective requestId := by
  intro m n same
  exact PyString.zeroPadded_injective 3 (String.append_right_inj _ |>.mp same)

/-- The calls of a plan are the drafts, numbered in order. -/
theorem foldl_appendCall (drafts : List CallDraft) (planned : List ScanPlanCall) :
    drafts.foldl (appendCall scan provider) planned =
      planned ++ drafts.mapIdx fun i draft => ⟨scan, requestId (planned.length + i + 1), provider,
        draft.endpoint, draft.key, draft.known, draft.cost⟩ := by
  induction drafts generalizing planned with
  | nil => simp
  | cons draft drafts ih =>
    rw [List.foldl_cons, ih, appendCall, List.mapIdx_cons, List.append_assoc]
    simp [Nat.add_assoc, Nat.add_comm 1]

theorem buildScanPlan_eq (profile : ScanProfile) (free : Bool) (keys : PlanKeys) :
    buildScanPlan scan provider profile free keys =
      (drafts profile free keys).mapIdx fun i draft => ⟨scan, requestId (i + 1), provider,
        draft.endpoint, draft.key, draft.known, draft.cost⟩ := by
  rw [buildScanPlan, foldl_appendCall]
  simp

/-- The endpoints whose requests are known when the plan is made. -/
def knownEndpoint (endpoint : String) : Bool :=
  endpoint = keywordEndpoint || endpoint = listingsEndpoint

theorem drafts_known {profile : ScanProfile} {free : Bool} {keys : PlanKeys} {draft : CallDraft}
    (member : draft ∈ drafts profile free keys) : draft.known = knownEndpoint draft.endpoint := by
  have names : knownEndpoint keywordEndpoint = true ∧ knownEndpoint metricsEndpoint = false ∧
      knownEndpoint serpEndpoint = false ∧ knownEndpoint backlinksEndpoint = false ∧
      knownEndpoint listingsEndpoint = true := by decide
  obtain ⟨keyword, metrics, serp, backlinks, listings⟩ := names
  simp only [drafts, List.mem_append, List.mem_map, List.mem_singleton] at member
  rcases member with (((⟨key, -, rfl⟩ | rfl) | ⟨slot, -, rfl⟩) | ⟨slot, -, rfl⟩) | rfl
  · exact keyword.symm
  · exact metrics.symm
  · exact serp.symm
  · exact backlinks.symm
  · exact listings.symm

/-- Every draft is stored. -/
theorem mem_buildScanPlan {profile : ScanProfile} {free : Bool} {keys : PlanKeys}
    {draft : CallDraft} (member : draft ∈ drafts profile free keys) :
    ∃ call ∈ buildScanPlan scan provider profile free keys, call.endpoint = draft.endpoint ∧
      call.requestKnown = draft.known ∧ call.cacheKey = draft.key := by
  obtain ⟨i, bound, rfl⟩ := List.getElem_of_mem member
  rw [buildScanPlan_eq]
  exact ⟨_, List.mem_mapIdx.mpr ⟨i, bound, rfl⟩, rfl, rfl, rfl⟩

theorem buildScanPlan_known {profile : ScanProfile} {free : Bool} {keys : PlanKeys}
    {call : ScanPlanCall} (member : call ∈ buildScanPlan scan provider profile free keys) :
    call.scanRunId = scan ∧ call.provider = provider ∧
      call.requestKnown = knownEndpoint call.endpoint := by
  rw [buildScanPlan_eq] at member
  obtain ⟨i, bound, rfl⟩ := List.mem_mapIdx.mp member
  exact ⟨rfl, rfl, drafts_known (List.getElem_mem _)⟩

theorem buildScanPlan_planned (profile : ScanProfile) (free : Bool) (keys : PlanKeys) :
    Planned (buildScanPlan scan provider profile free keys) scan provider where
  mine := by
    intro call member
    obtain ⟨mine, ours, -⟩ := buildScanPlan_known member
    exact ⟨mine, ours⟩
  distinct := by
    rw [buildScanPlan_eq]
    refine List.nodup_iff_injective_getElem.mpr fun i j same => ?_
    simp only [List.getElem_map, List.getElem_mapIdx] at same
    have := requestId_injective same
    exact Fin.ext (by omega)
  uniform := by
    intro a inPlan b inPlan' same
    rw [(buildScanPlan_known inPlan).2.2, (buildScanPlan_known inPlan').2.2, same]

end Build

end RankRent.Provider
