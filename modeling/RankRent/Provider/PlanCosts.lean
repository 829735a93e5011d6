import Mathlib.Algebra.Order.BigOperators.Group.List
import RankRent.Provider.Planning

/-!
# What a plan costs

The budget part of `build_scan_plan`: which calls the response cache answers, the
cost of the others, and the reasons a plan is blocked for. A cache is the set of
keys for which `valid_cached_response` finds a response.
-/

namespace RankRent.Provider

/-- The settings `build_scan_plan` reads. -/
structure PlanSettings extends Settings where
  environment : ApiEnvironment
  maxScanCost : Usd
  maxScanRequests : Nat
  maxScanCost_nonneg : 0 ≤ maxScanCost

/-- The defaults with live calls switched on, against the production host. -/
def PlanSettings.production : PlanSettings where
  toSettings := .live
  environment := .production
  maxScanCost := 10
  maxScanRequests := 15
  maxScanCost_nonneg := by decide

/-- `block_reason`; the message of the last two prints the numbers. -/
inductive BlockReason
  | switch (reason : String)
  | overBudget (uncached maximum : Usd)
  | overRequestLimit (count maximum : Nat)
  deriving DecidableEq

/-- `_live_switch_block_reason`. -/
def liveSwitchBlockReason (settings : PlanSettings) (profile : ScanProfile) : Option String :=
  if !settings.allowLiveApiCalls then some "Live calls are disabled by ALLOW_LIVE_API_CALLS."
  else if settings.paidCallKillSwitch then some "Paid calls are disabled by PAID_CALL_KILL_SWITCH."
  else if settings.environment = .production ∧ !settings.allowProductionDataforseo then
    some "Production DataForSEO calls require ALLOW_PRODUCTION_DATAFORSEO=true."
  else if profile = .full ∧ !settings.allowFullScans then
    some "Full scans require ALLOW_FULL_SCANS=true."
  else none

/-- `cache_hit` of `_append_call`. -/
def CallDraft.cacheHit (cache : String → Bool) (draft : CallDraft) : Bool :=
  draft.known && cache draft.key

/-- `estimated_uncached_cost_usd`. -/
def uncachedCost (cache : String → Bool) (planned : List CallDraft) : Usd :=
  ((planned.filter fun draft => !draft.cacheHit cache).map CallDraft.cost).sum

/-- What the scan and its callers read of a `ScanPlan`. -/
structure ScanPlan where
  plannedCalls : List CallDraft
  uncachedCost : Usd
  blockReason : Option BlockReason

def ScanPlan.blocked (plan : ScanPlan) : Bool := plan.blockReason.isSome

/-- `free_sandbox`. -/
def PlanSettings.free (settings : PlanSettings) : Bool := settings.environment = .sandbox

/-- `build_scan_plan` in live mode, for the requests of a service and market. -/
def ScanPlan.live (settings : PlanSettings) (profile : ScanProfile) (keys : PlanKeys)
    (cache : String → Bool) : ScanPlan :=
  match liveSwitchBlockReason settings profile with
  | some reason => ⟨[], 0, some (.switch reason)⟩
  | none =>
    let planned := drafts profile settings.free keys
    let uncached := Provider.uncachedCost cache planned
    ⟨planned, uncached,
      if settings.maxScanCost < uncached then some (.overBudget uncached settings.maxScanCost)
      else if settings.maxScanRequests < planned.length then
        some (.overRequestLimit planned.length settings.maxScanRequests)
      else none⟩

/-- `build_scan_plan` outside live mode. -/
def ScanPlan.offline : ScanPlan := ⟨[], 0, none⟩

theorem ScanPlan.live_unblocked {settings : PlanSettings} {profile : ScanProfile} {keys : PlanKeys}
    {cache : String → Bool} (unblocked : (ScanPlan.live settings profile keys cache).blocked = false) :
    ScanPlan.live settings profile keys cache =
        ⟨drafts profile settings.free keys,
          Provider.uncachedCost cache (drafts profile settings.free keys), none⟩ ∧
      Provider.uncachedCost cache (drafts profile settings.free keys) ≤ settings.maxScanCost ∧
      (drafts profile settings.free keys).length ≤ settings.maxScanRequests := by
  unfold ScanPlan.live at unblocked ⊢
  split at unblocked
  · cases unblocked
  · simp only [ScanPlan.blocked] at unblocked ⊢
    by_cases exceeds : settings.maxScanCost <
        Provider.uncachedCost cache (drafts profile settings.free keys)
    · rw [if_pos exceeds] at unblocked
      cases unblocked
    · rw [if_neg exceeds] at unblocked ⊢
      by_cases many : settings.maxScanRequests < (drafts profile settings.free keys).length
      · rw [if_pos many] at unblocked
        cases unblocked
      · rw [if_neg many]
        exact ⟨rfl, not_lt.mp exceeds, not_lt.mp many⟩

/-- Past the switches, the cost is that of the drafts. -/
theorem ScanPlan.live_cost {settings : PlanSettings} {profile : ScanProfile} {keys : PlanKeys}
    (open_ : liveSwitchBlockReason settings profile = none) (cache : String → Bool) :
    (ScanPlan.live settings profile keys cache).uncachedCost =
      Provider.uncachedCost cache (drafts profile settings.free keys) := by
  simp only [ScanPlan.live, open_]

theorem ScanPlan.live_open {settings : PlanSettings} {profile : ScanProfile} {keys : PlanKeys}
    {cache : String → Bool} (unblocked : (ScanPlan.live settings profile keys cache).blocked = false) :
    liveSwitchBlockReason settings profile = none := by
  cases reason : liveSwitchBlockReason settings profile with
  | none => rfl
  | some text =>
    simp only [ScanPlan.live, reason, ScanPlan.blocked, Option.isSome_some] at unblocked
    cases unblocked

/-- The keys of the calls that are known in advance. -/
theorem drafts_known_key {profile : ScanProfile} {free : Bool} {keys : PlanKeys} {draft : CallDraft}
    (member : draft ∈ drafts profile free keys) (known : draft.known = true) :
    draft.key ∈ keys.keywords ∨ draft.key = keys.listings := by
  simp only [drafts, List.mem_append, List.mem_map, List.mem_singleton] at member
  rcases member with (((⟨key, there, rfl⟩ | rfl) | ⟨slot, -, rfl⟩) | ⟨slot, -, rfl⟩) | rfl
  · exact Or.inl there
  · cases known
  · cases known
  · cases known
  · exact Or.inr rfl

/-- No call has a negative cost. -/
theorem drafts_cost_nonneg {profile : ScanProfile} {free : Bool} {keys : PlanKeys}
    {draft : CallDraft} (member : draft ∈ drafts profile free keys) : 0 ≤ draft.cost := by
  have charged (usd : Usd) (positive : 0 ≤ usd) : (0 : Usd) ≤ if free then 0 else usd := by
    split
    · exact le_refl 0
    · exact positive
  simp only [drafts, List.mem_append, List.mem_map, List.mem_singleton] at member
  rcases member with (((⟨key, -, rfl⟩ | rfl) | ⟨slot, -, rfl⟩) | ⟨slot, -, rfl⟩) | rfl <;>
    exact charged _ (by norm_num)

theorem uncachedCost_nonneg {cache : String → Bool} {planned : List CallDraft}
    (nonneg : ∀ draft ∈ planned, 0 ≤ draft.cost) : 0 ≤ uncachedCost cache planned := by
  refine List.sum_nonneg fun cost member => ?_
  obtain ⟨draft, there, rfl⟩ := List.mem_map.mp member
  exact nonneg draft (List.mem_filter.mp there).1

theorem uncachedCost_cons (cache : String → Bool) (draft : CallDraft) (planned : List CallDraft) :
    uncachedCost cache (draft :: planned) =
      (if draft.cacheHit cache then 0 else draft.cost) + uncachedCost cache planned := by
  cases hit : draft.cacheHit cache <;> simp [uncachedCost, hit]

/-- A cache that answers more calls leaves a smaller cost. -/
theorem uncachedCost_anti {cache other : String → Bool} {planned : List CallDraft}
    (nonneg : ∀ draft ∈ planned, 0 ≤ draft.cost)
    (kept : ∀ draft ∈ planned, draft.cacheHit cache = true → draft.cacheHit other = true) :
    uncachedCost other planned ≤ uncachedCost cache planned := by
  induction planned with
  | nil => exact le_refl _
  | cons draft planned ih =>
    have rest := ih (fun d member => nonneg d (List.mem_cons_of_mem _ member))
      (fun d member => kept d (List.mem_cons_of_mem _ member))
    have positive := nonneg draft List.mem_cons_self
    rw [uncachedCost_cons, uncachedCost_cons]
    refine add_le_add ?_ rest
    by_cases hit : draft.cacheHit cache = true
    · rw [if_pos hit, if_pos (kept draft List.mem_cons_self hit)]
    · rw [if_neg hit]
      split
      · exact positive
      · exact le_refl _

end RankRent.Provider
