import RankRent.Provider.FirstAttempt
import RankRent.Research.Stages

/-!
# The planner and the executor

The requests of a scan against the plan it was given: the known ones are the
planned ones, and of the others there are never more than slots.
-/

namespace RankRent.Research
open Provider (Request CallDraft ScanPlanCall PlanKeys PlanSettings ScanPlan Answer Exchange)

section Counts
variable {python : Runtime} {ranking : Ranking} {environment : ApiEnvironment}
  {validate : Market → Except String Unit} {profile : ScanProfile} {service : ServiceFamily}
  {market : Market} {responses : Responses}

theorem representativeKeywords_length :
    (representativeKeywords ranking profile service market responses).length ≤
      serpKeywordLimit profile := by
  simp only [representativeKeywords, selectedSerpKeywords, List.length_map, List.length_take]
  omega

theorem selectCompetitorUrls_length {snapshots : List SerpSnapshot} {limit : Nat}
    {urls : List String} (selected : selectCompetitorUrls python snapshots limit = .ok urls) :
    urls.length ≤ limit := by
  unfold selectCompetitorUrls at selected
  simp only at selected
  split at selected
  · cases selected
  · cases selected
    simp only [List.length_map, List.length_take]
    omega

theorem targets_length (seen urls : List String) :
    (targets python seen urls).length ≤ urls.length := by
  induction urls generalizing seen with
  | nil => exact Nat.le_refl 0
  | cons url rest ih =>
    simp only [targets]
    split
    · exact Nat.le_succ_of_le (ih seen)
    · exact Nat.succ_le_succ (ih _)

/-- Every page of results is asked for once. -/
theorem serps_requested {keywords : List String} {serps : List Request}
    (requested : keywords.mapM (fun keyword =>
      Live.getSerpSnapshot python environment keyword market) = .ok serps) :
    serps.length = keywords.length ∧ ∀ r ∈ serps, r.endpoint = Provider.serpEndpoint := by
  induction keywords generalizing serps with
  | nil =>
    cases requested
    exact ⟨rfl, by simp⟩
  | cons keyword rest ih =>
    rw [List.mapM_cons] at requested
    cases first : Live.getSerpSnapshot python environment keyword market with
    | error reason =>
      rw [first] at requested
      cases requested
    | ok request =>
      cases others : rest.mapM fun keyword =>
          Live.getSerpSnapshot python environment keyword market with
      | error reason =>
        rw [first, others] at requested
        cases requested
      | ok more =>
        rw [first, others] at requested
        cases requested
        obtain ⟨length, endpoints⟩ := ih others
        refine ⟨by rw [List.length_cons, List.length_cons, length], fun r member => ?_⟩
        rcases List.mem_cons.mp member with rfl | later
        · unfold Live.getSerpSnapshot at first
          split at first
          · cases first
          · cases first
            rfl
        · exact endpoints r later

/-- Requests of one endpoint without known requests are of one kind. -/
theorem kinds_anonymous {requests : List Request} {endpoint : String}
    (unknown : Provider.knownEndpoint endpoint = false)
    (endpoints : ∀ r ∈ requests, r.endpoint = endpoint) :
    requests.map Request.kind = List.replicate requests.length (endpoint, none) := by
  refine List.eq_replicate_iff.mpr ⟨List.length_map _, fun kind member => ?_⟩
  obtain ⟨r, there, rfl⟩ := List.mem_map.mp member
  rw [Request.kind, endpoints r there, unknown]
  rfl

theorem endpoints_unknown : Provider.knownEndpoint Provider.metricsEndpoint = false ∧
    Provider.knownEndpoint Provider.serpEndpoint = false ∧
    Provider.knownEndpoint Provider.backlinksEndpoint = false := by
  decide

/-- The kinds of a plan's calls. -/
theorem drafts_kinds (profile : ScanProfile) (free : Bool) (keys : PlanKeys) :
    (Provider.drafts profile free keys).map CallDraft.kind =
      keys.keywords.map (fun key => (Provider.keywordEndpoint, some key)) ++
        (List.replicate 1 (Provider.metricsEndpoint, none) ++
        (List.replicate (serpKeywordLimit profile) (Provider.serpEndpoint, none) ++
        (List.replicate (backlinkCompetitorLimit profile) (Provider.backlinksEndpoint, none) ++
        [(Provider.listingsEndpoint, some keys.listings)]))) := by
  have slots (endpoint : String) (key : Nat → String) (cost : Usd) (count : Nat) :
      ((List.range count).map fun slot => (⟨endpoint, key slot, cost, false⟩ : CallDraft)).map
        CallDraft.kind = List.replicate count (endpoint, none) := by
    rw [List.map_map]
    refine List.eq_replicate_iff.mpr ⟨by simp, fun kind member => ?_⟩
    obtain ⟨slot, -, rfl⟩ := List.mem_map.mp member
    rfl
  have keywords (cost : Usd) : (keys.keywords.map fun key =>
      (⟨Provider.keywordEndpoint, key, cost, true⟩ : CallDraft)).map CallDraft.kind =
        keys.keywords.map fun key => (Provider.keywordEndpoint, some key) := by
    rw [List.map_map]
    rfl
  simp only [Provider.drafts, List.map_append, slots, keywords, List.append_assoc]
  rfl

theorem keywordRequests_kinds :
    (keywordRequests python environment profile service market).map Request.kind =
      ((keywordRequests python environment profile service market).map Request.key).map
        fun key => (Provider.keywordEndpoint, some key) := by
  have known : Provider.knownEndpoint Provider.keywordEndpoint = true := by decide
  rw [keywordRequests, Live.discoverKeywords, List.map_map, List.map_map, List.map_map]
  refine List.map_congr_left fun seed _ => ?_
  simp only [Function.comp_apply, Request.kind, Live.post, known, ↓reduceIte]

theorem metricsRequests_kinds :
    ((metricsRequests python ranking environment profile service market responses).map
      Request.kind).Sublist (List.replicate 1 (Provider.metricsEndpoint, none)) := by
  unfold metricsRequests Live.getKeywordMetrics
  split
  · exact List.nil_sublist _
  · simp only [List.map_singleton, Request.kind, Live.post, endpoints_unknown.1,
      List.replicate_one, Bool.false_eq_true, ↓reduceIte]
    exact List.Sublist.refl _

theorem serpRequests_kinds {serps : List Request}
    (requested : serpRequests python ranking environment profile service market responses =
      .ok serps) : (serps.map Request.kind).Sublist
        (List.replicate (serpKeywordLimit profile) (Provider.serpEndpoint, none)) := by
  obtain ⟨length, endpoints⟩ := serps_requested requested
  rw [kinds_anonymous endpoints_unknown.2.1 endpoints, length]
  exact List.replicate_sublist_replicate _ |>.mpr representativeKeywords_length

theorem competitorRequests_kinds {urls : List String}
    (selected : competitorUrls python ranking profile service market responses = .ok urls) :
    ((Live.getCompetitorMetrics python environment urls).map Request.kind).Sublist
      (List.replicate (backlinkCompetitorLimit profile) (Provider.backlinksEndpoint, none)) := by
  have endpoints : ∀ r ∈ Live.getCompetitorMetrics python environment urls,
      r.endpoint = Provider.backlinksEndpoint := by
    intro r member
    obtain ⟨target, -, rfl⟩ := List.mem_map.mp member
    rfl
  rw [kinds_anonymous endpoints_unknown.2.2 endpoints]
  refine List.replicate_sublist_replicate _ |>.mpr ?_
  calc (Live.getCompetitorMetrics python environment urls).length
      = (targets python [] (urls.take 5)).length := List.length_map _
    _ ≤ (urls.take 5).length := targets_length _ _
    _ ≤ urls.length := List.length_take_le' 5 urls
    _ ≤ backlinkCompetitorLimit profile := selectCompetitorUrls_length selected

/-- The requests of a scan are among the planned ones, kind by kind. -/
theorem pipeline_kinds {keys : PlanKeys} (free : Bool)
    (planned : Planner.keys python environment profile validate service market = .ok keys) :
    ((pipelineRequests python ranking environment validate profile service market responses).map
      Request.kind).Sublist ((Provider.drafts profile free keys).map CallDraft.kind) := by
  obtain ⟨keywords, ⟨listings, found, endpoint, key⟩, -⟩ := keys_ok planned
  have known : Provider.knownEndpoint Provider.listingsEndpoint = true := by decide
  have first : (keywordRequests python environment profile service market).map Request.kind =
      keys.keywords.map fun key => (Provider.keywordEndpoint, some key) := by
    rw [keywordRequests_kinds, keywords]
    rfl
  rw [drafts_kinds, pipelineRequests, List.append_assoc, List.map_append, List.map_append, first]
  refine List.Sublist.append (List.Sublist.refl _) (List.Sublist.append metricsRequests_kinds ?_)
  split
  · exact List.nil_sublist _
  · rename_i serps requested
    rw [List.map_append]
    refine List.Sublist.append (serpRequests_kinds requested) ?_
    split
    · exact List.nil_sublist _
    · rename_i urls selected
      rw [List.map_append]
      refine List.Sublist.append (competitorRequests_kinds selected) ?_
      rw [found]
      simp only [List.map_singleton, Request.kind, endpoint, known, key, ↓reduceIte]
      exact List.Sublist.refl _

end Counts

/-! ## The plan of a scan -/

/-- `save_scan_plan_calls`. -/
def saveScanPlanCalls (scan : Nat) (provider : String) (plan : ScanPlan) : List ScanPlanCall :=
  plan.plannedCalls.foldl (Provider.appendCall scan provider) []

section Plan
variable {scan : Nat} {provider : String} {profile : ScanProfile} {free : Bool} {keys : PlanKeys}

theorem stored_kinds :
    (Provider.buildScanPlan scan provider profile free keys).map ScanPlanCall.kind =
      (Provider.drafts profile free keys).map CallDraft.kind := by
  rw [Provider.buildScanPlan_eq]
  refine List.ext_getElem (by simp) fun i _ _ => ?_
  simp [ScanPlanCall.kind, CallDraft.kind]

/-- The known calls of a plan, in order. -/
theorem drafts_known_requests :
    ((Provider.drafts profile free keys).filter CallDraft.known).map
        (fun draft => (⟨draft.endpoint, draft.key⟩ : Request)) =
      keys.keywords.map (fun key => ⟨Provider.keywordEndpoint, key⟩) ++
        [⟨Provider.listingsEndpoint, keys.listings⟩] := by
  have slots (endpoint : String) (key : Nat → String) (cost : Usd) (count : Nat) :
      ((List.range count).map fun slot => (⟨endpoint, key slot, cost, false⟩ : CallDraft)).filter
        CallDraft.known = [] := by
    refine List.filter_eq_nil_iff.mpr fun draft member => ?_
    obtain ⟨slot, -, rfl⟩ := List.mem_map.mp member
    exact Bool.false_ne_true
  have keywords (cost : Usd) : (keys.keywords.map fun key =>
      (⟨Provider.keywordEndpoint, key, cost, true⟩ : CallDraft)).filter CallDraft.known =
        keys.keywords.map fun key => ⟨Provider.keywordEndpoint, key, cost, true⟩ := by
    refine List.filter_eq_self.mpr fun draft member => ?_
    obtain ⟨key, -, rfl⟩ := List.mem_map.mp member
    rfl
  simp [Provider.drafts, List.filter_append, slots, keywords]

end Plan

theorem countP_draft (planned : List CallDraft) (endpoint : String) :
    (planned.countP fun draft => draft.endpoint = endpoint) =
      ((planned.map CallDraft.kind).map Prod.fst).count endpoint := by
  rw [List.count, List.countP_map, List.countP_map]
  refine List.countP_congr fun draft _ => ?_
  simp [CallDraft.kind]

theorem countP_request (requests : List Request) (endpoint : String) :
    (requests.countP fun r => r.endpoint = endpoint) =
      ((requests.map Request.kind).map Prod.fst).count endpoint := by
  rw [List.count, List.countP_map, List.countP_map]
  refine List.countP_congr fun r _ => ?_
  simp [Request.kind]

theorem drafts_metrics (profile : ScanProfile) (free : Bool) (keys : PlanKeys) :
    ((Provider.drafts profile free keys).countP fun draft =>
      draft.endpoint = Provider.metricsEndpoint) = 1 := by
  have others : Provider.keywordEndpoint ≠ Provider.metricsEndpoint ∧
      Provider.serpEndpoint ≠ Provider.metricsEndpoint ∧
      Provider.backlinksEndpoint ≠ Provider.metricsEndpoint ∧
      Provider.listingsEndpoint ≠ Provider.metricsEndpoint := by decide
  obtain ⟨keyword, serp, backlinks, listings⟩ := others
  have keywords : ((keys.keywords.map fun key => (Provider.keywordEndpoint, some key)).map
      Prod.fst).count Provider.metricsEndpoint = 0 := by
    refine List.count_eq_zero_of_not_mem fun member => ?_
    simp only [List.map_map, List.mem_map, Function.comp_apply] at member
    obtain ⟨key, -, same⟩ := member
    exact keyword same
  rw [countP_draft, drafts_kinds]
  simp only [List.map_append, List.count_append, keywords, List.map_replicate, List.count_replicate,
    List.map_singleton, List.count_singleton, beq_iff_eq, serp, backlinks, listings, ↓reduceIte]

/-- **The planner and the executor agree.** The known calls of an unblocked live
plan are the requests `discover_keywords` and `find_providers` make, in order.
Whatever the provider answers, no endpoint gets more requests than the plan has
slots for it, and on a scan without rows every request up to the first failure
finds an unused planned one. -/
theorem planner_executor_agree (python : Runtime) (ranking : Ranking) (settings : PlanSettings)
    (validate : Market → Except String Unit) (profile : ScanProfile) (service : ServiceFamily)
    (market : Market) (cache : String → Bool) (plan : ScanPlan)
    (built : Planner.buildScanPlan python settings validate profile service market cache = .ok plan)
    (unblocked : plan.blocked = false) :
    (∃ listings,
      Live.findProviders python settings.environment profile validate service market =
          .ok listings ∧
        (plan.plannedCalls.filter CallDraft.known).map
            (fun draft => (⟨draft.endpoint, draft.key⟩ : Request)) =
          Live.discoverKeywords python settings.environment profile service market ++ [listings]) ∧
    plan.plannedCalls.countP (fun draft => draft.endpoint = Provider.metricsEndpoint) = 1 ∧
    ∀ responses,
      let requests :=
        pipelineRequests python ranking settings.environment validate profile service market responses
      (∀ endpoint, requests.countP (fun r => r.endpoint = endpoint) ≤
        plan.plannedCalls.countP fun draft => draft.endpoint = endpoint) ∧
      ∀ (scan : Nat) (x : Nat → Exchange) (calls : List ApiCall) (earlier : List (Request × Answer))
        (r : Request) (a : Answer), (∀ row ∈ calls, row.scanRunId ≠ some scan) →
        earlier.map Prod.fst ++ [r] <+: requests → (∀ event ∈ earlier, event.2.success = true) →
        (Provider.replay (saveScanPlanCalls scan (providerName settings.environment) plan) scan
          (providerName settings.environment) x 0 calls (earlier ++ [(r, a)])).isSome = true := by
  obtain ⟨keys, planned, calls_eq⟩ := buildScanPlan_unblocked built unblocked
  obtain ⟨keywords, ⟨listings, found, endpoint, key⟩, -⟩ := keys_ok planned
  refine ⟨⟨listings, found, ?_⟩, ?_, ?_⟩
  · have last : (⟨Provider.listingsEndpoint, keys.listings⟩ : Request) = listings := by
      rw [← endpoint, ← key]
    rw [calls_eq, drafts_known_requests, keywords, last, List.map_map]
    refine congrArg (· ++ [listings]) ((List.map_congr_left fun r member => ?_).trans (List.map_id _))
    obtain ⟨seed, -, rfl⟩ := List.mem_map.mp member
    rfl
  · rw [calls_eq]
    exact drafts_metrics profile settings.free keys
  · intro responses
    have kinds : ((pipelineRequests python ranking settings.environment validate profile service
        market responses).map Request.kind).Sublist
          ((Provider.drafts profile settings.free keys).map CallDraft.kind) :=
      pipeline_kinds settings.free planned
    refine ⟨fun endpoint => ?_, ?_⟩
    · rw [calls_eq, countP_request, countP_draft]
      exact (kinds.map Prod.fst).count_le endpoint
    · intro scan x calls earlier r a fresh issued answered
      obtain ⟨later, split⟩ := issued
      have stored : saveScanPlanCalls scan (providerName settings.environment) plan =
          Provider.buildScanPlan scan (providerName settings.environment) profile settings.free
            keys := by
        rw [saveScanPlanCalls, calls_eq, Provider.buildScanPlan]
      have whole : earlier.map Prod.fst ++ r :: later = pipelineRequests python ranking
          settings.environment validate profile service market responses := by
        rw [← split, List.append_assoc, List.singleton_append]
      have room (kind : String × Option String) :
          ((earlier.map Prod.fst ++ r :: later).map Request.kind).count kind ≤
            ((Provider.buildScanPlan scan (providerName settings.environment) profile settings.free
              keys).map ScanPlanCall.kind).count kind := by
        rw [whole, stored_kinds]
        exact kinds.count_le kind
      rw [stored]
      exact Provider.first_attempt_issued (Provider.buildScanPlan_planned profile settings.free keys)
        (fun call member => (Provider.buildScanPlan_known member).2.2) fresh x answered room a

/-- ASCII case mappings, and the text of a key for its digest. -/
def asciiRuntime : Runtime := ⟨String.toLower, String.toUpper, id, id⟩

def drywall : ServiceFamily := ⟨"Drywall", ["drywall"], [], [], [], ["drywall_contractor"]⟩

def austin : Market :=
  ⟨"Austin, TX", "us", some (302672 / 10000), some (-977431 / 10000), some 15, none, none⟩

/-- The plan of a full scan in production. -/
theorem drywall_plan_agrees :
    ∃ plan, Planner.buildScanPlan asciiRuntime .production (fun _ => .ok ()) .full drywall
        austin (fun _ => false) = .ok plan ∧ plan.blocked = false ∧
      ∃ listings, Live.findProviders asciiRuntime .production .full (fun _ => .ok ()) drywall austin =
          .ok listings ∧
        (plan.plannedCalls.filter CallDraft.known).map
            (fun draft => (⟨draft.endpoint, draft.key⟩ : Request)) =
          Live.discoverKeywords asciiRuntime .production .full drywall austin ++ [listings] := by
  have planned : (Planner.buildScanPlan asciiRuntime .production (fun _ => .ok ()) .full
      drywall austin (fun _ => false)).toOption.any (fun plan => !plan.blocked) = true := by
    decide +kernel
  let ranking : Ranking := ⟨id, fun _ _ => 0, fun _ => id, fun a b => a == b, fun _ _ _ => 0⟩
  cases built : Planner.buildScanPlan asciiRuntime .production (fun _ => .ok ()) .full
      drywall austin (fun _ => false) with
  | error reason =>
    rw [built] at planned
    cases planned
  | ok plan =>
    have unblocked : plan.blocked = false := by
      simpa [built, Except.toOption] using planned
    exact ⟨plan, rfl, unblocked, (planner_executor_agree asciiRuntime ranking .production
      (fun _ => .ok ()) .full drywall austin (fun _ => false) plan built unblocked).1⟩

end RankRent.Research
