import RankRent.Provider.PlanCosts
import RankRent.Provider.Retries
import RankRent.Research.Markets

/-!
# The requests of the planner and of the provider

`planning.py` and `integrations/dataforseo/live.py` build their requests apart.
Both orders of insertion are kept, and both ways to a cache key.
-/

namespace RankRent.Research
open Provider (PlanKeys Request PlanSettings ScanPlan)

/-- `cache_key`. -/
def cacheKey (python : Runtime) (provider endpoint : String) (params : PyJson)
    (apiVersion responseShapeVersion : String) : String :=
  python.sha256 (provider ++ ":" ++ endpoint ++ ":" ++ apiVersion ++ ":" ++
    responseShapeVersion ++ ":" ++ params.normalize.dumps)

/-- `dataforseo_provider_name`. -/
def providerName : ApiEnvironment → String
  | .production => "dataforseo-live"
  | .sandbox => "dataforseo-sandbox"

/-- `{"tasks": [task]}`. -/
def tasks (task : PyJson) : PyJson := .obj [("tasks", .arr [task])]

/-! ## The planner -/

namespace Planner

section
variable (python : Runtime) (environment : ApiEnvironment) (profile : ScanProfile)

/-- `key` of `_append_call`. -/
def key (endpoint : String) (task : PyJson) : String :=
  cacheKey python (providerName environment) endpoint (tasks task).normalize "v3" "v1"

/-- `_labs_location_payload`. -/
def labsLocationPayload (market : Market) : List (String × PyJson) :=
  if python.upper market.countryCode = "US" then [("location_code", .num 2840)]
  else [("location_name", .str (python.upper market.countryCode))]

def keywordTask (market : Market) (seed : String) : PyJson :=
  .obj ([("keyword", .str seed), ("language_code", .str "en"),
    ("limit", .num (if profile = .testing then 10 else 20)), ("include_seed_keyword", .bool true)] ++
    labsLocationPayload python market)

def metricsTask : PyJson :=
  .obj [("keywords", .arr [.str "<from keyword discovery>"]), ("language_code", .str "en"),
    ("location_code", .num 2840)]

def serpTask (place : List (String × PyJson)) (slot : Nat) : PyJson :=
  .obj ([("keyword", .str ("<representative keyword " ++ toString (slot + 1) ++ ">")),
    ("language_code", .str "en"), ("device", .str "desktop"), ("depth", .num 10)] ++ place)

def backlinksTask (slot : Nat) : PyJson :=
  .obj [("target", .str ("<organic competitor domain " ++ toString (slot + 1) ++ ">")),
    ("include_subdomains", .bool true)]

def listingsTask (service : ServiceFamily) (market : Market) (place : List (String × PyJson)) :
    PyJson :=
  .obj ([("language_code", .str "en"), ("limit", .num (if profile = .testing then 5 else 10)),
    ("filters", .arr [.str "address_info.country_code", .str "=",
      .str (python.upper market.countryCode)]),
    ("description", .str (service.displayName ++ " " ++ market.displayName))] ++ place ++
    if service.providerCategories = [] then []
    else [("categories", .arr ((service.providerCategories.take 10).map .str))])

/-- The requests of `build_scan_plan`, or the exception it ends with. -/
def keys (validate : Market → Except String Unit) (service : ServiceFamily) (market : Market) :
    Except String PlanKeys :=
  match validate market, serpLocationPayload market,
    businessListingsLocationPayload market environment with
  | .error reason, _, _ | .ok _, .error reason, _ | .ok _, .ok _, .error reason => .error reason
  | .ok _, .ok place, .ok listed => .ok {
      keywords := ((serviceSeedKeywords python service).take
        (if profile = .testing then 1 else 3)).map fun seed =>
          key python environment Provider.keywordEndpoint (keywordTask python profile market seed)
      metrics := key python environment Provider.metricsEndpoint metricsTask
      serp := fun slot => key python environment Provider.serpEndpoint (serpTask place slot)
      backlinks := fun slot => key python environment Provider.backlinksEndpoint (backlinksTask slot)
      listings := key python environment Provider.listingsEndpoint
        (listingsTask python profile service market listed) }

end

/-- `build_scan_plan` in live mode. -/
def buildScanPlan (python : Runtime) (settings : PlanSettings)
    (validate : Market → Except String Unit) (profile : ScanProfile) (service : ServiceFamily)
    (market : Market) (cache : String → Bool) : Except String ScanPlan :=
  match Provider.liveSwitchBlockReason settings profile with
  | some reason => .ok ⟨[], 0, some (.switch reason)⟩
  | none =>
    match keys python settings.environment profile validate service market with
    | .error reason => .error reason
    | .ok keys => .ok (ScanPlan.live settings profile keys cache)

end Planner

/-! ## The provider -/

namespace Live

section
variable (python : Runtime) (environment : ApiEnvironment) (profile : ScanProfile)

/-- The request of `_post`, with the `_cache_key` of its normalized parameters. -/
def post (endpoint : String) (task : PyJson) : Request :=
  ⟨endpoint, cacheKey python (providerName environment) endpoint
    (tasks task).normalize.normalize "v3" "v1"⟩

/-- `_labs_location_payload`. -/
def labsLocationPayload (market : Market) : List (String × PyJson) :=
  if python.upper market.countryCode = "US" then [("location_code", .num 2840)]
  else [("location_name", .str (python.upper market.countryCode))]

def keywordSeedLimit : Nat := if profile = .testing then 1 else 3
def keywordSuggestionLimit : Int := if profile = .testing then 10 else 20
def keywordMetricsLimit : Nat := if profile = .testing then 10 else 50
def businessListingsLimit : Int := if profile = .testing then 5 else 10

/-- The seeds `discover_keywords` asks for. -/
def seeds (service : ServiceFamily) : List String :=
  (serviceSeedKeywords python service).take (keywordSeedLimit profile)

/-- The requests of `discover_keywords`. -/
def discoverKeywords (service : ServiceFamily) (market : Market) : List Request :=
  (seeds python profile service).map fun seed =>
    post python environment Provider.keywordEndpoint (.obj ([("keyword", .str seed),
      ("language_code", .str "en"), ("limit", .num (keywordSuggestionLimit profile)),
      ("include_seed_keyword", .bool true)] ++ labsLocationPayload python market))

/-- The request of `get_keyword_metrics`. -/
def getKeywordMetrics (keywords : List String) (market : Market) : List Request :=
  if keywords = [] then []
  else [post python environment Provider.metricsEndpoint (.obj ([("keywords",
    .arr ((keywords.take (keywordMetricsLimit profile)).map .str)), ("language_code", .str "en")] ++
    labsLocationPayload python market))]

/-- The request of `get_serp_snapshot`. -/
def getSerpSnapshot (keyword : String) (market : Market) : Except String Request :=
  match serpLocationPayload market with
  | .error reason => .error reason
  | .ok place => .ok (post python environment Provider.serpEndpoint (.obj ([("keyword", .str keyword),
      ("language_code", .str "en"), ("device", .str "desktop"), ("depth", .num 10)] ++ place)))

/-- The requests of `find_providers`. -/
def findProviders (validate : Market → Except String Unit) (service : ServiceFamily)
    (market : Market) : Except String Request :=
  match validate market, businessListingsLocationPayload market environment with
  | .error reason, _ | .ok _, .error reason => .error reason
  | .ok _, .ok place => .ok (post python environment Provider.listingsEndpoint (.obj
      ([("language_code", .str "en"), ("limit", .num (businessListingsLimit profile)),
        ("filters", .arr [.str "address_info.country_code", .str "=",
          .str (python.upper market.countryCode)])] ++ place ++
        (if service.providerCategories = [] then []
        else [("categories", .arr ((service.providerCategories.take 10).map .str))]) ++
        [("description", .str (service.displayName ++ " " ++ market.displayName))])))

end

end Live

/-! ## Agreement -/

section
variable {python : Runtime} {environment : ApiEnvironment} {profile : ScanProfile}
  {service : ServiceFamily} {market : Market}

/-- The provider normalizes once more than the planner. -/
theorem post_key (endpoint : String) (task : PyJson) :
    (Live.post python environment endpoint task).key =
      Planner.key python environment endpoint task := by
  rw [Live.post, Planner.key, PyJson.normalize_normalize]

theorem tasks_normalize {task other : PyJson} (same : task.normalize = other.normalize) :
    (tasks task).normalize = (tasks other).normalize := by
  simp only [tasks, PyJson.normalize, PyJson.normalizeFields, PyJson.normalizeItems, same]

theorem key_congr {endpoint : String} {task other : PyJson}
    (same : task.normalize = other.normalize) :
    Planner.key python environment endpoint task = Planner.key python environment endpoint other := by
  rw [Planner.key, Planner.key, tasks_normalize same]

theorem discoverKeywords_keys :
    (Live.discoverKeywords python environment profile service market).map Request.key =
      ((serviceSeedKeywords python service).take (if profile = .testing then 1 else 3)).map
        fun seed => Planner.key python environment Provider.keywordEndpoint
          (Planner.keywordTask python profile market seed) := by
  rw [Live.discoverKeywords, List.map_map]
  refine List.map_congr_left fun seed _ => ?_
  rw [Function.comp_apply, post_key]
  rfl

/-- The two listings tasks are the same items in another order. -/
theorem findProviders_key {validate : Market → Except String Unit}
    {place : List (String × PyJson)} (valid : validate market = .ok ())
    (located : businessListingsLocationPayload market environment = .ok place) :
    ∃ request, Live.findProviders python environment profile validate service market = .ok request ∧
      request.endpoint = Provider.listingsEndpoint ∧
      request.key = Planner.key python environment Provider.listingsEndpoint
        (Planner.listingsTask python profile service market place) := by
  simp only [Live.findProviders, valid, located]
  refine ⟨_, rfl, rfl, ?_⟩
  rw [post_key]
  refine key_congr (PyJson.normalize_obj_perm ?_ ?_)
  · rw [List.append_assoc, List.append_assoc, List.append_assoc]
    refine (List.Perm.append_left _ ?_)
    rw [← List.append_assoc]
    exact List.perm_append_comm
  · have placed := businessListingsLocationPayload_keys located
    by_cases categories : service.providerCategories = []
    · rw [if_pos categories]
      rcases placed with rfl | ⟨point, rfl⟩ <;> simp
    · rw [if_neg categories]
      rcases placed with rfl | ⟨point, rfl⟩ <;> simp

/-- The planner's exceptions are the provider's. -/
theorem keys_ok {validate : Market → Except String Unit} {keys : PlanKeys}
    (planned : Planner.keys python environment profile validate service market = .ok keys) :
    keys.keywords =
        (Live.discoverKeywords python environment profile service market).map Request.key ∧
      (∃ request, Live.findProviders python environment profile validate service market =
          .ok request ∧ request.endpoint = Provider.listingsEndpoint ∧ request.key = keys.listings) ∧
      ∀ keyword, ∃ request, Live.getSerpSnapshot python environment keyword market = .ok request ∧
        request.endpoint = Provider.serpEndpoint := by
  unfold Planner.keys at planned
  split at planned
  · cases planned
  · cases planned
  · cases planned
  · rename_i valid place listed validated serp listings
    cases planned
    refine ⟨discoverKeywords_keys.symm, findProviders_key validated listings, fun keyword => ?_⟩
    simp only [Live.getSerpSnapshot, serp]
    exact ⟨_, rfl, rfl⟩

/-- An unblocked live plan is made of the drafts of its requests. -/
theorem buildScanPlan_unblocked {settings : PlanSettings} {validate : Market → Except String Unit}
    {cache : String → Bool} {plan : ScanPlan}
    (built : Planner.buildScanPlan python settings validate profile service market cache = .ok plan)
    (unblocked : plan.blocked = false) :
    ∃ keys, Planner.keys python settings.environment profile validate service market = .ok keys ∧
      plan.plannedCalls = Provider.drafts profile settings.free keys := by
  unfold Planner.buildScanPlan at built
  split at built
  · cases built
    cases unblocked
  · split at built
    · cases built
    · rename_i keys found
      cases built
      exact ⟨keys, found, by rw [(ScanPlan.live_unblocked unblocked).1]⟩

end

end RankRent.Research
