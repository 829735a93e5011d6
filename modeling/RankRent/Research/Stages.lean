import RankRent.Research.Tasks

/-!
# The requests of a scan

The stages of `ScanPipeline.run`: what each one asks the provider for depends on
the answers to the ones before. Responses are the parsed items the stages read,
and they are arbitrary. So is the arithmetic that orders keywords (`slugify`,
`SequenceMatcher`, the float scores): which keyword comes first changes a request,
never how many there are.
-/

namespace RankRent.Research
open Provider (Request)

/-- What the ranking reads of a `KeywordMetric`. -/
structure KeywordMetric where
  keyword : String
  canonicalKeyword : String
  intent : String
  searchVolume : Option Int
  cpc : Option ℚ

structure SerpResult where
  order : Int
  resultType : String
  url : String
  domain : String

structure SerpSnapshot where
  query : String
  results : List SerpResult

/-- `CompetitorSerpObservation`. -/
structure Observation where
  query : String
  position : Int
  url : String
  deriving DecidableEq

/-- The arithmetic of `services/keywords.py` and `_rank_keyword_candidates`. -/
structure Ranking where
  normalizeKeyword : String → String
  relevance : ServiceFamily → String → Int
  clusterKey : Market → String → String
  sameCluster : String → String → Bool
  valueScore : ServiceFamily → Market → KeywordMetric → ℚ

/-- The items of the responses, by the number of the request they answer. -/
structure Responses where
  suggestions : Nat → List String
  metrics : List KeywordMetric
  serps : Nat → List SerpResult

section Keywords
variable (ranking : Ranking) (service : ServiceFamily) (market : Market)

/-- The candidates `discover_keywords` returns. -/
def candidates (seeds : List String) (suggestions : Nat → List String) : List String :=
  let found := ((List.range seeds.length).flatMap suggestions).map PyString.strip
  let named := found.filter (· ≠ "")
  (if named = [] then seeds else named).mergeSort fun a b =>
    decide (ranking.relevance service b < ranking.relevance service a ∨
      ranking.relevance service a = ranking.relevance service b ∧ a ≤ b)

/-- `negatives` of `plan_keyword_candidates`, with the terms of `service_keyword_terms`. -/
def negatives : List String :=
  let products := if service.negativeProductTerms = [] then
    ["parts", "kit", "manual", "lowes", "home depot"] else service.negativeProductTerms
  ((service.negativeTerms ++ products).filter fun term => PyString.strip term ≠ "").map
    ranking.normalizeKeyword

/-- `_matching_negative` finds one. -/
def matchesNegative (negatives : List String) (canonical : String) : Bool :=
  negatives.any fun term => PyString.contains (" " ++ canonical ++ " ") (" " ++ term ++ " ")

/-- `included_keywords` of `plan_keyword_candidates`, after the keywords in `seen`. -/
def includedKeywords (negatives : List String) (seen : List String) : List String → List String
  | [] => []
  | keyword :: rest =>
    let canonical := ranking.normalizeKeyword keyword
    if canonical = "" ∨ matchesNegative negatives canonical ∨ canonical ∈ seen then
      includedKeywords negatives seen rest
    else keyword :: includedKeywords negatives (canonical :: seen) rest

/-- One round of the grouping loop of `rank_and_cluster_keyword_metrics`. -/
def group (groups : List (String × List KeywordMetric)) (metric : KeywordMetric) :
    List (String × List KeywordMetric) :=
  let key := ranking.clusterKey market
    (if metric.canonicalKeyword = "" then metric.keyword else metric.canonicalKeyword)
  let matched := (groups.map Prod.fst).find? fun existing => ranking.sameCluster key existing
  let slot := (matched.filter (· ≠ "")).getD key
  if slot ∈ groups.map Prod.fst then
    groups.map fun entry => if entry.1 = slot then (slot, entry.2 ++ [metric]) else entry
  else groups ++ [(slot, [metric])]

/-- `sorted(..., key=_metric_value_score, reverse=True)`. -/
def byValue (metrics : List KeywordMetric) : List KeywordMetric :=
  metrics.mergeSort fun a b =>
    decide (ranking.valueScore service market b ≤ ranking.valueScore service market a)

/-- The scoring metric of a cluster. -/
def representative (cluster : List KeywordMetric) : Option KeywordMetric :=
  (byValue ranking service market cluster).head?.map fun metric =>
    { metric with searchVolume := some (cluster.foldl (fun high metric =>
      max high (metric.searchVolume.getD 0)) ((cluster.head?.bind KeywordMetric.searchVolume).getD 0)) }

/-- `selected_serp_keywords` of `rank_and_cluster_keyword_metrics`. -/
def selectedSerpKeywords (limit : Nat) (metrics : List KeywordMetric) : List String :=
  let groups := metrics.foldl (group ranking market) []
  let scoring := groups.filterMap fun entry => representative ranking service market entry.2
  ((byValue ranking service market scoring).take limit).map KeywordMetric.keyword

end Keywords

section Competitors
variable (python : Runtime)

/-- `_result_domain`. -/
def resultDomain (result : SerpResult) : String :=
  PyString.strip (PyString.removePrefix "www." (python.lower
    (if result.domain = "" then python.netloc result.url else result.domain)))

/-- The observations of `_serp_observations_by_domain` with their domains, after
those in `seen`. -/
def observations (seen : List (String × Observation)) :
    List (String × SerpResult) → List (String × Observation)
  | [] => seen
  | (query, result) :: rest =>
    let entry := (resultDomain python result, ⟨query, result.order, result.url⟩)
    if result.resultType ≠ "organic" ∨ entry.1 = "" ∨ entry ∈ seen then observations seen rest
    else observations (seen ++ [entry]) rest

/-- `_observation_sort_key` in order. -/
def Observation.le (a b : Observation) : Bool :=
  a.position < b.position ∨ a.position = b.position ∧
    (a.query < b.query ∨ a.query = b.query ∧ a.url ≤ b.url)

/-- `select_competitor_urls`; a position below one is the `ValidationError` of
`CompetitorSerpObservation`. -/
def selectCompetitorUrls (snapshots : List SerpSnapshot) (limit : Nat) :
    Except String (List String) :=
  let results := snapshots.flatMap fun snapshot => snapshot.results.map fun r => (snapshot.query, r)
  let observed := observations python [] results
  if observed.any fun entry => entry.2.position < 1 then
    .error "Input should be greater than or equal to 1"
  else
    let domains := (observed.map Prod.fst).eraseDups
    let representatives := domains.filterMap fun domain =>
      (((observed.filter fun entry => entry.1 = domain).map Prod.snd).mergeSort
        Observation.le).head?
    .ok (((representatives.mergeSort Observation.le).take limit).map Observation.url)

/-- `_target_domain`. -/
def targetDomain (url : String) : String :=
  PyString.removePrefix "www." (python.netloc
    (if PyString.contains url "://" then url else "https://" ++ url))

/-- The targets `get_competitor_metrics` asks for, after those in `seen`. -/
def targets (seen : List String) : List String → List String
  | [] => []
  | url :: rest =>
    let target := targetDomain python url
    if target = "" ∨ target ∈ seen then targets seen rest
    else target :: targets (target :: seen) rest

/-- The requests of `get_competitor_metrics`. -/
def Live.getCompetitorMetrics (environment : ApiEnvironment) (urls : List String) : List Request :=
  (targets python [] (urls.take 5)).map fun target =>
    Live.post python environment Provider.backlinksEndpoint
      (.obj [("target", .str target), ("include_subdomains", .bool true)])

end Competitors

/-! ## The pipeline -/

/-- `serp_keyword_limit` in live mode. -/
def serpKeywordLimit (profile : ScanProfile) : Nat := if profile = .testing then 1 else 3

/-- `backlink_competitor_limit` in live mode. -/
def backlinkCompetitorLimit (profile : ScanProfile) : Nat := if profile = .testing then 0 else 5

section Pipeline
variable (python : Runtime) (ranking : Ranking) (environment : ApiEnvironment)
  (validate : Market → Except String Unit) (profile : ScanProfile) (service : ServiceFamily)
  (market : Market) (responses : Responses)

/-- The keywords that get a results page. -/
def representativeKeywords : List String :=
  selectedSerpKeywords ranking service market (serpKeywordLimit profile) responses.metrics

/-- The competitors of the results pages. -/
def competitorUrls : Except String (List String) :=
  let keywords := representativeKeywords ranking profile service market responses
  selectCompetitorUrls python (keywords.mapIdx fun n keyword => ⟨keyword, responses.serps n⟩)
    (backlinkCompetitorLimit profile)

def keywordRequests : List Request :=
  Live.discoverKeywords python environment profile service market

def metricsRequests : List Request :=
  Live.getKeywordMetrics python environment profile
    (includedKeywords ranking (negatives ranking service) [] (candidates ranking service
      (Live.seeds python profile service) responses.suggestions)) market

def serpRequests : Except String (List Request) :=
  (representativeKeywords ranking profile service market responses).mapM fun keyword =>
    Live.getSerpSnapshot python environment keyword market

/-- The requests of `ScanPipeline.run` in order, up to its first exception. -/
def pipelineRequests : List Request :=
  keywordRequests python environment profile service market ++
    metricsRequests python ranking environment profile service market responses ++
    match serpRequests python ranking environment profile service market responses with
    | .error _ => []
    | .ok serps => serps ++
      match competitorUrls python ranking profile service market responses with
      | .error _ => []
      | .ok urls => Live.getCompetitorMetrics python environment urls ++
        match Live.findProviders python environment profile validate service market with
        | .error _ => []
        | .ok listings => [listings]

end Pipeline

end RankRent.Research
