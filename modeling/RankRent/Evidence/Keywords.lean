import RankRent.Evidence.Normalisers
import RankRent.Library.PyDict

/-!
# Keyword plans

`services/keywords.py`: which candidates are asked for, and how their metrics are
grouped, ranked and decided on.
-/

namespace RankRent.Evidence

/-! ## Records -/

structure KeywordCluster where
  representativeKeyword : String
  keywords : List String
  dedupeMethod : String
  combinedVolume : Option ℤ

structure KeywordDecision where
  keyword : String
  canonicalKeyword : String
  decision : String
  reason : Option String
  rank : Option Nat
  representative : Bool
  clusterId : Option String
  intent : Option String
  searchVolume : Option ℤ
  cpc : Option PyFloat
  granularity : Option String
  rankingScore : Option PyFloat

structure KeywordCandidatePlan where
  candidates : List KeywordCandidate
  includedKeywords : List String
  decisions : List KeywordDecision

structure KeywordMetricPlan where
  metrics : List KeywordMetric
  scoringMetrics : List KeywordMetric
  selectedSerpKeywords : List String
  clusters : List KeywordCluster
  decisions : List KeywordDecision

/-- What the ranking takes from Python besides its text: `SequenceMatcher(None, a, b).ratio()`,
`sorted(values, key=key, reverse=True)` on values with their keys, and `str` of a float. -/
structure Ranker where
  ratio : String → String → PyFloat
  sortDown : List (KeywordMetric × PyFloat) → List (KeywordMetric × PyFloat)
  floatText : PyFloat → String

section
variable (python : Python)

/-! ## Candidates -/

/-- `_matching_negative`. -/
def matchingNegative (canonical : String) (negatives : List String) : Option String :=
  negatives.find? fun term => PyString.contains (" " ++ canonical ++ " ") (" " ++ term ++ " ")

/-- `negatives` of `plan_keyword_candidates`. -/
def normalizedNegatives (negativeTerms : List String) : List String :=
  (negativeTerms.filter fun term => PyString.strip term ≠ "").map (normalizeKeyword python)

/-- A decision on a candidate. -/
def candidateDecision (keyword canonical decision reason : String) : KeywordDecision :=
  ⟨keyword, canonical, decision, some reason, none, false, none, none, none, none, none, none⟩

/-- The reason to leave a candidate out, after the canonical forms in `seen`. -/
def excludedReason (negatives seen : List String) (canonical : String) : Option (String × String) :=
  if canonical = "" then some ("excluded_negative", "empty_keyword")
  else
    match (matchingNegative canonical negatives).filter (· ≠ "") with
    | some negative => some ("excluded_negative", "negative_term:" ++ negative)
    | none =>
      if canonical ∈ seen then some ("excluded_duplicate", "duplicate_exact") else none

/-- One round of the loop of `plan_keyword_candidates`: the candidate and the decision on it. -/
def planOne (candidate : KeywordCandidate) (canonical : String) (excluded : Option (String × String)) :
    KeywordCandidate × KeywordDecision :=
  match excluded with
  | some (decision, reason) =>
    ({ candidate with included := false, excludedReason := some reason },
      candidateDecision candidate.keyword canonical decision reason)
  | none =>
    ({ candidate with included := true, excludedReason := none },
      candidateDecision candidate.keyword canonical "candidate" "included_candidate")

/-- The loop of `plan_keyword_candidates` after the canonical forms in `seen`. -/
def planAfter (negatives seen : List String) :
    List KeywordCandidate → List (KeywordCandidate × KeywordDecision)
  | [] => []
  | candidate :: rest =>
    let canonical := normalizeKeyword python candidate.keyword
    let excluded := excludedReason negatives seen canonical
    planOne candidate canonical excluded ::
      planAfter negatives (if excluded.isNone then canonical :: seen else seen) rest

/-- `plan_keyword_candidates`. -/
def planKeywordCandidates (candidates : List KeywordCandidate) (negativeTerms : List String) :
    KeywordCandidatePlan :=
  let planned := planAfter python (normalizedNegatives python negativeTerms) [] candidates
  let output := planned.map Prod.fst
  { candidates := output
    includedKeywords := (output.filter KeywordCandidate.included).map KeywordCandidate.keyword
    decisions := planned.map Prod.snd }

/-! ## Scores -/

/-- `set(_normalize_keyword(value).split())`. -/
def keywordTokens (value : String) : List String :=
  (PyString.words (normalizeKeyword python value)).dedup

/-- `_market_tokens`. -/
def marketTokens (market : Market) : List String :=
  ([market.displayName, market.state.getD "", market.countryCode] ++ market.cities).flatMap
    fun value => PyString.words (normalizeKeyword python value)

/-- `canonical_keyword or keyword`. -/
def KeywordMetric.name (metric : KeywordMetric) : String :=
  if metric.canonicalKeyword = "" then metric.keyword else metric.canonicalKeyword

/-- `search_volume or 0`. -/
def KeywordMetric.volume (metric : KeywordMetric) : ℤ := metric.searchVolume.getD 0

/-- `m / n`; its `OverflowError` on a quotient too large. -/
def divide (m n : ℤ) : Except WorkerError PyFloat :=
  match PyFloat.ofRat ((m : ℚ) / (n : ℚ)) with
  | .infinite _ => .error ⟨.other, "integer division result too large for a float"⟩
  | quotient => .ok quotient

/-- `min(x, 1.0)`. -/
def atMostOne (x : PyFloat) : PyFloat := if PyFloat.lt (.finite 1) x then .finite 1 else x

/-- `_local_modifier_quality`. -/
def localModifierQuality (canonical : String) (market : Market) : PyFloat :=
  let tokens := PyString.words canonical
  if "near" ∈ tokens ∧ "me" ∈ tokens then PyFloat.ofRat (4 / 5)
  else if tokens.any (· ∈ marketTokens python market) then .finite 1
  else PyFloat.ofRat (9 / 20)

/-- `_metric_value_score`. -/
def metricValueScore (service : Research.ServiceFamily) (market : Market) (metric : KeywordMetric) :
    Except WorkerError PyFloat :=
  let canonical := normalizeKeyword python metric.name
  let tokens := (PyString.words canonical).dedup
  let serviceTokens := keywordTokens python service.displayName
  let relevance := PyFloat.ofRat
    (((tokens.filter (· ∈ serviceTokens)).length : ℚ) / ((max 1 serviceTokens.length : ℕ) : ℚ))
  let intent : PyFloat :=
    .finite (if metric.intent = "transactional" ∨ metric.intent = "commercial" then 1 else 1 / 4)
  let cpc := atMostOne ((metric.cpc.getD (.finite 0)).scale (1 / 30))
  (divide metric.volume 1000).map fun perMille =>
    let volume := atMostOne perMille
    ((((relevance.scale 40).add (intent.scale 25)).add (cpc.scale 18)).add (volume.scale 12)).add
      ((localModifierQuality python canonical market).scale 5)

/-! ## Clusters -/

/-- `_singularize`. -/
def singularize (token : String) : String :=
  let chars := token.toList
  if 4 < chars.length ∧ "ies".toList <:+ chars then String.ofList (chars.dropLast.dropLast.dropLast ++ ['y'])
  else if 3 < chars.length ∧ chars.getLast? = some 's' then String.ofList chars.dropLast
  else token

/-- `_cluster_key`. -/
def clusterKey (keyword : String) (market : Market) : String :=
  let tokens := (PyString.words (normalizeKeyword python keyword)).filter fun token =>
    token ∉ ["near", "me", "nearby", "local", "in"] ∧ token ∉ marketTokens python market
  String.intercalate " " (tokens.map singularize)

/-- `_token_overlap(left, right) >= 0.9`. -/
def overlaps (left right : List String) : Bool :=
  let share := PyFloat.ofRat (((left.filter (· ∈ right)).length : ℚ) /
    ((max 1 (max left.length right.length) : ℕ) : ℚ))
  !share.lt (PyFloat.ofRat (9 / 10))

/-- Whether `_matching_cluster_key` takes an existing key. -/
def sameCluster (ranker : Ranker) (key existing : String) : Bool :=
  let keyTokens := (PyString.words key).dedup
  let existingTokens := (PyString.words existing).dedup
  (keyTokens.all (· ∈ existingTokens) && existingTokens.all (· ∈ keyTokens)) ||
    (!keyTokens.isEmpty && !existingTokens.isEmpty && overlaps keyTokens existingTokens) ||
    !(ranker.ratio key existing).lt (PyFloat.ofRat (23 / 25))

/-- The key a metric is grouped under: `matched_key or key`. -/
def slot (ranker : Ranker) (keys : List String) (key : String) : String :=
  ((keys.find? (sameCluster ranker key)).filter (· ≠ "")).getD key

/-- The grouping loop of `rank_and_cluster_keyword_metrics`. -/
def groupMetrics (ranker : Ranker) (market : Market) (metrics : List KeywordMetric) :
    List (String × List KeywordMetric) :=
  metrics.foldl (fun grouped metric =>
    PyDict.appendTo grouped (slot ranker (grouped.map Prod.fst)
      (clusterKey python metric.name market)) metric) []

/-- `sorted(metrics, key=_metric_value_score, reverse=True)`, each with its score. -/
def byValue (ranker : Ranker) (service : Research.ServiceFamily) (market : Market)
    (metrics : List KeywordMetric) : Except WorkerError (List (KeywordMetric × PyFloat)) :=
  (metrics.mapM fun metric => (metricValueScore python service market metric).map (metric, ·)).map
    ranker.sortDown

/-- `_cluster_id`. -/
def clusterId (keyword : String) : String := "kw:" ++ slugify python keyword

/-- What the loop over `grouped.values()` adds for one cluster. -/
structure ClusterRun where
  cluster : KeywordCluster
  scoring : KeywordMetric
  grouped : List KeywordMetric
  decisions : List KeywordDecision

/-- `f"grouped_with:{representative.keyword}"`. -/
def groupedWith (representative : KeywordMetric) : String := "grouped_with:" ++ representative.keyword

/-- The decision on a metric that is grouped with a representative. -/
def groupedDecision (representative : KeywordMetric) (duplicate : KeywordMetric × PyFloat) :
    KeywordDecision where
  keyword := duplicate.1.keyword
  canonicalKeyword := normalizeKeyword python duplicate.1.canonicalKeyword
  decision := "grouped_variant"
  reason := some (groupedWith representative)
  rank := none
  representative := false
  clusterId := some (clusterId python representative.keyword)
  intent := some duplicate.1.intent
  searchVolume := duplicate.1.searchVolume
  cpc := duplicate.1.cpc
  granularity := some duplicate.1.marketGranularity
  rankingScore := some (duplicate.2.rounded 2)

/-- `max(metric.search_volume or 0 for metric in cluster)`. -/
def clusterVolume (cluster : List KeywordMetric) : ℤ :=
  ((cluster.map KeywordMetric.volume).max?).getD 0

/-- One round of the loop over the clusters, once its metrics are ranked. -/
def rankedRun (ranked : List (KeywordMetric × PyFloat)) : Option ClusterRun :=
  match ranked with
  | [] => none
  | (representative, _) :: duplicates =>
    let volume := clusterVolume (ranked.map Prod.fst)
    some {
      cluster := {
        representativeKeyword := representative.keyword
        keywords := ranked.map fun entry => entry.1.keyword
        dedupeMethod := if 1 < ranked.length then "close_variant" else "exact"
        combinedVolume := some volume }
      scoring := { representative with included := true, searchVolume := some volume }
      grouped := duplicates.map fun duplicate => { duplicate.1 with
        included := false
        excludedReason := some (groupedWith representative) }
      decisions := duplicates.map (groupedDecision python representative) }

/-- The loop over the clusters. -/
def clusterRuns (ranker : Ranker) (service : Research.ServiceFamily) (market : Market)
    (groups : List (String × List KeywordMetric)) : Except WorkerError (List ClusterRun) :=
  (groups.mapM fun group => byValue python ranker service market group.2).map fun ranked =>
    ranked.filterMap (rankedRun python)

/-- `_decision_reason`. -/
def decisionReason (ranker : Ranker) (metric : KeywordMetric) (score : PyFloat) : String :=
  let cpc := match metric.cpc with
    | none | some (.finite 0) => "0"
    | some cpc => ranker.floatText cpc
  "value_score:" ++ score.fixed1 ++ "; intent:" ++ metric.intent ++ "; cpc:" ++ cpc ++ "; volume:" ++
    toString metric.volume

/-- The decision on a scoring metric at its rank. -/
def scoringDecision (ranker : Ranker) (selected : List String)
    (entry : (KeywordMetric × PyFloat) × Nat) : KeywordDecision where
  keyword := entry.1.1.keyword
  canonicalKeyword := normalizeKeyword python entry.1.1.canonicalKeyword
  decision := if entry.1.1.keyword ∈ selected then "representative" else "included_scoring"
  reason := some (decisionReason ranker entry.1.1 entry.1.2)
  rank := some (entry.2 + 1)
  representative := decide (entry.1.1.keyword ∈ selected)
  clusterId := some (clusterId python entry.1.1.keyword)
  intent := some entry.1.1.intent
  searchVolume := entry.1.1.searchVolume
  cpc := entry.1.1.cpc
  granularity := some entry.1.1.marketGranularity
  rankingScore := some (entry.1.2.rounded 2)

/-- `rank_and_cluster_keyword_metrics`. -/
def rankAndClusterKeywordMetrics (ranker : Ranker) (metrics : List KeywordMetric)
    (service : Research.ServiceFamily) (market : Market) (selectedLimit : ℤ)
    (existingDecisions : List KeywordDecision) : Except WorkerError KeywordMetricPlan :=
  (clusterRuns python ranker service market (groupMetrics python ranker market metrics)).bind
    fun runs =>
  (byValue python ranker service market (runs.map ClusterRun.scoring)).map fun ranked =>
    let scoring := ranked.map Prod.fst
    let selected := scoring.take selectedLimit.toNat
    let selectedKeywords := selected.map KeywordMetric.keyword
    { metrics := (scoring.map fun metric => { metric with included := true }) ++
        runs.flatMap ClusterRun.grouped
      scoringMetrics := scoring
      selectedSerpKeywords := selectedKeywords
      clusters := (runs.map ClusterRun.cluster).mergeSort fun a b =>
        decide (a.representativeKeyword ≤ b.representativeKeyword)
      decisions := existingDecisions ++ runs.flatMap ClusterRun.decisions ++
        ranked.zipIdx.map (scoringDecision python ranker selectedKeywords) }

end

end RankRent.Evidence
