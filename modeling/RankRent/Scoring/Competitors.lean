import Mathlib.Algebra.BigOperators.Ring.List
import Mathlib.Data.List.Perm.Subperm
import Mathlib.Tactic.FieldSimp
import RankRent.Library.PyDict
import RankRent.Scoring.Keywords

/-!
# Competitor weakness

`_unique_domain_competitors`, `_competitor_exposures` and `_competitor_weakness`. The
step of an archetype carries its raw name; the averages that only the texts of the
component quote are left out.
-/

namespace RankRent.Scoring
open Evidence (Python Observation)
open PyString (rounded)

/-! ## One row a domain -/

/-- The domain of a competitor, as `_unique_domain_competitors` compares it. -/
def competitorDomain (python : Python) (competitor : CompetitorMetric) : Except WorkerError String :=
  let named :=
    if competitor.domain ≠ "" then .ok competitor.domain
    else (Evidence.parsedNetloc python competitor.url).map fun netloc =>
      if netloc = "" then competitor.url else netloc
  named.map fun domain => PyString.strip (PyString.removePrefix "www." (python.lower domain))

/-- A position is better: a smaller one, or any instead of none. -/
def ahead : Option ℤ → Option ℤ → Bool
  | none, _ => false
  | some _, none => true
  | some p, some q => decide (p < q)

/-- The observations of two rows, one for each query, position and URL. -/
def mergeObservations (first second : List Observation) : List Observation :=
  let observations := (first ++ second).foldl (fun items observation =>
    PyDict.setItem items observation.key observation) []
  Evidence.sortObservations (observations.map Prod.snd)

/-- Two rows of one domain. -/
def mergeRows (existing competitor : CompetitorMetric) : CompetitorMetric :=
  let chosen := if ahead competitor.serpPosition existing.serpPosition then competitor else existing
  let ordered := mergeObservations existing.serpObservations competitor.serpObservations
  { chosen with
    serpObservations := ordered
    representativeQuery := (ordered.head?.map Observation.query).or chosen.representativeQuery
    serpPosition := (ordered.head?.map Observation.position).or chosen.serpPosition }

/-- One round of the loop of `_unique_domain_competitors`. -/
def addCompetitor (python : Python) (byDomain : List (String × CompetitorMetric))
    (competitor : CompetitorMetric) : Except WorkerError (List (String × CompetitorMetric)) := do
  let domain ← competitorDomain python competitor
  match byDomain.lookup domain with
  | none => return PyDict.setItem byDomain domain competitor
  | some existing => return PyDict.setItem byDomain domain (mergeRows existing competitor)

/-- `_unique_domain_competitors`. -/
def uniqueDomainCompetitors (python : Python) (competitors : List CompetitorMetric) :
    Except WorkerError (List CompetitorMetric) :=
  (competitors.foldlM (addCompetitor python) []).map fun byDomain => byDomain.map Prod.snd

/-! ## Exposure -/

/-- `_competitor_position_weight`. -/
def competitorPositionWeight (config : CompetitorConfig) : Option ℤ → ℚ
  | none => config.unpositionedWeight
  | some position =>
    (config.serpPositionWeights.lookup position).getD
      ((config.serpPositionWeights.map Prod.snd).min?.getD 0)

/-- The queries and positions a competitor is seen at. -/
def CompetitorMetric.appearances (competitor : CompetitorMetric) : List (Option String × Option ℤ) :=
  if competitor.serpObservations.isEmpty then [(competitor.representativeQuery, competitor.serpPosition)]
  else competitor.serpObservations.map fun observation => (some observation.query, some observation.position)

/-- `keyword_evidence_by_query`. -/
def evidenceByQuery (evidence : List KeywordEvidence) : List (String × KeywordEvidence) :=
  evidence.foldl (fun items item => PyDict.setItem items (normalizeQuery item.query) item) []

/-- `exposure_weight` of one appearance. -/
def exposureWeight (config : Config) (byQuery : List (String × KeywordEvidence))
    (appearance : Option String × Option ℤ) : ℚ :=
  let evidence := (appearance.1.filter (· ≠ "")).bind fun query => byQuery.lookup (normalizeQuery query)
  let weight := max (1 / 10000)
    ((evidence.map KeywordEvidence.keywordWeight).getD config.organicClick.keywordWeighting.unmatchedKeywordWeight)
  rounded 4 (weight * competitorPositionWeight config.competitors appearance.2)

/-- The sum of the exposure weights of `_competitor_exposures`. -/
def domainExposureWeight (config : Config) (byQuery : List (String × KeywordEvidence))
    (competitor : CompetitorMetric) : ℚ :=
  (competitor.appearances.map (exposureWeight config byQuery)).sum

/-- `if not competitor.serp_observations and ...` of the loop over the queries. -/
def addQuery (queries : List String) (competitor : CompetitorMetric) : List String :=
  match competitor.representativeQuery with
  | some query =>
    if competitor.serpObservations.isEmpty ∧ query ≠ "" ∧ query ∉ queries then queries ++ [query] else queries
  | none => queries

/-- `observation_queries`. -/
def observationQueries (competitors : List CompetitorMetric) : List String :=
  competitors.foldl addQuery (competitors.flatMap fun competitor =>
    competitor.serpObservations.map Observation.query).eraseDups

/-! ## Weakness -/

/-- What one domain brings into the component. -/
structure Weakness where
  base : ℚ
  relevanceDeduction : ℚ
  archetype : String
  archetypeAdjustment : ℚ
  exposure : ℚ
  deriving DecidableEq

def Weakness.raw (w : Weakness) : ℚ := w.base + w.relevanceDeduction + w.archetypeAdjustment

/-- `normalized_value`. -/
def Weakness.normalized (w : Weakness) : ℚ := max 0 (min 1 w.raw)

/-- `base`. -/
def linkWeakness (config : CompetitorConfig) : Option ℤ → Except WorkerError ℚ
  | none => .ok config.unknownReferringDomainsWeakness
  | some referring =>
    let span := config.strongReferringDomains - config.weakReferringDomains
    (divide (min (max (referring - config.weakReferringDomains) 0) span) (max 1 span)).map (1 - ·)

/-- `direct_relevance`. -/
def directRelevance (config : CompetitorConfig) (competitor : CompetitorMetric) : Except WorkerError ℚ := do
  let service := max 0 config.serviceWeight
  let local_ := max 0 config.localWeight
  let interaction := max 0 config.interactionWeight
  let total := service + local_ + interaction
  let share (configured : ℚ) : Except WorkerError ℚ := if 0 < total then divide configured total else .ok 0
  let serviceRelevance := max 0 (min 1 (competitor.pageRelevanceScore.getD (1 / 2)))
  let localRelevance := max 0 (min 1 (competitor.localRelevance.getD 0))
  return (← share service) * serviceRelevance + (← share local_) * localRelevance +
    (← share interaction) * (serviceRelevance * localRelevance)

/-- `archetype`. -/
def CompetitorMetric.archetype (python : Python) (competitor : CompetitorMetric) : String :=
  let signal := Provider.get competitor.relevanceSignals "competitor_archetype"
  if signal.truthy then Evidence.str python signal
  else if competitor.pageType ≠ "" then competitor.pageType
  else "unknown"

/-- One round of the loop of `_competitor_weakness`. -/
def weaknessOf (python : Python) (config : Config) (byQuery : List (String × KeywordEvidence))
    (competitor : CompetitorMetric) : Except WorkerError Weakness := do
  let base ← linkWeakness config.competitors competitor.referringDomains
  let relevance ← directRelevance config.competitors competitor
  let archetype := competitor.archetype python
  return {
    base := base
    relevanceDeduction := -(base * (config.competitors.relevanceThreatStrength * relevance))
    archetype := archetype
    archetypeAdjustment := (config.competitors.archetypeWeaknessAdjustments.lookup archetype).getD 0
    exposure := domainExposureWeight config byQuery competitor }

/-- `archetype_point_totals`. -/
def archetypePointTotals (weaknesses : List Weakness) : List (String × ℚ) :=
  PyDict.tally weaknesses Weakness.archetype fun w => w.archetypeAdjustment * w.exposure

/-- The score and the steps of `_competitor_weakness`, once each domain is weighed. -/
def weaknessComponent (weight : ℚ) (weaknesses : List Weakness) : Except WorkerError Component := do
  let total := (weaknesses.map Weakness.exposure).sum
  let points (sum : ℚ) : Except WorkerError ℚ := (divide sum total).map (· * weight)
  let weighted := (weaknesses.map fun w => w.normalized * w.exposure).sum
  let unclamped := (weaknesses.map fun w => w.raw * w.exposure).sum
  let score ← points weighted
  let basePoints ← points (weaknesses.map fun w => w.base * w.exposure).sum
  let relevancePoints ← points (weaknesses.map fun w => w.relevanceDeduction * w.exposure).sum
  let adjustments ← ((PyJson.sortKeys (archetypePointTotals weaknesses)).filter fun (_, adjustment) =>
    ¬ |adjustment| < 1 / 10000).mapM fun (archetype, adjustment) => do
      return (⟨archetype ++ " adjustment", rounded 4 (← points adjustment)⟩ : Step)
  let clampPoints ← points (weighted - unclamped)
  return ⟨bounded score weight,
    [⟨"Link weakness baseline", rounded 4 basePoints⟩, ⟨"Direct relevance threat", rounded 4 relevancePoints⟩] ++
    adjustments ++ stepFrom (1 / 10000) "Boundary adjustment" clampPoints⟩

/-- `_competitor_weakness`. -/
def competitorWeakness (python : Python) (config : Config) (competitors : List CompetitorMetric)
    (metrics : List KeywordMetric) : Except WorkerError Component := do
  let competitors ← uniqueDomainCompetitors python competitors
  if competitors.isEmpty then return ⟨0, [⟨"Missing competitor evidence", 0⟩]⟩
  else
    let evidence ← queryKeywordEvidence config.organicClick.keywordWeighting
      (observationQueries competitors) metrics
    let weaknesses ← competitors.mapM (weaknessOf python config (evidenceByQuery evidence))
    weaknessComponent config.weights.competitorWeakness weaknesses

/-! ## What it gives -/

/-- `base` of the shipped configuration. -/
def linkValue : Option ℤ → ℚ
  | none => 45 / 100
  | some referring => 1 - min (max ((referring : ℚ) - 35) 0) (260 - 35) / max 1 (260 - 35)

def serviceRelevance (competitor : CompetitorMetric) : ℚ :=
  max 0 (min 1 (competitor.pageRelevanceScore.getD (1 / 2)))

def localRelevance (competitor : CompetitorMetric) : ℚ := max 0 (min 1 (competitor.localRelevance.getD 0))

/-- `direct_relevance` of the shipped configuration. -/
def relevanceValue (competitor : CompetitorMetric) : ℚ :=
  55 / 100 * serviceRelevance competitor + 25 / 100 * localRelevance competitor +
    20 / 100 * (serviceRelevance competitor * localRelevance competitor)

/-- What a domain brings into the component, by the keyword weights. -/
def weaknessValue (python : Python) (byQuery : List (String × KeywordEvidence)) (competitor : CompetitorMetric) :
    Weakness where
  base := linkValue competitor.referringDomains
  relevanceDeduction := -(linkValue competitor.referringDomains * (65 / 100 * relevanceValue competitor))
  archetype := competitor.archetype python
  archetypeAdjustment := (shipped.competitors.archetypeWeaknessAdjustments.lookup (competitor.archetype python)).getD 0
  exposure := domainExposureWeight shipped byQuery competitor

theorem linkWeakness_eq (referring : Option ℤ) :
    linkWeakness shipped.competitors referring = .ok (linkValue referring) := by
  cases referring with
  | none => rfl
  | some n =>
    have span : max 1 (shipped.competitors.strongReferringDomains - shipped.competitors.weakReferringDomains) ≠ 0 := by
      norm_num [shipped]
    simp only [linkWeakness, divide_of_ne span]
    rfl

theorem directRelevance_eq (competitor : CompetitorMetric) :
    directRelevance shipped.competitors competitor = .ok (relevanceValue competitor) := by
  have total : (55 / 100 + 25 / 100 + 20 / 100 : ℚ) = 1 := by norm_num
  have service : max 0 shipped.competitors.serviceWeight = 55 / 100 := by norm_num [shipped]
  have near_ : max 0 shipped.competitors.localWeight = 25 / 100 := by norm_num [shipped]
  have interaction : max 0 shipped.competitors.interactionWeight = 20 / 100 := by norm_num [shipped]
  unfold directRelevance
  simp only [service, near_, interaction]
  simp only [total, zero_lt_one, if_true, divide_of_ne one_ne_zero, div_one, bind, Except.bind, pure, Except.pure]
  rfl

theorem weaknessOf_eq (python : Python) (byQuery : List (String × KeywordEvidence)) (competitor : CompetitorMetric) :
    weaknessOf python shipped byQuery competitor = .ok (weaknessValue python byQuery competitor) := by
  unfold weaknessOf
  simp only [linkWeakness_eq, directRelevance_eq, bind, Except.bind, pure, Except.pure]
  rfl

/-- The steps of `weaknessComponent`. -/
def weaknessSteps (weight : ℚ) (weaknesses : List Weakness) : List Step :=
  let total := (weaknesses.map Weakness.exposure).sum
  let weighted := (weaknesses.map fun w => w.normalized * w.exposure).sum
  let unclamped := (weaknesses.map fun w => w.raw * w.exposure).sum
  [⟨"Link weakness baseline", rounded 4 ((weaknesses.map fun w => w.base * w.exposure).sum / total * weight)⟩,
    ⟨"Direct relevance threat",
      rounded 4 ((weaknesses.map fun w => w.relevanceDeduction * w.exposure).sum / total * weight)⟩] ++
  ((PyJson.sortKeys (archetypePointTotals weaknesses)).filter fun (_, adjustment) =>
    ¬ |adjustment| < 1 / 10000).map (fun (archetype, adjustment) =>
      ⟨archetype ++ " adjustment", rounded 4 (adjustment / total * weight)⟩) ++
  stepFrom (1 / 10000) "Boundary adjustment" ((weighted - unclamped) / total * weight)

/-- The score of `weaknessComponent` before it is rounded. -/
def weaknessScore (weight : ℚ) (weaknesses : List Weakness) : ℚ :=
  (weaknesses.map fun w => w.normalized * w.exposure).sum / (weaknesses.map Weakness.exposure).sum * weight

theorem weaknessComponent_eq (weight : ℚ) {weaknesses : List Weakness}
    (nonzero : (weaknesses.map Weakness.exposure).sum ≠ 0) :
    weaknessComponent weight weaknesses =
      .ok ⟨bounded (weaknessScore weight weaknesses) weight, weaknessSteps weight weaknesses⟩ := by
  unfold weaknessComponent
  simp only [divide_of_ne nonzero, Except.map, bind, Except.bind, pure, Except.pure]
  rw [Checks.mapM_ok fun adjustment _ => rfl]
  rfl

/-! ### Exposure -/

theorem lookup_evidenceByQuery (evidence : List KeywordEvidence) (key : String) :
    (evidenceByQuery evidence).lookup key =
      (evidence.filter fun item => normalizeQuery item.query = key).getLast? := by
  induction evidence using List.reverseRecOn with
  | nil => rfl
  | append_singleton evidence item ih =>
    rw [evidenceByQuery, List.foldl_append, List.filter_append]
    change (PyDict.setItem (evidenceByQuery evidence) (normalizeQuery item.query) item).lookup key = _
    by_cases same : normalizeQuery item.query = key
    · subst same
      simp
    · rw [PyDict.lookup_setItem_of_ne _ _ (Ne.symm same), ih]
      simp [same]

/-- `_query_keyword_evidence` of the queries of the competitors, by query. -/
def queryEvidence (metrics : List KeywordMetric) (queries : List String) : List (String × KeywordEvidence) :=
  evidenceByQuery (queries.map fun query =>
    ⟨query, (matchedMetric metrics query).map KeywordMetric.keyword, queryWeight metrics queries query⟩)

/-- The weight of a query of a competitor: by its normal form. -/
def appearanceWeight (metrics : List KeywordMetric) (queries : List String) (query : Option String) : ℚ :=
  match query.filter (· ≠ "") with
  | some query =>
    if normalizeQuery query ∈ queries.map normalizeQuery then queryWeight metrics queries query else 1
  | none => 1

theorem queryWeight_congr (metrics : List KeywordMetric) (queries : List String) {q r : String}
    (same : normalizeQuery q = normalizeQuery r) :
    queryWeight metrics queries q = queryWeight metrics queries r := by
  simp only [queryWeight, matchedMetric, same]

theorem lookup_queryEvidence (metrics : List KeywordMetric) (queries : List String) (query : String) :
    (((queryEvidence metrics queries).lookup (normalizeQuery query)).map KeywordEvidence.keywordWeight).getD 1 =
      if normalizeQuery query ∈ queries.map normalizeQuery then queryWeight metrics queries query else 1 := by
  rw [queryEvidence, lookup_evidenceByQuery]
  cases found : ((queries.map fun query => (⟨query, (matchedMetric metrics query).map KeywordMetric.keyword,
      queryWeight metrics queries query⟩ : KeywordEvidence)).filter fun item =>
        normalizeQuery item.query = normalizeQuery query).getLast? with
  | none =>
    rw [if_neg]
    · rfl
    · intro there
      obtain ⟨other, member, same⟩ := List.mem_map.mp there
      have none_ := List.getLast?_eq_none_iff.mp found
      rw [List.filter_eq_nil_iff] at none_
      exact none_ _ (List.mem_map_of_mem member) (by simpa using same)
  | some item =>
    have member := List.mem_of_getLast? found
    obtain ⟨there, same⟩ := List.mem_filter.mp member
    obtain ⟨other, known, rfl⟩ := List.mem_map.mp there
    have same : normalizeQuery other = normalizeQuery query := by simpa using same
    rw [if_pos (same ▸ List.mem_map_of_mem known)]
    exact queryWeight_congr metrics queries same

theorem appearanceWeight_bounds (metrics : List KeywordMetric) (queries : List String) (query : Option String) :
    25 / 100 ≤ appearanceWeight metrics queries query ∧ appearanceWeight metrics queries query ≤ 1 := by
  unfold appearanceWeight
  split
  · rename_i query _
    by_cases there : normalizeQuery query ∈ queries.map normalizeQuery
    · obtain ⟨other, member, same⟩ := List.mem_map.mp there
      rw [if_pos there, ← queryWeight_congr metrics queries same]
      exact queryWeight_bounds metrics member
    · norm_num [there]
  · norm_num

theorem competitorPositionWeight_ge (position : Option ℤ) :
    18 / 100 ≤ competitorPositionWeight shipped.competitors position := by
  cases position with
  | none => norm_num [competitorPositionWeight, shipped]
  | some position =>
    unfold competitorPositionWeight
    dsimp only
    cases found : shipped.competitors.serpPositionWeights.lookup position with
    | none => norm_num [shipped, positionWeights, List.min?]
    | some weight =>
      have all : ∀ entry ∈ positionWeights, (18 / 100 : ℚ) ≤ entry.2 := by norm_num [positionWeights]
      exact all _ (PyDict.mem_of_lookup found)

theorem exposureWeight_eq (metrics : List KeywordMetric) (queries : List String)
    (appearance : Option String × Option ℤ) :
    exposureWeight shipped (queryEvidence metrics queries) appearance =
      rounded 4 (appearanceWeight metrics queries appearance.1 *
        competitorPositionWeight shipped.competitors appearance.2) := by
  have weight : (((appearance.1.filter (· ≠ "")).bind fun query =>
      (queryEvidence metrics queries).lookup (normalizeQuery query)).map KeywordEvidence.keywordWeight).getD 1 =
        appearanceWeight metrics queries appearance.1 := by
    unfold appearanceWeight
    cases appearance.1.filter (· ≠ "") with
    | none => rfl
    | some query => exact lookup_queryEvidence metrics queries query
  have bounds := appearanceWeight_bounds metrics queries appearance.1
  have raised : max (1 / 10000) (appearanceWeight metrics queries appearance.1) =
      appearanceWeight metrics queries appearance.1 := max_eq_right (by linarith [bounds.1])
  unfold exposureWeight
  dsimp only
  change rounded 4 (max (1 / 10000) ((((appearance.1.filter (· ≠ "")).bind fun query =>
      (queryEvidence metrics queries).lookup (normalizeQuery query)).map
        KeywordEvidence.keywordWeight).getD 1) * _) = _
  rw [weight, raised]

theorem exposureWeight_ge (metrics : List KeywordMetric) (queries : List String)
    (appearance : Option String × Option ℤ) :
    45 / 1000 ≤ exposureWeight shipped (queryEvidence metrics queries) appearance := by
  have weight := (appearanceWeight_bounds metrics queries appearance.1).1
  have position := competitorPositionWeight_ge appearance.2
  rw [exposureWeight_eq]
  refine PyString.le_rounded ⟨450, by norm_num⟩ ?_
  nlinarith

theorem appearances_ne_nil (competitor : CompetitorMetric) : competitor.appearances ≠ [] := by
  unfold CompetitorMetric.appearances
  cases found : competitor.serpObservations <;> simp

/-- Every domain is seen somewhere. -/
theorem domainExposureWeight_ge (metrics : List KeywordMetric) (queries : List String)
    (competitor : CompetitorMetric) :
    45 / 1000 ≤ domainExposureWeight shipped (queryEvidence metrics queries) competitor := by
  obtain ⟨first, rest, eq⟩ := List.exists_cons_of_ne_nil (appearances_ne_nil competitor)
  have others : 0 ≤ (rest.map (exposureWeight shipped (queryEvidence metrics queries))).sum := by
    refine List.sum_nonneg ?_
    intro weight member
    obtain ⟨appearance, -, rfl⟩ := List.mem_map.mp member
    linarith [exposureWeight_ge metrics queries appearance]
  rw [domainExposureWeight, eq, List.map_cons, List.sum_cons]
  linarith [exposureWeight_ge metrics queries first]

/-! ### Its steps -/

/-- What a domain brings in comes from its archetype, and every domain is seen. -/
structure Weakness.Shipped (w : Weakness) : Prop where
  adjusted : w.archetypeAdjustment = (shipped.competitors.archetypeWeaknessAdjustments.lookup w.archetype).getD 0
  seen : 45 / 1000 ≤ w.exposure

theorem weaknessValue_shipped (python : Python) (metrics : List KeywordMetric) (queries : List String)
    (competitor : CompetitorMetric) : (weaknessValue python (queryEvidence metrics queries) competitor).Shipped :=
  ⟨rfl, domainExposureWeight_ge metrics queries competitor⟩

theorem normalized_bounds (w : Weakness) : 0 ≤ w.normalized ∧ w.normalized ≤ 1 :=
  ⟨le_max_left _ _, max_le zero_le_one (min_le_left _ _)⟩

section
variable {weaknesses : List Weakness}

theorem exposure_pos (some : weaknesses ≠ []) (all : ∀ w ∈ weaknesses, w.Shipped) :
    0 < (weaknesses.map Weakness.exposure).sum := by
  refine List.sum_pos _ ?_ (by simpa using some)
  intro exposure member
  obtain ⟨w, there, rfl⟩ := List.mem_map.mp member
  linarith [(all w there).seen]

theorem weaknessScore_bounds {weight : ℚ} (nonneg : 0 ≤ weight) (some : weaknesses ≠ [])
    (all : ∀ w ∈ weaknesses, w.Shipped) :
    0 ≤ weaknessScore weight weaknesses ∧ weaknessScore weight weaknesses ≤ weight := by
  have total := exposure_pos some all
  have low : 0 ≤ (weaknesses.map fun w => w.normalized * w.exposure).sum := by
    refine List.sum_nonneg ?_
    intro part member
    obtain ⟨w, there, rfl⟩ := List.mem_map.mp member
    exact mul_nonneg (normalized_bounds w).1 (by linarith [(all w there).seen])
  have high : (weaknesses.map fun w => w.normalized * w.exposure).sum ≤ (weaknesses.map Weakness.exposure).sum := by
    refine List.sum_le_sum fun w there => ?_
    exact mul_le_of_le_one_left (by linarith [(all w there).seen]) (normalized_bounds w).2
  unfold weaknessScore
  constructor
  · exact mul_nonneg (div_nonneg low total.le) nonneg
  · exact mul_le_of_le_one_left nonneg ((div_le_one total).mpr high)

/-- The points of an archetype: its adjustment, by how much its domains are seen. -/
theorem archetypePoints (all : ∀ w ∈ weaknesses, w.Shipped) {entry : String × ℚ}
    (member : entry ∈ archetypePointTotals weaknesses) :
    ∃ seen : ℚ, 45 / 1000 ≤ seen ∧
      entry.2 = (shipped.competitors.archetypeWeaknessAdjustments.lookup entry.1).getD 0 * seen := by
  have found := PyDict.lookup_of_mem (PyDict.nodup_tally weaknesses Weakness.archetype _) member
  have value := PyDict.lookup_tally weaknesses Weakness.archetype
    (fun w => w.archetypeAdjustment * w.exposure) entry.1
  obtain ⟨first, there, same⟩ := PyDict.mem_keys_tally.mp (List.mem_map_of_mem member)
  have parts : ∀ w ∈ weaknesses, (if w.archetype = entry.1 then w.archetypeAdjustment * w.exposure else 0) =
      (shipped.competitors.archetypeWeaknessAdjustments.lookup entry.1).getD 0 *
        (if w.archetype = entry.1 then w.exposure else 0) := by
    intro w inside
    by_cases is : w.archetype = entry.1
    · rw [if_pos is, if_pos is, (all w inside).adjusted, is]
    · simp [is]
  refine ⟨(weaknesses.map fun w => if w.archetype = entry.1 then w.exposure else 0).sum, ?_, ?_⟩
  · have nonneg : ∀ part ∈ weaknesses.map fun w => if w.archetype = entry.1 then w.exposure else 0, (0 : ℚ) ≤ part := by
      intro part inside
      obtain ⟨w, known, rfl⟩ := List.mem_map.mp inside
      split
      · linarith [(all w known).seen]
      · exact le_rfl
    have one := List.single_le_sum nonneg _ (List.mem_map_of_mem there)
    rw [if_pos same] at one
    exact (all first there).seen.trans one
  · rw [← List.sum_map_mul_left, ← List.map_congr_left parts, ← value]
    exact (congrArg (Option.getD · 0) found).symm

/-- The adjustments that are small enough to leave out are none. -/
theorem archetypePoints_small (all : ∀ w ∈ weaknesses, w.Shipped) {entry : String × ℚ}
    (member : entry ∈ archetypePointTotals weaknesses) (small : |entry.2| < 1 / 10000) : entry.2 = 0 := by
  obtain ⟨seen, enough, eq⟩ := archetypePoints all member
  have adjustments : ∀ item ∈ shipped.competitors.archetypeWeaknessAdjustments,
      item.2 = 0 ∨ 4 / 100 ≤ |item.2| := by
    norm_num [shipped, abs_of_pos, abs_of_neg]
  cases found : shipped.competitors.archetypeWeaknessAdjustments.lookup entry.1 with
  | none => simp [eq, found]
  | some adjustment =>
    rw [found, Option.getD_some] at eq
    rcases adjustments _ (PyDict.mem_of_lookup found) with zero | large
    · have zero : adjustment = 0 := zero
      simp [eq, zero]
    · have positive : 0 < seen := by linarith
      have size : |entry.2| = |adjustment| * seen := by rw [eq, abs_mul, abs_of_pos positive]
      have large : 4 / 100 ≤ |adjustment| := large
      nlinarith

theorem archetypeSteps_length (all : ∀ w ∈ weaknesses, w.Shipped) :
    ((PyJson.sortKeys (archetypePointTotals weaknesses)).filter fun (_, adjustment) =>
      ¬ |adjustment| < 1 / 10000).length ≤ 8 := by
  have sorted : (PyJson.sortKeys (archetypePointTotals weaknesses)).Perm (archetypePointTotals weaknesses) :=
    List.mergeSort_perm ..
  have distinct : ((PyJson.sortKeys (archetypePointTotals weaknesses)).map Prod.fst).Nodup :=
    (sorted.map Prod.fst).nodup_iff.mpr (PyDict.nodup_tally _ _ _)
  have kept := (List.filter_sublist (l := PyJson.sortKeys (archetypePointTotals weaknesses))
    (p := fun (_, adjustment) => ¬ |adjustment| < 1 / 10000)).map Prod.fst
  have known : ((PyJson.sortKeys (archetypePointTotals weaknesses)).filter fun (_, adjustment) =>
      ¬ |adjustment| < 1 / 10000).map Prod.fst ⊆
        shipped.competitors.archetypeWeaknessAdjustments.map Prod.fst := by
    intro archetype member
    obtain ⟨entry, there, rfl⟩ := List.mem_map.mp member
    obtain ⟨inside, large⟩ := List.mem_filter.mp there
    obtain ⟨seen, -, eq⟩ := archetypePoints all (sorted.subset inside)
    refine PyDict.lookup_isSome.mp (Option.isSome_iff_ne_none.mpr fun absent => ?_)
    rw [absent] at eq
    norm_num [eq] at large
  have bound := ((distinct.sublist kept).subperm known).length_le
  rwa [List.length_map] at bound

end

/-- The points of the archetypes are those of the domains. -/
theorem archetypeSteps_sum {weaknesses : List Weakness} (all : ∀ w ∈ weaknesses, w.Shipped) (total weight : ℚ) :
    (((PyJson.sortKeys (archetypePointTotals weaknesses)).filter fun (_, adjustment) =>
      ¬ |adjustment| < 1 / 10000).map fun (_, adjustment) => adjustment / total * weight).sum =
        (weaknesses.map fun w => w.archetypeAdjustment * w.exposure).sum / total * weight := by
  have sorted : (PyJson.sortKeys (archetypePointTotals weaknesses)).Perm (archetypePointTotals weaknesses) :=
    List.mergeSort_perm ..
  have small : ∀ entry ∈ PyJson.sortKeys (archetypePointTotals weaknesses), ¬¬ |entry.2| < 1 / 10000 →
      entry.2 / total * weight = 0 := by
    intro entry member small
    rw [archetypePoints_small all (sorted.subset member) (not_not.mp small), zero_div, zero_mul]
  have kept := sum_filter_of_zero small
  have rows := PyDict.sum_tally weaknesses Weakness.archetype (fun w => w.archetypeAdjustment * w.exposure)
    (g := fun _ adjustment => adjustment / total * weight) (by intros; ring)
  have moved := (sorted.map fun entry => entry.2 / total * weight).sum_eq
  have pulled : (weaknesses.map fun w => w.archetypeAdjustment * w.exposure / total * weight).sum =
      (weaknesses.map fun w => w.archetypeAdjustment * w.exposure).sum / total * weight := by
    simp only [div_eq_mul_inv, List.sum_map_mul_right]
  exact kept.trans (moved.trans (rows.trans pulled))

/-- The score and its steps. -/
theorem weaknessComponent_sound {weaknesses : List Weakness} (some : weaknesses ≠ [])
    (all : ∀ w ∈ weaknesses, w.Shipped) :
    Component.Sound ⟨bounded (weaknessScore 22 weaknesses) 22, weaknessSteps 22 weaknesses⟩ 22 := by
  have total := exposure_pos some all
  have bounds := weaknessScore_bounds (show (0 : ℚ) ≤ 22 by norm_num) some all
  refine sound_of_near (PyString.whole_intCast 2 22) (by norm_num) ?_
  rw [min_eq_right bounds.2, max_eq_right bounds.1]
  have adjustments := @near_map _ ((PyJson.sortKeys (archetypePointTotals weaknesses)).filter
      fun (_, adjustment) => ¬ |adjustment| < 1 / 10000)
    (fun (archetype, _) => archetype ++ " adjustment")
    fun (_, adjustment) => adjustment / (weaknesses.map Weakness.exposure).sum * 22
  rw [archetypeSteps_sum all] at adjustments
  have boundary := @near_stepFrom (1 / 10000) "Boundary adjustment"
    (((weaknesses.map fun w => w.normalized * w.exposure).sum - (weaknesses.map fun w => w.raw * w.exposure).sum) /
      (weaknesses.map Weakness.exposure).sum * 22) (by norm_num)
  have near := (((near_rounded "Link weakness baseline" ((weaknesses.map fun w => w.base * w.exposure).sum /
      (weaknesses.map Weakness.exposure).sum * 22)).append
    (near_rounded "Direct relevance threat" ((weaknesses.map fun w => w.relevanceDeduction * w.exposure).sum /
      (weaknesses.map Weakness.exposure).sum * 22))).append adjustments).append boundary
  have parts : (weaknesses.map fun w => w.raw * w.exposure).sum =
      (weaknesses.map fun w => w.base * w.exposure).sum +
        (weaknesses.map fun w => w.relevanceDeduction * w.exposure).sum +
          (weaknesses.map fun w => w.archetypeAdjustment * w.exposure).sum := by
    simp only [Weakness.raw, add_mul, List.sum_map_add]
  have adds : ∀ b r a n t u : ℚ, u = b + r + a →
      b / t * 22 + r / t * 22 + a / t * 22 + (n - u) / t * 22 = n / t * 22 := by
    intro b r a n t u eq
    rw [eq]
    ring
  have count : ((((PyJson.sortKeys (archetypePointTotals weaknesses)).filter fun (_, adjustment) =>
      ¬ |adjustment| < 1 / 10000).length : ℕ) : ℚ) ≤ 8 := by exact_mod_cast archetypeSteps_length all
  have enough : ∀ n : ℚ, n ≤ 8 → 1 / 20000 + 1 / 20000 + n * (1 / 20000) + 1 / 10000 ≤ (1 / 200 : ℚ) := by
    intro n le
    linarith
  rw [adds _ _ _ _ _ _ parts] at near
  exact near.weaken (enough _ count)

/-! ### The component -/

/-- What `_competitor_weakness` gives of the domains. -/
def weaknessFrom (python : Python) (competitors : List CompetitorMetric) (metrics : List KeywordMetric) : Component :=
  if competitors.isEmpty then ⟨0, [⟨"Missing competitor evidence", 0⟩]⟩
  else
    let weaknesses := competitors.map (weaknessValue python (queryEvidence metrics (observationQueries competitors)))
    ⟨bounded (weaknessScore 22 weaknesses) 22, weaknessSteps 22 weaknesses⟩

theorem competitorWeakness_eq (python : Python) (competitors : List CompetitorMetric) (metrics : List KeywordMetric) :
    competitorWeakness python shipped competitors metrics =
      (uniqueDomainCompetitors python competitors).map (weaknessFrom python · metrics) := by
  unfold competitorWeakness
  cases uniqueDomainCompetitors python competitors with
  | error e => rfl
  | ok rows =>
    change (if rows.isEmpty then _ else _) = Except.ok (weaknessFrom python rows metrics)
    unfold weaknessFrom
    by_cases none_ : rows.isEmpty
    · rw [if_pos none_, if_pos none_]
      rfl
    · rw [if_neg none_, if_neg none_]
      have nonempty : rows ≠ [] := by simpa using none_
      change ((queryKeywordEvidence keywordWeighting _ _).bind _) = _
      rw [evidence_eq]
      change ((rows.mapM (weaknessOf python shipped (queryEvidence metrics (observationQueries rows)))).bind _) = _
      rw [Checks.mapM_ok fun competitor _ => weaknessOf_eq python _ competitor]
      exact weaknessComponent_eq 22 (exposure_pos (by simpa using nonempty) (by
        intro w member
        obtain ⟨competitor, -, rfl⟩ := List.mem_map.mp member
        exact weaknessValue_shipped python metrics _ competitor)).ne'

theorem weaknessFrom_sound (python : Python) (competitors : List CompetitorMetric) (metrics : List KeywordMetric) :
    (weaknessFrom python competitors metrics).Sound shipped.weights.competitorWeakness := by
  unfold weaknessFrom
  by_cases none_ : competitors.isEmpty
  · rw [if_pos none_]
    exact ⟨le_rfl, by norm_num [shipped], by norm_num [Component.points]⟩
  · rw [if_neg none_]
    refine weaknessComponent_sound (by simpa using none_) ?_
    intro w member
    obtain ⟨competitor, -, rfl⟩ := List.mem_map.mp member
    exact weaknessValue_shipped python metrics _ competitor

/-- A competitor fails only where it has no domain and its URL cannot be read. -/
theorem competitorDomain_error {python : Python} {competitor : CompetitorMetric} {e : WorkerError}
    (failed : competitorDomain python competitor = .error e) :
    competitor.domain = "" ∧ Evidence.parsedNetloc python competitor.url = .error e := by
  unfold competitorDomain at failed
  dsimp only at failed
  by_cases named : competitor.domain = ""
  · rw [if_neg (not_not.mpr named)] at failed
    cases parsed : Evidence.parsedNetloc python competitor.url with
    | error other =>
      rw [parsed] at failed
      exact ⟨named, failed⟩
    | ok netloc =>
      rw [parsed] at failed
      cases failed
  · rw [if_pos named] at failed
    cases failed

theorem uniqueDomainCompetitors_error {python : Python} {competitors : List CompetitorMetric} {e : WorkerError}
    (failed : uniqueDomainCompetitors python competitors = .error e) :
    ∃ competitor ∈ competitors, competitor.domain = "" ∧ Evidence.parsedNetloc python competitor.url = .error e := by
  have rounds : ∀ (competitors : List CompetitorMetric) (rows : List (String × CompetitorMetric)),
      competitors.foldlM (addCompetitor python) rows = .error e →
        ∃ competitor ∈ competitors,
          competitor.domain = "" ∧ Evidence.parsedNetloc python competitor.url = .error e := by
    intro competitors
    induction competitors with
    | nil =>
      intro rows failed
      cases failed
    | cons competitor rest ih =>
      intro rows failed
      rw [List.foldlM_cons] at failed
      cases first : addCompetitor python rows competitor with
      | error other =>
        rw [first] at failed
        cases failed
        refine ⟨competitor, List.mem_cons_self, competitorDomain_error ?_⟩
        unfold addCompetitor at first
        cases domain : competitorDomain python competitor with
        | error other =>
          rw [domain] at first
          cases first
          rfl
        | ok name =>
          rw [domain] at first
          dsimp only [bind, Except.bind] at first
          split at first <;> cases first
      | ok next =>
        rw [first] at failed
        obtain ⟨later, member, parsed⟩ := ih next failed
        exact ⟨later, List.mem_cons_of_mem competitor member, parsed⟩
  unfold uniqueDomainCompetitors at failed
  cases ran : competitors.foldlM (addCompetitor python) [] with
  | error other =>
    rw [ran] at failed
    cases failed
    exact rounds competitors [] ran
  | ok rows =>
    rw [ran] at failed
    cases failed

end RankRent.Scoring
