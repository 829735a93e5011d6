import Mathlib.Algebra.Order.Ring.Rat
import Mathlib.Tactic.NormNum

/-!
# The scoring configuration

What `OpportunityScorer` reads of `config/scoring.yaml`, and the file the repository
ships. Numbers are exact.
-/

namespace RankRent.Scoring

/-- `weights`. -/
structure Weights where
  demandEvidence : ℚ
  commercialValue : ℚ
  competitorWeakness : ℚ
  organicClickAvailability : ℚ
  providerSuitability : ℚ
  dataCompleteness : ℚ

def Weights.toList (w : Weights) : List ℚ :=
  [w.demandEvidence, w.commercialValue, w.competitorWeakness, w.organicClickAvailability, w.providerSuitability,
    w.dataCompleteness]

/-- `demand.measured_local` and `demand.population_estimated`. -/
structure MarketProfile where
  strongMonthlyVolume : ℚ
  maximumComponentCredit : ℚ

/-- `demand`. -/
structure DemandConfig where
  serviceAttractivenessShare : ℚ
  marketAttractivenessShare : ℚ
  nationalStrongMonthlyVolume : ℚ
  measuredLocal : MarketProfile
  populationEstimated : MarketProfile

/-- `commercial`. -/
structure CommercialConfig where
  strongCpc : ℚ
  strongPaidCompetition : ℚ
  cpcShare : ℚ
  paidCompetitionShare : ℚ
  highIntentShare : ℚ

/-- `competitors`. -/
structure CompetitorConfig where
  weakReferringDomains : ℚ
  strongReferringDomains : ℚ
  unknownReferringDomainsWeakness : ℚ
  relevanceThreatStrength : ℚ
  serviceWeight : ℚ
  localWeight : ℚ
  interactionWeight : ℚ
  unpositionedWeight : ℚ
  serpPositionWeights : List (ℤ × ℚ)
  archetypeWeaknessAdjustments : List (String × ℚ)

/-- `organic_click.keyword_weighting`. -/
structure KeywordWeighting where
  demandShare : ℚ
  commercialShare : ℚ
  minimumWeight : ℚ
  unmatchedKeywordWeight : ℚ

/-- `organic_click`; the penalties of the classifications are in the order of
`classification_penalties`. -/
structure OrganicClickConfig where
  serpPositionWeights : List (ℤ × ℚ)
  keywordWeighting : KeywordWeighting
  classificationPenalties : List (String × ℚ)
  shoppingProductPenalty : ℚ
  shoppingProductResultTypes : List String
  localPackPenalty : ℚ
  adsTopPenalty : ℚ

/-- `providers`. -/
structure ProviderConfig where
  suitableThreshold : ℚ
  qualitySampleSize : ℤ
  statusScores : List (String × ℚ)
  idealMin : ℤ
  idealMax : ℤ
  oversupplyCount : ℤ

/-- `confidence.deductions`. -/
structure Deductions where
  missingField : ℚ
  missingLocalDemand : ℚ
  lowConfidenceMarketEstimate : ℚ
  mediumConfidenceMarketEvidence : ℚ
  staleKeywordMetrics : ℚ
  staleSerps : ℚ
  limitedSerpSample : ℚ
  limitedCompetitorSample : ℚ
  limitedProviderSample : ℚ
  unknownSerpClassification : ℚ

/-- `confidence`. -/
structure ConfidenceConfig where
  high : ℚ
  medium : ℚ
  low : ℚ
  keywordMaxAgeDays : ℚ
  serpMaxAgeDays : ℚ
  representativeSerpTarget : ℤ
  competitorSampleTarget : ℤ
  providerSampleTarget : ℤ
  maximumUnknownSerpShareForHigh : ℚ
  sourceModePenalties : List (String × ℚ)
  deductions : Deductions

structure Config where
  weights : Weights
  missingDataPenaltyMax : ℚ
  missingDataPenalties : List (String × ℚ)
  missingEvidenceScoreCaps : List (String × ℚ)
  dataCompletenessExpectedGroups : ℤ
  demand : DemandConfig
  confidence : ConfidenceConfig
  commercial : CommercialConfig
  competitors : CompetitorConfig
  organicClick : OrganicClickConfig
  providers : ProviderConfig

/-! ## The shipped file -/

/-- Both `serp_position_weights`. -/
def positionWeights : List (ℤ × ℚ) :=
  [(1, 1), (2, 9 / 10), (3, 8 / 10), (4, 65 / 100), (5, 55 / 100), (6, 45 / 100), (7, 35 / 100),
   (8, 28 / 100), (9, 22 / 100), (10, 18 / 100)]

def shipped : Config where
  weights := ⟨24, 16, 22, 16, 14, 8⟩
  missingDataPenaltyMax := 24
  missingDataPenalties :=
    [("keyword_metrics", 8), ("keyword_cpc", 1), ("local_demand", 3), ("provider_candidates", 4),
     ("competitor_metrics", 8), ("serp_snapshots", 10), ("serp_results", 10)]
  missingEvidenceScoreCaps :=
    [("competitor_metrics", 40), ("serp_snapshots", 60), ("serp_results", 60)]
  dataCompletenessExpectedGroups := 7
  demand :=
    { serviceAttractivenessShare := 65 / 100
      marketAttractivenessShare := 35 / 100
      nationalStrongMonthlyVolume := 900
      measuredLocal := ⟨50, 1⟩
      populationEstimated := ⟨15, 40 / 100⟩ }
  confidence :=
    { high := 85
      medium := 65
      low := 40
      keywordMaxAgeDays := 90
      serpMaxAgeDays := 30
      representativeSerpTarget := 3
      competitorSampleTarget := 3
      providerSampleTarget := 2
      maximumUnknownSerpShareForHigh := 25 / 100
      sourceModePenalties :=
        [("live", 0), ("replay", 5), ("sandbox", 15), ("fixture", 25), ("unknown", 10)]
      deductions := ⟨8, 20, 12, 4, 10, 15, 10, 10, 8, 10⟩ }
  commercial := ⟨28, 8 / 10, 5625 / 10000, 1875 / 10000, 25 / 100⟩
  competitors :=
    { weakReferringDomains := 35
      strongReferringDomains := 260
      unknownReferringDomainsWeakness := 45 / 100
      relevanceThreatStrength := 65 / 100
      serviceWeight := 55 / 100
      localWeight := 25 / 100
      interactionWeight := 20 / 100
      unpositionedWeight := 1
      serpPositionWeights := positionWeights
      archetypeWeaknessAdjustments :=
        [("directory", 15 / 100), ("marketplace", 8 / 100), ("lead_generator", 4 / 100),
         ("national_brand", -(1 / 10)), ("local_provider", 0), ("informational_publisher", 8 / 100),
         ("government_or_nonprofit", 0), ("unknown", 0)] }
  organicClick :=
    { serpPositionWeights := positionWeights
      keywordWeighting := ⟨60 / 100, 40 / 100, 25 / 100, 1⟩
      classificationPenalties :=
        [("directory", 35 / 100), ("marketplace", 3 / 10), ("national_brand", 3 / 10),
         ("lead_generator", 2 / 10), ("informational_publisher", 1 / 10), ("unknown", 8 / 100)]
      shoppingProductPenalty := 16 / 100
      shoppingProductResultTypes :=
        ["shopping", "popular_products", "product_considerations", "refine_products", "explore_brands"]
      localPackPenalty := 14 / 100
      adsTopPenalty := 12 / 100 }
  providers :=
    { suitableThreshold := 55
      qualitySampleSize := 5
      statusScores :=
        [("open", 1), ("closed_now", 1), ("active", 1), ("operational", 1), ("unknown", 25 / 100),
         ("temporarily_closed", 0), ("closed", 0), ("closed_forever", 0), ("permanently_closed", 0)]
      idealMin := 2
      idealMax := 8
      oversupplyCount := 14 }

end RankRent.Scoring
