import RankRent.Scoring.Competitors
import RankRent.Scoring.Components
import RankRent.Scoring.Demand
import RankRent.Scoring.OrganicClicks

/-!
# The scorer

`OpportunityScorer.score`: its components, the penalties and caps of missing evidence,
and the confidence. Its texts are left out.
-/

namespace RankRent.Scoring
open Evidence (Python)
open PyString (rounded)

inductive Confidence
  | insufficient | low | medium | high
  deriving DecidableEq

/-- `CONFIDENCE_RANK`. -/
def Confidence.rank : Confidence → Nat
  | insufficient => 0
  | low => 1
  | medium => 2
  | high => 3

/-- What `score` is called with, and the time it looks at the clock. -/
structure EvidenceSet where
  metrics : List KeywordMetric
  serpSnapshots : List SerpSnapshot
  competitors : List CompetitorMetric
  providers : List ProviderCandidate
  market : Option Market
  sourceMode : Option String
  assessmentType : String
  now : DateTime

/-- `component_scores`, with the steps of each component. -/
structure Components where
  demandEvidence : Component
  commercialValue : Component
  competitorWeakness : Component
  organicClickAvailability : Component
  providerSuitability : Component
  dataCompleteness : Component
  deriving DecidableEq

def Components.toList (c : Components) : List Component :=
  [c.demandEvidence, c.commercialValue, c.competitorWeakness, c.organicClickAvailability,
    c.providerSuitability, c.dataCompleteness]

structure OpportunityScore where
  totalScore : ℚ
  uncappedTotalScore : ℚ
  evidenceStatus : String
  scoreCap : Option ℚ
  components : Components
  missingDataPenalties : List (String × ℚ)
  confidence : Confidence
  confidenceScore : ℚ
  missingFields : List String
  classificationWeightedShares : List (String × ℚ)
  featureShares : List ℚ
  averageCompetitorReferringDomains : ℚ
  providerSuitability : ProviderSummary

section
variable (python : Python) (config : Config)

/-! ## Missing evidence -/

/-- `_missing_fields`. -/
def missingFields (metrics : List KeywordMetric) (snapshots : List SerpSnapshot)
    (competitors : List CompetitorMetric) (providers : List ProviderCandidate) (model : DemandModel) :
    List String :=
  let field (absent : Bool) (name : String) : List String := if absent then [name] else []
  field metrics.isEmpty "keyword_metrics" ++
  field model.estimatedMarketDemand.isNone "local_demand" ++
  field snapshots.isEmpty "serp_snapshots" ++
  field competitors.isEmpty "competitor_metrics" ++
  field providers.isEmpty "provider_candidates" ++
  field (!metrics.isEmpty && !metrics.any (·.cpc.isSome)) "keyword_cpc" ++
  field (!snapshots.isEmpty && !snapshots.any fun snapshot => !snapshot.results.isEmpty) "serp_results"

/-- `_missing_data_penalties`. -/
def missingDataPenalties (missing : List String) : Except WorkerError (List (String × ℚ)) := do
  let raw := missing.map fun field => (field, max 0 ((config.missingDataPenalties.lookup field).getD 0))
  let rawTotal := (raw.map Prod.snd).sum
  let scale ← if config.missingDataPenaltyMax < rawTotal ∧ 0 < rawTotal then
      divide config.missingDataPenaltyMax rawTotal
    else pure 1
  return (raw.filter fun (_, penalty) => 0 < penalty).map fun (field, penalty) =>
    (field, rounded 2 (penalty * scale))

/-- `_evidence_status`. -/
def evidenceStatus (missing : List String) (assessmentType : String) : String :=
  if assessmentType = "preliminary" then "preliminary"
  else if "competitor_metrics" ∈ missing then "unusable"
  else if missing ≠ [] then "partial"
  else "complete"

/-- The caps of the fields that are missing. -/
def activeCaps (missing : List String) (assessmentType : String) : List ℚ :=
  if assessmentType = "preliminary" then []
  else missing.filterMap fun field => config.missingEvidenceScoreCaps.lookup field

/-- `_missing_evidence_score_cap`. -/
def missingEvidenceScoreCap (missing : List String) (assessmentType : String) : Option ℚ :=
  (activeCaps config missing assessmentType).min?

/-! ## Confidence -/

/-- `_source_mode`. -/
def sourceMode (metrics : List KeywordMetric) (explicitMode : Option String) : String :=
  match explicitMode.filter (· ≠ "") with
  | some mode => python.lower (PyString.strip mode)
  | none =>
    let mentions (token : String) := metrics.any fun metric => PyString.contains (python.lower metric.source) token
    if mentions "fixture" then "fixture"
    else if mentions "sandbox" then "sandbox"
    else if mentions "replay" then "replay"
    else "unknown"

/-- `_oldest_age_days`. -/
def oldestAgeDays (now : DateTime) (timestamps : List DateTime) : Option ℚ :=
  (timestamps.map fun timestamp => max 0 ((now - timestamp) / 86400)).max?

/-- `(target - actual) / target` of the deduction for a small sample. -/
def sampleDeduction (deduction : ℚ) (actual : Nat) (target : ℤ) : Except WorkerError ℚ :=
  if target ≤ 0 ∨ target ≤ actual then .ok 0
  else (divide (target - actual) target).map (deduction * ·)

/-- The level of a score of confidence. -/
def confidenceLevel (config : ConfidenceConfig) (score : ℚ) : Confidence :=
  if config.high ≤ score then .high
  else if config.medium ≤ score then .medium
  else if config.low ≤ score then .low
  else .insufficient

/-- `_confidence`: the level and the score. -/
def confidence (missing : List String) (metrics : List KeywordMetric) (snapshots : List SerpSnapshot)
    (competitors : List CompetitorMetric) (providers : List ProviderCandidate) (model : DemandModel)
    (explicitMode : Option String) (assessmentType : String) (now : DateTime) (unknownSerpShare : ℚ) :
    Except WorkerError (Confidence × ℚ) := do
  let config := config.confidence
  let deductions := config.deductions
  let mode := sourceMode python metrics explicitMode
  let penalty := (config.sourceModePenalties.lookup mode).getD
    ((config.sourceModePenalties.lookup "unknown").getD 0)
  let staleKeywords := (oldestAgeDays now (metrics.map KeywordMetric.sourceTimestamp)).any
    (config.keywordMaxAgeDays < ·)
  let staleSerps := (oldestAgeDays now (snapshots.map SerpSnapshot.capturedAt)).any (config.serpMaxAgeDays < ·)
  let unknown := config.maximumUnknownSerpShareForHigh < unknownSerpShare
  let serps ← sampleDeduction deductions.limitedSerpSample snapshots.length config.representativeSerpTarget
  let rivals ← sampleDeduction deductions.limitedCompetitorSample competitors.length config.competitorSampleTarget
  let tenants ← sampleDeduction deductions.limitedProviderSample providers.length config.providerSampleTarget
  let short (actual : Nat) (target : ℤ) : Bool := 0 < target && (actual : ℤ) < target
  let ordinaryMissing := missing.filter (· ≠ "local_demand")
  let points : List ℚ := [
    ordinaryMissing.length * deductions.missingField,
    if model.estimatedMarketDemand.isNone then deductions.missingLocalDemand
      else match model.marketEstimationConfidence with
        | .low => deductions.lowConfidenceMarketEstimate
        | .medium => deductions.mediumConfidenceMarketEvidence
        | _ => 0,
    penalty,
    if staleKeywords then deductions.staleKeywordMetrics else 0,
    if staleSerps then deductions.staleSerps else 0,
    if unknown then deductions.unknownSerpClassification * unknownSerpShare else 0,
    serps, rivals, tenants]
  let cap (active : Bool) (level : Confidence) : List Confidence := if active then [level] else []
  let full := assessmentType ≠ "preliminary"
  let caps :=
    cap model.estimatedMarketDemand.isNone .low ++
    cap (model.estimatedMarketDemand.isSome && model.marketEstimationConfidence = .low) .medium ++
    cap (mode = "fixture") .low ++
    cap (mode = "sandbox") .medium ++
    cap staleKeywords .medium ++
    cap staleSerps .medium ++
    cap unknown .medium ++
    cap (short snapshots.length config.representativeSerpTarget) .medium ++
    cap (short competitors.length config.competitorSampleTarget) .medium ++
    cap (short providers.length config.providerSampleTarget) .medium ++
    cap ("competitor_metrics" ∈ missing ∧ full) .insufficient ++
    cap (("serp_snapshots" ∈ missing ∨ "serp_results" ∈ missing) ∧ full) .low ++
    cap (assessmentType = "preliminary") .medium
  let score := rounded 2 (max 0 (min 100 (100 - (points.map (max 0)).sum)))
  let level := caps.foldl (fun level cap => if cap.rank < level.rank then cap else level)
    (confidenceLevel config score)
  return (level, score)

/-! ## The score -/

/-- `OpportunityScorer.score`. -/
def score (e : EvidenceSet) : Except WorkerError OpportunityScore := do
  let scored := e.metrics.filter (·.included)
  let model ← analyzeDemand python scored (e.market.getD ⟨none, none, []⟩)
  let missing := missingFields scored e.serpSnapshots e.competitors e.providers model
  let highIntent := scored.filter (·.intent ∈ highIntents)
  let avgCpc ← mean (orZero (scored.filterMap KeywordMetric.cpc))
  let avgPaidCompetition ← mean (orZero (scored.filterMap KeywordMetric.paidCompetition))
  let demand ← demandEvidence config model
  let commercial ← commercialValue config avgCpc avgPaidCompetition highIntent.length scored.length
  let competitor ← competitorWeakness python config e.competitors scored
  let organic ← organicClickAvailability python config e.serpSnapshots scored
  let provider ← providerSuitability python config e.providers
  let completeness ← dataCompleteness config missing
  let penalties ← missingDataPenalties config missing
  let components : Components := ⟨demand, commercial, competitor, organic.component, provider, completeness⟩
  let total := (components.toList.map Component.score).sum - (penalties.map Prod.snd).sum
  let referringDomains ← mean (orZero (e.competitors.filterMap fun competitor =>
    competitor.referringDomains.map (Int.cast (R := ℚ))))
  let summary ← providerSuitabilitySummary python config.providers e.providers
  let (level, confidenceScore) ← confidence python config missing scored e.serpSnapshots e.competitors e.providers
    model e.sourceMode e.assessmentType e.now
    ((organic.classificationWeightedShares.lookup "unknown").getD 0)
  let cap := missingEvidenceScoreCap config missing e.assessmentType
  let uncapped := rounded 2 (max 0 total)
  return {
    totalScore := match cap with
      | some cap => rounded 2 (min uncapped cap)
      | none => uncapped
    uncappedTotalScore := uncapped
    evidenceStatus := evidenceStatus missing e.assessmentType
    scoreCap := cap
    components := components
    missingDataPenalties := penalties
    confidence := level
    confidenceScore := confidenceScore
    missingFields := missing
    classificationWeightedShares := organic.classificationWeightedShares
    featureShares := organic.featureShares
    averageCompetitorReferringDomains := rounded 2 referringDomains
    providerSuitability := summary }

end

end RankRent.Scoring
