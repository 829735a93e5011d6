import Mathlib.Data.String.Basic
import RankRent.Library.PyGroups
import RankRent.Library.Rounding
import RankRent.Outcomes.Records

/-!
# Calibration reports

`CalibrationReportService.generate` of `outcomes/services.py` and its helpers, in exact
arithmetic: the numbers are those of any ordered field, with `math.sqrt` a parameter.
The unordered queries' rows are arguments, in the order the database returned them. The
row that stores the report is left out, but for its id.
-/

namespace RankRent.Outcomes
open PyNumber

/-! ## Totals -/

/-- The keys of `_empty_totals`. -/
inductive Metric
  | impressions | clicks | organicSessions | calls | forms | qualifiedLeads | appointments | wonJobs
  | reportedRevenue
  deriving DecidableEq

abbrev Totals (α : Type) : Type := Metric → α

section
variable {α : Type} [Field α]

/-- `float(getattr(row, key))`. -/
def OutcomeValues.metric (row : OutcomeValues α) : Metric → α
  | .impressions => row.impressions
  | .clicks => row.clicks
  | .organicSessions => row.organicSessions
  | .calls => row.calls
  | .forms => row.forms
  | .qualifiedLeads => row.qualifiedLeads
  | .appointments => row.appointments
  | .wonJobs => row.wonJobs
  | .reportedRevenue => row.reportedRevenue

/-- `_empty_totals`. -/
def emptyTotals : Totals α := fun _ => 0

/-- `_add_totals`. -/
def addTotals (target : Totals α) (row : OutcomeValues α) : Totals α := fun key => target key + row.metric key

/-- A row is added to the totals of its truth basis. -/
def addRow (totals : TruthBasis → Totals α) (row : OutcomeValues α) : TruthBasis → Totals α :=
  Function.update totals row.truthBasis (addTotals (totals row.truthBasis) row)

end

/-! ## Properties -/

/-- What a report keeps of a property with outcomes. -/
structure PropertyItem (α : Type) where
  decision : PropertyDecision α
  score : α
  indexingDays : Option ℤ
  impressionGrowth : Option α
  top10 : α
  leadVolume : α
  wonJobs : α
  providerSuitability : Option α
  addressableMarket : Option α

/-- The keys of such an item that are compared. -/
inductive Measure
  | score | indexingDays | impressionGrowth | top10 | leadVolume | wonJobs | providerSuitability
  | addressableMarket
  | component (name : String)

section
variable {α : Type} [Field α] [LinearOrder α]

def SelectionContext.scores (context : SelectionContext α) : List (String × α) := context.componentScores.getD []

/-- `item.get(key)`. -/
def PropertyItem.get (item : PropertyItem α) : Measure → Option α
  | .score => some item.score
  | .indexingDays => item.indexingDays.map Int.cast
  | .impressionGrowth => item.impressionGrowth
  | .top10 => some item.top10
  | .leadVolume => some item.leadVolume
  | .wonJobs => some item.wonJobs
  | .providerSuitability => item.providerSuitability
  | .addressableMarket => item.addressableMarket
  | .component name => item.decision.selectionContext.scores.lookup name

/-- `_growth`. -/
def growth (first last : α) : Option α :=
  if first ≤ 0 then if last ≤ 0 then none else some 1 else some ((last - first) / first)

/-- `_mean_optional`. -/
def meanOptional (values : List (Option α)) : Option α :=
  let present := values.filterMap id
  if present = [] then none else some (fmean present)

/-- A row whose truth basis counts as verified. -/
def OutcomeValues.verified (row : OutcomeValues α) : Bool :=
  row.truthBasis = .observed || row.truthBasis = .operatorVerified

/-- `indexed_dates` of the verified rows. -/
def indexedTimes (verifiedRows : List (OutcomeValues α)) : List Datetime :=
  verifiedRows.filterMap OutcomeValues.indexedAt

/-- `impression_growth`, over the rows in the order of their dates. -/
def impressionGrowth (verifiedRows : List (OutcomeValues α)) : Option α :=
  let ordered := PyList.sortedBy OutcomeValues.periodDate verifiedRows
  match ordered.head?, ordered.getLast? with
  | some first, some last => growth (first.impressions : α) last.impressions
  | _, _ => none

/-- What is appended to `properties` for a decision with the rows. -/
def propertyItem (decision : PropertyDecision α) (rows : List (OutcomeValues α)) :
    Except TypeError (PropertyItem α) := do
  let verifiedRows := rows.filter OutcomeValues.verified
  let firstIndexed ← earliest (indexedTimes verifiedRows)
  let positions := verifiedRows.filterMap OutcomeValues.averagePosition
  return {
    decision
    score := decision.selectionContext.fullScoreTotal.getD 0
    indexingDays := firstIndexed.map fun time => time.date - decision.selectedAt.date
    impressionGrowth := impressionGrowth verifiedRows
    top10 := if ∃ position ∈ positions.min?, position ≤ (10 : ℕ) then 1 else 0
    leadVolume := ((verifiedRows.map OutcomeValues.qualifiedLeads).sum : ℕ)
    wonJobs := ((verifiedRows.map OutcomeValues.wonJobs).sum : ℕ)
    providerSuitability := meanOptional (rows.map OutcomeValues.providerSuitabilityScore)
    addressableMarket := meanOptional (rows.map OutcomeValues.addressableMarketScore) }

/-- One round of the loop over the decisions. -/
def measure (byDecision : List (ℕ × List (OutcomeValues α)))
    (state : (TruthBasis → Totals α) × List (PropertyItem α)) (decision : PropertyDecision α) :
    Except TypeError ((TruthBasis → Totals α) × List (PropertyItem α)) := do
  let rows := (byDecision.lookup decision.id).getD []
  if rows = [] then return state
  let item ← propertyItem decision rows
  return (rows.foldl addRow state.1, state.2 ++ [item])

/-! ## Correlations -/

structure CorrelationResult (α : Type) where
  metric : String
  sampleSize : ℕ
  coefficient : Option α
  sufficientSample : Bool
  interpretation : String

/-- `_pearson`. -/
def pearson (sqrt : α → α) (pairs : List (α × α)) : Option α :=
  if pairs.length < 2 then none
  else
    let xMean := fmean (pairs.map Prod.fst)
    let yMean := fmean (pairs.map Prod.snd)
    let numerator := (pairs.map fun pair => (pair.1 - xMean) * (pair.2 - yMean)).sum
    let xSum := (pairs.map fun pair => (pair.1 - xMean) ^ 2).sum
    let ySum := (pairs.map fun pair => (pair.2 - yMean) ^ 2).sum
    let denominator := sqrt (xSum * ySum)
    if denominator = 0 then none else some (numerator / denominator)

/-- The pairs of a correlation: the items that have both values. -/
def pairsOf (items : List (PropertyItem α)) (x y : Measure) : List (α × α) :=
  items.filterMap fun item => do return (← item.get x, ← item.get y)

variable [FloorRing α]

/-- `_correlation`. -/
def correlation (sqrt : α → α) (items : List (PropertyItem α)) (metric : String) (x y : Measure)
    (minimumSample : ℕ) : CorrelationResult α :=
  let pairs := pairsOf items x y
  let coefficient := pearson sqrt pairs
  let sufficient := decide (minimumSample ≤ pairs.length)
  { metric
    sampleSize := pairs.length
    coefficient := coefficient.map (rounded 4)
    sufficientSample := sufficient
    interpretation :=
      if sufficient = false then "insufficient_sample"
      else if coefficient.isNone then "no_variance"
      else "descriptive_correlation_only" }

/-! ## Segments -/

structure Segment (α : Type) where
  segment : String
  propertyCount : ℕ
  averageSelectionScore : α
  qualifiedLeads : ℤ
  wonJobs : ℤ

/-- The summary of a group. -/
def segmentOf (key : String) (group : List (PropertyItem α)) : Segment α where
  segment := key
  propertyCount := group.length
  averageSelectionScore := rounded 3 (fmean (group.map PropertyItem.score))
  qualifiedLeads := truncate (group.map PropertyItem.leadVolume).sum
  wonJobs := truncate (group.map PropertyItem.wonJobs).sum

/-- `_segment`. -/
def segment (items : List (PropertyItem α)) (field : PropertyDecision α → String) : List (Segment α) :=
  let groups := PyDict.groupedBy (fun item : PropertyItem α => field item.decision) id items
  (PyJson.sortKeys groups).map fun (key, group) => segmentOf key group

/-! ## The report -/

/-- `CalibrationReportRequest`. -/
structure CalibrationReportRequest where
  startDate : Date
  endDate : Date
  minimumCorrelationSample : ℕ := 5
  enough : 3 ≤ minimumCorrelationSample
  bounded : minimumCorrelationSample ≤ 1000
  inOrder : startDate ≤ endDate

structure CalibrationReport (α : Type) where
  reportId : ℕ
  reportVersion : String
  generatedAt : Datetime
  startDate : Date
  endDate : Date
  propertyCount : ℕ
  observedTotals : Totals α
  reportedTotals : Totals α
  operatorVerifiedTotals : Totals α
  estimatedTotals : Totals α
  correlations : List (CorrelationResult α)
  segmentSummaries : List (String × List (Segment α))
  costPerValidatedOpportunityUsd : Option α
  warnings : List String
  scoringChangesApplied : Bool

/-- `component_names`. -/
def componentNames (properties : List (PropertyItem α)) : List String :=
  PyList.sortedSet (properties.flatMap fun item => item.decision.selectionContext.scores.map Prod.fst)

/-- `correlations`, the fixed ones first. -/
def correlationsOf (sqrt : α → α) (properties : List (PropertyItem α)) (minimumSample : ℕ) :
    List (CorrelationResult α) :=
  let against := correlation sqrt properties
  [against "score_vs_indexing_time" .score .indexingDays minimumSample,
    against "score_vs_impression_growth" .score .impressionGrowth minimumSample,
    against "score_vs_top_10_achievement" .score .top10 minimumSample,
    against "provider_suitability_vs_tenant_conversion" .providerSuitability .wonJobs minimumSample,
    against "addressable_market_vs_lead_demand" .addressableMarket .leadVolume minimumSample] ++
  (componentNames properties).map fun name =>
    against ("component_" ++ name ++ "_vs_lead_volume") (.component name) .leadVolume minimumSample

/-- `cost_per_validated`. -/
def costPerValidated (properties : List (PropertyItem α)) : Option α :=
  let validatedCount := properties.countP fun item => 0 < item.leadVolume
  let totalCost := (properties.map fun item => item.decision.validatedOpportunityCostUsd).sum
  if validatedCount = 0 then none else some (rounded 4 (totalCost / validatedCount))

/-- `warnings`. -/
def warningsOf (correlations : List (CorrelationResult α)) : List String :=
  ["Reports are descriptive. Correlation does not establish causation.",
    "No scoring weights were changed or applied by this report."] ++
  if correlations.any fun result => !result.sufficientSample then
    ["One or more comparisons are below the configured minimum sample size."]
  else []

/-- The report on the totals and the properties. -/
def reportOn (sqrt : α → α) (request : CalibrationReportRequest) (reportId : ℕ) (generatedAt : Datetime)
    (totals : TruthBasis → Totals α) (properties : List (PropertyItem α)) : CalibrationReport α :=
  let correlations := correlationsOf sqrt properties request.minimumCorrelationSample
  { reportId
    reportVersion := "calibration-v1"
    generatedAt
    startDate := request.startDate
    endDate := request.endDate
    propertyCount := properties.length
    observedTotals := totals .observed
    reportedTotals := totals .providerReported
    operatorVerifiedTotals := totals .operatorVerified
    estimatedTotals := totals .estimated
    correlations
    segmentSummaries :=
      [("service_family", segment properties PropertyDecision.serviceFamilySlug),
        ("market_size", segment properties PropertyDecision.marketSizeBand),
        ("evidence_quality", segment properties PropertyDecision.evidenceQuality)]
    costPerValidatedOpportunityUsd := costPerValidated properties
    warnings := warningsOf correlations
    scoringChangesApplied := false }

/-- `generate`, on what its two queries returned. -/
def generate (sqrt : α → α) (decisions : List (PropertyDecision α)) (outcomeRows : List (PropertyOutcome α))
    (request : CalibrationReportRequest) (reportId : ℕ) (generatedAt : Datetime) :
    Except TypeError (CalibrationReport α) := do
  let byDecision := PyDict.groupedBy PropertyOutcome.propertyDecisionId PropertyOutcome.toOutcomeValues outcomeRows
  let (totals, properties) ← decisions.foldlM (measure byDecision) (fun _ => emptyTotals, [])
  return reportOn sqrt request reportId generatedAt totals properties

end

end RankRent.Outcomes
