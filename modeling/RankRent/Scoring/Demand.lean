import RankRent.Library.PyDict
import RankRent.Scoring.Rows

/-!
# Demand

`analyze_demand` of `services/demand.py`, the estimator `population_share`, and the
demand component of a score.
-/

namespace RankRent.Scoring
open Evidence (Python)
open PyString (rounded)

/-! ## The demand model -/

def nationalGranularities : List String := ["country", "national"]

def localGranularities : List String := ["city", "postal_code", "county", "metro", "market", "local"]

inductive DemandKind
  | missing | measuredLocal | estimatedLocal
  deriving DecidableEq

/-- `market_estimation_confidence`. -/
inductive EstimationConfidence
  | none | low | medium | high
  deriving DecidableEq

/-- `_seasonality`, for a history that is not empty. -/
structure Seasonality where
  peakToAverageRatio : Option ℚ
  monthlyAverage : ℚ
  monthsObserved : Nat

structure DemandModel where
  rawKeywordVolume : ℤ
  serviceAttractivenessDemand : Option ℤ
  providerReportedLocalDemand : Option ℤ
  estimatedMarketDemand : Option ℚ
  marketDemandKind : DemandKind
  marketEstimationConfidence : EstimationConfidence
  highIntentShare : ℚ
  seasonality : Option Seasonality

def highIntents : List String := ["transactional", "commercial"]

/-- `metric.market_granularity or "unknown"`. -/
def KeywordMetric.granularity (metric : KeywordMetric) : String :=
  if metric.marketGranularity = "" then "unknown" else metric.marketGranularity

def KeywordMetric.volume (metric : KeywordMetric) : ℤ := metric.searchVolume.getD 0

/-- `_volume_by_granularity`. -/
def volumeByGranularity (python : Python) (metrics : List KeywordMetric) : List (String × ℤ) :=
  PyJson.sortKeys (PyDict.tally metrics (fun metric => python.lower metric.granularity)
    KeywordMetric.volume)

/-- The volume of the granularities in a set. -/
def volumeOf (volumes : List (String × ℤ)) (granularities : List String) : ℤ :=
  (volumes.map fun (granularity, volume) => if granularity ∈ granularities then volume else 0).sum

/-- `_provider_local_confidence`. -/
def providerLocalConfidence (granularities : List String) : EstimationConfidence :=
  let found := granularities.filter (· ∈ localGranularities)
  if found ≠ [] ∧ ∀ granularity ∈ found, granularity ∈ ["city", "postal_code", "local"] then .high
  else .medium

/-- `_seasonality`. -/
def seasonality (history : List (List ℤ)) : Except WorkerError (Option Seasonality) :=
  if history.isEmpty then .ok none
  else do
    let monthCount := (history.map List.length).foldr max 0
    let totals := (List.range monthCount).map fun index => (history.filterMap (·[index]?)).sum
    let monthlyAverage ← if totals.isEmpty then pure 0 else mean (totals.map (Int.cast (R := ℚ)))
    let peak : ℤ := totals.foldr max (totals.headD 0)
    let peakRatio ← if monthlyAverage = 0 then pure 0 else divide peak monthlyAverage
    return some ⟨if peakRatio = 0 then none else some (rounded 3 peakRatio), rounded 2 monthlyAverage,
      totals.length⟩

/-- `_positive_number`. -/
def positiveNumber (values : List (Option ℚ)) : Option ℚ :=
  values.findSome? fun value => value.filter (0 < ·)

/-- `MarketDemandEstimationInputs`. -/
structure EstimationInputs where
  nationalServiceDemand : ℚ
  marketPopulation : Option ℚ
  referencePopulation : Option ℚ

/-- `MarketDemandEstimationInputs.from_market`. -/
def EstimationInputs.fromMarket (nationalServiceDemand : ℚ) (market : Market) : EstimationInputs where
  nationalServiceDemand := nationalServiceDemand
  marketPopulation := positiveNumber
    [market.population.map Int.cast, market.resolutionMetadata.lookup "population"]
  referencePopulation := positiveNumber
    [market.referencePopulation.map Int.cast, market.resolutionMetadata.lookup "country_population",
      market.resolutionMetadata.lookup "reference_population",
      market.resolutionMetadata.lookup "national_population"]

/-- `PopulationShareDemandEstimator.estimate`: its value and its confidence. -/
def estimate (inputs : EstimationInputs) : Except WorkerError (Option ℚ × EstimationConfidence) :=
  match inputs.marketPopulation, inputs.referencePopulation with
  | some population, some reference =>
    if inputs.nationalServiceDemand ≤ 0 then .ok (none, .none)
    else do
      let share ← divide population reference
      return (some (rounded 2 (inputs.nationalServiceDemand * share)), .low)
  | _, _ => .ok (none, .none)

/-- `analyze_demand`. -/
def analyzeDemand (python : Python) (metrics : List KeywordMetric) (market : Market) :
    Except WorkerError DemandModel := do
  let included := metrics.filter (·.included)
  let volumes := volumeByGranularity python included
  let nationalVolume := volumeOf volumes nationalGranularities
  let localVolume := volumeOf volumes localGranularities
  let highIntent := included.filter (·.intent ∈ highIntents)
  let history := (included.map KeywordMetric.monthlyHistory).filter (· ≠ [])
  let (value, confidence) ← estimate (.fromMarket nationalVolume market)
  let highIntentShare ← divide highIntent.length (max 1 included.length)
  let season ← seasonality history
  let model : DemandModel := {
    rawKeywordVolume := (included.map KeywordMetric.volume).sum
    serviceAttractivenessDemand := if nationalVolume = 0 then none else some nationalVolume
    providerReportedLocalDemand := if localVolume = 0 then none else some localVolume
    estimatedMarketDemand := value
    marketDemandKind := if value.isSome then .estimatedLocal else .missing
    marketEstimationConfidence := confidence
    highIntentShare := rounded 3 highIntentShare
    seasonality := season }
  if localVolume = 0 then return model
  else return { model with
    estimatedMarketDemand := some localVolume
    marketDemandKind := .measuredLocal
    marketEstimationConfidence := providerLocalConfidence (included.map KeywordMetric.granularity) }

/-! ## The component -/

/-- `_demand_evidence` with `_demand_component_detail`, which finds no inputs to describe
when there are no shares. -/
def demandEvidence (config : Config) (model : DemandModel) : Except WorkerError Component := do
  let weight := config.weights.demandEvidence
  let serviceShare := max 0 config.demand.serviceAttractivenessShare
  let marketShare := max 0 config.demand.marketAttractivenessShare
  let totalShare := serviceShare + marketShare
  if totalShare ≤ 0 then .error ⟨.other, "'service_attractiveness_demand'"⟩
  else
    let serviceShare ← divide serviceShare totalShare
    let marketShare ← divide marketShare totalShare
    let serviceWeight := weight * serviceShare
    let marketWeight := weight * marketShare
    let serviceDemand : ℚ := (model.serviceAttractivenessDemand.getD 0 : ℤ)
    let marketDemand := model.estimatedMarketDemand.getD 0
    let serviceThreshold := max 1 config.demand.nationalStrongMonthlyVolume
    let marketProfile :=
      if model.marketDemandKind = .measuredLocal then config.demand.measuredLocal
      else config.demand.populationEstimated
    let marketThreshold := max (1 / 100) marketProfile.strongMonthlyVolume
    let marketScoreCap := marketWeight * min 1 (max 0 marketProfile.maximumComponentCredit)
    let serviceRatio ← divide serviceDemand serviceThreshold
    let marketRatio ← divide marketDemand marketThreshold
    let serviceScore := bounded (serviceRatio * serviceWeight) serviceWeight
    let marketScore := bounded (marketRatio * marketWeight) marketScoreCap
    return ⟨bounded (serviceScore + marketScore) weight,
      [⟨"Service attractiveness", serviceScore⟩, ⟨"Market attractiveness", marketScore⟩]⟩

/-! ## What it gives -/

theorem positiveNumber_pos {values : List (Option ℚ)} {number : ℚ} (found : positiveNumber values = some number) :
    0 < number := by
  obtain ⟨value, -, kept⟩ := List.exists_of_findSome?_eq_some found
  exact of_decide_eq_true (Option.filter_eq_some_iff.mp kept).2

theorem estimate_ok (national : ℚ) (market : Market) :
    ∃ result, estimate (.fromMarket national market) = .ok result := by
  unfold estimate
  split
  · rename_i population reference _ known
    by_cases none_ : national ≤ 0
    · exact ⟨_, if_pos none_⟩
    · rw [divide_of_ne (positiveNumber_pos known).ne']
      exact ⟨_, if_neg none_⟩
  · exact ⟨_, rfl⟩

theorem seasonality_ok (history : List (List ℤ)) : ∃ season, seasonality history = .ok season := by
  unfold seasonality
  by_cases none_ : history.isEmpty
  · exact ⟨none, if_pos none_⟩
  · rw [if_neg none_]
    dsimp only
    generalize (List.range _).map _ = totals
    by_cases empty : totals.isEmpty
    · rw [if_pos empty]
      exact ⟨_, rfl⟩
    · rw [if_neg empty, mean_of_ne (by simpa using empty)]
      dsimp only [bind, Except.bind]
      split
      · exact ⟨_, rfl⟩
      · rename_i nonzero
        rw [divide_of_ne nonzero]
        exact ⟨_, rfl⟩

theorem analyzeDemand_ok (python : Python) (metrics : List KeywordMetric) (market : Market) :
    ∃ model, analyzeDemand python metrics market = .ok model := by
  unfold analyzeDemand
  dsimp only
  obtain ⟨⟨value, confidence⟩, estimated⟩ := estimate_ok
    (volumeOf (volumeByGranularity python (metrics.filter (·.included))) nationalGranularities) market
  obtain ⟨season, seasonal⟩ :=
    seasonality_ok (((metrics.filter (·.included)).map KeywordMetric.monthlyHistory).filter (· ≠ []))
  have count : ((max 1 (metrics.filter (·.included)).length : ℕ) : ℚ) ≠ 0 := by positivity
  rw [estimated, seasonal]
  simp only [Nat.cast_max, Nat.cast_one] at count
  rw [divide_of_ne count]
  dsimp only [bind, Except.bind, pure, Except.pure]
  split
  · exact ⟨_, rfl⟩
  · exact ⟨_, rfl⟩

/-! ### Its order -/

theorem volumeOf_eq (python : Python) (metrics : List KeywordMetric) (granularities : List String) :
    volumeOf (volumeByGranularity python metrics) granularities =
      (metrics.map fun metric =>
        if python.lower metric.granularity ∈ granularities then metric.volume else 0).sum := by
  have sorted : (volumeByGranularity python metrics).Perm _ := List.mergeSort_perm ..
  have moved := (sorted.map fun entry : String × ℤ => if entry.1 ∈ granularities then entry.2 else 0).sum_eq
  refine moved.trans ?_
  refine PyDict.sum_tally metrics (fun metric => python.lower metric.granularity) KeywordMetric.volume
    (g := fun granularity volume => if granularity ∈ granularities then volume else 0) ?_
  intro granularity a b
  split
  · rfl
  · rfl

theorem seasonality_perm {history other : List (List ℤ)} (perm : history.Perm other) :
    seasonality history = seasonality other := by
  have count : (history.map List.length).foldr max 0 = (other.map List.length).foldr max 0 :=
    (perm.map _).foldr_eq 0
  have totals (index : ℕ) : (history.filterMap (·[index]?)).sum = (other.filterMap (·[index]?)).sum :=
    (perm.filterMap _).sum_eq
  unfold seasonality
  simp only [count, totals, isEmpty_perm perm]

theorem providerLocalConfidence_perm {granularities other : List String} (perm : granularities.Perm other) :
    providerLocalConfidence granularities = providerLocalConfidence other := by
  have found := perm.filter (· ∈ localGranularities)
  have none_ : granularities.filter (· ∈ localGranularities) ≠ [] ↔ other.filter (· ∈ localGranularities) ≠ [] := by
    rw [ne_eq, ne_eq, not_iff_not]
    exact ⟨fun eq => (eq ▸ found).nil_eq.symm, fun eq => (eq ▸ found).eq_nil⟩
  unfold providerLocalConfidence
  simp only [none_, found.mem_iff]

/-- The demand of the metrics does not depend on their order. -/
theorem analyzeDemand_perm (python : Python) {metrics other : List KeywordMetric} (perm : metrics.Perm other)
    (market : Market) : analyzeDemand python metrics market = analyzeDemand python other market := by
  have included := perm.filter (·.included)
  have volumes (granularities : List String) :
      volumeOf (volumeByGranularity python (metrics.filter (·.included))) granularities =
        volumeOf (volumeByGranularity python (other.filter (·.included))) granularities := by
    rw [volumeOf_eq, volumeOf_eq]
    exact (included.map _).sum_eq
  have season := seasonality_perm ((included.map KeywordMetric.monthlyHistory).filter (· ≠ []))
  have raw := (included.map KeywordMetric.volume).sum_eq
  have intent := (included.filter (·.intent ∈ highIntents)).length_eq
  have confidence := providerLocalConfidence_perm (included.map KeywordMetric.granularity)
  unfold analyzeDemand
  simp only [volumes, season, raw, intent, included.length_eq, confidence]

/-! ### The component -/

/-- The most the national demand and the market's can bring. -/
def serviceWeight : ℚ := 24 * (65 / 100)

def marketWeight : ℚ := 24 * (35 / 100)

def marketProfile (model : DemandModel) : MarketProfile :=
  if model.marketDemandKind = .measuredLocal then shipped.demand.measuredLocal
  else shipped.demand.populationEstimated

def serviceScore (model : DemandModel) : ℚ :=
  bounded (((model.serviceAttractivenessDemand.getD 0 : ℤ) : ℚ) / max 1 900 * serviceWeight) serviceWeight

def marketScore (model : DemandModel) : ℚ :=
  bounded (model.estimatedMarketDemand.getD 0 / max (1 / 100) (marketProfile model).strongMonthlyVolume * marketWeight)
    (marketWeight * min 1 (max 0 (marketProfile model).maximumComponentCredit))

/-- What `_demand_evidence` gives of the shipped configuration. -/
def demandComponent (model : DemandModel) : Component :=
  ⟨bounded (serviceScore model + marketScore model) shipped.weights.demandEvidence,
    [⟨"Service attractiveness", serviceScore model⟩, ⟨"Market attractiveness", marketScore model⟩]⟩

theorem demandEvidence_eq (model : DemandModel) : demandEvidence shipped model = .ok (demandComponent model) := by
  have service : max 0 shipped.demand.serviceAttractivenessShare = 65 / 100 := by norm_num [shipped]
  have market : max 0 shipped.demand.marketAttractivenessShare = 35 / 100 := by norm_num [shipped]
  have total : (65 / 100 + 35 / 100 : ℚ) = 1 := by norm_num
  have national : max 1 shipped.demand.nationalStrongMonthlyVolume ≠ 0 := by norm_num [shipped]
  have local_ : max (1 / 100) (marketProfile model).strongMonthlyVolume ≠ 0 :=
    (lt_of_lt_of_le (by norm_num) (le_max_left _ _)).ne'
  unfold demandEvidence
  simp only [service, market]
  simp only [total, not_le.mpr zero_lt_one, if_false, divide_of_ne one_ne_zero, div_one, divide_of_ne national]
  change ((divide (model.estimatedMarketDemand.getD 0) (max (1 / 100) (marketProfile model).strongMonthlyVolume)).bind _) = _
  rw [divide_of_ne local_]
  rfl

theorem demandComponent_sound (model : DemandModel) :
    (demandComponent model).Sound shipped.weights.demandEvidence := by
  have service : PyString.Whole 2 serviceWeight := ⟨1560, by norm_num [serviceWeight]⟩
  have market : PyString.Whole 2 (marketWeight * min 1 (max 0 (marketProfile model).maximumComponentCredit)) := by
    unfold marketProfile
    split
    · exact ⟨840, by norm_num [marketWeight, shipped]⟩
    · exact ⟨336, by norm_num [marketWeight, shipped]⟩
  have cap : marketWeight * min 1 (max 0 (marketProfile model).maximumComponentCredit) ≤ marketWeight :=
    mul_le_of_le_one_right (by norm_num [marketWeight]) (min_le_left _ _)
  have first : serviceScore model ≤ serviceWeight := bounded_le service (by norm_num [serviceWeight])
  have second : marketScore model ≤ marketWeight := by
    refine (bounded_le market ?_).trans cap
    exact mul_nonneg (by norm_num [marketWeight]) (le_min zero_le_one (le_max_left _ _))
  have low : 0 ≤ serviceScore model + marketScore model :=
    add_nonneg (bounded_nonneg _ _) (bounded_nonneg _ _)
  have high : serviceScore model + marketScore model ≤ 24 := by
    norm_num [serviceWeight, marketWeight] at first second
    linarith
  refine sound_of_near (PyString.whole_intCast 2 24) (by norm_num [shipped]) ?_
  change Near _ (max 0 (min 24 _)) _
  rw [min_eq_right high, max_eq_right low]
  norm_num [Near]

end RankRent.Scoring
