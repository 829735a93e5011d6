import RankRent.Scoring.Scorer

/-!
# Every score within its bounds

With the shipped configuration `OpportunityScorer.score` fails only at a competitor whose
URL cannot be read. Otherwise each component lies within its weight, its steps add up to
it, and the total keeps to 100 and to every cap.
-/

namespace RankRent.Scoring
open Evidence (Python)
open PyString (rounded)

/-! ## Missing evidence -/

theorem missingDataPenalties_ok (missing : List String) :
    ∃ penalties, missingDataPenalties shipped missing = .ok penalties ∧ ∀ penalty ∈ penalties, 0 ≤ penalty.2 := by
  let raw := missing.map fun field => (field, max 0 ((shipped.missingDataPenalties.lookup field).getD 0))
  let rawTotal := (raw.map Prod.snd).sum
  have scaled (scale : ℚ) (nonneg : 0 ≤ scale) : ∀ penalty ∈ (raw.filter fun entry => 0 < entry.2).map
      (fun entry => (entry.1, rounded 2 (entry.2 * scale))), 0 ≤ penalty.2 := by
    intro penalty member
    obtain ⟨entry, kept, rfl⟩ := List.mem_map.mp member
    have positive : 0 < entry.2 := by simpa using (List.mem_filter.mp kept).2
    exact PyString.rounded_nonneg (mul_nonneg positive.le nonneg)
  unfold missingDataPenalties
  dsimp only
  by_cases large : shipped.missingDataPenaltyMax < rawTotal ∧ 0 < rawTotal
  · rw [if_pos large, divide_of_ne large.2.ne']
    exact ⟨_, rfl, scaled _ (div_nonneg (by norm_num [shipped]) large.2.le)⟩
  · rw [if_neg large]
    exact ⟨_, rfl, scaled 1 zero_le_one⟩

theorem cap_whole {missing : List String} {assessmentType : String} :
    ∀ cap ∈ activeCaps shipped missing assessmentType, PyString.Whole 2 cap ∧ 0 ≤ cap := by
  have caps : ∀ entry ∈ shipped.missingEvidenceScoreCaps, PyString.Whole 2 entry.2 ∧ 0 ≤ entry.2 := by
    have forty : PyString.Whole 2 40 := PyString.whole_intCast 2 40
    have sixty : PyString.Whole 2 60 := PyString.whole_intCast 2 60
    simp [shipped, forty, sixty]
  intro cap member
  unfold activeCaps at member
  split at member
  · cases member
  · obtain ⟨field, -, found⟩ := List.mem_filterMap.mp member
    exact caps _ (PyDict.mem_of_lookup found)

/-! ## Confidence -/

theorem sampleDeduction_ok (deduction : ℚ) (actual : Nat) (target : ℤ) :
    ∃ points, sampleDeduction deduction actual target = .ok points := by
  unfold sampleDeduction
  by_cases enough : target ≤ 0 ∨ target ≤ actual
  · exact ⟨0, if_pos enough⟩
  · have nonzero : (target : ℚ) ≠ 0 := by
      exact_mod_cast (show target ≠ 0 by omega)
    rw [if_neg enough, divide_of_ne nonzero]
    exact ⟨_, rfl⟩

theorem confidence_ok (python : Python) (config : Config) (missing : List String) (metrics : List KeywordMetric)
    (snapshots : List SerpSnapshot) (competitors : List CompetitorMetric) (providers : List ProviderCandidate)
    (model : DemandModel) (explicitMode : Option String) (assessmentType : String) (now : DateTime)
    (unknownSerpShare : ℚ) :
    ∃ level, confidence python config missing metrics snapshots competitors providers model explicitMode
      assessmentType now unknownSerpShare = .ok level := by
  obtain ⟨serps, first⟩ := sampleDeduction_ok config.confidence.deductions.limitedSerpSample snapshots.length
    config.confidence.representativeSerpTarget
  obtain ⟨rivals, second⟩ := sampleDeduction_ok config.confidence.deductions.limitedCompetitorSample
    competitors.length config.confidence.competitorSampleTarget
  obtain ⟨tenants, third⟩ := sampleDeduction_ok config.confidence.deductions.limitedProviderSample
    providers.length config.confidence.providerSampleTarget
  unfold confidence
  dsimp only
  rw [first, second, third]
  exact ⟨_, rfl⟩

/-! ## The score -/

/-- A score within its bounds. -/
structure OpportunityScore.Sound (s : OpportunityScore) (e : EvidenceSet) : Prop where
  components : List.Forall₂ Component.Sound s.components.toList shipped.weights.toList
  nonneg : 0 ≤ s.totalScore
  le : s.totalScore ≤ 100
  caps : ∀ cap ∈ activeCaps shipped s.missingFields e.assessmentType, s.totalScore ≤ cap
  shares : (∀ snapshot ∈ e.serpSnapshots, (snapshot.organic.map SerpResult.order).Nodup) →
    (∀ share ∈ s.classificationWeightedShares, 0 ≤ share.2 ∧ share.2 ≤ 1) ∧ ∀ share ∈ s.featureShares, 0 ≤ share ∧ share ≤ 1

/-- The capped total. -/
theorem total_bounds {total : ℚ} (high : total ≤ 100) (missing : List String) (assessmentType : String) :
    0 ≤ (match missingEvidenceScoreCap shipped missing assessmentType with
      | some cap => rounded 2 (min (rounded 2 (max 0 total)) cap)
      | none => rounded 2 (max 0 total)) ∧
    (match missingEvidenceScoreCap shipped missing assessmentType with
      | some cap => rounded 2 (min (rounded 2 (max 0 total)) cap)
      | none => rounded 2 (max 0 total)) ≤ 100 ∧
    ∀ cap ∈ activeCaps shipped missing assessmentType,
      (match missingEvidenceScoreCap shipped missing assessmentType with
        | some cap => rounded 2 (min (rounded 2 (max 0 total)) cap)
        | none => rounded 2 (max 0 total)) ≤ cap := by
  have low : 0 ≤ rounded 2 (max 0 total) := PyString.rounded_nonneg (le_max_left _ _)
  have hundred : PyString.Whole 2 (100 : ℚ) := PyString.whole_intCast 2 100
  have most : rounded 2 (max 0 total) ≤ 100 := PyString.rounded_le hundred (max_le (by norm_num) high)
  unfold missingEvidenceScoreCap
  cases found : (activeCaps shipped missing assessmentType).min? with
  | none =>
    rw [List.min?_eq_none_iff] at found
    exact ⟨low, most, by simp [found]⟩
  | some least =>
    obtain ⟨member, below⟩ := List.min?_eq_some_iff.mp found
    obtain ⟨whole, nonneg⟩ := cap_whole least member
    have capped : rounded 2 (min (rounded 2 (max 0 total)) least) ≤ least :=
      PyString.rounded_le whole (min_le_right _ _)
    refine ⟨PyString.rounded_nonneg (le_min low nonneg), ?_, fun cap there => capped.trans (below cap there)⟩
    exact PyString.rounded_le hundred ((min_le_left _ _).trans most)

/-- Components within their weights add up to no more than 100. -/
theorem total_le {components : List Component} (within : List.Forall₂ Component.Sound components shipped.weights.toList)
    {penalties : List (String × ℚ)} (low : ∀ penalty ∈ penalties, 0 ≤ penalty.2) :
    (components.map Component.score).sum - (penalties.map Prod.snd).sum ≤ 100 := by
  have scores : (components.map Component.score).sum ≤ shipped.weights.toList.sum := by
    refine List.Forall₂.sum_le_sum (List.forall₂_map_left_iff.mpr (within.imp fun _ _ sound => sound.le))
  have weights : shipped.weights.toList.sum = 100 := by norm_num [shipped, Weights.toList]
  have lost : 0 ≤ (penalties.map Prod.snd).sum := by
    refine List.sum_nonneg ?_
    intro points member
    obtain ⟨penalty, there, rfl⟩ := List.mem_map.mp member
    exact low penalty there
  linarith

theorem score_cases (python : Python) (e : EvidenceSet)
    (suitability : ∀ provider ∈ e.providers, 0 ≤ provider.score ∧ provider.score ≤ 100) :
    (∃ err, uniqueDomainCompetitors python e.competitors = .error err ∧ score python shipped e = .error err) ∨
      ∃ s, score python shipped e = .ok s ∧ s.Sound e := by
  let scored := e.metrics.filter (·.included)
  obtain ⟨model, analysed⟩ := analyzeDemand_ok python scored (e.market.getD ⟨none, none, []⟩)
  let missing := missingFields scored e.serpSnapshots e.competitors e.providers model
  have averages (values : List ℚ) := mean_of_ne (orZero_ne_nil values)
  obtain ⟨commercial, valued, commercialSound⟩ := commercialValue_sound
    ((orZero (scored.filterMap KeywordMetric.cpc)).sum / (orZero (scored.filterMap KeywordMetric.cpc)).length)
    ((orZero (scored.filterMap KeywordMetric.paidCompetition)).sum /
      (orZero (scored.filterMap KeywordMetric.paidCompetition)).length)
    (scored.filter (·.intent ∈ highIntents)).length scored.length
  obtain ⟨provider, supplied, providerSound⟩ := providerSuitability_sound python suitability
  obtain ⟨completeness, complete, completenessSound⟩ := dataCompleteness_sound missing
  obtain ⟨penalties, penalised, penaltiesLow⟩ := missingDataPenalties_ok missing
  obtain ⟨summary, summed, -⟩ := providerSuitabilitySummary_ok python suitability
  obtain ⟨level, levelled⟩ := confidence_ok python shipped missing scored e.serpSnapshots e.competitors e.providers
    model e.sourceMode e.assessmentType e.now
    (((clicksFrom python e.serpSnapshots scored).classificationWeightedShares.lookup "unknown").getD 0)
  unfold score
  dsimp only
  rw [analysed]
  dsimp only [bind, Except.bind]
  rw [averages, averages, demandEvidence_eq]
  dsimp only
  rw [valued, competitorWeakness_eq]
  cases unique : uniqueDomainCompetitors python e.competitors with
  | error err => exact Or.inl ⟨err, rfl, rfl⟩
  | ok rows =>
    right
    dsimp only [Except.map]
    rw [organicClickAvailability_from, supplied]
    dsimp only
    rw [complete, penalised, averages, summed]
    dsimp only
    rw [levelled]
    have parts : List.Forall₂ Component.Sound [demandComponent model, commercial, weaknessFrom python rows scored,
        (clicksFrom python e.serpSnapshots scored).component, provider, completeness] shipped.weights.toList :=
      .cons (demandComponent_sound model) <| .cons commercialSound <| .cons (weaknessFrom_sound python rows scored) <|
        .cons (clicksFrom_sound python e.serpSnapshots scored) <| .cons providerSound <| .cons completenessSound .nil
    obtain ⟨low, high, caps⟩ := total_bounds (total_le parts penaltiesLow) missing e.assessmentType
    exact ⟨_, rfl, parts, low, high, caps, clicksFrom_shares python scored⟩

/-- Of providers whose scores are at most 100. -/
theorem suitable_score {providers : List ProviderCandidate}
    (suitability : ∀ provider ∈ providers, ∀ score ∈ provider.suitabilityScore, 0 ≤ score ∧ score ≤ 100) :
    ∀ provider ∈ providers, 0 ≤ provider.score ∧ provider.score ≤ 100 := by
  intro provider member
  unfold ProviderCandidate.score
  cases known : provider.suitabilityScore with
  | none => norm_num
  | some score => exact suitability provider member score known

/-- Competitors that are named are scored. -/
theorem scored_of_named (python : Python) {e : EvidenceSet}
    (suitability : ∀ provider ∈ e.providers, ∀ score ∈ provider.suitabilityScore, 0 ≤ score ∧ score ≤ 100)
    (named : ∀ competitor ∈ e.competitors, competitor.domain ≠ "") : ∃ s, score python shipped e = .ok s := by
  rcases score_cases python e (suitable_score suitability) with ⟨err, unread, -⟩ | ⟨s, ran, -⟩
  · obtain ⟨competitor, member, unnamed, -⟩ := uniqueDomainCompetitors_error unread
    exact absurd unnamed (named competitor member)
  · exact ⟨s, ran⟩

/-- The total keeps to 100 and to every cap that applies, each component to its weight and each
share to 1; nothing is divided by zero. -/
theorem score_bounded (python : Python) (e : EvidenceSet)
    (orders : ∀ snapshot ∈ e.serpSnapshots, (snapshot.organic.map SerpResult.order).Nodup)
    (suitability : ∀ provider ∈ e.providers, ∀ score ∈ provider.suitabilityScore, 0 ≤ score ∧ score ≤ 100) :
    (∀ err, score python shipped e = .error err → err ≠ zeroDivision ∧
      ∃ competitor ∈ e.competitors,
        competitor.domain = "" ∧ Evidence.parsedNetloc python competitor.url = .error err) ∧
    ∀ s, score python shipped e = .ok s →
      List.Forall₂ (fun component weight => 0 ≤ component.score ∧ component.score ≤ weight)
        s.components.toList shipped.weights.toList ∧
      (∀ share ∈ s.classificationWeightedShares, 0 ≤ share.2 ∧ share.2 ≤ 1) ∧
      (∀ share ∈ s.featureShares, 0 ≤ share ∧ share ≤ 1) ∧
      (0 ≤ s.totalScore ∧ s.totalScore ≤ 100) ∧
      ∀ cap ∈ activeCaps shipped s.missingFields e.assessmentType, s.totalScore ≤ cap := by
  rcases score_cases python e (suitable_score suitability) with ⟨err, unread, failed⟩ | ⟨s, ran, sound⟩
  · rw [failed]
    constructor
    · rintro _ ⟨⟩
      obtain ⟨competitor, member, unnamed, parsed⟩ := uniqueDomainCompetitors_error unread
      refine ⟨?_, competitor, member, unnamed, parsed⟩
      rintro rfl
      unfold Evidence.parsedNetloc at parsed
      split at parsed <;> cases parsed
    · rintro s ⟨⟩
  · rw [ran]
    constructor
    · rintro err ⟨⟩
    · rintro _ ⟨⟩
      obtain ⟨classes, features⟩ := sound.shares orders
      exact ⟨sound.components.imp fun _ _ part => ⟨part.nonneg, part.le⟩, classes, features,
        ⟨sound.nonneg, sound.le⟩, sound.caps⟩

/-- A keyword, a results page, a competitor and a provider. -/
def roofing : EvidenceSet where
  metrics := [⟨"roof repair", "roof repair", "transactional", some 90, some 12, none, [], "fixture", 0, "city", true⟩]
  serpSnapshots := [⟨"roof repair", 0, ["local_pack"], [⟨1, "organic", "directory"⟩, ⟨2, "organic", "unknown"⟩]⟩]
  competitors := [⟨"https://roofer.example/", "roofer.example", some 60, none, none, "local_provider", [], none, some 2, []⟩]
  providers := [⟨"open", some 80⟩]
  market := none
  sourceMode := some "live"
  assessmentType := "full"
  now := 0

theorem score_bounded_roofing :
    (∀ err, score Evidence.asciiPython shipped roofing = .error err → err ≠ zeroDivision ∧
      ∃ competitor ∈ roofing.competitors,
        competitor.domain = "" ∧ Evidence.parsedNetloc Evidence.asciiPython competitor.url = .error err) ∧
    ∀ s, score Evidence.asciiPython shipped roofing = .ok s →
      List.Forall₂ (fun component weight => 0 ≤ component.score ∧ component.score ≤ weight)
        s.components.toList shipped.weights.toList ∧
      (∀ share ∈ s.classificationWeightedShares, 0 ≤ share.2 ∧ share.2 ≤ 1) ∧
      (∀ share ∈ s.featureShares, 0 ≤ share ∧ share ≤ 1) ∧
      (0 ≤ s.totalScore ∧ s.totalScore ≤ 100) ∧
      ∀ cap ∈ activeCaps shipped s.missingFields roofing.assessmentType, s.totalScore ≤ cap :=
  score_bounded Evidence.asciiPython roofing (by decide) (by norm_num [roofing])

/-- The steps of each component add up to its score, but for a hundredth. -/
theorem steps_reconcile (python : Python) (e : EvidenceSet)
    (suitability : ∀ provider ∈ e.providers, ∀ score ∈ provider.suitabilityScore, 0 ≤ score ∧ score ≤ 100)
    {s : OpportunityScore} (ran : score python shipped e = .ok s) :
    ∀ component ∈ s.components.toList, |component.points - component.score| ≤ 1 / 100 := by
  rcases score_cases python e (suitable_score suitability) with ⟨err, -, failed⟩ | ⟨other, found, sound⟩
  · rw [failed] at ran
    cases ran
  · rw [found] at ran
    cases ran
    have adds : List.Forall₂ (fun (component : Component) (weight : ℚ) =>
        |component.points - component.score| ≤ 1 / 100 ∧ component.Sound weight)
        s.components.toList shipped.weights.toList :=
      sound.components.imp fun _ _ part => ⟨part.adds, part⟩
    exact ((List.forall₂_and_left _ _).mp adds).1

theorem roofing_scored : ∃ s, score Evidence.asciiPython shipped roofing = .ok s :=
  scored_of_named Evidence.asciiPython (by norm_num [roofing]) (by decide)

theorem steps_reconcile_roofing :
    ∃ s, score Evidence.asciiPython shipped roofing = .ok s ∧
      ∀ component ∈ s.components.toList, |component.points - component.score| ≤ 1 / 100 := by
  obtain ⟨s, ran⟩ := roofing_scored
  exact ⟨s, ran, steps_reconcile Evidence.asciiPython roofing (by norm_num [roofing]) ran⟩

end RankRent.Scoring
