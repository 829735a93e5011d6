import RankRent.Scoring.Rows

/-!
# Commercial value, providers and completeness

The components that do not look at the results pages, and `provider_suitability_summary`
of `services/providers.py`.
-/

namespace RankRent.Scoring
open Evidence (Python)
open PyString (rounded)

/-! ## Commercial value -/

/-- `_commercial_value`. -/
def commercialValue (config : Config) (avgCpc avgPaidCompetition : ℚ) (highIntentCount scoredKeywordCount : Nat) :
    Except WorkerError Component := do
  let weight := config.weights.commercialValue
  let strongCpc := max 1 config.commercial.strongCpc
  let strongPaidCompetition := max (1 / 100) config.commercial.strongPaidCompetition
  let cpcShare := max 0 config.commercial.cpcShare
  let competitionShare := max 0 config.commercial.paidCompetitionShare
  let intentShare := max 0 config.commercial.highIntentShare
  let totalSignalShare := cpcShare + competitionShare + intentShare
  let share (configured : ℚ) : Except WorkerError ℚ :=
    if 0 < totalSignalShare then divide configured totalSignalShare else .ok 0
  let cpcBudget := weight * (← share cpcShare)
  let competitionBudget := weight * (← share competitionShare)
  let intentBudget := weight * (← share intentShare)
  let highIntentShare ← divide highIntentCount (max 1 scoredKeywordCount)
  let cpcRatio ← divide avgCpc strongCpc
  let competitionRatio ← divide avgPaidCompetition strongPaidCompetition
  let cpcPoints := clamp cpcRatio * cpcBudget
  let competitionPoints := clamp competitionRatio * competitionBudget
  let intentPoints := clamp highIntentShare * intentBudget
  let rawScore := cpcPoints + competitionPoints + intentPoints
  let capAdjustment := max 0 (min weight rawScore) - rawScore
  return ⟨bounded rawScore weight,
    [⟨"Advertiser value", rounded 4 cpcPoints⟩, ⟨"Paid competition", rounded 4 competitionPoints⟩,
      ⟨"Commercial intent", rounded 4 intentPoints⟩] ++
    stepFrom (1 / 10000) "Component cap" capAdjustment⟩

/-! ## Providers -/

section
variable (python : Python)

/-- `_status_value`. -/
def statusValue (config : ProviderConfig) (status : String) : ℚ :=
  let normalized := python.lower (PyString.strip status)
  let normalized := if normalized = "" then "unknown" else normalized
  clamp ((config.statusScores.lookup normalized).getD ((config.statusScores.lookup "unknown").getD 0))

/-- `provider.suitability_score or 0`. -/
def ProviderCandidate.score (provider : ProviderCandidate) : ℚ := provider.suitabilityScore.getD 0

/-- `sorted(values, reverse=True)`. -/
def sortDown (values : List ℚ) : List ℚ := values.mergeSort fun a b => decide (b ≤ a)

/-- `statistics.median` of sorted values. -/
def median (values : List ℚ) : Except WorkerError ℚ :=
  let count := values.length
  if count = 0 then .error ⟨.valueError, "no median for empty data"⟩
  else if count % 2 = 1 then .ok (values.getD (count / 2) 0)
  else divide (values.getD (count / 2 - 1) 0 + values.getD (count / 2) 0) 2

/-- What `provider_suitability_summary` gives the component. -/
structure ProviderSummary where
  suitableProviderCount : Nat
  suitableProviderShare : ℚ
  medianSuitableProviderScore : Option ℚ
  averageTopSuitableProviderScore : ℚ
  rawAverageSuitabilityScore : ℚ

/-- The scores of the suitable providers, the best first. -/
def suitableScores (config : ProviderConfig) (providers : List ProviderCandidate) : List ℚ :=
  sortDown ((providers.filter fun provider =>
    config.suitableThreshold ≤ provider.score ∧ 0 < statusValue python config provider.businessStatus).map
      ProviderCandidate.score)

/-- `provider_suitability_summary`. -/
def providerSuitabilitySummary (config : ProviderConfig) (providers : List ProviderCandidate) :
    Except WorkerError ProviderSummary := do
  let scores := suitableScores python config providers
  let top := scores.take (max 1 config.qualitySampleSize).toNat
  let share ← divide scores.length (max 1 providers.length)
  let middle ← if scores.isEmpty then pure none else (median scores).map some
  let average ← divide top.sum (max 1 top.length)
  let rawAverage ← divide (providers.map ProviderCandidate.score).sum (max 1 providers.length)
  return ⟨scores.length, rounded 4 share, middle.map (rounded 2), rounded 2 average, rounded 2 rawAverage⟩

/-- `_provider_suitability`. -/
def providerSuitability (config : Config) (providers : List ProviderCandidate) :
    Except WorkerError Component :=
  if providers.isEmpty then .ok ⟨0, [⟨"Missing provider evidence", 0⟩]⟩
  else do
    let weight := config.weights.providerSuitability
    let summary ← providerSuitabilitySummary python config.providers providers
    let suitable : ℤ := summary.suitableProviderCount
    let supplyRatio ← divide suitable (max 1 config.providers.idealMin : ℤ)
    let baseSupplyFit := min supplyRatio 1
    let supplyMultiplier : ℚ :=
      if config.providers.oversupplyCount < suitable then 72 / 100
      else if config.providers.idealMax < suitable then 88 / 100
      else 1
    let supplyFit := baseSupplyFit * supplyMultiplier
    let quality ← divide summary.averageTopSuitableProviderScore 100
    let supplyPoints := baseSupplyFit * (65 / 100) * weight
    let adjustmentPoints := (supplyFit - baseSupplyFit) * (65 / 100) * weight
    let qualityPoints := quality * (35 / 100) * weight
    return ⟨bounded (supplyPoints + adjustmentPoints + qualityPoints) weight,
      [⟨"Suitable provider supply", rounded 4 supplyPoints⟩] ++
      stepFrom (1 / 10000) "Supply saturation adjustment" adjustmentPoints ++
      [⟨"Top suitable provider quality", rounded 4 qualityPoints⟩]⟩

end

/-! ## Completeness -/

/-- `_data_completeness`. -/
def dataCompleteness (config : Config) (missing : List String) : Except WorkerError Component := do
  let weight := config.weights.dataCompleteness
  let expectedGroups : ℚ := (max 1 config.dataCompletenessExpectedGroups : ℤ)
  let missingShare ← divide missing.length expectedGroups
  let rawScore := weight * (1 - missingShare)
  let missingDeduction ← divide (weight * missing.length) expectedGroups
  let capAdjustment := max 0 (min weight rawScore) - rawScore
  return ⟨bounded rawScore weight,
    [⟨"Expected evidence baseline", weight⟩, ⟨"Missing evidence groups", rounded 4 (-missingDeduction)⟩] ++
    stepFrom (1 / 10000) "Component boundary" capAdjustment⟩

/-! ## What they give -/

/-- What the component needs of the configuration. -/
theorem commercialValue_sound_of {config : Config} (whole : PyString.Whole 2 config.weights.commercialValue)
    (nonneg : 0 ≤ config.weights.commercialValue)
    (shares : 0 < max 0 config.commercial.cpcShare + max 0 config.commercial.paidCompetitionShare +
      max 0 config.commercial.highIntentShare) (avgCpc avgPaidCompetition : ℚ)
    (highIntentCount scoredKeywordCount : Nat) :
    ∃ component, commercialValue config avgCpc avgPaidCompetition highIntentCount scoredKeywordCount = .ok component ∧
      component.Sound config.weights.commercialValue := by
  have atLeast {low value : ℚ} (positive : 0 < low) : max low value ≠ 0 :=
    (lt_of_lt_of_le positive (le_max_left _ _)).ne'
  have strongCpc : max 1 config.commercial.strongCpc ≠ 0 := atLeast zero_lt_one
  have strongCompetition : max (1 / 100) config.commercial.strongPaidCompetition ≠ 0 := atLeast (by norm_num)
  have count : max 1 (scoredKeywordCount : ℚ) ≠ 0 := atLeast zero_lt_one
  unfold commercialValue
  simp only [if_pos shares, divide_of_ne shares.ne', divide_of_ne strongCpc, divide_of_ne strongCompetition,
    divide_of_ne count, bind, Except.bind, pure, Except.pure]
  exact ⟨_, rfl, sound_of_capped "Component cap" whole nonneg
    (((near_rounded _ _).append (near_rounded _ _)).append (near_rounded _ _)) (by norm_num)⟩

theorem commercialValue_sound (avgCpc avgPaidCompetition : ℚ) (highIntentCount scoredKeywordCount : Nat) :
    ∃ component, commercialValue shipped avgCpc avgPaidCompetition highIntentCount scoredKeywordCount = .ok component ∧
      component.Sound shipped.weights.commercialValue :=
  commercialValue_sound_of (PyString.whole_intCast 2 16) (by norm_num [shipped]) (by norm_num [shipped]) avgCpc
    avgPaidCompetition highIntentCount scoredKeywordCount

theorem dataCompleteness_sound (missing : List String) :
    ∃ component, dataCompleteness shipped missing = .ok component ∧
      component.Sound shipped.weights.dataCompleteness := by
  have groups : ((max 1 shipped.dataCompletenessExpectedGroups : ℤ) : ℚ) ≠ 0 := by norm_num [shipped]
  have near (weight share : ℚ) :
      Near ([⟨"Expected evidence baseline", weight⟩] ++ [⟨"Missing evidence groups", rounded 4 (-(weight * share))⟩])
        (weight * (1 - share)) (0 + 1 / 20000) := by
    have steps := (near_exact "Expected evidence baseline" weight).append
      (near_rounded "Missing evidence groups" (-(weight * share)))
    rwa [← sub_eq_add_neg, ← mul_one_sub] at steps
  unfold dataCompleteness
  simp only [divide_of_ne groups, bind, Except.bind, pure, Except.pure, mul_div_assoc]
  exact ⟨_, rfl, sound_of_capped "Component boundary" (PyString.whole_intCast 2 8) (by norm_num [shipped])
    (near _ _) (by norm_num)⟩

/-! ### Providers -/

theorem sortDown_perm {values other : List ℚ} (perm : values.Perm other) : sortDown values = sortDown other := by
  have left : (sortDown values).Perm other := (List.mergeSort_perm ..).trans perm
  have right : (sortDown other).Perm other := List.mergeSort_perm ..
  have sorted (values : List ℚ) : (sortDown values).Pairwise (· ≥ ·) := by
    have transitive : ∀ a b c : ℚ, decide (b ≤ a) = true → decide (c ≤ b) = true → decide (c ≤ a) = true := by
      intro a b c first second
      simp only [decide_eq_true_eq] at first second ⊢
      exact second.trans first
    have total : ∀ a b : ℚ, (decide (b ≤ a) || decide (a ≤ b)) = true := by
      intro a b
      simpa using le_total b a
    have down := List.pairwise_mergeSort transitive total values
    exact down.imp fun below => of_decide_eq_true below
  exact (left.trans right.symm).eq_of_pairwise (fun a b _ _ first second => le_antisymm second first)
    (sorted values) (sorted other)

section
variable (python : Python)

theorem suitableScores_perm (config : ProviderConfig) {providers other : List ProviderCandidate}
    (perm : providers.Perm other) : suitableScores python config providers = suitableScores python config other :=
  sortDown_perm ((perm.filter _).map _)

theorem providerSuitabilitySummary_perm (config : ProviderConfig) {providers other : List ProviderCandidate}
    (perm : providers.Perm other) :
    providerSuitabilitySummary python config providers = providerSuitabilitySummary python config other := by
  unfold providerSuitabilitySummary
  simp only [suitableScores_perm python config perm, perm.length_eq, (perm.map ProviderCandidate.score).sum_eq]

theorem providerSuitability_perm (config : Config) {providers other : List ProviderCandidate}
    (perm : providers.Perm other) :
    providerSuitability python config providers = providerSuitability python config other := by
  unfold providerSuitability
  simp only [providerSuitabilitySummary_perm python config.providers perm, isEmpty_perm perm]

theorem median_ok {values : List ℚ} (some : values ≠ []) : ∃ middle, median values = .ok middle := by
  have size : values.length ≠ 0 := by simpa using some
  unfold median
  dsimp only
  rw [if_neg size]
  split
  · exact ⟨_, rfl⟩
  · exact ⟨_, divide_of_ne (by norm_num)⟩

/-- The mean of scores up to 100 is at most 100. -/
theorem mean_le_hundred {scores : List ℚ} (high : ∀ score ∈ scores, score ≤ 100) :
    scores.sum / max 1 (scores.length : ℚ) ≤ 100 := by
  have count : 0 < max 1 (scores.length : ℚ) := lt_of_lt_of_le zero_lt_one (le_max_left _ _)
  rw [div_le_iff₀ count]
  calc scores.sum ≤ scores.length * 100 := by simpa using List.sum_le_card_nsmul scores 100 high
    _ ≤ 100 * max 1 (scores.length : ℚ) := by linarith [le_max_right 1 (scores.length : ℚ)]

/-- Of scores up to 100, the average of the best is one too. -/
theorem providerSuitabilitySummary_ok {providers : List ProviderCandidate}
    (scores : ∀ provider ∈ providers, 0 ≤ provider.score ∧ provider.score ≤ 100) :
    ∃ summary, providerSuitabilitySummary python shipped.providers providers = .ok summary ∧
      0 ≤ summary.averageTopSuitableProviderScore ∧ summary.averageTopSuitableProviderScore ≤ 100 := by
  have within : ∀ score ∈ suitableScores python shipped.providers providers, 0 ≤ score ∧ score ≤ 100 := by
    intro score member
    have inside := (List.mergeSort_perm _ _).subset member
    obtain ⟨provider, kept, rfl⟩ := List.mem_map.mp inside
    exact scores provider (List.mem_of_mem_filter kept)
  have top : ∀ score ∈ (suitableScores python shipped.providers providers).take
      (max 1 shipped.providers.qualitySampleSize).toNat, 0 ≤ score ∧ score ≤ 100 :=
    fun score member => within score (List.mem_of_mem_take member)
  have positive (count : ℕ) : max 1 (count : ℚ) ≠ 0 := (lt_of_lt_of_le zero_lt_one (le_max_left _ _)).ne'
  have low := @PyString.rounded_nonneg 2 _ (div_nonneg (List.sum_nonneg fun score member => (top score member).1)
    (zero_le_one.trans (le_max_left 1 (((suitableScores python shipped.providers providers).take
      (max 1 shipped.providers.qualitySampleSize).toNat).length : ℚ))))
  have high := PyString.rounded_le (PyString.whole_intCast 2 100)
    (mean_le_hundred fun score member => (top score member).2)
  unfold providerSuitabilitySummary
  simp only [divide_of_ne (positive _), bind, Except.bind, pure, Except.pure]
  by_cases none_ : (suitableScores python shipped.providers providers).isEmpty
  · rw [if_pos none_]
    exact ⟨_, rfl, low, high⟩
  · rw [if_neg none_]
    obtain ⟨middle, known⟩ := median_ok (by simpa using none_)
    rw [known]
    exact ⟨_, rfl, low, high⟩

/-- The steps of the provider component. -/
theorem supply_sound {base multiplier average : ℚ} (baseLow : 0 ≤ base) (baseHigh : base ≤ 1) (least : 0 ≤ multiplier)
    (most : multiplier ≤ 1) (low : 0 ≤ average) (high : average ≤ 100) :
    Component.Sound ⟨bounded (base * (65 / 100) * 14 + (base * multiplier - base) * (65 / 100) * 14 +
        average / 100 * (35 / 100) * 14) 14,
      [⟨"Suitable provider supply", rounded 4 (base * (65 / 100) * 14)⟩] ++
      stepFrom (1 / 10000) "Supply saturation adjustment" ((base * multiplier - base) * (65 / 100) * 14) ++
      [⟨"Top suitable provider quality", rounded 4 (average / 100 * (35 / 100) * 14)⟩]⟩ 14 := by
  have fit : 0 ≤ base * multiplier := mul_nonneg baseLow least
  have fitHigh : base * multiplier ≤ 1 := mul_le_one₀ baseHigh least most
  have whole : base * (65 / 100) * 14 + (base * multiplier - base) * (65 / 100) * 14 +
      average / 100 * (35 / 100) * 14 = base * multiplier * (91 / 10) + average * (49 / 1000) := by ring
  have near := ((near_rounded "Suitable provider supply" (base * (65 / 100) * 14)).append
    (@near_stepFrom (1 / 10000) "Supply saturation adjustment"
      ((base * multiplier - base) * (65 / 100) * 14) (by norm_num))).append
    (near_rounded "Top suitable provider quality" (average / 100 * (35 / 100) * 14))
  refine sound_of_near (PyString.whole_intCast 2 14) (by norm_num) ?_
  rw [min_eq_right (by linarith), max_eq_right (by linarith)]
  exact near.weaken (by norm_num)

theorem providerSuitability_sound {providers : List ProviderCandidate}
    (scores : ∀ provider ∈ providers, 0 ≤ provider.score ∧ provider.score ≤ 100) :
    ∃ component, providerSuitability python shipped providers = .ok component ∧
      component.Sound shipped.weights.providerSuitability := by
  unfold providerSuitability
  by_cases none_ : providers.isEmpty
  · rw [if_pos none_]
    exact ⟨_, rfl, le_rfl, by norm_num [shipped], by norm_num [Component.points]⟩
  · obtain ⟨summary, known, low, high⟩ := providerSuitabilitySummary_ok python scores
    have least : (((max 1 shipped.providers.idealMin : ℤ)) : ℚ) ≠ 0 := by norm_num [shipped]
    rw [if_neg none_, known]
    dsimp only [bind, Except.bind, pure, Except.pure]
    rw [divide_of_ne least, divide_of_ne (by norm_num)]
    refine ⟨_, rfl, ?_⟩
    have ratio : 0 ≤ (((summary.suitableProviderCount : ℤ)) : ℚ) / ((max 1 shipped.providers.idealMin : ℤ) : ℚ) := by
      positivity
    generalize (((summary.suitableProviderCount : ℤ)) : ℚ) / ((max 1 shipped.providers.idealMin : ℤ) : ℚ) = supplyRatio at *
    have multiplier : ∃ m : ℚ, (if shipped.providers.oversupplyCount < (summary.suitableProviderCount : ℤ) then 72 / 100
        else if shipped.providers.idealMax < (summary.suitableProviderCount : ℤ) then 88 / 100 else 1) = m ∧
          0 ≤ m ∧ m ≤ 1 := by
      split
      · exact ⟨_, rfl, by norm_num⟩
      · split
        · exact ⟨_, rfl, by norm_num⟩
        · exact ⟨_, rfl, by norm_num⟩
    obtain ⟨m, same, least, most⟩ := multiplier
    rw [same]
    have base : 0 ≤ min supplyRatio 1 ∧ min supplyRatio 1 ≤ 1 := ⟨le_min ratio zero_le_one, min_le_right _ _⟩
    exact supply_sound base.1 base.2 least most low high

end

end RankRent.Scoring
