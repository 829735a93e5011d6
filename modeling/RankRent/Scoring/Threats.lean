import RankRent.Scoring.Bounds

/-!
# Competition only hurts

A competitor with more links or more relevance never raises its component, and neither
does a result of a class that takes more clicks away, or another feature of a results page.
-/

namespace RankRent.Scoring
open Evidence (Python)
open PyString (rounded)
open Checks (Alike)

/-! ## A stronger competitor -/

/-- A copy of a competitor that more domains refer to, or that is more relevant. -/
structure Threatens (c c' : CompetitorMetric) : Prop where
  copy : c' = { c with
    referringDomains := c'.referringDomains
    pageRelevanceScore := c'.pageRelevanceScore
    localRelevance := c'.localRelevance }
  links : c'.referringDomains = c.referringDomains ∨
    ∃ n m, c.referringDomains = some n ∧ c'.referringDomains = some m ∧ n ≤ m
  page : c.pageRelevanceScore.getD (1 / 2) ≤ c'.pageRelevanceScore.getD (1 / 2)
  near : c.localRelevance.getD 0 ≤ c'.localRelevance.getD 0

theorem Threatens.refl (c : CompetitorMetric) : Threatens c c := ⟨rfl, Or.inl rfl, le_rfl, le_rfl⟩

section
variable {c c' d d' : CompetitorMetric}

theorem Threatens.competitorDomain_eq (threat : Threatens c c') (python : Python) :
    competitorDomain python c' = competitorDomain python c := by
  rw [threat.copy]
  rfl

theorem Threatens.position (threat : Threatens c c') : c'.serpPosition = c.serpPosition := by rw [threat.copy]

theorem Threatens.query (threat : Threatens c c') : c'.representativeQuery = c.representativeQuery := by rw [threat.copy]

theorem Threatens.observations (threat : Threatens c c') : c'.serpObservations = c.serpObservations := by
  rw [threat.copy]

theorem Threatens.merge (first : Threatens c c') (second : Threatens d d') :
    Threatens (mergeRows c d) (mergeRows c' d') := by
  unfold mergeRows
  rw [first.position, second.position, first.observations, second.observations]
  split
  · refine ⟨?_, second.links, second.page, second.near⟩
    rw [second.copy]
  · refine ⟨?_, first.links, first.page, first.near⟩
    rw [first.copy]

theorem addCompetitor_threatens (python : Python) {rows rows' : List (String × CompetitorMetric)}
    (all : PyDict.Related Threatens rows rows') (threat : Threatens c c') :
    Alike (PyDict.Related Threatens) (addCompetitor python rows c) (addCompetitor python rows' c') := by
  unfold addCompetitor
  rw [threat.competitorDomain_eq]
  cases competitorDomain python c with
  | error e => exact .error e
  | ok domain =>
    have found := all.lookup domain
    dsimp only [bind, Except.bind]
    revert found
    cases rows.lookup domain <;> cases rows'.lookup domain <;> intro found <;> cases found
    · exact .ok (all.setItem domain threat)
    · rename_i existing
      exact .ok (all.setItem domain (existing.merge threat))

theorem uniqueDomainCompetitors_threatens (python : Python) {competitors competitors' : List CompetitorMetric}
    (all : List.Forall₂ Threatens competitors competitors') :
    Alike (List.Forall₂ Threatens) (uniqueDomainCompetitors python competitors)
      (uniqueDomainCompetitors python competitors') := by
  have rows : Alike (PyDict.Related Threatens) (competitors.foldlM (addCompetitor python) [])
      (competitors'.foldlM (addCompetitor python) []) :=
    Checks.foldlM_alike (f := addCompetitor python) (g := addCompetitor python) (fun _ _ _ _ related threat => addCompetitor_threatens python related threat) all .nil
  unfold uniqueDomainCompetitors
  revert rows
  cases competitors.foldlM (addCompetitor python) [] <;> cases competitors'.foldlM (addCompetitor python) [] <;>
    intro rows <;> cases rows
  · exact .error _
  · rename_i related
    exact .ok related.values

/-! ### Its weakness -/

theorem linkValue_bounds (referring : Option ℤ) : 0 ≤ linkValue referring ∧ linkValue referring ≤ 1 := by
  cases referring with
  | none => norm_num [linkValue]
  | some n =>
    have span : (0 : ℚ) < max 1 (260 - 35) := lt_of_lt_of_le zero_lt_one (le_max_left _ _)
    have low : (0 : ℚ) ≤ min (max ((n : ℚ) - 35) 0) (260 - 35) := le_min (le_max_right _ _) (by norm_num)
    have high : min (max ((n : ℚ) - 35) 0) (260 - 35) ≤ max 1 (260 - 35) := (min_le_right _ _).trans (le_max_right _ _)
    exact ⟨sub_nonneg.mpr ((div_le_one span).mpr high), sub_le_self _ (div_nonneg low span.le)⟩

theorem linkValue_anti {n m : ℤ} (le : n ≤ m) : linkValue (some m) ≤ linkValue (some n) := by
  have le : (n : ℚ) ≤ m := by exact_mod_cast le
  have more : min (max ((n : ℚ) - 35) 0) (260 - 35) ≤ min (max ((m : ℚ) - 35) 0) (260 - 35) :=
    min_le_min (max_le_max (by linarith) le_rfl) le_rfl
  have span : (0 : ℚ) ≤ max 1 (260 - 35) := zero_le_one.trans (le_max_left _ _)
  unfold linkValue
  dsimp only
  linarith [div_le_div_of_nonneg_right more span]

theorem Threatens.linkValue_le (threat : Threatens c c') :
    linkValue c'.referringDomains ≤ linkValue c.referringDomains := by
  rcases threat.links with same | ⟨n, m, before, after, le⟩
  · rw [same]
  · rw [before, after]
    exact linkValue_anti le

theorem Threatens.relevanceValue_le (threat : Threatens c c') :
    relevanceValue c ≤ relevanceValue c' ∧ relevanceValue c' ≤ 1 := by
  have service : serviceRelevance c ≤ serviceRelevance c' := max_le_max le_rfl (min_le_min le_rfl threat.page)
  have local_ : localRelevance c ≤ localRelevance c' := max_le_max le_rfl (min_le_min le_rfl threat.near)
  have low : 0 ≤ serviceRelevance c ∧ 0 ≤ localRelevance c := ⟨le_max_left _ _, le_max_left _ _⟩
  have high : serviceRelevance c' ≤ 1 ∧ localRelevance c' ≤ 1 :=
    ⟨max_le zero_le_one (min_le_left _ _), max_le zero_le_one (min_le_left _ _)⟩
  have both : serviceRelevance c * localRelevance c ≤ serviceRelevance c' * localRelevance c' :=
    mul_le_mul service local_ low.2 (low.1.trans service)
  have most : serviceRelevance c' * localRelevance c' ≤ 1 :=
    mul_le_one₀ high.1 (low.2.trans local_) high.2
  unfold relevanceValue
  constructor <;> linarith

theorem Threatens.weaknessValue_le (threat : Threatens c c') (python : Python)
    (byQuery : List (String × KeywordEvidence)) :
    (weaknessValue python byQuery c').normalized ≤ (weaknessValue python byQuery c).normalized ∧
      (weaknessValue python byQuery c').exposure = (weaknessValue python byQuery c).exposure := by
  have archetype : c'.archetype python = c.archetype python := by
    rw [threat.copy]
    rfl
  have exposure : domainExposureWeight shipped byQuery c' = domainExposureWeight shipped byQuery c := by
    rw [threat.copy]
    rfl
  refine ⟨max_le_max le_rfl (min_le_min le_rfl ?_), exposure⟩
  have links := threat.linkValue_le
  obtain ⟨more, most⟩ := threat.relevanceValue_le
  have low := (linkValue_bounds c'.referringDomains).1
  unfold Weakness.raw weaknessValue
  dsimp only
  rw [archetype]
  -- What the relevance leaves of the base grows with the base and falls with the relevance.
  have left : linkValue c'.referringDomains * (1 - 65 / 100 * relevanceValue c') ≤
      linkValue c.referringDomains * (1 - 65 / 100 * relevanceValue c) := by
    apply mul_le_mul links (by linarith) (by linarith) (low.trans links)
  linarith

theorem weaknessScore_le {weaknesses weaknesses' : List Weakness} {weight : ℚ} (nonneg : 0 ≤ weight)
    (all : ∀ w ∈ weaknesses, w.Shipped)
    (less : List.Forall₂ (fun w w' => w'.normalized ≤ w.normalized ∧ w'.exposure = w.exposure) weaknesses weaknesses') :
    weaknessScore weight weaknesses' ≤ weaknessScore weight weaknesses := by
  have exposures : (weaknesses'.map Weakness.exposure).sum = (weaknesses.map Weakness.exposure).sum := by
    induction less with
    | nil => rfl
    | cons first _ ih =>
      rw [List.map_cons, List.map_cons, List.sum_cons, List.sum_cons, first.2,
        ih fun w member => all w (List.mem_cons_of_mem _ member)]
  have total : 0 ≤ (weaknesses.map Weakness.exposure).sum := by
    refine List.sum_nonneg ?_
    intro exposure member
    obtain ⟨w, there, rfl⟩ := List.mem_map.mp member
    linarith [(all w there).seen]
  have weighted : (weaknesses'.map fun w => w.normalized * w.exposure).sum ≤
      (weaknesses.map fun w => w.normalized * w.exposure).sum := by
    clear exposures total
    induction less with
    | nil => exact le_rfl
    | cons first _ ih =>
      have seen := (all _ List.mem_cons_self).seen
      have rest := ih fun w member => all w (List.mem_cons_of_mem _ member)
      rw [List.map_cons, List.map_cons, List.sum_cons, List.sum_cons, first.2]
      exact add_le_add (mul_le_mul_of_nonneg_right first.1 (by linarith)) rest
  unfold weaknessScore
  rw [exposures]
  exact mul_le_mul_of_nonneg_right (div_le_div_of_nonneg_right weighted total) nonneg

end

theorem observationQueries_threatens {competitors competitors' : List CompetitorMetric}
    (all : List.Forall₂ Threatens competitors competitors') :
    observationQueries competitors' = observationQueries competitors := by
  have observed : (competitors'.flatMap fun c => c.serpObservations.map Evidence.Observation.query) =
      competitors.flatMap fun c => c.serpObservations.map Evidence.Observation.query := by
    induction all with
    | nil => rfl
    | cons first _ ih => rw [List.flatMap_cons, List.flatMap_cons, first.observations, ih]
  unfold observationQueries
  rw [observed]
  generalize (competitors.flatMap fun c => c.serpObservations.map Evidence.Observation.query).eraseDups = start
  clear observed
  induction all generalizing start with
  | nil => rfl
  | cons first _ ih => rw [List.foldl_cons, List.foldl_cons, addQuery, addQuery, first.query, first.observations, ih]

theorem weaknessFrom_le (python : Python) {competitors competitors' : List CompetitorMetric}
    (all : List.Forall₂ Threatens competitors competitors') (metrics : List KeywordMetric) :
    (weaknessFrom python competitors' metrics).score ≤ (weaknessFrom python competitors metrics).score := by
  have queries := observationQueries_threatens all
  cases all with
  | nil => exact le_rfl
  | cons first rest =>
    have all := List.Forall₂.cons first rest
    unfold weaknessFrom
    rw [queries]
    refine bounded_mono 22 (weaknessScore_le (by norm_num) ?_ ?_)
    · intro w member
      obtain ⟨competitor, -, rfl⟩ := List.mem_map.mp member
      exact weaknessValue_shipped python metrics _ competitor
    · refine List.forall₂_map_left_iff.mpr (List.forall₂_map_right_iff.mpr (all.imp fun c c' threat => ?_))
      exact threat.weaknessValue_le python _

/-! ## A results page with less room -/

/-- The configured displacement penalty of a classification. -/
def displacementPenalty (classification : String) : ℚ :=
  (shipped.organicClick.classificationPenalties.lookup classification).getD 0

/-- A results page that leaves fewer clicks: an organic result of a class with a penalty at least as
large, more features, or another result that is not organic. -/
inductive Displacement (s : SerpSnapshot) : SerpSnapshot → Prop
  | reclassified (before : List SerpResult) (result : SerpResult) (after : List SerpResult) (classification : String)
      (there : s.results = before ++ result :: after) (organic : result.resultType = "organic")
      (larger : displacementPenalty result.classification ≤ displacementPenalty classification) :
      Displacement s { s with results := before ++ { result with classification := classification } :: after }
  | featured (features : List String) (more : s.featuresPresent ⊆ features) :
      Displacement s { s with featuresPresent := features }
  | listed (before : List SerpResult) (result : SerpResult) (after : List SerpResult)
      (there : s.results = before ++ after) (other : result.resultType ≠ "organic") :
      Displacement s { s with results := before ++ result :: after }

/-- What a displacement leaves. -/
structure Crowds (s s' : SerpSnapshot) : Prop where
  query : s'.query = s.query
  organic : List.Forall₂ (fun r r' => r'.order = r.order ∧
    displacementPenalty r.classification ≤ displacementPenalty r'.classification) s.organic s'.organic
  features : s.featuresPresent ⊆ s'.featuresPresent
  types : ∀ r ∈ s.results, ∃ r' ∈ s'.results, r'.resultType = r.resultType

theorem organic_refl (results : List SerpResult) : List.Forall₂ (fun r r' => r'.order = r.order ∧
    displacementPenalty r.classification ≤ displacementPenalty r'.classification) results results :=
  List.forall₂_same.mpr fun _ _ => ⟨rfl, le_rfl⟩

theorem Crowds.refl (s : SerpSnapshot) : Crowds s s :=
  ⟨rfl, organic_refl s.organic, List.Subset.refl _, fun r member => ⟨r, member, rfl⟩⟩

theorem Displacement.crowds {s s' : SerpSnapshot} (moved : Displacement s s') : Crowds s s' := by
  cases moved with
  | reclassified before result after classification there organic larger =>
    refine ⟨rfl, ?_, List.Subset.refl _, ?_⟩
    · simp only [SerpSnapshot.organic, there, List.filter_append, List.filter_cons, organic, decide_true, if_true]
      exact List.rel_append (organic_refl _) (.cons ⟨rfl, larger⟩ (organic_refl _))
    · intro r member
      rw [there] at member
      rcases List.mem_append.mp member with first | rest
      · exact ⟨r, List.mem_append_left _ first, rfl⟩
      · rcases List.mem_cons.mp rest with rfl | last
        · exact ⟨_, List.mem_append_right _ List.mem_cons_self, rfl⟩
        · exact ⟨r, List.mem_append_right _ (List.mem_cons_of_mem _ last), rfl⟩
  | featured features more => exact ⟨rfl, organic_refl _, more, fun r member => ⟨r, member, rfl⟩⟩
  | listed before result after there other =>
    refine ⟨rfl, ?_, List.Subset.refl _, ?_⟩
    · simp only [SerpSnapshot.organic, there, List.filter_append, List.filter_cons, other, decide_false,
        Bool.false_eq_true, if_false]
      exact organic_refl _
    · intro r member
      rw [there] at member
      refine ⟨r, ?_, rfl⟩
      rcases List.mem_append.mp member with first | last
      · exact List.mem_append_left _ first
      · exact List.mem_append_right _ (List.mem_cons_of_mem _ last)

/-! ### Its availability -/

theorem resultTotal_add (w : SerpSnapshot → ℚ) (snapshots : List SerpSnapshot) (f g : SerpResult → ℚ) :
    resultTotal w snapshots (fun result => f result + g result) = resultTotal w snapshots f + resultTotal w snapshots g := by
  simp only [resultTotal, mul_add, List.sum_map_add]

theorem resultTotal_mul (w : SerpSnapshot → ℚ) (snapshots : List SerpSnapshot) (f : SerpResult → ℚ) (factor : ℚ) :
    resultTotal w snapshots (fun result => f result * factor) = resultTotal w snapshots f * factor := by
  simp only [resultTotal, ← mul_assoc, List.sum_map_mul_right]

/-- The penalties by class are the penalties of the results. -/
theorem penalties_eq (w : SerpSnapshot → ℚ) (snapshots : List SerpSnapshot) {penalties : List (String × ℚ)}
    (distinct : (penalties.map Prod.fst).Nodup) :
    (penalties.map fun entry => classTotal w snapshots entry.1 * entry.2).sum =
      resultTotal w snapshots fun result => (penalties.lookup result.classification).getD 0 := by
  induction penalties with
  | nil => simp [resultTotal]
  | cons entry penalties ih =>
    obtain ⟨fresh, distinct⟩ := List.nodup_cons.mp distinct
    rw [List.map_cons, List.sum_cons, ih distinct, classTotal_eq, ← resultTotal_mul, ← resultTotal_add]
    congr 1
    funext result
    rw [List.lookup_cons]
    by_cases same : result.classification = entry.1
    · have absent : penalties.lookup entry.1 = none := by
        rw [← Option.not_isSome_iff_eq_none, PyDict.lookup_isSome]
        exact fresh
      simp [same, absent]
    · simp [same, beq_false_of_ne same]

/-- What the penalties of the shipped configuration take away. -/
theorem availability_eq (python : Python) (w : SerpSnapshot → ℚ) (snapshots : List SerpSnapshot) :
    availability w python snapshots =
      1 - resultTotal w snapshots (fun result => displacementPenalty result.classification) / capacity w snapshots -
        featureShare w (showsProducts python shipped.organicClick) snapshots *
          shipped.organicClick.shoppingProductPenalty -
        featureShare w (hasFeature "local_pack") snapshots * shipped.organicClick.localPackPenalty -
        featureShare w (hasFeature "ads_top") snapshots * shipped.organicClick.adsTopPenalty := by
  have distinct : (shipped.organicClick.classificationPenalties.map Prod.fst).Nodup := by decide
  have total := penalties_eq w snapshots distinct
  have divided : (shipped.organicClick.classificationPenalties.map fun entry =>
      classTotal w snapshots entry.1 / capacity w snapshots * entry.2).sum =
        (shipped.organicClick.classificationPenalties.map fun entry =>
          classTotal w snapshots entry.1 * entry.2).sum / capacity w snapshots := by
    rw [div_eq_mul_inv, ← List.sum_map_mul_right]
    congr 1
    refine List.map_congr_left fun entry _ => ?_
    ring
  unfold availability
  change 1 - (shipped.organicClick.classificationPenalties.map fun entry =>
      classTotal w snapshots entry.1 / capacity w snapshots * entry.2).sum - _ - _ - _ = _
  rw [divided, total]
  rfl

section
variable {s s' : SerpSnapshot} {snapshots snapshots' : List SerpSnapshot} (v : String → ℚ)

theorem Crowds.showsProducts (crowds : Crowds s s') (python : Python) (config : OrganicClickConfig)
    (shown : showsProducts python config s = true) : Scoring.showsProducts python config s' = true := by
  unfold Scoring.showsProducts at shown ⊢
  rw [Bool.or_eq_true] at shown ⊢
  rcases shown with feature | result
  · left
    obtain ⟨feature, member, is⟩ := List.any_eq_true.mp feature
    exact List.any_eq_true.mpr ⟨feature, crowds.features member, is⟩
  · right
    obtain ⟨result, member, is⟩ := List.any_eq_true.mp result
    obtain ⟨result', there, same⟩ := crowds.types result member
    exact List.any_eq_true.mpr ⟨result', there, by rwa [same]⟩

theorem Crowds.hasFeature (crowds : Crowds s s') (feature : String) (there : hasFeature feature s = true) :
    Scoring.hasFeature feature s' = true :=
  decide_eq_true (crowds.features (of_decide_eq_true there))

theorem crowds_weights (all : List.Forall₂ Crowds snapshots snapshots') :
    snapshots'.map (fun s => v s.query) = snapshots.map fun s => v s.query := by
  induction all with
  | nil => rfl
  | cons first _ ih => rw [List.map_cons, List.map_cons, first.query, ih]

theorem crowds_featureShare (nonneg : ∀ s ∈ snapshots, 0 ≤ v s.query) (all : List.Forall₂ Crowds snapshots snapshots')
    {predicate : SerpSnapshot → Bool} (keeps : ∀ {s s'}, Crowds s s' → predicate s = true → predicate s' = true) :
    featureShare (fun s => v s.query) predicate snapshots ≤ featureShare (fun s => v s.query) predicate snapshots' := by
  have total : 0 ≤ (snapshots.map fun s => v s.query).sum := by
    refine List.sum_nonneg ?_
    intro weight member
    obtain ⟨s, there, rfl⟩ := List.mem_map.mp member
    exact nonneg s there
  have shown : ((snapshots.filter predicate).map fun s => v s.query).sum ≤
      ((snapshots'.filter predicate).map fun s => v s.query).sum := by
    clear total
    induction all with
    | nil => exact le_rfl
    | @cons s s' _ _ first _ ih =>
      have rest := ih fun later member => nonneg later (List.mem_cons_of_mem _ member)
      have weight := nonneg s List.mem_cons_self
      by_cases before : predicate s = true
      · have after := keeps first before
        rw [List.filter_cons_of_pos before, List.filter_cons_of_pos after, List.map_cons, List.map_cons,
          List.sum_cons, List.sum_cons, first.query]
        exact add_le_add le_rfl rest
      · rw [List.filter_cons_of_neg before]
        by_cases after : predicate s' = true
        · rw [List.filter_cons_of_pos after, List.map_cons, List.sum_cons, first.query]
          linarith
        · rw [List.filter_cons_of_neg after]
          exact rest
  unfold featureShare
  rw [crowds_weights v all]
  exact div_le_div_of_nonneg_right shown total

theorem crowds_resultTotal (nonneg : ∀ s ∈ snapshots, 0 ≤ v s.query) (all : List.Forall₂ Crowds snapshots snapshots') :
    resultTotal (fun s => v s.query) snapshots (fun result => displacementPenalty result.classification) ≤
      resultTotal (fun s => v s.query) snapshots' (fun result => displacementPenalty result.classification) := by
  have page : ∀ {results results' : List SerpResult}, List.Forall₂ (fun r r' => r'.order = r.order ∧
      displacementPenalty r.classification ≤ displacementPenalty r'.classification) results results' →
      (results.map fun r => resultWeight shipped.organicClick r * displacementPenalty r.classification).sum ≤
        (results'.map fun r => resultWeight shipped.organicClick r * displacementPenalty r.classification).sum := by
    intro results results' related
    induction related with
    | nil => exact le_rfl
    | @cons r r' _ _ first _ ih =>
      have place : resultWeight shipped.organicClick r' = resultWeight shipped.organicClick r := by
        unfold resultWeight
        rw [first.1]
      rw [List.map_cons, List.map_cons, List.sum_cons, List.sum_cons, place]
      exact add_le_add (mul_le_mul_of_nonneg_left first.2 (resultWeight_nonneg r)) ih
  unfold resultTotal
  induction all with
  | nil => exact le_rfl
  | @cons s s' _ _ first _ ih =>
    have rest := ih fun later member => nonneg later (List.mem_cons_of_mem _ member)
    rw [List.map_cons, List.map_cons, List.sum_cons, List.sum_cons]
    dsimp only
    rw [first.query]
    exact add_le_add (mul_le_mul_of_nonneg_left (page first.organic) (nonneg s List.mem_cons_self)) rest

theorem crowds_availability (python : Python) (nonneg : ∀ s ∈ snapshots, 0 ≤ v s.query)
    (all : List.Forall₂ Crowds snapshots snapshots') :
    availability (fun s => v s.query) python snapshots' ≤ availability (fun s => v s.query) python snapshots := by
  have room : capacity (fun s => v s.query) snapshots' = capacity (fun s => v s.query) snapshots := by
    rw [capacity, capacity, crowds_weights v all]
  have positions : 0 ≤ (positionWeights.map Prod.snd).sum := by norm_num [positionWeights]
  have total : 0 ≤ capacity (fun s => v s.query) snapshots := by
    refine mul_nonneg positions (List.sum_nonneg ?_)
    intro weight member
    obtain ⟨s, there, rfl⟩ := List.mem_map.mp member
    exact nonneg s there
  have classes := div_le_div_of_nonneg_right (crowds_resultTotal v nonneg all) total
  have shopping := mul_le_mul_of_nonneg_right (crowds_featureShare v nonneg all
    fun crowds => crowds.showsProducts python shipped.organicClick)
      (show 0 ≤ shipped.organicClick.shoppingProductPenalty by norm_num [shipped])
  have localPack := mul_le_mul_of_nonneg_right (crowds_featureShare v nonneg all
    fun crowds => crowds.hasFeature "local_pack") (show 0 ≤ shipped.organicClick.localPackPenalty by norm_num [shipped])
  have adsTop := mul_le_mul_of_nonneg_right (crowds_featureShare v nonneg all
    fun crowds => crowds.hasFeature "ads_top") (show 0 ≤ shipped.organicClick.adsTopPenalty by norm_num [shipped])
  rw [availability_eq, availability_eq, room]
  linarith

end

theorem clicksFrom_le (python : Python) {snapshots snapshots' : List SerpSnapshot}
    (all : List.Forall₂ Crowds snapshots snapshots') (metrics : List KeywordMetric) :
    (clicksFrom python snapshots' metrics).component.score ≤ (clicksFrom python snapshots metrics).component.score := by
  have empty : (snapshots'.flatMap SerpSnapshot.organic).isEmpty = (snapshots.flatMap SerpSnapshot.organic).isEmpty := by
    rw [Bool.eq_iff_iff, List.isEmpty_iff, List.isEmpty_iff, List.flatMap_eq_nil_iff, List.flatMap_eq_nil_iff]
    induction all with
    | nil => exact Iff.rfl
    | cons first _ ih =>
      have none_ := first.organic.length_eq
      rw [List.forall_mem_cons, List.forall_mem_cons, ih, ← List.length_eq_zero_iff, ← List.length_eq_zero_iff, none_]
  have queries : snapshots'.map SerpSnapshot.query = snapshots.map SerpSnapshot.query := by
    clear empty
    induction all with
    | nil => rfl
    | cons first _ ih => rw [List.map_cons, List.map_cons, first.query, ih]
  have nonneg : ∀ s ∈ snapshots, 0 ≤ queryWeight metrics (snapshots.map SerpSnapshot.query) s.query := by
    intro s member
    have low : (0 : ℚ) ≤ 25 / 100 := by norm_num
    exact low.trans (snapshotWeight_bounds metrics member).1
  unfold clicksFrom
  rw [empty]
  split
  · exact le_rfl
  · have less := crowds_availability (queryWeight metrics (snapshots.map SerpSnapshot.query)) python nonneg all
    have same : snapshotWeight metrics snapshots' = fun s =>
        queryWeight metrics (snapshots.map SerpSnapshot.query) s.query := by
      funext s
      rw [snapshotWeight, queries]
    rw [same]
    exact bounded_mono 16 (mul_le_mul_of_nonneg_right less (by norm_num [shipped]))

/-! ## The score -/

theorem score_ok {python : Python} {config : Config} {e : EvidenceSet} {s : OpportunityScore}
    (ran : score python config e = .ok s) :
    competitorWeakness python config e.competitors (e.metrics.filter (·.included)) = .ok s.components.competitorWeakness ∧
      ∃ clicks, organicClickAvailability python config e.serpSnapshots (e.metrics.filter (·.included)) = .ok clicks ∧
        s.components.organicClickAvailability = clicks.component := by
  unfold score at ran
  simp only [Checks.bind_ok, Checks.pure_ok] at ran
  obtain ⟨model, -, cpc, -, paid, -, demand, -, commercial, -, competitor, weak, organic, clicks, provider, -,
    completeness, -, penalties, -, referring, -, summary, -, ⟨level, confidenceScore⟩, -, rfl⟩ := ran
  exact ⟨weak, organic, clicks, rfl⟩

theorem competitorWeakness_le (python : Python) {competitors competitors' : List CompetitorMetric}
    (all : List.Forall₂ Threatens competitors competitors') (metrics : List KeywordMetric) :
    Alike (fun component component' => component'.score ≤ component.score)
      (competitorWeakness python shipped competitors metrics) (competitorWeakness python shipped competitors' metrics) := by
  rw [competitorWeakness_eq, competitorWeakness_eq]
  have rows := uniqueDomainCompetitors_threatens python all
  revert rows
  cases uniqueDomainCompetitors python competitors <;> cases uniqueDomainCompetitors python competitors' <;>
    intro rows <;> cases rows
  · exact .error _
  · rename_i related
    exact .ok (weaknessFrom_le python related metrics)

/-- One stronger competitor never raises the weakness of the competitors, and one more crowded
results page never raises the clicks that are left. -/
theorem competition_only_hurts (python : Python) (e : EvidenceSet) :
    (∀ (before : List CompetitorMetric) (c c' : CompetitorMetric) (after : List CompetitorMetric) (s s' : OpportunityScore),
      Threatens c c' →
      score python shipped { e with competitors := before ++ c :: after } = .ok s →
      score python shipped { e with competitors := before ++ c' :: after } = .ok s' →
        s'.components.competitorWeakness.score ≤ s.components.competitorWeakness.score) ∧
    ∀ (before : List SerpSnapshot) (page page' : SerpSnapshot) (after : List SerpSnapshot) (s s' : OpportunityScore),
      Displacement page page' →
      score python shipped { e with serpSnapshots := before ++ page :: after } = .ok s →
      score python shipped { e with serpSnapshots := before ++ page' :: after } = .ok s' →
        s'.components.organicClickAvailability.score ≤ s.components.organicClickAvailability.score := by
  constructor
  · intro before c c' after s s' threat ran ran'
    have all : List.Forall₂ Threatens (before ++ c :: after) (before ++ c' :: after) :=
      List.rel_append (List.forall₂_same.mpr fun d _ => .refl d)
        (.cons threat (List.forall₂_same.mpr fun d _ => .refl d))
    exact (competitorWeakness_le python all _).of_ok (score_ok ran).1 (score_ok ran').1
  · intro before page page' after s s' moved ran ran'
    have all : List.Forall₂ Crowds (before ++ page :: after) (before ++ page' :: after) :=
      List.rel_append (List.forall₂_same.mpr fun d _ => .refl d)
        (.cons moved.crowds (List.forall₂_same.mpr fun d _ => .refl d))
    obtain ⟨clicks, first, same⟩ := (score_ok ran).2
    obtain ⟨clicks', second, same'⟩ := (score_ok ran').2
    rw [organicClickAvailability_from] at first second
    cases first
    cases second
    rw [same, same']
    exact clicksFrom_le python all _

theorem competition_only_hurts_roofing :
    ∃ s s', score Evidence.asciiPython shipped { roofing with
        competitors := [⟨"", "roofer.example", some 60, none, none, "", [], none, some 2, []⟩] } = .ok s ∧
      score Evidence.asciiPython shipped { roofing with
        competitors := [⟨"", "roofer.example", some 90, none, none, "", [], none, some 2, []⟩] } = .ok s' ∧
      s'.components.competitorWeakness.score ≤ s.components.competitorWeakness.score := by
  obtain ⟨s, ran⟩ := scored_of_named Evidence.asciiPython (e := { roofing with
    competitors := [⟨"", "roofer.example", some 60, none, none, "", [], none, some 2, []⟩] })
    (by norm_num [roofing]) (by decide)
  obtain ⟨s', ran'⟩ := scored_of_named Evidence.asciiPython (e := { roofing with
    competitors := [⟨"", "roofer.example", some 90, none, none, "", [], none, some 2, []⟩] })
    (by norm_num [roofing]) (by decide)
  refine ⟨s, s', ran, ran', (competition_only_hurts Evidence.asciiPython roofing).1 [] _ _ [] s s' ?_ ran ran'⟩
  exact ⟨rfl, Or.inr ⟨60, 90, rfl, rfl, by norm_num⟩, le_rfl, le_rfl⟩

end RankRent.Scoring
