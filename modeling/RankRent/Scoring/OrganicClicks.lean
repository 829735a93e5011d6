import Mathlib.Algebra.BigOperators.Ring.List
import Mathlib.Tactic.FieldSimp
import RankRent.Library.PyDict
import RankRent.Scoring.Keywords

/-!
# Organic click availability

`_organic_click_availability`. The step of a classification carries its raw name.
-/

namespace RankRent.Scoring
open Evidence (Python)
open PyString (rounded)

/-- The organic results of a snapshot. -/
def SerpSnapshot.organic (snapshot : SerpSnapshot) : List SerpResult :=
  snapshot.results.filter (·.resultType = "organic")

/-- `_weighted_serp_feature_share`, of snapshots with their keyword weights. -/
def weightedSerpFeatureShare (snapshots : List (SerpSnapshot × ℚ)) (predicate : SerpSnapshot → Bool) :
    Except WorkerError ℚ :=
  let total := (snapshots.map Prod.snd).sum
  if total ≤ 0 then .ok 0
  else divide ((snapshots.filter fun (snapshot, _) => predicate snapshot).map Prod.snd).sum total

/-- A shopping or product feature. -/
def showsProducts (python : Python) (config : OrganicClickConfig) (snapshot : SerpSnapshot) : Bool :=
  let types := config.shoppingProductResultTypes.map python.lower
  snapshot.featuresPresent.any (fun feature => python.lower feature ∈ types) ||
    snapshot.results.any fun result => python.lower result.resultType ∈ types

def hasFeature (feature : String) (snapshot : SerpSnapshot) : Bool := feature ∈ snapshot.featuresPresent

/-- `_serp_composition`. -/
def serpComposition (results : List SerpResult) : List (String × ℕ) :=
  PyDict.tally results (fun result =>
    if result.classification = "" then "unknown" else result.classification) fun _ => 1

/-- `position_weights.get(order, 0.0)`. -/
def resultWeight (config : OrganicClickConfig) (result : SerpResult) : ℚ :=
  (config.serpPositionWeights.lookup result.order).getD 0

/-- The organic results with their evidence weights. -/
def weightedResults (config : OrganicClickConfig) (snapshots : List (SerpSnapshot × ℚ)) :
    List (SerpResult × ℚ) :=
  snapshots.flatMap fun (snapshot, keywordWeight) =>
    snapshot.organic.map fun result => (result, keywordWeight * resultWeight config result)

/-- `classification_weight_totals`. -/
def classificationWeightTotals (config : OrganicClickConfig) (snapshots : List (SerpSnapshot × ℚ)) :
    List (String × ℚ) :=
  PyDict.tally (weightedResults config snapshots) (fun (result, _) => result.classification) Prod.snd

/-- The component, and of its inputs the shares. -/
structure OrganicClicks where
  component : Component
  classificationWeightedShares : List (String × ℚ)
  shoppingSerpShare : ℚ
  localPackSerpShare : ℚ
  adsTopSerpShare : ℚ

/-- The shares of the snapshots with each feature. -/
def OrganicClicks.featureShares (clicks : OrganicClicks) : List ℚ :=
  [clicks.shoppingSerpShare, clicks.localPackSerpShare, clicks.adsTopSerpShare]

/-- A step that is written where something was counted. -/
def stepWhere (counted : Prop) [Decidable counted] (label : String) (points : ℚ) : List Step :=
  if counted then [⟨label, rounded 4 points⟩] else []

/-- `_organic_click_availability`, once each snapshot has its keyword weight. -/
def weightedClickAvailability (python : Python) (config : Config) (weighted : List (SerpSnapshot × ℚ)) :
    Except WorkerError OrganicClicks := do
  let weight := config.weights.organicClickAvailability
  let penalties := config.organicClick
  let capacity := (penalties.serpPositionWeights.map Prod.snd).sum * (weighted.map Prod.snd).sum
  let shopping ← weightedSerpFeatureShare weighted (showsProducts python penalties)
  let localPack ← weightedSerpFeatureShare weighted (hasFeature "local_pack")
  let adsTop ← weightedSerpFeatureShare weighted (hasFeature "ads_top")
  let counts := serpComposition (weighted.flatMap fun (snapshot, _) => snapshot.organic)
  let totals := classificationWeightTotals penalties weighted
  let shares ← totals.mapM fun (classification, total) => do
    return (classification, rounded 4 (← divide total capacity))
  let deductions ← penalties.classificationPenalties.mapM fun (classification, penalty) => do
    return (classification, (← divide ((totals.lookup classification).getD 0) capacity) * penalty)
  let availability := 1 - (deductions.map Prod.snd).sum - shopping * penalties.shoppingProductPenalty -
    localPack * penalties.localPackPenalty - adsTop * penalties.adsTopPenalty
  let unclamped := availability * weight
  return {
    component := ⟨bounded unclamped weight,
      [⟨"Available organic-click baseline", weight⟩] ++
      deductions.flatMap (fun (classification, deduction) =>
        stepWhere ((counts.lookup classification).getD 0 ≠ 0) (classification ++ " displacement")
          (-(deduction * weight))) ++
      stepWhere (shopping ≠ 0) "Shopping/product displacement"
        (-(shopping * penalties.shoppingProductPenalty * weight)) ++
      stepWhere (localPack ≠ 0) "Local-pack displacement" (-(localPack * penalties.localPackPenalty * weight)) ++
      stepWhere (adsTop ≠ 0) "Top-ad displacement" (-(adsTop * penalties.adsTopPenalty * weight)) ++
      stepFrom (1 / 10000) "Component boundary" (max 0 (min weight unclamped) - unclamped)⟩
    classificationWeightedShares := shares
    shoppingSerpShare := shopping
    localPackSerpShare := localPack
    adsTopSerpShare := adsTop }

/-- `_organic_click_availability`. -/
def organicClickAvailability (python : Python) (config : Config) (snapshots : List SerpSnapshot)
    (metrics : List KeywordMetric) : Except WorkerError OrganicClicks :=
  if (snapshots.flatMap SerpSnapshot.organic).isEmpty then
    .ok ⟨⟨0, [⟨"Missing SERP evidence", 0⟩]⟩, [], 0, 0, 0⟩
  else do
    let evidence ← queryKeywordEvidence config.organicClick.keywordWeighting
      (snapshots.map SerpSnapshot.query) metrics
    weightedClickAvailability python config (snapshots.zip (evidence.map KeywordEvidence.keywordWeight))

/-! ## What it gives -/

section
variable (w : SerpSnapshot → ℚ)

/-- The snapshots with their keyword weights. -/
def weigh (snapshots : List SerpSnapshot) : List (SerpSnapshot × ℚ) := snapshots.map fun s => (s, w s)

/-- `total_result_capacity`. -/
def capacity (snapshots : List SerpSnapshot) : ℚ :=
  (positionWeights.map Prod.snd).sum * (snapshots.map w).sum

/-- The share of the snapshots with a feature. -/
def featureShare (predicate : SerpSnapshot → Bool) (snapshots : List SerpSnapshot) : ℚ :=
  ((snapshots.filter predicate).map w).sum / (snapshots.map w).sum

/-- The evidence weight of the results of a classification. -/
def classTotal (snapshots : List SerpSnapshot) (classification : String) : ℚ :=
  ((weightedResults shipped.organicClick (weigh w snapshots)).map fun (result, weight) =>
    if result.classification = classification then weight else 0).sum

def availability (python : Python) (snapshots : List SerpSnapshot) : ℚ :=
  1 - (shipped.organicClick.classificationPenalties.map fun (classification, penalty) =>
      classTotal w snapshots classification / capacity w snapshots * penalty).sum -
    featureShare w (showsProducts python shipped.organicClick) snapshots *
      shipped.organicClick.shoppingProductPenalty -
    featureShare w (hasFeature "local_pack") snapshots * shipped.organicClick.localPackPenalty -
    featureShare w (hasFeature "ads_top") snapshots * shipped.organicClick.adsTopPenalty

variable {w}

theorem sum_weigh (snapshots : List SerpSnapshot) :
    ((weigh w snapshots).map Prod.snd).sum = (snapshots.map w).sum := by
  simp [weigh, Function.comp_def]

theorem weightedSerpFeatureShare_eq {snapshots : List SerpSnapshot} (positive : 0 < (snapshots.map w).sum)
    (predicate : SerpSnapshot → Bool) :
    weightedSerpFeatureShare (weigh w snapshots) predicate = .ok (featureShare w predicate snapshots) := by
  have affected : ((weigh w snapshots).filter fun (s, _) => predicate s).map Prod.snd =
      (snapshots.filter predicate).map w := by
    simp [weigh, List.filter_map, Function.comp_def]
  unfold weightedSerpFeatureShare
  rw [sum_weigh, affected, if_neg (not_le.mpr positive), divide_of_ne positive.ne']
  rfl

theorem capacity_pos {snapshots : List SerpSnapshot} (positive : 0 < (snapshots.map w).sum) :
    0 < capacity w snapshots := by
  have positions : 0 < (positionWeights.map Prod.snd).sum := by norm_num [positionWeights]
  exact mul_pos positions positive

/-- No result of a classification was counted, so none weighs anything. -/
theorem classTotal_of_uncounted {snapshots : List SerpSnapshot} {classification : String}
    (named : classification ≠ "")
    (none_ : ((serpComposition (snapshots.flatMap SerpSnapshot.organic)).lookup classification).getD 0 = 0) :
    classTotal w snapshots classification = 0 := by
  rw [serpComposition, PyDict.lookup_tally] at none_
  apply List.sum_eq_zero
  intro weight member
  obtain ⟨⟨result, weight'⟩, inside, rfl⟩ := List.mem_map.mp member
  obtain ⟨⟨snapshot, keyword⟩, there, result'⟩ := List.mem_flatMap.mp inside
  obtain ⟨found, isOrganic, same⟩ := List.mem_map.mp result'
  obtain ⟨s, known, eq⟩ := List.mem_map.mp there
  cases same
  cases eq
  by_cases is : result.classification = classification
  · rw [List.sum_eq_zero_iff_forall_eq_nat] at none_
    have counted := none_ _
      (List.mem_map_of_mem (List.mem_flatMap.mpr ⟨snapshot, known, isOrganic⟩))
    simp [is, named] at counted
  · simp [is]

end

/-! ### The whole component -/

/-- The steps between the baseline and the boundary: their labels, what they stand for, and
whether they are written. -/
def clickSteps (python : Python) (w : SerpSnapshot → ℚ) (snapshots : List SerpSnapshot) : List Step :=
  let weight := shipped.weights.organicClickAvailability
  let counts := serpComposition (snapshots.flatMap SerpSnapshot.organic)
  let deductions := shipped.organicClick.classificationPenalties.map fun (classification, penalty) =>
    (classification, classTotal w snapshots classification / capacity w snapshots * penalty)
  let shopping := featureShare w (showsProducts python shipped.organicClick) snapshots
  let localPack := featureShare w (hasFeature "local_pack") snapshots
  let adsTop := featureShare w (hasFeature "ads_top") snapshots
  let unclamped := availability w python snapshots * weight
  [⟨"Available organic-click baseline", weight⟩] ++
  deductions.flatMap (fun (classification, deduction) =>
    stepWhere ((counts.lookup classification).getD 0 ≠ 0) (classification ++ " displacement")
      (-(deduction * weight))) ++
  stepWhere (shopping ≠ 0) "Shopping/product displacement"
    (-(shopping * shipped.organicClick.shoppingProductPenalty * weight)) ++
  stepWhere (localPack ≠ 0) "Local-pack displacement"
    (-(localPack * shipped.organicClick.localPackPenalty * weight)) ++
  stepWhere (adsTop ≠ 0) "Top-ad displacement" (-(adsTop * shipped.organicClick.adsTopPenalty * weight)) ++
  stepFrom (1 / 10000) "Component boundary" (max 0 (min weight unclamped) - unclamped)

/-- What `_organic_click_availability` gives of organic results. -/
def clicksOf (python : Python) (w : SerpSnapshot → ℚ) (snapshots : List SerpSnapshot) : OrganicClicks where
  component := ⟨bounded (availability w python snapshots * shipped.weights.organicClickAvailability)
    shipped.weights.organicClickAvailability, clickSteps python w snapshots⟩
  classificationWeightedShares :=
    (classificationWeightTotals shipped.organicClick (weigh w snapshots)).map fun (classification, total) =>
      (classification, rounded 4 (total / capacity w snapshots))
  shoppingSerpShare := featureShare w (showsProducts python shipped.organicClick) snapshots
  localPackSerpShare := featureShare w (hasFeature "local_pack") snapshots
  adsTopSerpShare := featureShare w (hasFeature "ads_top") snapshots

/-- The keyword weight of a snapshot among others. -/
def snapshotWeight (metrics : List KeywordMetric) (snapshots : List SerpSnapshot) (snapshot : SerpSnapshot) : ℚ :=
  queryWeight metrics (snapshots.map SerpSnapshot.query) snapshot.query

theorem snapshotWeight_bounds (metrics : List KeywordMetric) {snapshots : List SerpSnapshot}
    {snapshot : SerpSnapshot} (member : snapshot ∈ snapshots) :
    25 / 100 ≤ snapshotWeight metrics snapshots snapshot ∧ snapshotWeight metrics snapshots snapshot ≤ 1 :=
  queryWeight_bounds metrics (List.mem_map_of_mem member)

theorem weights_pos (metrics : List KeywordMetric) {snapshots : List SerpSnapshot} (some : snapshots ≠ []) :
    0 < (snapshots.map (snapshotWeight metrics snapshots)).sum := by
  refine List.sum_pos _ ?_ (by simpa using some)
  intro weight member
  obtain ⟨snapshot, there, rfl⟩ := List.mem_map.mp member
  have bounds := snapshotWeight_bounds metrics there
  linarith [bounds.1]

theorem weightedClickAvailability_eq (python : Python) {w : SerpSnapshot → ℚ} {snapshots : List SerpSnapshot}
    (positive : 0 < (snapshots.map w).sum) :
    weightedClickAvailability python shipped (weigh w snapshots) = .ok (clicksOf python w snapshots) := by
  have nonzero := (capacity_pos positive).ne'
  have same : (shipped.organicClick.serpPositionWeights.map Prod.snd).sum *
      ((weigh w snapshots).map Prod.snd).sum = capacity w snapshots := by rw [sum_weigh]; rfl
  have counted : (weigh w snapshots).flatMap (fun (snapshot, _) => snapshot.organic) =
      snapshots.flatMap SerpSnapshot.organic := by
    simp [weigh, List.flatMap_map]
  have totals (classification : String) :
      ((classificationWeightTotals shipped.organicClick (weigh w snapshots)).lookup classification).getD 0 =
        classTotal w snapshots classification := by
    rw [classificationWeightTotals, PyDict.lookup_tally]
    rfl
  unfold weightedClickAvailability
  simp only [same, counted, totals, weightedSerpFeatureShare_eq positive, divide_of_ne nonzero, bind, Except.bind,
    pure, Except.pure]
  rw [Checks.mapM_ok fun total _ => rfl, Checks.mapM_ok fun total _ => rfl]
  rfl

theorem organicClickAvailability_eq (python : Python) {snapshots : List SerpSnapshot}
    (metrics : List KeywordMetric) (some : snapshots.flatMap SerpSnapshot.organic ≠ []) :
    organicClickAvailability python shipped snapshots metrics =
      .ok (clicksOf python (snapshotWeight metrics snapshots) snapshots) := by
  have nonempty : snapshots ≠ [] := by
    rintro rfl
    exact some rfl
  have weights : ((snapshots.map SerpSnapshot.query).map fun query => (⟨query,
      (matchedMetric metrics query).map KeywordMetric.keyword,
      queryWeight metrics (snapshots.map SerpSnapshot.query) query⟩ : KeywordEvidence)).map
        KeywordEvidence.keywordWeight = snapshots.map (snapshotWeight metrics snapshots) := by
    simp [Function.comp_def, snapshotWeight]
  have evidence := evidence_eq (snapshots.map SerpSnapshot.query) metrics
  unfold organicClickAvailability
  rw [if_neg (by simpa using some)]
  change ((queryKeywordEvidence keywordWeighting _ _).bind _) = _
  rw [evidence]
  change weightedClickAvailability python shipped (snapshots.zip _) = _
  rw [weights, ← List.map_prod_left_eq_zip]
  exact weightedClickAvailability_eq python (weights_pos metrics nonempty)

/-! ### Its steps and its shares -/

theorem near_stepWhere {counted : Prop} [Decidable counted] {points : ℚ} (label : String)
    (zero : ¬counted → points = 0) : Near (stepWhere counted label points) points (1 / 20000) := by
  unfold stepWhere
  split
  · exact near_rounded label points
  · rename_i uncounted
    norm_num [Near, zero uncounted]

theorem near_classSteps (w : SerpSnapshot → ℚ) (snapshots : List SerpSnapshot) (weight : ℚ) :
    Near ((shipped.organicClick.classificationPenalties.map fun (classification, penalty) =>
        (classification, classTotal w snapshots classification / capacity w snapshots * penalty)).flatMap
      fun (classification, deduction) =>
        stepWhere (((serpComposition (snapshots.flatMap SerpSnapshot.organic)).lookup classification).getD 0 ≠ 0)
          (classification ++ " displacement") (-(deduction * weight)))
      (-((shipped.organicClick.classificationPenalties.map fun (classification, penalty) =>
        classTotal w snapshots classification / capacity w snapshots * penalty).sum * weight))
      (6 / 20000) := by
  have named : ∀ entry ∈ shipped.organicClick.classificationPenalties, entry.1 ≠ "" := by
    simp [shipped]
  have near : Near (shipped.organicClick.classificationPenalties.flatMap fun entry => stepWhere
        (((serpComposition (snapshots.flatMap SerpSnapshot.organic)).lookup entry.1).getD 0 ≠ 0)
        (entry.1 ++ " displacement") (-(classTotal w snapshots entry.1 / capacity w snapshots * entry.2 * weight)))
      (shipped.organicClick.classificationPenalties.map fun entry =>
        -(classTotal w snapshots entry.1 / capacity w snapshots * entry.2 * weight)).sum
      (shipped.organicClick.classificationPenalties.length * (1 / 20000)) := by
    refine near_flatMap fun entry member => near_stepWhere _ fun uncounted => ?_
    rw [classTotal_of_uncounted (named entry member) (not_not.mp uncounted)]
    simp
  have total : (shipped.organicClick.classificationPenalties.map fun entry =>
      -(classTotal w snapshots entry.1 / capacity w snapshots * entry.2 * weight)).sum =
      -((shipped.organicClick.classificationPenalties.map fun entry =>
        classTotal w snapshots entry.1 / capacity w snapshots * entry.2).sum * weight) := by
    rw [← List.sum_map_mul_right, List.sum_neg, List.map_map]
    rfl
  rw [List.flatMap_map]
  rw [total] at near
  refine near.weaken (le_of_eq ?_)
  norm_num [shipped]

theorem clicksOf_sound (python : Python) (w : SerpSnapshot → ℚ) (snapshots : List SerpSnapshot) :
    (clicksOf python w snapshots).component.Sound shipped.weights.organicClickAvailability := by
  have whole : PyString.Whole 2 shipped.weights.organicClickAvailability :=
    PyString.whole_intCast 2 16
  refine sound_of_near whole (by norm_num [shipped]) ?_
  have feature (predicate : SerpSnapshot → Bool) (label : String) (penalty weight : ℚ) :
      Near (stepWhere (featureShare w predicate snapshots ≠ 0) label
        (-(featureShare w predicate snapshots * penalty * weight)))
        (-(featureShare w predicate snapshots * penalty * weight)) (1 / 20000) := by
    refine near_stepWhere label fun absent => ?_
    simp [not_not.mp absent]
  have boundary : Near (stepFrom (1 / 10000) "Component boundary"
      (max 0 (min shipped.weights.organicClickAvailability
        (availability w python snapshots * shipped.weights.organicClickAvailability)) -
        availability w python snapshots * shipped.weights.organicClickAvailability)) _ (1 / 10000) :=
    near_stepFrom _ _ (by norm_num)
  have near := (((((near_exact "Available organic-click baseline" shipped.weights.organicClickAvailability).append
    (near_classSteps w snapshots shipped.weights.organicClickAvailability)).append
    (feature (showsProducts python shipped.organicClick) "Shopping/product displacement"
      shipped.organicClick.shoppingProductPenalty shipped.weights.organicClickAvailability)).append
    (feature (hasFeature "local_pack") "Local-pack displacement" shipped.organicClick.localPackPenalty
      shipped.weights.organicClickAvailability)).append
    (feature (hasFeature "ads_top") "Top-ad displacement" shipped.organicClick.adsTopPenalty
      shipped.weights.organicClickAvailability)).append boundary
  have exact_ : ∀ a b c d e f g : ℚ, e + -(a * e) + -(b * e) + -(c * e) + -(d * e) +
      (g - f * e) = g + (1 - a - b - c - d - f) * e := by
    intros
    ring
  unfold Near at near ⊢
  rw [exact_] at near
  have none_ : (1 - (shipped.organicClick.classificationPenalties.map fun (classification, penalty) =>
      classTotal w snapshots classification / capacity w snapshots * penalty).sum -
      featureShare w (showsProducts python shipped.organicClick) snapshots *
        shipped.organicClick.shoppingProductPenalty -
      featureShare w (hasFeature "local_pack") snapshots * shipped.organicClick.localPackPenalty -
      featureShare w (hasFeature "ads_top") snapshots * shipped.organicClick.adsTopPenalty -
      availability w python snapshots) = 0 := sub_self _
  rw [none_, zero_mul, add_zero] at near
  exact near.trans (by norm_num)

/-! ### Shares -/

/-- What the organic results add up to, by the value of each. -/
def resultTotal (w : SerpSnapshot → ℚ) (snapshots : List SerpSnapshot) (value : SerpResult → ℚ) : ℚ :=
  (snapshots.map fun s => w s * (s.organic.map fun result =>
    resultWeight shipped.organicClick result * value result).sum).sum

theorem sum_weightedResults (w : SerpSnapshot → ℚ) (snapshots : List SerpSnapshot) (value : SerpResult → ℚ) :
    ((weightedResults shipped.organicClick (weigh w snapshots)).map fun (result, weight) =>
      weight * value result).sum = resultTotal w snapshots value := by
  induction snapshots with
  | nil => rfl
  | cons s rest ih =>
    simp only [weightedResults, resultTotal, weigh, List.map_cons, List.flatMap_cons, List.map_append,
      List.sum_append, List.sum_cons] at ih ⊢
    rw [ih, List.map_map, ← List.sum_map_mul_left]
    simp only [Function.comp_def, mul_assoc]

theorem classTotal_eq (w : SerpSnapshot → ℚ) (snapshots : List SerpSnapshot) (classification : String) :
    classTotal w snapshots classification =
      resultTotal w snapshots fun result => if result.classification = classification then 1 else 0 := by
  rw [← sum_weightedResults]
  simp [classTotal]

/-- Distinct places hold no more than there is. -/
theorem sum_lookup_le {weights : List (ℤ × ℚ)} (nonneg : ∀ entry ∈ weights, 0 ≤ entry.2) {orders : List ℤ}
    (distinct : orders.Nodup) :
    (orders.map fun order => (weights.lookup order).getD 0).sum ≤ (weights.map Prod.snd).sum := by
  induction weights with
  | nil => simp
  | cons entry weights ih =>
    obtain ⟨place, value⟩ := entry
    have head := nonneg (place, value) List.mem_cons_self
    have rest := ih fun later member => nonneg later (List.mem_cons_of_mem _ member)
    have others (order : ℤ) : 0 ≤ (weights.lookup order).getD 0 := by
      cases found : weights.lookup order with
      | none => simp
      | some v => exact nonneg (order, v) (List.mem_cons_of_mem _ (PyDict.mem_of_lookup found))
    have split_ : ∀ {orders : List ℤ}, orders.Nodup →
        (orders.map fun order => (((place, value) :: weights).lookup order).getD 0).sum ≤
          (if place ∈ orders then value else 0) + (orders.map fun order => (weights.lookup order).getD 0).sum := by
      intro orders distinct
      induction orders with
      | nil => simp
      | cons order orders ih =>
        obtain ⟨fresh, distinct⟩ := List.nodup_cons.mp distinct
        have step := ih distinct
        rw [List.map_cons, List.map_cons, List.sum_cons, List.sum_cons, List.lookup_cons]
        by_cases same : order = place
        · subst same
          rw [if_neg fresh] at step
          simp only [beq_self_eq_true, Option.getD_some, List.mem_cons, true_or, if_true]
          linarith [others order]
        · have apart : (order == place) = false := beq_false_of_ne same
          simp only [apart, List.mem_cons, Ne.symm same, false_or]
          linarith
    have bound := split_ distinct
    have first : (if place ∈ orders then value else 0) ≤ value := by
      split
      · exact le_rfl
      · exact head
    simp only [List.map_cons, List.sum_cons]
    linarith

theorem resultWeight_nonneg (result : SerpResult) : 0 ≤ resultWeight shipped.organicClick result := by
  unfold resultWeight
  cases found : shipped.organicClick.serpPositionWeights.lookup result.order with
  | none => simp
  | some v =>
    have member := PyDict.mem_of_lookup found
    have all : ∀ entry ∈ positionWeights, (0 : ℚ) ≤ entry.2 := by norm_num [positionWeights]
    exact all _ member

theorem resultTotal_nonneg {w : SerpSnapshot → ℚ} {snapshots : List SerpSnapshot} {value : SerpResult → ℚ}
    (weights : ∀ s ∈ snapshots, 0 ≤ w s) (values : ∀ result, 0 ≤ value result) :
    0 ≤ resultTotal w snapshots value := by
  refine List.sum_nonneg ?_
  intro total member
  obtain ⟨s, there, rfl⟩ := List.mem_map.mp member
  refine mul_nonneg (weights s there) (List.sum_nonneg ?_)
  intro part inside
  obtain ⟨result, -, rfl⟩ := List.mem_map.mp inside
  exact mul_nonneg (resultWeight_nonneg result) (values result)

/-- Results at distinct positions take up at most the capacity. -/
theorem resultTotal_le {w : SerpSnapshot → ℚ} {snapshots : List SerpSnapshot} {value : SerpResult → ℚ}
    (weights : ∀ s ∈ snapshots, 0 ≤ w s) (values : ∀ result, value result ≤ 1)
    (distinct : ∀ s ∈ snapshots, (s.organic.map SerpResult.order).Nodup) :
    resultTotal w snapshots value ≤ capacity w snapshots := by
  have each : ∀ s ∈ snapshots, w s * (s.organic.map fun result =>
      resultWeight shipped.organicClick result * value result).sum ≤
        (positionWeights.map Prod.snd).sum * w s := by
    intro s there
    have positions : ∀ entry ∈ positionWeights, (0 : ℚ) ≤ entry.2 := by norm_num [positionWeights]
    have places := sum_lookup_le positions (distinct s there)
    rw [List.map_map] at places
    have smaller : (s.organic.map fun result => resultWeight shipped.organicClick result * value result).sum ≤
        (s.organic.map (resultWeight shipped.organicClick)).sum := by
      refine List.sum_le_sum fun result _ => ?_
      exact mul_le_of_le_one_right (resultWeight_nonneg result) (values result)
    calc w s * (s.organic.map fun result => resultWeight shipped.organicClick result * value result).sum
        ≤ w s * (positionWeights.map Prod.snd).sum :=
          mul_le_mul_of_nonneg_left (smaller.trans places) (weights s there)
      _ = (positionWeights.map Prod.snd).sum * w s := mul_comm _ _
  have total := List.sum_le_sum each
  rwa [List.sum_map_mul_left] at total

theorem featureShare_bounds {w : SerpSnapshot → ℚ} {snapshots : List SerpSnapshot}
    (weights : ∀ s ∈ snapshots, 0 ≤ w s) (positive : 0 < (snapshots.map w).sum) (predicate : SerpSnapshot → Bool) :
    0 ≤ featureShare w predicate snapshots ∧ featureShare w predicate snapshots ≤ 1 := by
  have all : ∀ weight ∈ snapshots.map w, 0 ≤ weight := by
    intro weight member
    obtain ⟨s, there, rfl⟩ := List.mem_map.mp member
    exact weights s there
  have part : List.Sublist ((snapshots.filter predicate).map w) (snapshots.map w) := List.filter_sublist.map w
  constructor
  · exact div_nonneg (List.sum_nonneg fun weight member => all weight (part.subset member)) positive.le
  · exact (div_le_one positive).mpr (part.sum_le_sum all)

theorem classShare_bounds {w : SerpSnapshot → ℚ} {snapshots : List SerpSnapshot}
    (weights : ∀ s ∈ snapshots, 0 ≤ w s) (positive : 0 < (snapshots.map w).sum)
    (distinct : ∀ s ∈ snapshots, (s.organic.map SerpResult.order).Nodup) (python : Python) :
    ∀ share ∈ (clicksOf python w snapshots).classificationWeightedShares, 0 ≤ share.2 ∧ share.2 ≤ 1 := by
  intro share member
  obtain ⟨⟨classification, total⟩, there, rfl⟩ := List.mem_map.mp member
  have room := capacity_pos positive
  have same : total = classTotal w snapshots classification := by
    have found := PyDict.lookup_of_mem (PyDict.nodup_tally _ _ _) there
    have value := PyDict.lookup_tally (weightedResults shipped.organicClick (weigh w snapshots))
      (fun row : SerpResult × ℚ => row.1.classification) Prod.snd classification
    rw [classTotal, ← value]
    exact (congrArg (Option.getD · 0) found).symm
  have low : 0 ≤ classTotal w snapshots classification := by
    rw [classTotal_eq]
    refine resultTotal_nonneg weights fun result => ?_
    split <;> norm_num
  have high : classTotal w snapshots classification ≤ capacity w snapshots := by
    rw [classTotal_eq]
    refine resultTotal_le weights (fun result => ?_) distinct
    split <;> norm_num
  have one : PyString.Whole 4 (1 : ℚ) := by simpa using PyString.whole_intCast 4 1
  subst same
  exact ⟨PyString.rounded_nonneg (div_nonneg low room.le), PyString.rounded_le one ((div_le_one room).mpr high)⟩

/-! ### Any snapshots -/

/-- What `_organic_click_availability` gives. -/
def clicksFrom (python : Python) (snapshots : List SerpSnapshot) (metrics : List KeywordMetric) : OrganicClicks :=
  if (snapshots.flatMap SerpSnapshot.organic).isEmpty then ⟨⟨0, [⟨"Missing SERP evidence", 0⟩]⟩, [], 0, 0, 0⟩
  else clicksOf python (snapshotWeight metrics snapshots) snapshots

theorem organicClickAvailability_from (python : Python) (snapshots : List SerpSnapshot) (metrics : List KeywordMetric) :
    organicClickAvailability python shipped snapshots metrics = .ok (clicksFrom python snapshots metrics) := by
  unfold clicksFrom
  by_cases none_ : (snapshots.flatMap SerpSnapshot.organic).isEmpty
  · rw [organicClickAvailability, if_pos none_, if_pos none_]
  · rw [organicClickAvailability_eq python metrics (by simpa using none_), if_neg none_]

theorem clicksFrom_sound (python : Python) (snapshots : List SerpSnapshot) (metrics : List KeywordMetric) :
    (clicksFrom python snapshots metrics).component.Sound shipped.weights.organicClickAvailability := by
  unfold clicksFrom
  split
  · exact ⟨le_rfl, by norm_num [shipped], by norm_num [Component.points]⟩
  · exact clicksOf_sound python _ snapshots

theorem clicksFrom_shares (python : Python) {snapshots : List SerpSnapshot} (metrics : List KeywordMetric)
    (distinct : ∀ s ∈ snapshots, (s.organic.map SerpResult.order).Nodup) :
    (∀ share ∈ (clicksFrom python snapshots metrics).classificationWeightedShares, 0 ≤ share.2 ∧ share.2 ≤ 1) ∧
      ∀ share ∈ (clicksFrom python snapshots metrics).featureShares, 0 ≤ share ∧ share ≤ 1 := by
  unfold clicksFrom
  split
  · exact ⟨by simp, by simp [OrganicClicks.featureShares]⟩
  · rename_i found
    have nonempty : snapshots ≠ [] := by
      rintro rfl
      exact found rfl
    have weights : ∀ s ∈ snapshots, 0 ≤ snapshotWeight metrics snapshots s := by
      intro s member
      linarith [(snapshotWeight_bounds metrics member).1]
    have positive := weights_pos metrics nonempty
    refine ⟨classShare_bounds weights positive distinct python, ?_⟩
    intro share member
    simp only [OrganicClicks.featureShares, clicksOf, List.mem_cons, List.not_mem_nil, or_false] at member
    rcases member with rfl | rfl | rfl
    · exact featureShare_bounds weights positive _
    · exact featureShare_bounds weights positive _
    · exact featureShare_bounds weights positive _

end RankRent.Scoring
