import RankRent.Evidence.Competitors
import RankRent.Library.Casefold
import RankRent.Library.Rounding
import RankRent.Scoring.Config

/-!
# The evidence of a score

The records `OpportunityScorer.score` reads, with exact numbers, and the arithmetic it
does on them. A quotient fails where Python raises `ZeroDivisionError`.
-/

namespace RankRent.Scoring
open Evidence (Python)
open PyString (rounded)

structure KeywordMetric where
  keyword : String
  canonicalKeyword : String
  intent : String
  searchVolume : Option ℤ
  cpc : Option ℚ
  paidCompetition : Option ℚ
  monthlyHistory : List ℤ
  source : String
  sourceTimestamp : DateTime
  marketGranularity : String
  included : Bool
  deriving DecidableEq

structure SerpResult where
  order : ℤ
  resultType : String
  classification : String
  deriving DecidableEq

structure SerpSnapshot where
  query : String
  capturedAt : DateTime
  featuresPresent : List String
  results : List SerpResult
  deriving DecidableEq

/-- `CompetitorMetric`; a signal of its relevance is a JSON value. -/
structure CompetitorMetric where
  url : String
  domain : String
  referringDomains : Option ℤ
  pageRelevanceScore : Option ℚ
  localRelevance : Option ℚ
  pageType : String
  relevanceSignals : List (String × PyJson)
  representativeQuery : Option String
  serpPosition : Option ℤ
  serpObservations : List Evidence.Observation

structure ProviderCandidate where
  businessStatus : String
  suitabilityScore : Option ℚ
  deriving DecidableEq

/-- `Market`; of its resolution metadata the values that are numbers. -/
structure Market where
  population : Option ℤ
  referencePopulation : Option ℤ
  resolutionMetadata : List (String × ℚ)

/-! ## Arithmetic -/

/-- `ZeroDivisionError`. -/
def zeroDivision : WorkerError := ⟨.other, "division by zero"⟩

/-- `a / b`. -/
def divide (a b : ℚ) : Except WorkerError ℚ := if b = 0 then .error zeroDivision else .ok (a / b)

/-- `statistics.mean`. -/
def mean (values : List ℚ) : Except WorkerError ℚ :=
  if values.isEmpty then .error ⟨.valueError, "mean requires at least one data point"⟩
  else divide values.sum values.length

/-- `values or [0]`. -/
def orZero (values : List ℚ) : List ℚ := if values.isEmpty then [0] else values

/-- `min(max(value, 0), 1)`. -/
def clamp (value : ℚ) : ℚ := min (max value 0) 1

/-- `_bounded`. -/
def bounded (value maximum : ℚ) : ℚ := rounded 2 (max 0 (min maximum value))

/-- `_normalize_query`. -/
def normalizeQuery (value : String) : String := PyString.spaced (PyString.casefold value)

/-- `ScoreCalculationStep`: its label and its points. -/
structure Step where
  label : String
  points : ℚ
  deriving DecidableEq

/-- A component: its score and the steps of its calculation. -/
structure Component where
  score : ℚ
  steps : List Step
  deriving DecidableEq

/-- The points of the steps. -/
def Component.points (component : Component) : ℚ := (component.steps.map Step.points).sum

/-- A step that is written only where its points matter. -/
def stepFrom (threshold : ℚ) (label : String) (points : ℚ) : List Step :=
  if threshold ≤ |points| then [⟨label, rounded 4 points⟩] else []

/-! ## Facts -/

@[simp] theorem divide_of_ne {a b : ℚ} (ne : b ≠ 0) : divide a b = .ok (a / b) := by
  simp [divide, ne]

theorem mean_of_ne {values : List ℚ} (some : values ≠ []) :
    mean values = .ok (values.sum / values.length) := by
  have size : (values.length : ℚ) ≠ 0 := by exact_mod_cast (List.length_pos_iff.mpr some).ne'
  simp [mean, some, size]

theorem isEmpty_perm {α : Type} {items other : List α} (perm : items.Perm other) : items.isEmpty = other.isEmpty := by
  rw [Bool.eq_iff_iff, List.isEmpty_iff, List.isEmpty_iff]
  exact ⟨fun none_ => (none_ ▸ perm).nil_eq.symm, fun none_ => (none_ ▸ perm).eq_nil⟩

theorem orZero_ne_nil (values : List ℚ) : orZero values ≠ [] := by
  unfold orZero
  cases values <;> simp

theorem clamp_nonneg (value : ℚ) : 0 ≤ clamp value := le_min (le_max_right _ _) zero_le_one

theorem clamp_le_one (value : ℚ) : clamp value ≤ 1 := min_le_right _ _

theorem clamp_mono : Monotone clamp := by
  intro p q le
  exact min_le_min (max_le_max le le_rfl) le_rfl

theorem clamp_of_mem {value : ℚ} (low : 0 ≤ value) (high : value ≤ 1) : clamp value = value := by
  rw [clamp, max_eq_left low, min_eq_left high]

theorem bounded_nonneg (value maximum : ℚ) : 0 ≤ bounded value maximum :=
  PyString.rounded_nonneg (le_max_left _ _)

theorem bounded_le {value maximum : ℚ} (whole : PyString.Whole 2 maximum) (nonneg : 0 ≤ maximum) :
    bounded value maximum ≤ maximum :=
  PyString.rounded_le whole (max_le nonneg (min_le_left _ _))

theorem bounded_mono (maximum : ℚ) : Monotone (bounded · maximum) := by
  intro p q le
  exact PyString.rounded_mono 2 (max_le_max le_rfl (min_le_min le_rfl le))

theorem bounded_of_mem {value maximum : ℚ} (low : 0 ≤ value) (high : value ≤ maximum) :
    bounded value maximum = rounded 2 value := by
  rw [bounded, min_eq_right high, max_eq_right low]

/-! ## Steps -/

/-- The steps add up to a number, but for an error. -/
def Near (steps : List Step) (exact error : ℚ) : Prop := |(steps.map Step.points).sum - exact| ≤ error

theorem Near.append {first second : List Step} {x y d e : ℚ} (left : Near first x d) (right : Near second y e) :
    Near (first ++ second) (x + y) (d + e) := by
  unfold Near at left right ⊢
  rw [List.map_append, List.sum_append, add_sub_add_comm]
  exact (abs_add_le _ _).trans (add_le_add left right)

theorem Near.weaken {steps : List Step} {exact d e : ℚ} (near : Near steps exact d) (le : d ≤ e) :
    Near steps exact e :=
  near.trans le

theorem near_exact (label : String) (points : ℚ) : Near [⟨label, points⟩] points 0 := by simp [Near]

theorem near_rounded (label : String) (points : ℚ) : Near [⟨label, rounded 4 points⟩] points (1 / 20000) := by
  have near := PyString.abs_rounded_sub 4 points
  norm_num at near
  simpa [Near] using near

/-- A step below the threshold is left out. -/
theorem near_stepFrom {threshold : ℚ} (label : String) (points : ℚ) (small : 1 / 20000 ≤ threshold) :
    Near (stepFrom threshold label points) points threshold := by
  unfold stepFrom
  split
  · exact (near_rounded label points).weaken small
  · rename_i below
    simpa [Near] using (not_le.mp below).le

/-- Steps for each item. -/
theorem near_flatMap {α : Type} {items : List α} {steps : α → List Step} {exact : α → ℚ} {error : ℚ}
    (each : ∀ item ∈ items, Near (steps item) (exact item) error) :
    Near (items.flatMap steps) (items.map exact).sum (items.length * error) := by
  induction items with
  | nil => simp [Near]
  | cons item items ih =>
    have rest := ih fun later member => each later (List.mem_cons_of_mem item member)
    have whole := (each item List.mem_cons_self).append rest
    rw [List.flatMap_cons, List.map_cons, List.sum_cons]
    refine whole.weaken (le_of_eq ?_)
    rw [List.length_cons]
    push_cast
    ring

/-- One rounded step for each item. -/
theorem near_map {α : Type} {items : List α} {label : α → String} {points : α → ℚ} :
    Near (items.map fun item => ⟨label item, rounded 4 (points item)⟩) (items.map points).sum
      (items.length * (1 / 20000)) := by
  rw [List.map_eq_flatMap]
  exact near_flatMap fun item _ => near_rounded (label item) (points item)

/-- Items that count for nothing may be left out. -/
theorem sum_filter_of_zero {α : Type} {items : List α} {f : α → ℚ} {p : α → Prop} [DecidablePred p]
    (zero : ∀ item ∈ items, ¬p item → f item = 0) : ((items.filter p).map f).sum = (items.map f).sum := by
  induction items with
  | nil => rfl
  | cons item items ih =>
    have rest := ih fun later member => zero later (List.mem_cons_of_mem item member)
    by_cases kept : p item
    · simp [kept, rest]
    · simp [kept, rest, zero item List.mem_cons_self kept]

/-- The score of a component within its weight, and steps that add up to it. -/
structure Component.Sound (component : Component) (weight : ℚ) : Prop where
  nonneg : 0 ≤ component.score
  le : component.score ≤ weight
  adds : |component.points - component.score| ≤ 1 / 100

/-- Steps near a bounded value add up to its score. -/
theorem sound_of_near {steps : List Step} {value weight : ℚ} (whole : PyString.Whole 2 weight)
    (nonneg : 0 ≤ weight) (near : Near steps (max 0 (min weight value)) (1 / 200)) :
    Component.Sound ⟨bounded value weight, steps⟩ weight where
  nonneg := bounded_nonneg value weight
  le := bounded_le whole nonneg
  adds := by
    have error := PyString.abs_rounded_sub 2 (max 0 (min weight value))
    norm_num at error
    unfold Near at near
    have split_ : Component.points ⟨bounded value weight, steps⟩ - bounded value weight =
        ((steps.map Step.points).sum - max 0 (min weight value)) -
          (rounded 2 (max 0 (min weight value)) - max 0 (min weight value)) := by
      rw [Component.points, bounded]
      ring
    calc |Component.points ⟨bounded value weight, steps⟩ - bounded value weight|
        ≤ |(steps.map Step.points).sum - max 0 (min weight value)| +
            |rounded 2 (max 0 (min weight value)) - max 0 (min weight value)| := by
          rw [split_]
          exact abs_sub _ _
      _ ≤ 1 / 200 + 1 / 200 := add_le_add near error
      _ = 1 / 100 := by norm_num

/-- A last step for what the bounds take away. -/
theorem sound_of_capped {steps : List Step} {raw weight error : ℚ} (label : String) (whole : PyString.Whole 2 weight)
    (nonneg : 0 ≤ weight) (near : Near steps raw error) (small : error ≤ 49 / 10000) :
    Component.Sound ⟨bounded raw weight, steps ++ stepFrom (1 / 10000) label (max 0 (min weight raw) - raw)⟩
      weight := by
  refine sound_of_near whole nonneg ?_
  have last := @near_stepFrom (1 / 10000) label (max 0 (min weight raw) - raw) (by norm_num)
  have all := near.append last
  rw [add_sub_cancel] at all
  exact all.weaken (by linarith)

end RankRent.Scoring
