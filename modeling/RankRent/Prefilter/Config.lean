import Mathlib.Tactic.NormNum
import RankRent.PublicData.Registry

/-!
# The addressable-market configuration

`AddressableMarketConfig` with what its validators accept. Numbers are exact.
-/

namespace RankRent.Prefilter
open PublicData (DatasetKind)

inductive SignalDirection
  | higher | idealRange
  deriving DecidableEq, Repr

inductive SignalTransform
  | linear | log
  deriving DecidableEq, Repr

/-- `IdealRange`. -/
structure IdealRange where
  minimum : ℚ
  maximum : ℚ
  hardMinimum : ℚ
  hardMaximum : ℚ
  nonneg : 0 ≤ hardMinimum
  order : hardMinimum ≤ minimum ∧ minimum ≤ maximum ∧ maximum ≤ hardMaximum

/-- What a signal carries over to its evidence. -/
structure SignalDocumentation where
  sourceDataset : DatasetKind
  sourceMeasure : String
  causalRationale : String
  missingDataTreatment : String
  geographicGranularity : String
  refreshCadence : String
  deriving DecidableEq

/-- `validate_normalization`. -/
def Normalized (direction : SignalDirection) (strongValue : Option ℚ) (idealRange : Option IdealRange) : Prop :=
  match direction with
  | .higher => strongValue.isSome = true ∧ idealRange.isSome = false
  | .idealRange => idealRange.isSome = true ∧ strongValue.isSome = false

/-- `AddressableMarketSignalProfile`. -/
structure SignalProfile where
  weight : ℚ
  documentation : SignalDocumentation
  expectedDirection : SignalDirection
  transform : SignalTransform := .linear
  strongValue : Option ℚ := none
  idealRange : Option IdealRange := none
  maximumCredit : ℚ := 1
  weight_range : 0 < weight ∧ weight ≤ 1
  strong_pos : ∀ value, strongValue = some value → 0 < value
  normalization : Normalized expectedDirection strongValue idealRange
  credit_range : 0 < maximumCredit ∧ maximumCredit ≤ 1

theorem full_range : (0 : ℚ) < 1 ∧ (1 : ℚ) ≤ 1 := ⟨zero_lt_one, le_rfl⟩

theorem half_range : (0 : ℚ) ≤ 1 / 2 ∧ (1 / 2 : ℚ) ≤ 1 := by norm_num

/-- `target_household_signal`. -/
inductive TargetHouseholdSignal
  | households | ownerOccupiedUnits
  deriving DecidableEq, Repr

def TargetHouseholdSignal.name : TargetHouseholdSignal → String
  | .households => "households"
  | .ownerOccupiedUnits => "owner_occupied_units"

/-- `math.isclose(total, 1.0, abs_tol=0.0001)`. -/
def IsClose (total : ℚ) : Prop := |total - 1| ≤ max (1 / 10 ^ 9 * max |total| 1) (1 / 10000)

instance (total : ℚ) : Decidable (IsClose total) := inferInstanceAs (Decidable (_ ≤ _))

/-- `AddressableMarketProfile`. -/
structure Profile where
  serviceFamilyId : String
  profileVersion : ℤ
  legacyProfileName : String := "home_services"
  targetHouseholdSignal : TargetHouseholdSignal := .ownerOccupiedUnits
  minimumEvidenceCoverage : ℚ := 1 / 2
  signals : List (String × SignalProfile)
  version_pos : 1 ≤ profileVersion
  minimum_range : 0 ≤ minimumEvidenceCoverage ∧ minimumEvidenceCoverage ≤ 1
  distinct : (signals.map Prod.fst).Nodup
  weights_close : IsClose (signals.map fun (_, signal) => signal.weight).sum

/-- `RecommendationThresholds`. -/
structure RecommendationThresholds where
  advanceToTesting : ℚ
  review : ℚ
  advance_range : 0 ≤ advanceToTesting ∧ advanceToTesting ≤ 100
  review_range : 0 ≤ review ∧ review ≤ 100
  order : review < advanceToTesting

def genericLocalService : String := "generic_local_service"

/-- `AddressableMarketConfig`. -/
structure Config where
  assessmentVersion : String
  minimumPopulation : ℤ
  maximumResults : ℤ
  recommendationThresholds : RecommendationThresholds
  profiles : List (String × Profile)
  population_pos : 1 ≤ minimumPopulation
  results_range : 1 ≤ maximumResults ∧ maximumResults ≤ 10000
  fallback : (profiles.lookup genericLocalService).isSome = true
  named : ∀ entry ∈ profiles, entry.1 = entry.2.serviceFamilyId

/-- `_profile_for_service`. -/
def Config.profileForService (config : Config) (serviceId : String) : String × Profile :=
  match config.profiles.lookup serviceId with
  | some profile => (serviceId, profile)
  | none => (genericLocalService, (config.profiles.lookup genericLocalService).get config.fallback)

end RankRent.Prefilter
