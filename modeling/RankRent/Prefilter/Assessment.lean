import RankRent.Prefilter.Supply

/-!
# Assessments

`AddressableMarketPrefilter.assess_record`. `log1p` is any function that grows from 0.
-/

namespace RankRent.Prefilter
open Checks
open Geography (LocationCandidate USGeographyRecord)
open PublicData (DatasetKind DatasetManifest PublicDataError PublicDataSnapshot PublicDataStore)
open PyString (rounded)

/-- `math.log1p` from zero on. -/
structure Log1p where
  value : ℚ → ℚ
  zero : value 0 = 0
  strictMono : ∀ x y, 0 ≤ x → x < y → value x < value y

inductive AssessmentError
  | zeroDivision
  /-- A field of the result that leaves its bounds. -/
  | validation (field : String)
  | publicData (error : PublicDataError)

/-- `a / b`. -/
def divide (a b : ℚ) : Except AssessmentError ℚ := if b = 0 then .error .zeroDivision else .ok (a / b)

/-- The side of an ideal range on which a value lies, over its span. -/
def sideCredit (distance span : ℚ) : Except AssessmentError ℚ :=
  if 0 < span then (divide distance span).map (max 0) else .ok 0

/-- `_normalize_signal`. -/
def normalizeSignal (log1p : Log1p) (value : ℚ) (profile : SignalProfile) : Except AssessmentError ℚ :=
  let safeValue := max 0 value
  match profile.expectedDirection with
  | .idealRange =>
    match profile.idealRange with
    | none => .ok 0
    | some bounds =>
      if bounds.minimum ≤ safeValue ∧ safeValue ≤ bounds.maximum then .ok 1
      else if safeValue < bounds.minimum then
        sideCredit (safeValue - bounds.hardMinimum) (bounds.minimum - bounds.hardMinimum)
      else sideCredit (bounds.hardMaximum - safeValue) (bounds.hardMaximum - bounds.maximum)
  | .higher =>
    let strongValue := match profile.strongValue with
      | some strong => if strong = 0 then 1 else strong
      | none => 1
    match profile.transform with
    | .log => (divide (log1p.value safeValue) (log1p.value strongValue)).map (min 1)
    | .linear => (divide safeValue strongValue).map (min 1)

/-- `SignalEvidence`. -/
structure SignalEvidence where
  signal : String
  rawValue : Option ℚ
  normalizedValue : Option ℚ
  configuredWeight : ℚ
  points : ℚ
  available : Bool
  source : Provenance
  expectedDirection : SignalDirection
  documentation : SignalDocumentation

/-- `_signal_evidence`. -/
def signalEvidence (name : String) (profile : SignalProfile) (value normalized : Option ℚ) (points : ℚ)
    (source : Option Provenance) : SignalEvidence :=
  { signal := name
    rawValue := value
    normalizedValue := normalized.map (rounded 4)
    configuredWeight := profile.weight
    points
    available := value.isSome
    source := source.getD {}
    expectedDirection := profile.expectedDirection
    documentation := profile.documentation }

/-- What the loop over the signals has gathered. -/
structure Progress where
  evidence : List SignalEvidence := []
  componentScores : List (String × ℚ) := []
  missingSignals : List String := []
  availableWeight : ℚ := 0

/-- A round of the loop over the signals. -/
def assessSignal (log1p : Log1p) (signals : Signals) (sources : Sources) (progress : Progress)
    (entry : String × SignalProfile) : Except AssessmentError Progress :=
  let (name, profile) := entry
  match signals.get name with
  | none => .ok
    { progress with
      missingSignals := progress.missingSignals ++ [name]
      componentScores := PyDict.setItem progress.componentScores name 0
      evidence := progress.evidence ++ [signalEvidence name profile none none 0 (sources.lookup name)] }
  | some value => do
    let normalized ← normalizeSignal log1p value profile
    let points := rounded 2 (normalized * profile.maximumCredit * profile.weight * 100)
    return { progress with
      availableWeight := progress.availableWeight + profile.weight
      componentScores := PyDict.setItem progress.componentScores name points
      evidence := progress.evidence ++
        [signalEvidence name profile (some value) (some normalized) points (sources.lookup name)] }

/-- `_assessment_confidence`. -/
def assessmentConfidence (coverage : ℚ) (warnings : List String) (providerConfidence : String) : String :=
  if coverage < 1 / 2 then "insufficient"
  else if 9 / 10 ≤ coverage ∧ warnings = [] ∧ providerConfidence ∈ ["high", "medium"] then "high"
  else if 65 / 100 ≤ coverage ∧ warnings = [] then "medium"
  else "low"

/-- `_supply_provenance`. -/
def supplyProvenance (snapshot : PublicDataSnapshot) (density : ProviderDensityEvidence) : Provenance :=
  let manifests := [DatasetKind.cbp, .nes].filterMap snapshot.manifestOf
  let version := String.intercalate "+"
    (manifests.map fun manifest => manifest.release.dataset.value ++ ":" ++ manifest.release.version)
  { sourceVersion := if version = "" then none else some version
    dataYear := (manifests.map fun manifest => (manifest.release.dataYear : ℤ)).min?
    releaseDate := (manifests.map fun manifest => manifest.release.releaseDate).max?
    limitations := density.limitations }

/-- The signals that are taken from the supply. -/
def supplySignals (density : ProviderDensityEvidence) : Signals :=
  [("employer_establishments_per_10000", density.employerEstablishmentsPer10000),
   ("nonemployer_businesses_per_10000", density.nonemployerBusinessesPer10000),
   ("combined_supply_density", density.combinedSupplyDensity)]

/-- The market's signals, with those of its supply. -/
def assessedSignals (profile : Profile) (serviceMapping : Option ServiceNaicsMapping) (registry : NaicsRegistry)
    (record : USGeographyRecord) (snapshot : PublicDataSnapshot) : Signals × Sources × ProviderDensityEvidence :=
  let (signals, sources) := marketSignals record snapshot
  let density := providerDensity snapshot profile signals serviceMapping registry
  let source := supplyProvenance snapshot density
  ((supplySignals density).foldl (fun signals entry => PyDict.setItem signals entry.1 entry.2) signals,
    (supplySignals density).foldl (fun sources entry => PyDict.setItem sources entry.1 source) sources,
    density)

/-- `AddressableMarketAssessment`: no score and no coverage leaves its bounds. -/
structure Assessment where
  assessmentVersion : String
  geographyDatasetVersion : String
  serviceFamilyId : String
  serviceProfile : String
  profileVersion : ℤ
  location : LocationCandidate
  score : Option ℚ
  scoreAvailable : Bool
  recommendation : String
  confidence : String
  evidenceCoverage : ℚ
  componentScores : List (String × ℚ)
  evidence : List SignalEvidence
  providerDensity : ProviderDensityEvidence
  inputSignals : Signals
  missingSignals : List String
  datasetVersions : List (String × String)
  dataAgeWarnings : List String
  limitations : List String
  score_range : ∀ value, score = some value → 0 ≤ value ∧ value ≤ 100
  coverage_range : 0 ≤ evidenceCoverage ∧ evidenceCoverage ≤ 1

/-- `recommendation`. -/
def recommendation (thresholds : RecommendationThresholds) : Option ℚ → String
  | none => "insufficient_evidence"
  | some score =>
    if thresholds.advanceToTesting ≤ score then "advance_to_testing"
    else if thresholds.review ≤ score then "review"
    else "defer"

/-- `dataset_versions`. -/
def datasetVersions (record : USGeographyRecord) (snapshot : PublicDataSnapshot) : List (String × String) :=
  let versions := snapshot.manifests.map fun (dataset, manifest) => (dataset.value, manifest.release.version)
  if (versions.lookup "acs").isSome then versions else versions ++ [("acs", record.datasetVersion)]

/-- `AddressableMarketPrefilter`. -/
structure AddressableMarketPrefilter where
  config : Config
  naicsRegistry : NaicsRegistry
  warningAgeDays : List (DatasetKind × ℤ)
  publicDataStore : PublicDataStore

/-- `coverage`. -/
def Progress.coverage (progress : Progress) : ℚ := rounded 4 progress.availableWeight

/-- `score`. -/
def Progress.score (progress : Progress) (profile : Profile) : Option ℚ :=
  if profile.minimumEvidenceCoverage ≤ progress.coverage then
    some (rounded 2 (progress.componentScores.map Prod.snd).sum)
  else none

/-- The result of `assess_record`, after its loop. -/
def AddressableMarketPrefilter.result (prefilter : AddressableMarketPrefilter) (profileId : String) (profile : Profile)
    (record : USGeographyRecord) (snapshot : PublicDataSnapshot) (signals : Signals)
    (density : ProviderDensityEvidence) (progress : Progress) : Except AssessmentError Assessment :=
  let score := progress.score profile
  if inScore : ∀ value, score = some value → 0 ≤ value ∧ value ≤ 100 then
    if inCoverage : 0 ≤ progress.coverage ∧ progress.coverage ≤ 1 then
      .ok
      { assessmentVersion := prefilter.config.assessmentVersion
        geographyDatasetVersion := record.datasetVersion
        serviceFamilyId := profileId
        serviceProfile := profile.legacyProfileName
        profileVersion := profile.profileVersion
        location := Geography.candidateFromRecord record 1 Geography.certain_range "addressable_market_public_data" record.city
        score
        scoreAvailable := score.isSome
        recommendation := recommendation prefilter.config.recommendationThresholds score
        confidence := assessmentConfidence progress.coverage snapshot.warnings density.dataConfidence
        evidenceCoverage := progress.coverage
        componentScores := progress.componentScores
        evidence := progress.evidence
        providerDensity := density
        inputSignals := signals
        missingSignals := progress.missingSignals
        datasetVersions := datasetVersions record snapshot
        dataAgeWarnings := snapshot.warnings
        limitations :=
          ["This assessment measures addressable-market structure, not SEO difficulty, " ++
              "Google demand, ranking feasibility, or expected revenue.",
            "Industry establishment counts are NAICS-based supply estimates, not exact " ++
              "service-provider or tenant counts."] ++
            (if density.combinedSupplyDensity = none then
              ["No activated CBP/NES supply evidence was available; provider-density " ++
                "signals received no points."] else [])
        score_range := inScore
        coverage_range := inCoverage }
    else .error (.validation "evidence_coverage")
  else .error (.validation "score")

/-- The signals of a service for a record and a snapshot. -/
def AddressableMarketPrefilter.assessed (prefilter : AddressableMarketPrefilter) (serviceId : String)
    (record : USGeographyRecord) (snapshot : PublicDataSnapshot) : Signals × Sources × ProviderDensityEvidence :=
  let selected := prefilter.config.profileForService serviceId
  assessedSignals selected.2 (prefilter.naicsRegistry.forService selected.1) prefilter.naicsRegistry record snapshot

/-- `assess_record` on a snapshot. -/
def AddressableMarketPrefilter.assess (prefilter : AddressableMarketPrefilter) (log1p : Log1p) (serviceId : String)
    (record : USGeographyRecord) (snapshot : PublicDataSnapshot) : Except AssessmentError Assessment := do
  let selected := prefilter.config.profileForService serviceId
  let assessed := prefilter.assessed serviceId record snapshot
  let progress ← selected.2.signals.foldlM (assessSignal log1p assessed.1 assessed.2.1) {}
  prefilter.result selected.1 selected.2 record snapshot assessed.1 assessed.2.2 progress

/-- `assess_record`. -/
def AddressableMarketPrefilter.assessRecord (prefilter : AddressableMarketPrefilter) (log1p : Log1p)
    (serviceId : String) (record : USGeographyRecord) (today : Date) : Except AssessmentError Assessment :=
  match prefilter.publicDataStore.snapshot record.id record.countyFips prefilter.warningAgeDays today with
  | .error error => .error (.publicData error)
  | .ok snapshot => prefilter.assess log1p serviceId record snapshot

end RankRent.Prefilter
