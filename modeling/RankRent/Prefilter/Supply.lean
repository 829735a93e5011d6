import RankRent.Library.Rounding
import RankRent.Prefilter.Config
import RankRent.Prefilter.Signals

/-!
# Provider density

`public_data/naics.py` and `_provider_density`: what the industry records of a snapshot
count for a service, and what that comes to for its households.
-/

namespace RankRent.Prefilter
open PublicData (DatasetKind DatasetRecord PublicDataSnapshot)
open PyString (rounded)

inductive NaicsRelationship
  | exact | broadParent | adjacent
  deriving DecidableEq, Repr

inductive MappingConfidence
  | high | medium | low
  deriving DecidableEq, Repr

/-- `RELATIONSHIP_WEIGHTS`. -/
def NaicsRelationship.weight : NaicsRelationship → ℚ
  | .exact => 1
  | .broadParent => 55 / 100
  | .adjacent => 25 / 100

/-- `CONFIDENCE_WEIGHTS`. -/
def MappingConfidence.weight : MappingConfidence → ℚ
  | .high => 1
  | .medium => 75 / 100
  | .low => 1 / 2

/-- `NAICSMapping`. -/
structure NaicsMapping where
  code : String
  relationship : NaicsRelationship
  confidence : MappingConfidence
  title : String
  notes : String
  code_valid : (2 ≤ code.length ∧ code.length ≤ 6) ∧ code.toList.all PyString.isDigit = true

/-- `evidence_weight`. -/
def NaicsMapping.evidenceWeight (mapping : NaicsMapping) : ℚ := mapping.relationship.weight * mapping.confidence.weight

/-- `ServiceNAICSMapping`. -/
structure ServiceNaicsMapping where
  serviceFamilyId : String
  reviewedBy : String
  reviewedAt : Date
  naicsVersion : String
  mappings : List NaicsMapping
  unique_codes : (mappings.map NaicsMapping.code).Nodup
  reviewed : mappings ≠ []

/-- `NAICSRegistry`. -/
structure NaicsRegistry where
  registryVersion : String
  services : List ServiceNaicsMapping
  unique_services : (services.map ServiceNaicsMapping.serviceFamilyId).Nodup

/-- `for_service`. -/
def NaicsRegistry.forService (registry : NaicsRegistry) (serviceFamilyId : String) : Option ServiceNaicsMapping :=
  registry.services.find? fun service => service.serviceFamilyId = serviceFamilyId

/-! ## Industry records -/

/-- `mapping_by_code`; the codes are distinct. -/
def mappingByCode (mappings : List NaicsMapping) : List (String × NaicsMapping) :=
  mappings.map fun mapping => (mapping.code, mapping)

/-- The code of a record, `""` where it has none. -/
def naicsCode (record : DatasetRecord) : String := (record.dimensions.lookup "naics_code").getD ""

/-- The totals of `_aggregate_industry_records`. -/
structure IndustryTotals where
  raw : ℚ := 0
  weighted : ℚ := 0
  matched : Bool := false
  used : List String := []

/-- A round of `_aggregate_industry_records`. -/
def IndustryTotals.add (mappings : List (String × NaicsMapping)) (measure : String) (totals : IndustryTotals)
    (record : DatasetRecord) : IndustryTotals :=
  match mappings.lookup (naicsCode record), record.measure measure with
  | some mapping, some value =>
    { raw := totals.raw + value
      weighted := totals.weighted + value * mapping.evidenceWeight
      matched := true
      used := totals.used.insert mapping.code }
  | _, _ => totals

/-- `_aggregate_industry_records`. -/
def aggregateIndustryRecords (records : List DatasetRecord) (mappings : List (String × NaicsMapping))
    (measure : String) : Option ℚ × Option ℚ × List String :=
  let totals := records.foldl (IndustryTotals.add mappings measure) {}
  if totals.matched then (some (rounded 3 totals.raw), some (rounded 3 totals.weighted), totals.used)
  else (none, none, totals.used)

/-! ## Density -/

/-- `_density`. -/
def densityOf (value : Option ℚ) (households : Option ℤ) : Option ℚ :=
  match value, households with
  | some value, some households => if households ≤ 0 then none else some (rounded 3 (value * 10000 / households))
  | _, _ => none

/-- `_supply_band`. -/
def supplyBand (value : Option ℚ) (idealRange : Option IdealRange) : String :=
  match value, idealRange with
  | some value, some range =>
    if range.minimum ≤ value ∧ value ≤ range.maximum then "ideal"
    else if value < range.minimum then "undersupplied"
    else "oversupplied"
  | _, _ => "unknown"

/-- `ProviderDensityEvidence`; a mapping comes with whether it was used. -/
structure ProviderDensityEvidence where
  targetHouseholds : Option ℤ
  targetHouseholdSignal : String
  employerEstablishmentsRaw : Option ℚ
  nonemployerBusinessesRaw : Option ℚ
  employerEstablishmentsWeighted : Option ℚ
  nonemployerBusinessesWeighted : Option ℚ
  employerEstablishmentsPer10000 : Option ℚ
  nonemployerBusinessesPer10000 : Option ℚ
  combinedSupplyDensity : Option ℚ
  combinedSupplyBand : String
  dataConfidence : String
  naicsRegistryVersion : String
  naicsMappings : List (NaicsMapping × Bool)
  limitations : List String

/-- `target_households`. -/
def targetHouseholds (profile : Profile) (signals : Signals) : Option ℤ :=
  match signals.get profile.targetHouseholdSignal.name with
  | some value => if 0 < value then some (PyFloat.truncate value) else none
  | none => none

/-- `data_confidence`, for the mappings that were used. -/
def dataConfidence (combinedDensity cbpWeighted nesWeighted : Option ℚ) (used : List NaicsMapping) : String :=
  if combinedDensity = none then "insufficient"
  else if used ≠ [] ∧ (∀ mapping ∈ used, mapping.confidence = .high) ∧
      (∀ mapping ∈ used, mapping.relationship = .exact) ∧ cbpWeighted ≠ none ∧ nesWeighted ≠ none then "high"
  else if ∀ mapping ∈ used, mapping.confidence ≠ .low then "medium"
  else "low"

def establishments : String := "establishments"
def nonemployerBusinesses : String := "nonemployer_businesses"

/-- `_provider_density`. -/
def providerDensity (snapshot : PublicDataSnapshot) (profile : Profile) (signals : Signals)
    (serviceMapping : Option ServiceNaicsMapping) (registry : NaicsRegistry) : ProviderDensityEvidence :=
  let households := targetHouseholds profile signals
  let mappings := (serviceMapping.map ServiceNaicsMapping.mappings).getD []
  let (cbpRaw, cbpWeighted, cbpUsed) :=
    aggregateIndustryRecords (snapshot.recordsOf .cbp) (mappingByCode mappings) establishments
  let (nesRaw, nesWeighted, nesUsed) :=
    aggregateIndustryRecords (snapshot.recordsOf .nes) (mappingByCode mappings) nonemployerBusinesses
  let employerDensity := densityOf cbpWeighted households
  let nonemployerDensity := densityOf nesWeighted households
  let availableDensities := [employerDensity, nonemployerDensity].filterMap id
  let combinedDensity := if availableDensities = [] then none else some (rounded 3 availableDensities.sum)
  let isUsed (mapping : NaicsMapping) : Bool := mapping.code ∈ cbpUsed ∨ mapping.code ∈ nesUsed
  { targetHouseholds := households
    targetHouseholdSignal := profile.targetHouseholdSignal.name
    employerEstablishmentsRaw := cbpRaw
    nonemployerBusinessesRaw := nesRaw
    employerEstablishmentsWeighted := cbpWeighted
    nonemployerBusinessesWeighted := nesWeighted
    employerEstablishmentsPer10000 := employerDensity
    nonemployerBusinessesPer10000 := nonemployerDensity
    combinedSupplyDensity := combinedDensity
    combinedSupplyBand :=
      supplyBand combinedDensity ((profile.signals.lookup "combined_supply_density").bind SignalProfile.idealRange)
    dataConfidence := dataConfidence combinedDensity cbpWeighted nesWeighted (mappings.filter isUsed)
    naicsRegistryVersion := registry.registryVersion
    naicsMappings := mappings.map fun mapping => (mapping, isUsed mapping)
    limitations :=
      ["Weighted counts apply explicit discounts to broad-parent and adjacent " ++
        "NAICS mappings; they are not exact provider counts."] ++
      (if cbpWeighted = none then ["No active CBP records matched the reviewed NAICS registry."] else []) ++
      (if nesWeighted = none then ["No active NES records matched the reviewed NAICS registry."] else []) }

end RankRent.Prefilter
