import RankRent.Library.Checks
import RankRent.Library.PyRepr
import RankRent.Library.Table
import RankRent.Review.Decisions

/-!
# Evidence that can be overridden

`_original_evidence_value` of `opportunity_review/services.py`: the value of one
field of one record of evidence. Of each record the columns that it reads.
-/

namespace RankRent.Review
open Checks

/-- `EvidenceOverrideKind`. -/
inductive EvidenceOverrideKind
  | serpClassification | providerSuitability | geographicInterpretation | dataQualityWarning
  deriving DecidableEq, Repr

/-- `OpportunityReviewError`: its code and its details. -/
structure OpportunityReviewError where
  code : String
  details : List (String × PyJson) := []

structure OpportunityRow where
  id : Nat
  marketId : Nat

structure SerpSnapshotRow where
  id : Nat
  opportunityId : Option Nat

structure SerpResultRow where
  id : Nat
  serpSnapshotId : Nat
  classification : String

/-- A float column is its text in JSON. -/
structure ProviderCandidateRow where
  id : Nat
  opportunityId : Option Nat
  suitabilityScore : Option String
  businessStatus : String
  categories : List String

structure MarketRow where
  id : Nat
  displayName : String
  state : Option String
  county : Option String
  metro : Option String
  latitude : Option String
  longitude : Option String
  boundaryRadiusKm : Option String
  geographyId : Option String

structure ScanRunRow where
  id : Nat
  opportunityId : Option Nat
  partialOutputs : PyJson

/-- The tables an override reads. -/
structure EvidenceTables where
  opportunities : List OpportunityRow
  serpSnapshots : List SerpSnapshotRow
  serpResults : List SerpResultRow
  providerCandidates : List ProviderCandidateRow
  markets : List MarketRow
  scanRuns : List ScanRunRow

/-- A column that may be null. -/
def column (value : Option String) (kind : String → PyJson) : PyJson := (value.map kind).getD .null

/-- `getattr(provider_row, field_name)` on the fields an override may name. -/
def ProviderCandidateRow.getattr (row : ProviderCandidateRow) : String → Option PyJson
  | "suitability_score" => some (column row.suitabilityScore .float)
  | "business_status" => some (.str row.businessStatus)
  | "categories" => some (.arr (row.categories.map .str))
  | _ => none

/-- `getattr(opportunity.market, field_name)` on the fields an override may name. -/
def MarketRow.getattr (row : MarketRow) : String → Option PyJson
  | "display_name" => some (.str row.displayName)
  | "state" => some (column row.state .str)
  | "county" => some (column row.county .str)
  | "metro" => some (column row.metro .str)
  | "latitude" => some (column row.latitude .float)
  | "longitude" => some (column row.longitude .float)
  | "boundary_radius_km" => some (column row.boundaryRadiusKm .float)
  | "geography_id" => some (column row.geographyId .str)
  | _ => none

def providerFields : List String := ["suitability_score", "business_status", "categories"]

/-- `allowed_fields`. -/
def geographyFields : List String :=
  ["display_name", "state", "county", "metro", "latitude", "longitude", "boundary_radius_km",
    "geography_id"]

/-- `[*value]`. -/
def unpacked : PyJson → Except OpportunityReviewError (List PyJson)
  | .arr items => .ok items
  | .str s => .ok (s.toList.map fun c => .str c.toString)
  | .obj fields => .ok (fields.map fun field => .str field.1)
  | _ => .error ⟨"TypeError", []⟩

/-- `value.get(key, default)` where the value is a dict. -/
def getItem (value : PyJson) (key : String) (default : PyJson) : PyJson :=
  match value with
  | .obj fields => (fields.lookup key).getD default
  | _ => default

/-- The warnings and errors of a scan's evidence quality. -/
def qualityNotes (scan : ScanRunRow) : Except OpportunityReviewError (List PyJson) := do
  let outputs := if PyJson.truthy scan.partialOutputs then scan.partialOutputs else .obj []
  let quality := getItem outputs "evidence_quality" (.obj [])
  let warnings ← unpacked (getItem quality "warnings" (.arr []))
  let errors ← unpacked (getItem quality "errors" (.arr []))
  return warnings ++ errors

/-- `_opportunity`. -/
def EvidenceTables.opportunity (e : EvidenceTables) (opportunityId : Nat) :
    Except OpportunityReviewError OpportunityRow :=
  found (Table.get OpportunityRow.id e.opportunities opportunityId) ⟨"opportunity_not_found", []⟩

/-- What an override is about. -/
structure OverrideKey where
  overrideKind : EvidenceOverrideKind
  targetRecordId : Nat
  fieldName : String
  deriving DecidableEq

/-- `_original_evidence_value`. -/
def EvidenceTables.originalValue (e : EvidenceTables) (opportunityId : Nat) (key : OverrideKey) :
    Except OpportunityReviewError PyJson := do
  match key.overrideKind with
  | .serpClassification => do
    require (key.fieldName = "classification") ⟨"unsupported_serp_override_field", []⟩
    let row ← found (e.serpResults.find? fun row => row.id = key.targetRecordId &&
      e.serpSnapshots.any fun snapshot =>
        snapshot.id = row.serpSnapshotId && snapshot.opportunityId = some opportunityId)
      ⟨"serp_result_not_found", []⟩
    return .str row.classification
  | .providerSuitability => do
    require (key.fieldName ∈ providerFields) ⟨"unsupported_provider_override_field", []⟩
    let row ← found (e.providerCandidates.find? fun row =>
      row.id = key.targetRecordId && row.opportunityId = some opportunityId)
      ⟨"provider_candidate_not_found", []⟩
    found (row.getattr key.fieldName) ⟨"AttributeError", []⟩
  | .geographicInterpretation => do
    require (key.fieldName ∈ geographyFields) ⟨"unsupported_geography_override_field", []⟩
    let opportunity ← e.opportunity opportunityId
    require (opportunity.marketId = key.targetRecordId) ⟨"market_does_not_match_opportunity", []⟩
    let market ← found (Table.get MarketRow.id e.markets opportunity.marketId) ⟨"AttributeError", []⟩
    found (market.getattr key.fieldName) ⟨"AttributeError", []⟩
  | .dataQualityWarning => do
    let scan ← found (Table.get ScanRunRow.id e.scanRuns key.targetRecordId) ⟨"scan_run_not_found", []⟩
    require (scan.opportunityId = some opportunityId) ⟨"scan_run_not_found", []⟩
    let notes ← qualityNotes scan
    return .bool (notes.any fun note => PyJson.equal (.str key.fieldName) note)

/-- Every field an override may name is one of the row's. -/
theorem ProviderCandidateRow.getattr_isSome (row : ProviderCandidateRow) :
    ∀ field ∈ providerFields, (row.getattr field).isSome = true := by
  intro field member
  simp only [providerFields, List.mem_cons, List.not_mem_nil, or_false] at member
  obtain rfl | rfl | rfl := member <;> rfl

theorem MarketRow.getattr_isSome (row : MarketRow) :
    ∀ field ∈ geographyFields, (row.getattr field).isSome = true := by
  intro field member
  simp only [geographyFields, List.mem_cons, List.not_mem_nil, or_false] at member
  obtain rfl | rfl | rfl | rfl | rfl | rfl | rfl | rfl := member <;> rfl

end RankRent.Review
