import RankRent.Geography.Records
import RankRent.PublicData.Snapshot

/-!
# Market signals

`_market_signals`: the embedded baseline of a geography, what the active releases
report over it, and the measures that are derived where they are missing.
-/

namespace RankRent.Prefilter
open Geography (USGeographyRecord)
open PublicData (DatasetKind DatasetManifest DatasetRecord PublicDataSnapshot measurement)

/-- The `dict` of a signal's source; `{}` has nothing in it. -/
structure Provenance where
  sourceVersion : Option String := none
  dataYear : Option ℤ := none
  releaseDate : Option Date := none
  limitations : List String := []
  deriving DecidableEq

abbrev Signals := List (String × Option ℚ)
abbrev Sources := List (String × Provenance)

/-- `signals.get(name)`. -/
def Signals.get (signals : Signals) (name : String) : Option ℚ := (signals.lookup name).join

/-! ## The baseline -/

/-- The owner share of the households; `none` where there are none. -/
def ownerShare (households ownerOccupiedUnits : Option ℚ) : Option ℚ :=
  match households, ownerOccupiedUnits with
  | some households, some occupied => if households = 0 then none else some (occupied / households)
  | _, _ => none

/-- `homeownership_rate` of the record. -/
def homeownershipRate (record : USGeographyRecord) : Option ℚ :=
  match record.ownerOccupiedUnits, record.households with
  | some occupied, some households => if 0 < households then some (occupied / households) else none
  | _, _ => none

/-- `housing_age` of the record. -/
def housingAge (record : USGeographyRecord) : Option ℚ :=
  record.medianYearBuilt.map fun built => ((max 0 (record.publicDataYear - built) : ℤ) : ℚ)

/-- `household_density` of the record. -/
def householdDensity (record : USGeographyRecord) : Option ℚ :=
  match record.households with
  | some households => if 0 < record.landAreaSqKm then some (households / record.landAreaSqKm) else none
  | none => none

def count (value : Option ℤ) : Option ℚ := value.map (Int.cast (R := ℚ))

/-- `signals` before the releases. -/
def baselineSignals (record : USGeographyRecord) : Signals :=
  [("population", some (record.population : ℚ)),
   ("households", count record.households),
   ("housing_units", count record.housingUnits),
   ("owner_occupied_units", count record.ownerOccupiedUnits),
   ("homeownership_rate", homeownershipRate record),
   ("housing_age", housingAge record),
   ("median_year_built", count record.medianYearBuilt),
   ("household_density", householdDensity record),
   ("detached_housing_share", none),
   ("median_household_income", none),
   ("purchasing_power", none),
   ("storm_exposure", none),
   ("hazard_exposure", none)]

/-- `embedded_source`. -/
def embeddedSource (record : USGeographyRecord) : Provenance :=
  { sourceVersion := some record.datasetVersion
    dataYear := some record.publicDataYear
    releaseDate := none
    limitations := ["Embedded ACS baseline; activate a separately ingested ACS release for " ++
      "full release provenance."] }

/-- `provenance` before the releases. -/
def baselineSources (record : USGeographyRecord) : Sources :=
  ["population", "households", "housing_units", "owner_occupied_units", "homeownership_rate", "housing_age",
    "median_year_built", "household_density"].map fun signal => (signal, embeddedSource record)

/-! ## The releases -/

/-- `_manifest_provenance`. -/
def manifestProvenance : Option DatasetManifest → Provenance
  | none => {}
  | some manifest =>
    { sourceVersion := some manifest.release.version
      dataYear := some manifest.release.dataYear
      releaseDate := some manifest.release.releaseDate }

/-- A value that a release reports, and its source. -/
def report (source : Provenance) (state : Signals × Sources) (item : String × PyJson) : Signals × Sources :=
  (PyDict.setItem state.1 item.1 (measurement item.2), PyDict.setItem state.2 item.1 source)

/-- The values of a record. -/
def reportRecord (source : Provenance) (state : Signals × Sources) (record : DatasetRecord) : Signals × Sources :=
  record.values.foldl (report source) state

/-- The records of a dataset. -/
def reportDataset (snapshot : PublicDataSnapshot) (state : Signals × Sources) (dataset : DatasetKind) :
    Signals × Sources :=
  (snapshot.recordsOf dataset).foldl (reportRecord (manifestProvenance (snapshot.manifestOf dataset))) state

/-- The datasets that report signals. -/
def overlayDatasets : List DatasetKind := [.acs, .noaa, .fema]

/-- The baseline under what the releases report. -/
def overlaid (record : USGeographyRecord) (snapshot : PublicDataSnapshot) : Signals × Sources :=
  overlayDatasets.foldl (reportDataset snapshot) (baselineSignals record, baselineSources record)

/-! ## The derived measures -/

def deriveHomeownershipRate (signals : Signals) : Signals :=
  if signals.get "homeownership_rate" = none then
    match signals.get "households", signals.get "owner_occupied_units" with
    | some households, some occupied =>
      if households ≠ 0 then PyDict.setItem signals "homeownership_rate" (some (occupied / households)) else signals
    | _, _ => signals
  else signals

def deriveHousingAge (publicDataYear : ℤ) (signals : Signals) : Signals :=
  match signals.get "housing_age", signals.get "median_year_built" with
  | none, some built =>
    PyDict.setItem signals "housing_age" (some ((max 0 (publicDataYear - PyFloat.truncate built) : ℤ) : ℚ))
  | _, _ => signals

def deriveHouseholdDensity (landAreaSqKm : ℚ) (signals : Signals) : Signals :=
  match signals.get "household_density", signals.get "households" with
  | none, some households =>
    PyDict.setItem signals "household_density" (if 0 < landAreaSqKm then some (households / landAreaSqKm) else none)
  | _, _ => signals

def derivePurchasingPower (state : Signals × Sources) : Signals × Sources :=
  if state.1.get "purchasing_power" = none then
    (PyDict.setItem state.1 "purchasing_power" (state.1.get "median_household_income"),
      match state.2.lookup "median_household_income" with
      | some source => PyDict.setItem state.2 "purchasing_power" source
      | none => state.2)
  else state

/-- `_market_signals`. -/
def marketSignals (record : USGeographyRecord) (snapshot : PublicDataSnapshot) : Signals × Sources :=
  let (signals, sources) := overlaid record snapshot
  let signals := deriveHomeownershipRate signals
  let signals := deriveHousingAge record.publicDataYear signals
  let signals := deriveHouseholdDensity record.landAreaSqKm signals
  derivePurchasingPower (signals, sources)

end RankRent.Prefilter
