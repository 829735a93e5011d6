import RankRent.Evidence.Text

/-!
# Records of the geography index

A row of `geographies`, and the location a client is shown for it.
-/

namespace RankRent.Geography
open Evidence (Python slugify)

/-- `STATE_ABBREVIATIONS`. -/
def stateAbbreviations : List (String × String) :=
  [("alabama", "AL"), ("alaska", "AK"), ("arizona", "AZ"), ("arkansas", "AR"), ("california", "CA"),
   ("colorado", "CO"), ("connecticut", "CT"), ("delaware", "DE"), ("district of columbia", "DC"),
   ("florida", "FL"), ("georgia", "GA"), ("hawaii", "HI"), ("idaho", "ID"), ("illinois", "IL"),
   ("indiana", "IN"), ("iowa", "IA"), ("kansas", "KS"), ("kentucky", "KY"), ("louisiana", "LA"),
   ("maine", "ME"), ("maryland", "MD"), ("massachusetts", "MA"), ("michigan", "MI"), ("minnesota", "MN"),
   ("mississippi", "MS"), ("missouri", "MO"), ("montana", "MT"), ("nebraska", "NE"), ("nevada", "NV"),
   ("new hampshire", "NH"), ("new jersey", "NJ"), ("new mexico", "NM"), ("new york", "NY"),
   ("north carolina", "NC"), ("north dakota", "ND"), ("ohio", "OH"), ("oklahoma", "OK"), ("oregon", "OR"),
   ("pennsylvania", "PA"), ("rhode island", "RI"), ("south carolina", "SC"), ("south dakota", "SD"),
   ("tennessee", "TN"), ("texas", "TX"), ("utah", "UT"), ("vermont", "VT"), ("virginia", "VA"),
   ("washington", "WA"), ("west virginia", "WV"), ("wisconsin", "WI"), ("wyoming", "WY")]

/-- `name.title()` of a name in small letters. -/
def title (name : String) : String :=
  String.intercalate " " ((PyString.words name).map String.capitalize)

/-- `STATE_NAMES`. -/
def stateNames : List (String × String) :=
  stateAbbreviations.map fun (name, abbreviation) => (abbreviation, title name)

/-- The kinds the index has. -/
inductive LocationType
  | city | postalCode
  deriving DecidableEq, Repr

structure USGeographyRecord where
  id : String
  kind : LocationType
  city : String
  state : String
  postalCode : Option String
  county : String
  countyFips : String
  metro : String
  metroCode : Option String
  metroType : String
  latitude : ℚ
  longitude : ℚ
  population : ℤ
  referencePopulation : ℤ
  households : Option ℤ
  housingUnits : Option ℤ
  ownerOccupiedUnits : Option ℤ
  medianYearBuilt : Option ℤ
  publicDataYear : ℤ
  aliases : List String
  postalCodes : List String
  boundaryRadiusKm : ℚ
  landAreaSqKm : ℚ
  sourceGeoid : String
  datasetVersion : String
  deriving DecidableEq

/-- `LocationCandidate`; no confidence leaves its bounds. -/
structure LocationCandidate where
  id : String
  label : String
  type : LocationType
  state : String
  city : String
  postalCode : Option String
  county : String
  countyFips : String
  metro : String
  metroCode : Option String
  latitude : ℚ
  longitude : ℚ
  population : ℤ
  referencePopulation : ℤ
  aliases : List String
  postalCodes : List String
  boundaryRadiusKm : ℚ
  geographyDatasetVersion : String
  providerLocationName : String
  confidence : ℚ
  matchReason : String
  matchedAlias : String
  confidence_range : 0 ≤ confidence ∧ confidence ≤ 1

/-- `_infer_provider_location_name`. -/
def inferProviderLocationName (city state : String) : String :=
  city ++ "," ++ (stateNames.lookup state.toUpper).getD state ++ ",United States"

theorem certain_range : (0 : ℚ) ≤ 1 ∧ (1 : ℚ) ≤ 1 := ⟨zero_le_one, le_rfl⟩

/-- `_candidate_from_record`; `geography_id` is the id. -/
def candidateFromRecord (record : USGeographyRecord) (confidence : ℚ) (range : 0 ≤ confidence ∧ confidence ≤ 1)
    (matchReason matchedAlias : String) : LocationCandidate :=
  { id := record.id
    label :=
      match record.kind with
      | .postalCode =>
        "ZIP " ++ record.postalCode.getD "None" ++ " - " ++ record.city ++ ", " ++ record.state ++ ", US"
      | .city => record.city ++ ", " ++ record.state ++ ", US"
    type := record.kind
    state := record.state
    city := record.city
    postalCode := record.postalCode
    county := record.county
    countyFips := record.countyFips
    metro := record.metro
    metroCode := record.metroCode
    latitude := record.latitude
    longitude := record.longitude
    population := record.population
    referencePopulation := record.referencePopulation
    aliases := record.aliases
    postalCodes :=
      match record.kind, record.postalCode with
      | .postalCode, some postalCode => if postalCode = "" then record.postalCodes else [postalCode]
      | _, _ => record.postalCodes
    boundaryRadiusKm := record.boundaryRadiusKm
    geographyDatasetVersion := record.datasetVersion
    providerLocationName := inferProviderLocationName record.city record.state
    confidence
    matchReason
    matchedAlias
    confidence_range := range }

/-- `Market`; its slug is its id. -/
structure Market where
  id : String
  displayName : String
  type : LocationType
  countryCode : String
  state : String
  cities : List String
  postalCodes : List String
  county : String
  countyFips : String
  metro : String
  metroCode : Option String
  latitude : ℚ
  longitude : ℚ
  population : ℤ
  referencePopulation : ℤ
  aliases : List String
  boundaryRadiusKm : ℚ
  geographyId : String
  geographyDatasetVersion : String
  providerLocationName : String

/-- `to_market`. -/
def LocationCandidate.toMarket (python : Python) (candidate : LocationCandidate) : Market :=
  { id := slugify python candidate.id
    displayName := candidate.label
    type := candidate.type
    countryCode := "US"
    state := candidate.state
    cities := [candidate.city]
    postalCodes := candidate.postalCodes
    county := candidate.county
    countyFips := candidate.countyFips
    metro := candidate.metro
    metroCode := candidate.metroCode
    latitude := candidate.latitude
    longitude := candidate.longitude
    population := candidate.population
    referencePopulation := candidate.referencePopulation
    aliases := candidate.aliases
    boundaryRadiusKm := candidate.boundaryRadiusKm
    geographyId := candidate.id
    geographyDatasetVersion := candidate.geographyDatasetVersion
    providerLocationName :=
      if candidate.providerLocationName = "" then inferProviderLocationName candidate.city candidate.state
      else candidate.providerLocationName }

end RankRent.Geography
