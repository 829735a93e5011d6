import RankRent.Geography.Index
import RankRent.Library.Checks
import RankRent.Library.PyJson
import RankRent.Library.Table

/-!
# Stored markets

`Market` of `domain/models.py`, its row in `repositories.py`, and the check of a
market against the offline index. Numbers are exact.
-/

namespace RankRent.Repositories
open Checks (require found)
open Evidence (Python slugify)
open Geography (USGeographyIndex USGeographyRecord stateNames)

/-! ## Markets -/

inductive LocationType
  | city | postalCode | county | metro | market
  deriving DecidableEq, Repr

def LocationType.value : LocationType → String
  | .city => "city"
  | .postalCode => "postal_code"
  | .county => "county"
  | .metro => "metro"
  | .market => "market"

/-- `LocationType(value)`. -/
def LocationType.ofValue (value : String) : Option LocationType :=
  [LocationType.city, .postalCode, .county, .metro, .market].find? fun type => type.value = value

@[simp] theorem LocationType.ofValue_value (type : LocationType) : ofValue type.value = some type := by
  cases type <;> decide

/-- What a market has beside its id and its slug. -/
structure MarketFields where
  displayName : String
  countryCode : String := "US"
  state : Option String := none
  cities : List String := []
  postalCodes : List String := []
  county : Option String := none
  countyFips : Option String := none
  metro : Option String := none
  metroCode : Option String := none
  latitude : Option ℚ := none
  longitude : Option ℚ := none
  population : Option ℤ := none
  referencePopulation : Option ℤ := none
  aliases : List String := []
  boundaryRadiusKm : Option ℚ := none
  geographyId : Option String := none
  geographyDatasetVersion : Option String := none
  providerLocationCode : Option String := none
  providerLocationName : Option String := none
  resolutionMetadata : List (String × PyJson) := []

/-- `Market`, once `default_slug` has run. -/
structure Market (python : Python) extends MarketFields where
  id : String
  slug : String
  type : LocationType
  slug_defaulted : slug = "" → slugify python id = ""

/-- `Market(...)`: the slug of the id where none is given. -/
def Market.create (python : Python) (id slug : String) (type : LocationType) (fields : MarketFields) : Market python :=
  { fields with
    id
    slug := if slug = "" then slugify python id else slug
    type
    slug_defaulted := by
      split
      · intro empty
        exact empty
      · intro empty
        contradiction }

/-! ## Rows -/

/-- A row of `markets`. -/
structure MarketRow extends MarketFields where
  id : Nat
  slug : String
  type : String := "city"

/-- The columns an upsert writes. -/
def MarketRow.assign {python : Python} (market : Market python) (row : MarketRow) : MarketRow :=
  { market.toMarketFields with
    id := row.id
    slug := row.slug
    type := market.type.value }

section
variable {python : Python}

/-- `market.slug or market.id`. -/
def Market.storedSlug (market : Market python) : String := if market.slug = "" then market.id else market.slug

/-- The row that is made for a slug, before the columns are written. -/
def newMarket (id : Nat) (displayName slug : String) : MarketRow :=
  { displayName, id, slug }

/-- `upsert_market`: the table, and the row that is returned; `id` is the next of the sequence. -/
def upsertMarket (id : Nat) (rows : List MarketRow) (market : Market python) : List MarketRow × MarketRow :=
  let fresh := newMarket id market.displayName
  (Table.upsert MarketRow.slug fresh market.storedSlug (MarketRow.assign market) rows,
    (Table.lookup MarketRow.slug fresh rows market.storedSlug).assign market)

/-- `market_from_orm`; a type that is none fails. -/
def marketFromOrm (python : Python) (row : MarketRow) : Option (Market python) :=
  (LocationType.ofValue row.type).map fun type => .create python row.slug row.slug type row.toMarketFields

/-- The row that is returned is the one a later read finds. -/
theorem upsertMarket_stored (id : Nat) (rows : List MarketRow) (market : Market python) :
    Table.lookup MarketRow.slug (newMarket id market.displayName) (upsertMarket id rows market).1 market.storedSlug =
      (upsertMarket id rows market).2 := by
  have found := @Table.lookup_upsert _ _ _ MarketRow.slug (newMarket id market.displayName) (fun _ => rfl)
    (MarketRow.assign market) (fun _ => rfl) rows market.storedSlug market.storedSlug
  exact found.trans (if_pos rfl)

/-- A row of its slug that has a market's columns is read as that market. -/
theorem marketFromOrm_assign (row : MarketRow) (market : Market python) (named : row.slug = market.id)
    (same : market.slug = market.id) : marketFromOrm python (row.assign market) = some market := by
  obtain ⟨fields, marketId, marketSlug, type, defaulted⟩ := market
  obtain ⟨rowFields, rowId, rowSlug, rowType⟩ := row
  dsimp only at same named
  subst same named
  have kept : (if rowSlug = "" then slugify python rowSlug else rowSlug) = rowSlug := by
    split
    · rename_i empty
      exact (defaulted empty).trans empty.symm
    · rfl
  simp only [marketFromOrm, MarketRow.assign, Market.create, LocationType.ofValue_value, Option.map_some,
    Option.some.injEq, Market.mk.injEq, true_and, and_true]
  exact kept

/-- A market whose slug is its id is read back. -/
theorem marketFromOrm_upsertMarket (id : Nat) (rows : List MarketRow) (market : Market python)
    (same : market.slug = market.id) : marketFromOrm python (upsertMarket id rows market).2 = some market := by
  have slug : (Table.lookup MarketRow.slug (newMarket id market.displayName) rows market.storedSlug).slug =
      market.storedSlug := Table.key_lookup (fun _ => rfl) rows market.storedSlug
  apply marketFromOrm_assign _ market _ same
  rw [slug, Market.storedSlug, same, ite_self]

end

/-! ## The offline index -/

def kindValue : Geography.LocationType → String
  | .city => "city"
  | .postalCode => "postal_code"

/-- The fields that are compared, in their order. -/
def comparedFields {python : Python} (record : USGeographyRecord) (market : Market python) : List (String × Bool) :=
  let postalCodes :=
    match record.kind, record.postalCode with
    | .postalCode, some postalCode => if postalCode = "" then record.postalCodes else [postalCode]
    | _, _ => record.postalCodes
  let close (actual : Option ℚ) (expected : ℚ) : Bool := actual.any fun actual => |actual - expected| ≤ 1 / 10000
  [("type", market.type.value = kindValue record.kind),
   ("state", market.state = some record.state),
   ("cities", market.cities = [record.city]),
   ("postal_codes", market.postalCodes = postalCodes),
   ("county", market.county = some record.county),
   ("county_fips", market.countyFips = some record.countyFips),
   ("metro", market.metro = some record.metro),
   ("metro_code", market.metroCode = record.metroCode),
   ("aliases", market.aliases = record.aliases),
   ("geography_dataset_version", market.geographyDatasetVersion = some record.datasetVersion),
   ("latitude", close market.latitude record.latitude),
   ("longitude", close market.longitude record.longitude),
   ("population", close (market.population.map fun n => (n : ℚ)) record.population),
   ("reference_population", close (market.referencePopulation.map fun n => (n : ℚ)) record.referencePopulation),
   ("boundary_radius_km", close market.boundaryRadiusKm record.boundaryRadiusKm)]

/-- `validate_market_against_index`; every state of the index has its name. -/
def validateMarketAgainstIndex (python : Python) (index : USGeographyIndex) (market : Market python) :
    Except String USGeographyRecord := do
  require (python.upper market.countryCode = "US") "Production discovery currently supports U.S. markets only."
  let geographyId := market.geographyId.getD ""
  require (geographyId ≠ "") ("The market is not linked to the offline U.S. geography index. " ++
    "Select a city or ZIP from the location dropdown.")
  let record ← found (index.get geographyId) ("The selected geography is no longer present in the offline index. " ++
    "Search for the location again.")
  for (field, current) in comparedFields record market do
    require (current = true) ("The selected market has stale or invalid " ++ field ++
      ". Search for the location again before planning.")
  let expectedProviderName := record.city ++ "," ++ (stateNames.lookup record.state).getD "" ++ ",United States"
  require (market.providerLocationCode.getD "" ≠ "" ∨ market.providerLocationName = some expectedProviderName)
    ("The selected market has a stale or invalid provider_location_name. " ++
      "Search for the location again before planning.")
  return record

end RankRent.Repositories
