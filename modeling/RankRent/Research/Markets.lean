import RankRent.Library.PyJson
import RankRent.Library.PyString
import RankRent.Store.Schema

/-!
# Services, markets and where a request looks

The inputs of a scan and the location fields of its requests
(`domain/models.py`, `integrations/dataforseo/live.py`). The Unicode tables of
`str`, `urlparse` and the digest of a cache key are parameters, and so is the
offline geography index.
-/

namespace RankRent.Research

/-- What the scan takes from Python. -/
structure Runtime where
  lower : String → String
  upper : String → String
  netloc : String → String
  sha256 : String → String

structure ServiceFamily where
  displayName : String
  seedQueries : List String
  negativeTerms : List String
  intentModifiers : List String
  negativeProductTerms : List String
  providerCategories : List String

structure Market where
  displayName : String
  countryCode : String
  latitude : Option ℚ
  longitude : Option ℚ
  boundaryRadiusKm : Option ℚ
  providerLocationCode : Option String
  providerLocationName : Option String

/-! ## Seeds -/

/-- `_dedupe_strings`, after the values in `seen`. -/
def dedupeStrings (python : Runtime) (seen : List String) : List String → List String
  | [] => []
  | value :: rest =>
    let normalized := String.intercalate " " (PyString.words (python.lower value))
    if normalized ≠ "" ∧ normalized ∉ seen then
      normalized :: dedupeStrings python (normalized :: seen) rest
    else dedupeStrings python seen rest

/-- `service_seed_keywords`. -/
def serviceSeedKeywords (python : Runtime) (service : ServiceFamily) : List String :=
  let base := python.lower service.displayName
  let modifiers := if service.intentModifiers = [] then
    ["repair", "replacement", "installation", "emergency"] else service.intentModifiers
  let seeds := if service.seedQueries = [] then [base] else service.seedQueries
  dedupeStrings python [] (seeds ++ modifiers.map fun modifier => base ++ " " ++ modifier)

/-! ## Locations -/

/-- `serp_location_payload`. -/
def serpLocationPayload (market : Market) : Except String (List (String × PyJson)) :=
  match market.latitude, market.longitude with
  | some latitude, some longitude =>
    match market.boundaryRadiusKm with
    | none => .error "SERP discovery requires a positive canonical market boundary radius."
    | some radius =>
      if radius ≤ 0 then
        .error "SERP discovery requires a positive canonical market boundary radius."
      else
        let meters := max 200 (min 199999 (PyString.roundHalfEven (radius * 1000)))
        .ok [("location_coordinate", .str (PyString.fixed6 latitude ++ "," ++
          PyString.fixed6 longitude ++ "," ++ toString meters))]
  | _, _ =>
    let named : Except String (List (String × PyJson)) :=
      match market.providerLocationName.filter (· ≠ "") with
      | some name => .ok [("location_name", .str name)]
      | none => .ok [("location_name", .str market.displayName)]
    match market.providerLocationCode.filter (· ≠ "") with
    | some code =>
      match PyString.toInt? code with
      | some n => .ok [("location_code", .num n)]
      | none => .error ("invalid literal for int() with base 10: " ++ code)
    | none => named

/-- `business_listings_location_payload`. -/
def businessListingsLocationPayload (market : Market) (environment : ApiEnvironment) :
    Except String (List (String × PyJson)) :=
  match environment with
  | .sandbox => .ok []
  | .production =>
    match market.latitude, market.longitude, market.boundaryRadiusKm with
    | some latitude, some longitude, some radius =>
      if radius ≤ 0 then
        .error "Provider discovery requires canonical coordinates and a positive boundary radius."
      else
        .ok [("location_coordinate", .str (PyString.fixed6 latitude ++ "," ++
          PyString.fixed6 longitude ++ "," ++ PyString.general radius))]
    | _, _, _ =>
      .error "Provider discovery requires canonical coordinates and a positive boundary radius."

/-- The only key of a listings location. -/
theorem businessListingsLocationPayload_keys {market : Market} {environment : ApiEnvironment}
    {payload : List (String × PyJson)}
    (located : businessListingsLocationPayload market environment = .ok payload) :
    payload = [] ∨ ∃ place, payload = [("location_coordinate", place)] := by
  cases environment with
  | sandbox =>
    cases located
    exact Or.inl rfl
  | production =>
    simp only [businessListingsLocationPayload] at located
    split at located
    · split at located
      · cases located
      · cases located
        exact Or.inr ⟨_, rfl⟩
    · cases located

end RankRent.Research
