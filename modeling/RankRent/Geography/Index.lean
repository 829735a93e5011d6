import Mathlib.Data.List.Dedup
import Mathlib.Data.List.DropRight
import Mathlib.Data.Prod.Lex
import Mathlib.Data.String.Basic
import RankRent.Geography.Records
import RankRent.Library.PyDict
import RankRent.Library.PyRuns

/-!
# The geography index

`services/us_geography.py` and `resolve_market_for_scan`: how a location text is parsed,
what the index finds for it, and the market it resolves to. The tables are those of
`scripts/build_us_geography.py`.
-/

namespace RankRent.Geography
open Evidence (Python)

/-! ## Location texts -/

/-- `c.lower()`, as far as it has letters from a to z: the Kelvin sign and the dotted capital
I have one. -/
def lowerChar (c : Char) : List Char :=
  if c = '\u212A' then ['k'] else if c = '\u0130' then ['i', '\u0307'] else [c.toLower]

/-- `[^a-z0-9]`. -/
def isSeparator (c : Char) : Bool := !(('a' ≤ c && c ≤ 'z') || ('0' ≤ c && c ≤ '9'))

/-- The words of `normalize_location`. -/
def placeWords (value : String) : List String :=
  (PyString.runs isSeparator (value.toList.flatMap lowerChar)).map String.ofList

/-- `normalize_location`. -/
def normalizeLocation (value : String) : String := String.intercalate " " (placeWords value)

def countryWords : List String := ["us", "usa", "united", "states", "america"]

/-- `state_name.split()`. -/
def stateWords (name : String) : List String := PyString.words name

/-- `STATE_ABBREVIATIONS` by the number of words, the longest names first. -/
def statesByWords : List (String × String) :=
  [3, 2, 1].flatMap fun count => stateAbbreviations.filter fun (name, _) => (stateWords name).length = count

/-- `_parse_city_state` on the words of its text. -/
def parseWords (words : List String) : List String × Option String :=
  let tokens := words.rdropWhile (· ∈ countryWords)
  match tokens.getLast? with
  | none => ([], none)
  | some last =>
    if (stateNames.lookup last.toUpper).isSome then (tokens.dropLast, some last.toUpper)
    else
      match statesByWords.find? fun (name, _) => stateWords name <:+ tokens with
      | some (name, abbreviation) => (tokens.take (tokens.length - (stateWords name).length), some abbreviation)
      | none => (tokens, none)

/-- `_parse_city_state`. -/
def parseCityState (value : String) : String × Option String :=
  let (city, state) := parseWords (placeWords value)
  (String.intercalate " " city, state)

/-- `\d` of a pattern. -/
def isDecimal (c : Char) : Bool := PyFloat.zeros.any fun first => first ≤ c.toNat && c.toNat < first + 10

/-- The first group of `(\d{5})(?:-\d{4})?` where it matches the text. -/
def zipCode? (cleaned : String) : Option String :=
  let digits := cleaned.toList.take 5
  let rest := cleaned.toList.drop 5
  if digits.length = 5 ∧ digits.all isDecimal = true ∧
      (rest = [] ∨ rest.head? = some '-' ∧ rest.length = 5 ∧ rest.tail.all isDecimal = true) then
    some (String.ofList digits)
  else none

/-! ## Tables -/

/-- A row of `geography_aliases`. -/
structure AliasRow where
  aliasNorm : String
  geographyId : String
  aliasName : String
  priority : ℤ
  deriving DecidableEq

/-- The row that is written for an alias of a geography. -/
def aliasRow (geography : USGeographyRecord) (aliasName : String) : AliasRow where
  aliasNorm := normalizeLocation aliasName
  geographyId := geography.id
  aliasName
  priority := if aliasName = geography.city ∨ some aliasName = geography.postalCode then 100 else 80

/-- `USGeographyIndex`, with the order in which its rows are read. -/
structure USGeographyIndex where
  geographies : List USGeographyRecord
  aliases : List AliasRow
  ids_unique : (geographies.map USGeographyRecord.id).Nodup
  states_known : ∀ geography ∈ geographies, geography.state ∈ stateAbbreviations.map Prod.snd
  city_postal : ∀ geography ∈ geographies, geography.kind = .city → geography.postalCode = none
  aliases_written : ∀ row, row ∈ aliases ↔ ∃ geography ∈ geographies, ∃ aliasName ∈ geography.aliases,
    normalizeLocation aliasName ≠ "" ∧ row = aliasRow geography aliasName

/-- A row of the join of both tables. -/
abbrev Row := USGeographyRecord × AliasRow

namespace USGeographyIndex
variable (index : USGeographyIndex)

/-- `get`. -/
def get (geographyId : String) : Option USGeographyRecord :=
  index.geographies.find? fun geography => geography.id = geographyId

/-- `geography_aliases AS a JOIN geographies AS g ON g.id = a.geography_id`. -/
def join : List Row := index.aliases.filterMap fun row => (index.get row.geographyId).map fun geography => (geography, row)

end USGeographyIndex

/-! ## Search -/

/-- The `CASE` of the order: exact, by its start, or neither. -/
def matchClass (query aliasNorm : String) : ℕ :=
  if aliasNorm = query then 0 else if query.toList <+: aliasNorm.toList then 1 else 2

/-- The key of `ORDER BY`. -/
def rowKey (query : String) (row : Row) : ℕ ×ₗ ℤ ×ₗ ℤ :=
  toLex (matchClass query row.2.aliasNorm, toLex (-row.2.priority, -row.1.population))

/-- The condition of `WHERE`. -/
def selects (query : String) (state : Option String) (row : Row) : Bool :=
  row.1.kind = .city && (state = none || state = some row.1.state) &&
    (row.2.aliasNorm = query || query.toList.isPrefixOf row.2.aliasNorm.toList ||
      (query.toList.take 2).isPrefixOf row.2.aliasNorm.toList)

/-- The rows in their order, before `LIMIT`. -/
def USGeographyIndex.orderedRows (index : USGeographyIndex) (query : String) (state : Option String) : List Row :=
  (index.join.filter (selects query state)).mergeSort fun a b => rowKey query a ≤ rowKey query b

/-- `_match_score`, with the ratio of `SequenceMatcher`. -/
def matchScore (ratio : String → String → ℚ) (query aliasNorm : String) (stateSupplied : Bool) : ℚ × String :=
  let stateBonus : ℚ := if stateSupplied then 2 / 100 else 0
  if query = aliasNorm then
    (min 1 (97 / 100 + stateBonus), if stateSupplied then "exact_city_state" else "exact_city")
  else if query.toList <+: aliasNorm.toList then (min (95 / 100) (88 / 100 + stateBonus), "city_prefix")
  else
    let queryTokens := (PyString.words query).dedup
    let shared := queryTokens.filter (· ∈ PyString.words aliasNorm)
    let overlap : ℚ := shared.length / max 1 queryTokens.length
    (min (89 / 100) (max (ratio query aliasNorm) (overlap * (85 / 100)) + stateBonus), "fuzzy_city")

theorem matchScore_le_one (ratio : String → String → ℚ) (query aliasNorm : String) (stateSupplied : Bool) :
    (matchScore ratio query aliasNorm stateSupplied).1 ≤ 1 := by
  unfold matchScore
  dsimp only
  split_ifs
  all_goals first
    | exact min_le_left _ _
    | exact (min_le_left _ _).trans (by norm_num)

/-- `USGeographyMatch`. -/
structure USGeographyMatch where
  record : USGeographyRecord
  confidence : ℚ
  matchReason : String
  matchedAlias : String
  confidence_range : 0 ≤ confidence ∧ confidence ≤ 1

/-- A round of the loop over the rows. -/
def addMatch (ratio : String → String → ℚ) (query : String) (stateSupplied : Bool)
    (best : List (String × USGeographyMatch)) (row : Row) : List (String × USGeographyMatch) :=
  let scored := matchScore ratio query row.2.aliasNorm stateSupplied
  if low : scored.1 < 55 / 100 then best
  else
    let found : USGeographyMatch :=
      { record := row.1
        confidence := scored.1
        matchReason := scored.2
        matchedAlias := row.2.aliasName
        confidence_range := ⟨by linarith, matchScore_le_one ratio query row.2.aliasNorm stateSupplied⟩ }
    match best.lookup row.1.id with
    | none => PyDict.setItem best row.1.id found
    | some existing =>
      if existing.confidence < found.confidence then PyDict.setItem best row.1.id found else best

/-- The key of the matches. -/
def matchKey (found : USGeographyMatch) : ℚ ×ₗ ℤ ×ₗ String :=
  toLex (found.confidence, toLex (found.record.population, found.record.city))

namespace USGeographyIndex
variable (index : USGeographyIndex)

/-- `_search_zip`. -/
def searchZip (postalCode : String) : List USGeographyMatch :=
  match index.geographies.find? fun geography => geography.postalCode = some postalCode with
  | none => []
  | some record =>
    [{ record
       confidence := 1
       matchReason := "exact_zip"
       matchedAlias := postalCode
       confidence_range := ⟨zero_le_one, le_rfl⟩ }]

/-- The matches of a city query, best first. -/
def searchCity (ratio : String → String → ℚ) (query : String) (state : Option String) : List USGeographyMatch :=
  let rows := (index.orderedRows query state).take 400
  let best := rows.foldl (addMatch ratio query state.isSome) []
  (best.map Prod.snd).mergeSort fun a b => matchKey b ≤ matchKey a

/-- `search`. -/
def search (ratio : String → String → ℚ) (query : String) (limit : ℕ) : List USGeographyMatch :=
  let cleaned := PyString.strip query
  if cleaned = "" then []
  else
    match zipCode? cleaned with
    | some postalCode => index.searchZip postalCode
    | none =>
      let parsed := parseCityState cleaned
      let normalized := normalizeLocation parsed.1
      if normalized.length < 2 then [] else (index.searchCity ratio normalized parsed.2).take limit

end USGeographyIndex

/-! ## Resolution -/

/-- `COUNTRY_ALIASES`. -/
def countryAliases : List (String × String) :=
  [("us", "US"), ("usa", "US"), ("u s", "US"), ("united states", "US"), ("united states of america", "US")]

/-- `normalize_country`. -/
def normalizeCountry (python : Python) (value : String) : String :=
  let lowered := String.ofList ((python.lower value).toList.map fun c => if c = '.' then ' ' else c)
  let cleaned := String.intercalate " " (PyString.words lowered)
  let code := String.ofList ((python.upper (PyString.strip value)).toList.take 2)
  (countryAliases.lookup cleaned).getD (if code = "" then "US" else code)

/-- `_candidate_from_match`. -/
def candidateFromMatch (found : USGeographyMatch) : LocationCandidate :=
  candidateFromRecord found.record found.confidence found.confidence_range found.matchReason found.matchedAlias

/-- `LocationResolutionError`. -/
structure LocationResolutionError where
  message : String
  candidates : List LocationCandidate := []

/-- The reasons of an exact match. -/
def exactReasons : List String := ["exact_zip", "exact_city_state", "exact_city"]

section
variable (python : Python) (ratio : String → String → ℚ) (index : USGeographyIndex)

/-- `search_locations`. -/
def searchLocations (query country : String) (limit : ℕ) : List LocationCandidate :=
  if normalizeCountry python country ≠ "US" ∨ (PyString.strip query).length < 2 then []
  else (index.search ratio query limit).map candidateFromMatch

/-- `resolve_market_for_scan`. -/
def resolveMarketForScan (locationText country : String) (selectedLocation : Option LocationCandidate) :
    Except LocationResolutionError Market :=
  let normalizedCountry := normalizeCountry python country
  if normalizedCountry ≠ "US" then
    .error ⟨"Discovery currently supports U.S. cities and ZIP codes only.", []⟩
  else
    match selectedLocation with
    | some selected =>
      match index.get selected.id with
      | none => .error ⟨"The selected location is no longer in the offline geography index. " ++
          "Search for it again.", []⟩
      | some record =>
        .ok ((candidateFromRecord record 1 ⟨zero_le_one, le_rfl⟩ "selected_canonical_location"
          selected.label).toMarket python)
    | none =>
      let candidates := searchLocations python ratio index locationText normalizedCountry 12
      if candidates.isEmpty then
        .error ⟨"Could not resolve that U.S. city or ZIP code. " ++
          "Enter a city with its state or choose a dropdown result.", []⟩
      else
        match candidates.filter fun candidate => candidate.matchReason ∈ exactReasons with
        | [exact_] => .ok (exact_.toMarket python)
        | _ => .error ⟨"That location is ambiguous. Select one of the suggested locations before scanning.",
            candidates⟩

end

end RankRent.Geography
