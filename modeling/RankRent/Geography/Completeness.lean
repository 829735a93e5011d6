import RankRent.Geography.Resolution

/-!
# Completeness of the search

A city is found by its names exactly where parsing leaves enough of them: no state is read
out of the name of a city, and no more rows than the limit have the name.
-/

namespace RankRent.Geography
open Evidence (Python asciiPython)

/-! ## What is promised -/

section
variable (python : Python) (ratio : String → String → ℚ) (index : USGeographyIndex) (record : USGeographyRecord)
  (aliasName : String)

/-- No other city has a name that is normalized to that of the city. -/
def UniqueName : Prop :=
  ∀ other ∈ index.geographies, other.kind = .city → ∀ name ∈ other.aliases,
    normalizeLocation name = normalizeLocation record.city → other = record

/-- A city is found by an alias, alone and with its state, and its name resolves to it where
no other city has it. -/
structure Complete : Prop where
  byAlias : FoundExactly ratio index aliasName record
  byState : FoundExactly ratio index (aliasName ++ ", " ++ record.state) record
  resolves : UniqueName index record → ∀ country, normalizeCountry python country = "US" →
    ∃ market, resolveMarketForScan python ratio index record.city country none = .ok market ∧
      market.geographyId = record.id

/-- What parsing leaves of each text is a name of the city, and the city is among the rows
that are read for it. -/
structure Reaches : Prop where
  aliasRead : Finds index aliasName record
  stateRead : ∃ row ∈ index.exactRows (normalizeLocation aliasName) (some record.state), row.1 = record
  nameRead : UniqueName index record → FindsOnly index record.city record

variable {python ratio index record aliasName}

/-- With its state behind it, an alias is read as it is. -/
theorem finds_state (member : record ∈ index.geographies) (long : 2 ≤ (normalizeLocation aliasName).length) :
    Finds index (aliasName ++ ", " ++ record.state) record ↔
      ∃ row ∈ index.exactRows (normalizeLocation aliasName) (some record.state), row.1 = record := by
  rw [Finds, parseCityState_comma (index.states_known record member)]
  simp only [zipCode?_comma, long, true_and]

end

/-! ## Plain names -/

section
variable {index : USGeographyIndex} {query : String} {state : Option String} {row : Row}

theorem get_eq_some {geographyId : String} {record : USGeographyRecord} :
    index.get geographyId = some record ↔ record ∈ index.geographies ∧ record.id = geographyId := by
  constructor
  · intro found
    exact ⟨List.mem_of_find?_eq_some found, by simpa using List.find?_some found⟩
  · rintro ⟨member, rfl⟩
    cases got : index.get record.id with
    | none => simpa using List.find?_eq_none.mp got record member
    | some other =>
      have same : other.id = record.id := by simpa using List.find?_some got
      rw [same_record index (List.mem_of_find?_eq_some got) member same]

/-- The join has a row for each alias of a geography that is not normalized away. -/
theorem mem_join : row ∈ index.join ↔ row.1 ∈ index.geographies ∧
    ∃ name ∈ row.1.aliases, normalizeLocation name ≠ "" ∧ row.2 = aliasRow row.1 name := by
  constructor
  · intro member
    obtain ⟨source, listed, found⟩ := List.mem_filterMap.mp member
    obtain ⟨record, got, rfl⟩ := Option.map_eq_some_iff.mp found
    obtain ⟨there, id⟩ := get_eq_some.mp got
    obtain ⟨geography, written, name, inside, some, rfl⟩ := (index.aliases_written source).mp listed
    obtain rfl := same_record index there written id
    exact ⟨there, name, inside, some, rfl⟩
  · obtain ⟨record, source⟩ := row
    rintro ⟨there, name, inside, some, written⟩
    obtain rfl : source = aliasRow record name := written
    refine List.mem_filterMap.mpr ⟨_, (index.aliases_written _).mpr ⟨record, there, name, inside, some, rfl⟩, ?_⟩
    have got : index.get (aliasRow record name).geographyId = .some record := get_eq_some.mpr ⟨there, rfl⟩
    rw [got]
    rfl

/-- No name has more rows than the limit of the query. -/
def FewNames (index : USGeographyIndex) : Prop :=
  ∀ query, (index.join.filter fun row => row.2.aliasNorm = query).length ≤ 400

/-- Then each city of the name is read. -/
theorem mem_exactRows_of_few (few : FewNames index) :
    row ∈ index.exactRows query state ↔ row ∈ index.join ∧ isExact query state row = true := by
  have fewer : (index.join.filter (isExact query state)).length ≤ 400 := by
    refine (List.Sublist.length_le (List.monotone_filter_right _ fun row exact_ => ?_)).trans (few query)
    simp only [isExact, Bool.and_eq_true] at exact_
    exact exact_.2
  rw [USGeographyIndex.exactRows, List.take_of_length_le (by rwa [List.length_mergeSort]), List.mem_mergeSort,
    List.mem_filter]

/-- Parsing leaves the text whole. -/
def Plain (text : String) : Prop :=
  zipCode? (PyString.strip text) = none ∧ parseCityState text = (normalizeLocation text, none) ∧
    2 ≤ (normalizeLocation text).length

theorem finds_plain (few : FewNames index) {record : USGeographyRecord} (member : record ∈ index.geographies)
    (city : record.kind = .city) {name : String} (named : name ∈ record.aliases)
    (known : state = none ∨ state = some record.state) (long : 2 ≤ (normalizeLocation name).length) :
    ∃ row ∈ index.exactRows (normalizeLocation name) state, row.1 = record := by
  have some : normalizeLocation name ≠ "" := by
    intro empty
    simp [empty] at long
  refine ⟨(record, aliasRow record name), (mem_exactRows_of_few few).mpr
    ⟨mem_join.mpr ⟨member, name, named, some, rfl⟩, ?_⟩, rfl⟩
  simp only [isExact, aliasRow, city, decide_true, Bool.true_and, Bool.and_true, Bool.or_eq_true, decide_eq_true_eq]
  exact known

/-- A city is found by a name that is read whole. -/
theorem reaches_of_plain (few : FewNames index) {record : USGeographyRecord} (member : record ∈ index.geographies)
    (city : record.kind = .city) {aliasName : String} (named : aliasName ∈ record.aliases) (plain : Plain aliasName)
    (listed : record.city ∈ record.aliases) (whole : Plain record.city) : Reaches index record aliasName := by
  obtain ⟨code, parsed, long⟩ := plain
  obtain ⟨code', parsed', long'⟩ := whole
  refine ⟨?_, finds_plain few member city named (.inr rfl) long, fun unique => ?_⟩
  · rw [Finds, parsed]
    exact ⟨code, long, finds_plain few member city named (.inl rfl) long⟩
  · rw [FindsOnly, Finds, parsed']
    refine ⟨⟨code', long', finds_plain few member city listed (.inl rfl) long'⟩, fun row read => ?_⟩
    obtain ⟨joined, exact_⟩ := (mem_exactRows_of_few few).mp read
    obtain ⟨there, name, inside, -, written⟩ := mem_join.mp joined
    simp only [isExact, written, aliasRow, Bool.and_eq_true, decide_eq_true_eq] at exact_
    exact unique row.1 there exact_.1.1 name inside exact_.2

end

/-! ## What is kept -/

section
variable {python : Python} {ratio : String → String → ℚ} {index : USGeographyIndex} {record : USGeographyRecord}
  {aliasName : String}

/-- The promise is kept exactly for the cities that are reached. -/
theorem complete_iff (lower : python.lower "US" = "us") (member : record ∈ index.geographies)
    (city : record.kind = .city) (long : 2 ≤ (normalizeLocation aliasName).length) :
    Complete python ratio index record aliasName ↔ Reaches index record aliasName := by
  have us : normalizeCountry python "US" = "US" := normalizeCountry_us python lower
  constructor
  · rintro ⟨byAlias, byState, resolves⟩
    refine ⟨(foundExactly_iff ratio city).mp byAlias,
      (finds_state member long).mp ((foundExactly_iff ratio city).mp byState), fun unique => ?_⟩
    exact (resolves_iff python member city us lower).mp (resolves unique "US" us)
  · rintro ⟨aliasRead, stateRead, nameRead⟩
    refine ⟨(foundExactly_iff ratio city).mpr aliasRead,
      (foundExactly_iff ratio city).mpr ((finds_state member long).mpr stateRead), fun unique country there => ?_⟩
    exact (resolves_iff python member city there lower).mpr (nameRead unique)

end

/-! ## Two cities -/

/-- A city of that name alone. -/
def cityOf (city state : String) : USGeographyRecord where
  id := "place:" ++ city
  kind := .city
  city
  state
  postalCode := none
  county := "Laurel County"
  countyFips := "21125"
  metro := "Corbin, KY"
  metroCode := none
  metroType := "Micropolitan Statistical Area"
  latitude := 37
  longitude := -84
  population := 7561
  referencePopulation := 334922499
  households := none
  housingUnits := none
  ownerOccupiedUnits := none
  medianYearBuilt := none
  publicDataYear := 2024
  aliases := [city]
  postalCodes := []
  boundaryRadiusKm := 3
  landAreaSqKm := 31
  sourceGeoid := "2147476"
  datasetVersion := "us-geography-2024.2"

/-- The index with this city. -/
def indexOf (city state : String) (known : state ∈ stateAbbreviations.map Prod.snd)
    (some : normalizeLocation city ≠ "") : USGeographyIndex where
  geographies := [cityOf city state]
  aliases := [aliasRow (cityOf city state) city]
  ids_unique := by simp
  states_known := by simpa [cityOf] using known
  city_postal := by simp [cityOf]
  aliases_written := by simp [cityOf, some]

theorem few_indexOf {city state : String} {known : state ∈ stateAbbreviations.map Prod.snd}
    {some : normalizeLocation city ≠ ""} : FewNames (indexOf city state known some) := by
  intro query
  have one : (indexOf city state known some).join.length ≤ 1 := List.length_filterMap_le _ _
  exact (List.length_filter_le _ _).trans (one.trans (by omega))

def london : USGeographyRecord := cityOf "London" "KY"

def londonIndex : USGeographyIndex := indexOf "London" "KY" (by decide) (by decide +kernel)

/-- `SequenceMatcher.ratio`, of a text with itself. -/
def sameRatio (a b : String) : ℚ := if a = b then 1 else 0

theorem plain_london : Plain "London" := by
  unfold Plain
  decide +kernel

theorem reaches_london : Reaches londonIndex london "London" := by
  have member : london ∈ londonIndex.geographies := List.mem_singleton_self _
  exact reaches_of_plain few_indexOf member rfl (List.mem_singleton_self _) plain_london (List.mem_singleton_self _)
    plain_london

theorem complete_london : Complete asciiPython sameRatio londonIndex london "London" :=
  (complete_iff (by decide +kernel) (List.mem_singleton_self _) rfl (by decide +kernel)).mpr reaches_london

def newYork : USGeographyRecord := cityOf "New York" "NY"

def newYorkIndex : USGeographyIndex := indexOf "New York" "NY" (by decide) (by decide +kernel)

/-- The name of the state is taken off the city, and nothing is left to search for. -/
theorem newYork_lost : newYork ∈ newYorkIndex.geographies ∧ newYork.kind = .city ∧ "New York" ∈ newYork.aliases ∧
    2 ≤ (normalizeLocation "New York").length ∧
    ¬ Complete asciiPython sameRatio newYorkIndex newYork "New York" := by
  refine ⟨List.mem_singleton_self _, rfl, List.mem_singleton_self _, by decide +kernel, fun complete => ?_⟩
  obtain ⟨-, long, -⟩ := (foundExactly_iff sameRatio rfl).mp complete.byAlias
  have parsed : parseCityState "New York" = ("", some "NY") := by decide +kernel
  rw [parsed] at long
  exact absurd long (by decide)

end RankRent.Geography
