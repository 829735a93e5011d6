import RankRent.Prefilter.Signals

/-!
# Derived signals

A measure that is derived keeps the value and the source of the embedded baseline when a
release reports what it is derived from.
-/

namespace RankRent.Prefilter
open Geography (USGeographyRecord)
open PublicData (DatasetKind DatasetManifest DatasetRecord PublicDataSnapshot measurement)

/-! ## What is reported last -/

/-- A measure with its value and its source. -/
abbrev Report := String × Option ℚ × Provenance

/-- What the releases report, in the order it is read. -/
def reports (snapshot : PublicDataSnapshot) : List Report :=
  overlayDatasets.flatMap fun dataset =>
    (snapshot.recordsOf dataset).flatMap fun record =>
      record.values.map fun item => (item.1, measurement item.2, manifestProvenance (snapshot.manifestOf dataset))

def lastReport (snapshot : PublicDataSnapshot) (measure : String) : Option (Option ℚ × Provenance) :=
  (reports snapshot).reverse.lookup measure

def addReport (state : Signals × Sources) (item : Report) : Signals × Sources :=
  (PyDict.setItem state.1 item.1 item.2.1, PyDict.setItem state.2 item.1 item.2.2)

theorem overlaid_eq (record : USGeographyRecord) (snapshot : PublicDataSnapshot) :
    overlaid record snapshot = (reports snapshot).foldl addReport (baselineSignals record, baselineSources record) := by
  unfold overlaid reports
  rw [List.foldl_flatMap]
  refine congrArg (fun round => overlayDatasets.foldl round _) ?_
  funext state dataset
  rw [List.foldl_flatMap]
  refine congrArg (fun round => (snapshot.recordsOf dataset).foldl round state) ?_
  funext state record
  rw [List.foldl_map]
  rfl

theorem foldl_addReport (items : List Report) (state : Signals × Sources) :
    items.foldl addReport state =
      (items.foldl (fun signals item => PyDict.setItem signals item.1 item.2.1) state.1,
        items.foldl (fun sources item => PyDict.setItem sources item.1 item.2.2) state.2) := by
  induction items generalizing state with
  | nil => rfl
  | cons item items ih =>
    rw [List.foldl_cons, ih]
    rfl

/-- A measure has the value and the source of its last report, or those of the baseline. -/
theorem overlaid_lookup (record : USGeographyRecord) (snapshot : PublicDataSnapshot) (measure : String) :
    (overlaid record snapshot).1.lookup measure =
        ((lastReport snapshot measure).map Prod.fst).or ((baselineSignals record).lookup measure) ∧
      (overlaid record snapshot).2.lookup measure =
        ((lastReport snapshot measure).map Prod.snd).or ((baselineSources record).lookup measure) := by
  rw [overlaid_eq, foldl_addReport]
  exact ⟨PyDict.lookup_update Prod.fst _ _ _, PyDict.lookup_update Prod.snd _ _ _⟩

/-- The source of a report is a release, not the embedded baseline. -/
theorem source_of_report {snapshot : PublicDataSnapshot} {measure : String} {value : Option ℚ} {source : Provenance}
    (reported : lastReport snapshot measure = some (value, source)) (record : USGeographyRecord) :
    source ≠ embeddedSource record := by
  have member := List.mem_reverse.mp (PyDict.mem_of_lookup reported)
  simp only [reports, List.mem_flatMap, List.mem_map, Prod.mk.injEq] at member
  obtain ⟨dataset, -, _, -, _, -, -, -, rfl⟩ := member
  cases snapshot.manifestOf dataset <;> simp [manifestProvenance, embeddedSource]

theorem reported_isSome {snapshot : PublicDataSnapshot} {dataset : DatasetKind} {record : DatasetRecord}
    {measure : String} (read : dataset ∈ overlayDatasets) (member : record ∈ snapshot.recordsOf dataset)
    (there : measure ∈ record.values.map Prod.fst) : ∃ value source, lastReport snapshot measure = some (value, source) := by
  have known : (lastReport snapshot measure).isSome = true := by
    rw [lastReport, PyDict.lookup_isSome, List.map_reverse, List.mem_reverse, List.mem_map]
    obtain ⟨item, inside, rfl⟩ := List.mem_map.mp there
    simp only [reports, List.mem_flatMap, List.mem_map]
    exact ⟨_, ⟨dataset, read, record, member, item, inside, rfl⟩, rfl⟩
  obtain ⟨⟨value, source⟩, known⟩ := Option.isSome_iff_exists.mp known
  exact ⟨value, source, known⟩

/-! ## What is derived -/

def density (landAreaSqKm : ℚ) (households : Option ℚ) : Option ℚ :=
  households.bind fun households => if 0 < landAreaSqKm then some (households / landAreaSqKm) else none

/-- `max(0, year - built)`. -/
def age (year : ℤ) (built : Option ℚ) : Option ℚ := built.map fun built => max 0 (year - built)

/-- `max(0, year - int(built))`. -/
def truncatedAge (year : ℤ) (built : Option ℚ) : Option ℚ :=
  built.map fun built => ((max 0 (year - PyFloat.truncate built) : ℤ) : ℚ)

@[simp] theorem get_setItem (signals : Signals) (name : String) (value : Option ℚ) :
    Signals.get (PyDict.setItem signals name value) name = value := by
  rw [Signals.get, PyDict.lookup_setItem]
  rfl

theorem get_setItem_of_ne (signals : Signals) {name other : String} (value : Option ℚ) (ne : other ≠ name) :
    Signals.get (PyDict.setItem signals name value) other = signals.get other := by
  rw [Signals.get, PyDict.lookup_setItem_of_ne signals value ne]
  rfl

section
variable (signals : Signals)

theorem deriveHomeownershipRate_get :
    (deriveHomeownershipRate signals).get "homeownership_rate" = (signals.get "homeownership_rate").or
      (ownerShare (signals.get "households") (signals.get "owner_occupied_units")) := by
  unfold deriveHomeownershipRate ownerShare
  cases missing : signals.get "homeownership_rate" with
  | some rate => simp [missing]
  | none =>
    rw [if_pos rfl]
    cases signals.get "households" with
    | none => simp [missing]
    | some households =>
      cases signals.get "owner_occupied_units" with
      | none => simp [missing]
      | some occupied => by_cases zero : households = 0 <;> simp [zero, missing]

theorem deriveHousingAge_get (year : ℤ) :
    (deriveHousingAge year signals).get "housing_age" = (signals.get "housing_age").or
      (truncatedAge year (signals.get "median_year_built")) := by
  unfold deriveHousingAge truncatedAge
  cases missing : signals.get "housing_age" with
  | some value => simp [missing]
  | none => cases signals.get "median_year_built" <;> simp [missing]

theorem deriveHouseholdDensity_get (land : ℚ) :
    (deriveHouseholdDensity land signals).get "household_density" = (signals.get "household_density").or
      (density land (signals.get "households")) := by
  unfold deriveHouseholdDensity density
  cases missing : signals.get "household_density" with
  | some value => simp [missing]
  | none => cases signals.get "households" <;> simp [missing]

/-- Each step sets its own measure. -/
theorem deriveHomeownershipRate_other {name : String} (ne : name ≠ "homeownership_rate") :
    (deriveHomeownershipRate signals).get name = signals.get name := by
  unfold deriveHomeownershipRate
  repeat' split
  all_goals first | rfl | exact get_setItem_of_ne signals _ ne

theorem deriveHousingAge_other (year : ℤ) {name : String} (ne : name ≠ "housing_age") :
    (deriveHousingAge year signals).get name = signals.get name := by
  unfold deriveHousingAge
  split
  · exact get_setItem_of_ne signals _ ne
  · rfl

theorem deriveHouseholdDensity_other (land : ℚ) {name : String} (ne : name ≠ "household_density") :
    (deriveHouseholdDensity land signals).get name = signals.get name := by
  unfold deriveHouseholdDensity
  split
  · exact get_setItem_of_ne signals _ ne
  · rfl

theorem derivePurchasingPower_other (sources : Sources) {name : String} (ne : name ≠ "purchasing_power") :
    (derivePurchasingPower (signals, sources)).1.get name = signals.get name ∧
      (derivePurchasingPower (signals, sources)).2.lookup name = sources.lookup name := by
  unfold derivePurchasingPower
  split
  · refine ⟨get_setItem_of_ne signals _ ne, ?_⟩
    split
    · exact PyDict.lookup_setItem_of_ne sources _ ne
    · rfl
  · exact ⟨rfl, rfl⟩

end

/-! ## Agreement -/

/-- The derived measures are those of the inputs that are shown, from the same source. -/
structure DerivedMatch (record : USGeographyRecord) (manifest : DatasetManifest) (signals : Signals)
    (sources : Sources) : Prop where
  homeownership : signals.get "homeownership_rate" =
    ownerShare (signals.get "households") (signals.get "owner_occupied_units")
  homeownership_source : sources.lookup "homeownership_rate" = sources.lookup "households" ∧
    sources.lookup "homeownership_rate" = sources.lookup "owner_occupied_units"
  density : signals.get "household_density" = density record.landAreaSqKm (signals.get "households")
  density_source : sources.lookup "household_density" = sources.lookup "households"
  age : signals.get "housing_age" = age manifest.release.dataYear (signals.get "median_year_built")
  age_source : sources.lookup "housing_age" = sources.lookup "median_year_built"

/-- The releases report the derived measures themselves, from the source of the inputs. -/
structure DerivedReported (record : USGeographyRecord) (manifest : DatasetManifest) (snapshot : PublicDataSnapshot) :
    Prop where
  homeownership : ∃ rate households occupied source,
    lastReport snapshot "homeownership_rate" = some (rate, source) ∧
      lastReport snapshot "households" = some (households, source) ∧
        lastReport snapshot "owner_occupied_units" = some (occupied, source) ∧
          (rate = none ∨ rate = ownerShare households occupied)
  density : ∃ value households source,
    lastReport snapshot "household_density" = some (value, source) ∧
      lastReport snapshot "households" = some (households, source) ∧
        (value = none ∨ value = density record.landAreaSqKm households)
  age : ∃ value built source,
    lastReport snapshot "housing_age" = some (value, source) ∧
      lastReport snapshot "median_year_built" = some (built, source) ∧
        value.or (truncatedAge record.publicDataYear built) = age manifest.release.dataYear built

/-- An ACS record with the inputs, and without the measures that are derived. -/
structure InputsOnly (record : DatasetRecord) : Prop where
  inputs : ∀ measure ∈ ["households", "owner_occupied_units", "median_year_built"],
    (record.measure measure).isSome = true
  underived : ∀ measure ∈ ["homeownership_rate", "household_density", "housing_age"],
    measure ∉ record.values.map Prod.fst

section
variable (record : USGeographyRecord) (snapshot : PublicDataSnapshot)

/-- The signals that no step derives. -/
theorem marketSignals_get {name : String}
    (apart : name ∉ ["homeownership_rate", "housing_age", "household_density", "purchasing_power"]) :
    (marketSignals record snapshot).1.get name = (overlaid record snapshot).1.get name := by
  simp only [List.mem_cons, List.not_mem_nil, or_false, not_or] at apart
  obtain ⟨rate, age, density, power⟩ := apart
  dsimp only [marketSignals]
  rw [(derivePurchasingPower_other _ _ power).1, deriveHouseholdDensity_other _ _ density,
    deriveHousingAge_other _ _ age, deriveHomeownershipRate_other _ rate]

theorem marketSignals_source {name : String} (apart : name ≠ "purchasing_power") :
    (marketSignals record snapshot).2.lookup name = (overlaid record snapshot).2.lookup name :=
  (derivePurchasingPower_other _ _ apart).2

theorem marketSignals_rate :
    (marketSignals record snapshot).1.get "homeownership_rate" =
      ((overlaid record snapshot).1.get "homeownership_rate").or
        (ownerShare ((overlaid record snapshot).1.get "households")
          ((overlaid record snapshot).1.get "owner_occupied_units")) := by
  dsimp only [marketSignals]
  rw [(derivePurchasingPower_other _ _ (by decide)).1, deriveHouseholdDensity_other _ _ (by decide),
    deriveHousingAge_other _ _ (by decide), deriveHomeownershipRate_get]

theorem marketSignals_age :
    (marketSignals record snapshot).1.get "housing_age" = ((overlaid record snapshot).1.get "housing_age").or
      (truncatedAge record.publicDataYear ((overlaid record snapshot).1.get "median_year_built")) := by
  dsimp only [marketSignals]
  rw [(derivePurchasingPower_other _ _ (by decide)).1, deriveHouseholdDensity_other _ _ (by decide),
    deriveHousingAge_get, deriveHomeownershipRate_other _ (by decide), deriveHomeownershipRate_other _ (by decide)]

theorem marketSignals_density :
    (marketSignals record snapshot).1.get "household_density" =
      ((overlaid record snapshot).1.get "household_density").or
        (density record.landAreaSqKm ((overlaid record snapshot).1.get "households")) := by
  dsimp only [marketSignals]
  rw [(derivePurchasingPower_other _ _ (by decide)).1, deriveHouseholdDensity_get,
    deriveHousingAge_other _ _ (by decide), deriveHousingAge_other _ _ (by decide),
    deriveHomeownershipRate_other _ (by decide), deriveHomeownershipRate_other _ (by decide)]

/-- What is reported last stands over the baseline. -/
theorem overlaid_reported {snapshot : PublicDataSnapshot} {measure : String} {value : Option ℚ} {source : Provenance}
    (reported : lastReport snapshot measure = some (value, source)) :
    (overlaid record snapshot).1.get measure = value ∧ (overlaid record snapshot).2.lookup measure = some source := by
  obtain ⟨values, sources⟩ := overlaid_lookup record snapshot measure
  rw [reported] at values sources
  exact ⟨by simp [Signals.get, values], by simp [sources]⟩

end

section
variable {record : USGeographyRecord} {snapshot : PublicDataSnapshot}

/-- A measure with the source of a report is reported itself. -/
theorem reported_of_source {derived input : String} {value : Option ℚ} {source : Provenance}
    (embedded : (baselineSources record).lookup derived = some (embeddedSource record))
    (reported : lastReport snapshot input = some (value, source))
    (same : (overlaid record snapshot).2.lookup derived = (overlaid record snapshot).2.lookup input) :
    ∃ value, lastReport snapshot derived = some (value, source) := by
  rw [(overlaid_reported record reported).2, (overlaid_lookup record snapshot derived).2] at same
  cases last : lastReport snapshot derived with
  | none =>
    rw [last, embedded] at same
    exact absurd (Option.some.inj same).symm (source_of_report reported record)
  | some report =>
    rw [last] at same
    exact ⟨report.1, by rw [← Option.some.inj same]⟩

/-- A derived measure has the right value and the source of an input exactly where it is
reported from that source, with that value or with one that is then recomputed. -/
theorem derived_iff {derived input : String} {shown recomputed value e : Option ℚ} {source : Provenance}
    (embedded : (baselineSources record).lookup derived = some (embeddedSource record))
    (reported : lastReport snapshot input = some (value, source))
    (shows_ : shown = ((overlaid record snapshot).1.get derived).or recomputed) :
    shown = e ∧ (overlaid record snapshot).2.lookup derived = (overlaid record snapshot).2.lookup input ↔
      ∃ value, lastReport snapshot derived = some (value, source) ∧ value.or recomputed = e := by
  constructor
  · rintro ⟨right, same⟩
    obtain ⟨value, known⟩ := reported_of_source embedded reported same
    rw [shows_, (overlaid_reported record known).1] at right
    exact ⟨value, known, right⟩
  · rintro ⟨value, known, right⟩
    rw [shows_, (overlaid_reported record known).1, (overlaid_reported record known).2,
      (overlaid_reported record reported).2]
    exact ⟨right, rfl⟩

theorem or_eq_right {value expected : Option ℚ} : value.or expected = expected ↔ value = none ∨ value = expected := by
  cases value <;> simp

/-- An input of an ACS record is reported. -/
theorem InputsOnly.reported {acs : DatasetRecord} (only : InputsOnly acs) (member : acs ∈ snapshot.recordsOf .acs)
    {m : String} (input : m ∈ ["households", "owner_occupied_units", "median_year_built"]) :
    ∃ value source, lastReport snapshot m = some (value, source) := by
  have some_ := only.inputs m input
  have there : (acs.values.lookup m).isSome = true := by
    cases found : acs.values.lookup m with
    | none => simp [DatasetRecord.measure, found] at some_
    | some value => rfl
  exact reported_isSome (by decide) member (PyDict.lookup_isSome.mp there)

/-- The derived measures agree with their inputs exactly where releases report them too. -/
theorem derived_match_iff {manifest : DatasetManifest} (_active : snapshot.manifestOf .acs = some manifest)
    (reporting : ∃ acs ∈ snapshot.recordsOf .acs, InputsOnly acs) :
    DerivedMatch record manifest (marketSignals record snapshot).1 (marketSignals record snapshot).2 ↔
      DerivedReported record manifest snapshot := by
  obtain ⟨acs, member, only⟩ := reporting
  obtain ⟨households, source, knownHouseholds⟩ := only.reported member (m := "households") (by decide)
  obtain ⟨occupied, source', knownOccupied⟩ := only.reported member (m := "owner_occupied_units") (by decide)
  obtain ⟨built, source'', knownBuilt⟩ := only.reported member (m := "median_year_built") (by decide)
  obtain ⟨householdsValue, householdsSource⟩ := overlaid_reported record knownHouseholds
  obtain ⟨occupiedValue, occupiedSource⟩ := overlaid_reported record knownOccupied
  have builtValue := (overlaid_reported record knownBuilt).1
  -- The value of each derived measure, and when it agrees.
  have rate := marketSignals_rate record snapshot
  have density_ := marketSignals_density record snapshot
  have age_ := marketSignals_age record snapshot
  rw [householdsValue, occupiedValue] at rate
  rw [householdsValue] at density_
  rw [builtValue] at age_
  have rates := derived_iff (e := ownerShare households occupied) rfl knownHouseholds rate
  have densities := derived_iff (e := density record.landAreaSqKm households) rfl knownHouseholds density_
  have ages := derived_iff (e := age manifest.release.dataYear built) rfl knownBuilt age_
  have householdsShown := (marketSignals_get record snapshot (by decide)).trans householdsValue
  have occupiedShown := (marketSignals_get record snapshot (by decide)).trans occupiedValue
  have builtShown := (marketSignals_get record snapshot (by decide)).trans builtValue
  have sourceOf {name : String} (apart : name ≠ "purchasing_power") := marketSignals_source record snapshot apart
  constructor
  · intro agrees
    obtain ⟨sourceHouseholds, sourceOccupied⟩ := agrees.homeownership_source
    rw [sourceOf (by decide), sourceOf (by decide)] at sourceHouseholds sourceOccupied
    have same : source' = source := by
      rw [sourceHouseholds, householdsSource, occupiedSource] at sourceOccupied
      exact (Option.some.inj sourceOccupied).symm
    have densitySource := agrees.density_source
    have ageSource := agrees.age_source
    rw [sourceOf (by decide), sourceOf (by decide)] at densitySource ageSource
    have rateRight := agrees.homeownership
    have densityRight := agrees.density
    have ageRight := agrees.age
    rw [householdsShown, occupiedShown] at rateRight
    rw [householdsShown] at densityRight
    rw [builtShown] at ageRight
    obtain ⟨reportedRate, knownRate, rateValue⟩ := rates.mp ⟨rateRight, sourceHouseholds⟩
    obtain ⟨reportedDensity, knownDensity, densityValue⟩ := densities.mp ⟨densityRight, densitySource⟩
    obtain ⟨reportedAge, knownAge, ageValue⟩ := ages.mp ⟨ageRight, ageSource⟩
    constructor
    · exact ⟨_, _, _, _, knownRate, knownHouseholds, same ▸ knownOccupied, or_eq_right.mp rateValue⟩
    · exact ⟨_, _, _, knownDensity, knownHouseholds, or_eq_right.mp densityValue⟩
    · exact ⟨_, _, _, knownAge, knownBuilt, ageValue⟩
  · intro reports
    obtain ⟨reportedRate, households', occupied', _, knownRate, fromHouseholds, fromOccupied, rateValue⟩ :=
      reports.homeownership
    obtain ⟨reportedDensity, households'', _, knownDensity, fromHouseholds', densityValue⟩ := reports.density
    obtain ⟨reportedAge, built', _, knownAge, fromBuilt, ageValue⟩ := reports.age
    obtain ⟨rfl, rfl⟩ := Prod.mk.inj (Option.some.inj (knownHouseholds.symm.trans fromHouseholds))
    obtain ⟨rfl, rfl⟩ := Prod.mk.inj (Option.some.inj (knownHouseholds.symm.trans fromHouseholds'))
    obtain ⟨rfl, rfl⟩ := Prod.mk.inj (Option.some.inj (knownOccupied.symm.trans fromOccupied))
    obtain ⟨rfl, rfl⟩ := Prod.mk.inj (Option.some.inj (knownBuilt.symm.trans fromBuilt))
    obtain ⟨rateRight, sourceHouseholds⟩ := rates.mpr ⟨_, knownRate, or_eq_right.mpr rateValue⟩
    obtain ⟨densityRight, densitySource⟩ := densities.mpr ⟨_, knownDensity, or_eq_right.mpr densityValue⟩
    obtain ⟨ageRight, ageSource⟩ := ages.mpr ⟨_, knownAge, ageValue⟩
    constructor
    · rw [householdsShown, occupiedShown, rateRight]
    · rw [sourceOf (by decide), sourceOf (by decide), sourceOf (by decide), sourceHouseholds, householdsSource,
        occupiedSource]
      exact ⟨rfl, rfl⟩
    · rw [householdsShown, densityRight]
    · rw [sourceOf (by decide), sourceOf (by decide), densitySource]
    · rw [builtShown, ageRight]
    · rw [sourceOf (by decide), sourceOf (by decide), ageSource]

/-- Where no release reports a derived measure, they never agree. -/
theorem derived_never_match {manifest : DatasetManifest} (active : snapshot.manifestOf .acs = some manifest)
    (reporting : ∃ acs ∈ snapshot.recordsOf .acs, InputsOnly acs)
    (underived : ∀ dataset ∈ overlayDatasets, ∀ reported ∈ snapshot.recordsOf dataset,
      "homeownership_rate" ∉ reported.values.map Prod.fst) :
    ¬ DerivedMatch record manifest (marketSignals record snapshot).1 (marketSignals record snapshot).2 := by
  intro agrees
  obtain ⟨_, _, _, _, known, -⟩ := ((derived_match_iff active reporting).mp agrees).homeownership
  have member := List.mem_reverse.mp (PyDict.mem_of_lookup known)
  simp only [reports, List.mem_flatMap, List.mem_map, Prod.mk.injEq] at member
  obtain ⟨dataset, read, reported, there, item, inside, name, -⟩ := member
  exact underived dataset read reported there (name ▸ List.mem_map_of_mem inside)

end

/-! ### A newer release -/

def springfield : USGeographyRecord where
  id := "place:1772000"
  kind := .city
  city := "Springfield"
  state := "IL"
  postalCode := none
  county := "Sangamon County"
  countyFips := "17167"
  metro := "Springfield, IL"
  metroCode := some "44100"
  metroType := "metropolitan"
  latitude := 39781 / 1000
  longitude := -89650 / 1000
  population := 113273
  referencePopulation := 113273
  households := some 51000
  housingUnits := some 56000
  ownerOccupiedUnits := some 33000
  medianYearBuilt := some 1966
  publicDataYear := 2022
  aliases := ["Springfield"]
  postalCodes := ["62701"]
  boundaryRadiusKm := 7
  landAreaSqKm := 155
  sourceGeoid := "1772000"
  datasetVersion := "2022.1"

/-- A release of a dataset, and its manifest. -/
def manifestFor (dataset : DatasetKind) : DatasetManifest where
  release :=
    { dataset
      version := "2023"
      dataYear := 2023
      releaseDate := 20068
      sourceUrl := "https://api.census.gov/data/2023/acs/acs5"
      sourceName := "Census"
      license := "Public domain"
      geographicGranularity := ["place"]
      refreshCadence := "Annual"
      retrievedAt := 0
      adapter := "census_acs5_v1" }
  recordCount := 1
  contentSha256 := ""
  stagedAt := 0

/-- The ACS record of a place. -/
def acsRecord : DatasetRecord where
  geographyId := "place:1772000"
  sourceGeoid := "1772000"
  geographyLevel := "place"
  values := [("households", .num 50000), ("owner_occupied_units", .num 30000), ("median_year_built", .num 1970)]

def acsSnapshot : PublicDataSnapshot where
  geographyId := "place:1772000"
  records := [(.acs, [acsRecord])]
  manifests := [(.acs, manifestFor .acs)]
  warnings := []

theorem acsRecord_inputsOnly : InputsOnly acsRecord := ⟨by decide +kernel, by decide +kernel⟩

/-- The rate of 33000 in 51000 stays with the counts 30000 and 50000. -/
theorem derived_signals_stale :
    acsSnapshot.manifestOf .acs = some (manifestFor .acs) ∧
      (∃ acs ∈ acsSnapshot.recordsOf .acs, InputsOnly acs) ∧
      ¬ DerivedMatch springfield (manifestFor .acs) (marketSignals springfield acsSnapshot).1
        (marketSignals springfield acsSnapshot).2 := by
  refine ⟨rfl, ⟨acsRecord, List.mem_singleton_self _, acsRecord_inputsOnly⟩, ?_⟩
  intro agrees
  exact absurd agrees.homeownership (by decide +kernel)

/-- A FEMA record of a place that repeats the inputs beside what is derived. -/
def femaRecord : DatasetRecord where
  geographyId := "place:1772000"
  sourceGeoid := "1772000"
  geographyLevel := "place"
  values := [("households", .num 50000), ("owner_occupied_units", .num 30000), ("median_year_built", .num 1970),
    ("homeownership_rate", .null), ("household_density", .null), ("housing_age", .num 53)]

def femaSnapshot : PublicDataSnapshot where
  geographyId := "place:1772000"
  records := [(.acs, [acsRecord]), (.fema, [femaRecord])]
  manifests := [(.acs, manifestFor .acs), (.fema, manifestFor .fema)]
  warnings := []

theorem derived_match_fema :
    DerivedMatch springfield (manifestFor .acs) (marketSignals springfield femaSnapshot).1
      (marketSignals springfield femaSnapshot).2 := by
  refine (derived_match_iff rfl ⟨acsRecord, List.mem_singleton_self _, acsRecord_inputsOnly⟩).mpr ?_
  constructor
  · exact ⟨none, some 50000, some 30000, manifestProvenance (some (manifestFor .fema)), by decide +kernel⟩
  · exact ⟨none, some 50000, manifestProvenance (some (manifestFor .fema)), by decide +kernel⟩
  · exact ⟨some 53, some 1970, manifestProvenance (some (manifestFor .fema)), by decide +kernel⟩

end RankRent.Prefilter
