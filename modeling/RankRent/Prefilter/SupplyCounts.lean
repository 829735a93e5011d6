import RankRent.Prefilter.DerivedSignals
import RankRent.Prefilter.Supply
import RankRent.PublicData.Activations

/-!
# What a supply total counts

The records that go into a raw total are those of the market and those under the five
digits of its county, at whatever level they are reported and whatever codes they nest.
-/

namespace RankRent.Prefilter
open Geography (USGeographyRecord)
open PublicData (DatasetKind DatasetManifest DatasetRecord PublicDataSnapshot PublicDataStore)
open PyString (rounded)

/-- A record that counts: one of a reviewed code with a value. -/
def Counts (mappings : List NaicsMapping) (measure : String) (record : DatasetRecord) : Prop :=
  ((mappingByCode mappings).lookup (naicsCode record)).isSome = true ∧ (record.measure measure).isSome = true

instance (mappings : List NaicsMapping) (measure : String) (record : DatasetRecord) :
    Decidable (Counts mappings measure record) := inferInstanceAs (Decidable (_ ∧ _))

/-- The records a raw total adds up. -/
def counted (records : List DatasetRecord) (mappings : List NaicsMapping) (measure : String) : List DatasetRecord :=
  records.filter (Counts mappings measure ·)

/-- A raw total of records that count. -/
def rawTotal (records : List DatasetRecord) (measure : String) : Option ℚ :=
  if records = [] then none
  else some (rounded 3 (records.map fun record => (record.measure measure).getD 0).sum)

section
variable (mappings : List NaicsMapping) (measure : String)

/-- A round adds a record that counts, and passes over another. -/
theorem add_eq (totals : IndustryTotals) (record : DatasetRecord) :
    (totals.add (mappingByCode mappings) measure record).raw =
        totals.raw + (if Counts mappings measure record then (record.measure measure).getD 0 else 0) ∧
      (totals.add (mappingByCode mappings) measure record).matched =
        (totals.matched || decide (Counts mappings measure record)) := by
  unfold IndustryTotals.add
  split
  · rename_i mapping value known measured
    have counts : Counts mappings measure record := ⟨by rw [known]; rfl, by rw [measured]; rfl⟩
    simp [counts, measured]
  · rename_i absent
    have passed : ¬ Counts mappings measure record := by
      rintro ⟨known, measured⟩
      obtain ⟨mapping, known⟩ := Option.isSome_iff_exists.mp known
      obtain ⟨value, measured⟩ := Option.isSome_iff_exists.mp measured
      exact absent mapping value known measured
    simp [passed]

theorem foldl_add (records : List DatasetRecord) (totals : IndustryTotals) :
    (records.foldl (IndustryTotals.add (mappingByCode mappings) measure) totals).raw =
        totals.raw + ((counted records mappings measure).map fun record => (record.measure measure).getD 0).sum ∧
      (records.foldl (IndustryTotals.add (mappingByCode mappings) measure) totals).matched =
        (totals.matched || !(counted records mappings measure).isEmpty) := by
  induction records generalizing totals with
  | nil => simp [counted]
  | cons record records ih =>
    obtain ⟨raw, matched⟩ := ih (totals.add (mappingByCode mappings) measure record)
    obtain ⟨added, found⟩ := add_eq mappings measure totals record
    rw [List.foldl_cons, raw, matched, added, found]
    by_cases counts : Counts mappings measure record
    · simp [counted, counts, add_assoc]
    · simp [counted, counts]

/-- The raw total is the sum of the records that count. -/
theorem aggregate_raw (records : List DatasetRecord) :
    (aggregateIndustryRecords records (mappingByCode mappings) measure).1 =
      rawTotal (counted records mappings measure) measure := by
  obtain ⟨raw, matched⟩ := foldl_add mappings measure records {}
  unfold aggregateIndustryRecords rawTotal
  dsimp only
  rw [raw, matched]
  by_cases none_ : counted records mappings measure = []
  · simp [none_]
  · simp [none_]

end

/-! ## Counted once -/

/-- One code is above the other in the hierarchy. -/
def Nested (code other : String) : Prop := code ≠ other ∧ code.toList <+: other.toList

instance (code other : String) : Decidable (Nested code other) := inferInstanceAs (Decidable (_ ∧ _))

/-- The records of one level, and of codes that do not nest. -/
structure CountedOnce (market : USGeographyRecord) (records : List DatasetRecord) : Prop where
  level : (∀ record ∈ records, record.geographyId = market.id) ∨
    ∀ record ∈ records, record.geographyLevel = "county" ∧ record.sourceGeoid = market.countyFips
  hierarchy : ∀ record ∈ records, ∀ other ∈ records, ¬ Nested (naicsCode record) (naicsCode other)

/-- The records of a release that are taken for the market, and count. -/
def Taken (market : USGeographyRecord) (mappings : List NaicsMapping) (measure : String) (record : DatasetRecord) :
    Prop :=
  (record.geographyId = market.id ∨ market.countyFips ≠ "" ∧ record.sourceGeoid = market.countyFips) ∧
    Counts mappings measure record

instance (market : USGeographyRecord) (mappings : List NaicsMapping) (measure : String) (record : DatasetRecord) :
    Decidable (Taken market mappings measure record) := inferInstanceAs (Decidable (_ ∧ _))

/-- No release record is a foreign one beside the market's own, or of another level
than the county, and no two are of nested codes. -/
structure Separate (market : USGeographyRecord) (mappings : List NaicsMapping) (measure : String)
    (release : List DatasetRecord) : Prop where
  level : (∀ record ∈ release, record.sourceGeoid = market.countyFips → market.countyFips ≠ "" →
      Counts mappings measure record → record.geographyId = market.id) ∨
    ∀ record ∈ release, Taken market mappings measure record →
      record.geographyLevel = "county" ∧ record.sourceGeoid = market.countyFips
  hierarchy : ∀ record ∈ release, ∀ other ∈ release, Taken market mappings measure record →
    Taken market mappings measure other → ¬ Nested (naicsCode record) (naicsCode other)

/-- The measure of a dataset of businesses. -/
def supplyMeasure : DatasetKind → String
  | .cbp => establishments
  | _ => nonemployerBusinesses

/-- The raw total of a dataset of businesses. -/
def ProviderDensityEvidence.raw (evidence : ProviderDensityEvidence) : DatasetKind → Option ℚ
  | .cbp => evidence.employerEstablishmentsRaw
  | _ => evidence.nonemployerBusinessesRaw

theorem providerDensity_raw {dataset : DatasetKind} (counts : dataset = .cbp ∨ dataset = .nes)
    (snapshot : PublicDataSnapshot) (profile : Profile) (signals : Signals) (service : ServiceNaicsMapping)
    (registry : NaicsRegistry) :
    (providerDensity snapshot profile signals (some service) registry).raw dataset =
      rawTotal (counted (snapshot.recordsOf dataset) service.mappings (supplyMeasure dataset))
        (supplyMeasure dataset) := by
  rcases counts with rfl | rfl
  · exact aggregate_raw service.mappings establishments (snapshot.recordsOf .cbp)
  · exact aggregate_raw service.mappings nonemployerBusinesses (snapshot.recordsOf .nes)

section
variable {s : PublicDataStore} {market : USGeographyRecord} {warningAgeDays : List (DatasetKind × ℤ)} {today : Date}
  {dataset : DatasetKind} {release : List DatasetRecord} {snapshot : PublicDataSnapshot}

/-- The records a total counts are the records of the release that are taken for the market. -/
theorem mem_counted (counts : dataset = .cbp ∨ dataset = .nes) (active : s.ActiveRelease dataset release)
    (taken : s.snapshot market.id market.countyFips warningAgeDays today = .ok snapshot)
    (mappings : List NaicsMapping) (measure : String) (record : DatasetRecord) :
    record ∈ counted (snapshot.recordsOf dataset) mappings measure ↔
      record ∈ release ∧ Taken market mappings measure record := by
  obtain ⟨id, manifest, read⟩ := PublicDataStore.snapshot_holds taken dataset
  obtain ⟨active_, known, stored⟩ := active
  rw [known] at manifest
  have records := read active_ (Except.ok.inj manifest).symm
  rw [id] at records
  rw [counted, List.mem_filter, PublicDataStore.mem_datasetRecords counts ⟨active_, known, stored⟩ records]
  simp only [decide_eq_true_eq, Taken, and_assoc]

/-- A raw total counts once exactly where the release keeps its levels and its codes
apart for the market. -/
theorem supply_counted_once_iff (counts : dataset = .cbp ∨ dataset = .nes) (active : s.ActiveRelease dataset release)
    (taken : s.snapshot market.id market.countyFips warningAgeDays today = .ok snapshot) (profile : Profile)
    (signals : Signals) (service : ServiceNaicsMapping) (registry : NaicsRegistry) :
    (providerDensity snapshot profile signals (some service) registry).raw dataset =
        rawTotal (counted (snapshot.recordsOf dataset) service.mappings (supplyMeasure dataset))
          (supplyMeasure dataset) ∧
      (CountedOnce market (counted (snapshot.recordsOf dataset) service.mappings (supplyMeasure dataset)) ↔
        Separate market service.mappings (supplyMeasure dataset) release) := by
  refine ⟨providerDensity_raw counts snapshot profile signals service registry, ?_⟩
  have member := mem_counted counts active taken service.mappings (supplyMeasure dataset)
  constructor
  · rintro ⟨level, hierarchy⟩
    constructor
    · rcases level with own | county
      · left
        intro record inside fips some_ usable
        exact own record ((member record).mpr ⟨inside, .inr ⟨some_, fips⟩, usable⟩)
      · right
        intro record inside here
        exact county record ((member record).mpr ⟨inside, here⟩)
    · intro record inside other inside' here here'
      exact hierarchy record ((member record).mpr ⟨inside, here⟩) other ((member other).mpr ⟨inside', here'⟩)
  · rintro ⟨level, hierarchy⟩
    constructor
    · rcases level with own | county
      · left
        intro record there
        obtain ⟨inside, place, usable⟩ := (member record).mp there
        rcases place with same | ⟨some_, fips⟩
        · exact same
        · exact own record inside fips some_ usable
      · right
        intro record there
        obtain ⟨inside, here⟩ := (member record).mp there
        exact county record inside here
    · intro record there other there'
      obtain ⟨inside, here⟩ := (member record).mp there
      obtain ⟨inside', here'⟩ := (member other).mp there'
      exact hierarchy record inside other inside' here here'

end

/-! ### A release of business patterns -/

def stagedManifest (records : List DatasetRecord) : DatasetManifest where
  release := PublicData.release "2022-v1"
  recordCount := records.length
  contentSha256 := PublicData.digest records
  stagedAt := 1

def activeManifest (records : List DatasetRecord) : DatasetManifest :=
  { stagedManifest records with status := .active, activatedAt := some 2 }

/-- A store whose one release is active. -/
def cbpStore (records : List DatasetRecord) : PublicDataStore where
  root := "data"
  registry := PublicData.PublicDataRegistry.put {} .cbp
    { activeVersion := some "2022-v1"
      activationHistory := ["2022-v1"]
      versions := AList.insert "2022-v1" (activeManifest records) ∅ }
  releases := AList.insert (.cbp, "2022-v1") ⟨stagedManifest records, records⟩ ∅

section
variable (records : List DatasetRecord)

theorem cbpStore_loads : (cbpStore records).loadRegistry = .ok (cbpStore records).registry := by
  unfold PublicDataStore.loadRegistry
  rw [Checks.bind_ok]
  refine ⟨(), ?_, rfl⟩
  rw [Checks.require_ok]
  intro entry member
  obtain rfl := List.mem_singleton.mp member
  constructor
  · rintro version ⟨⟩
    exact AList.mem_insert _ |>.mpr (.inl rfl)
  · intro version inside
    obtain rfl := List.mem_singleton.mp inside
    exact AList.mem_insert _ |>.mpr (.inl rfl)

theorem cbpStore_active (dataset : DatasetKind) :
    (cbpStore records).activeManifest dataset =
      .ok (if dataset = .cbp then some (activeManifest records) else none) := by
  unfold PublicDataStore.activeManifest
  rw [cbpStore_loads]
  cases dataset <;> rfl

theorem cbpStore_release : (cbpStore records).ActiveRelease .cbp records :=
  ⟨_, cbpStore_active records .cbp, rfl⟩

theorem cbpStore_valid : (cbpStore records).validateRegistered (cbpStore records).registry .cbp "2022-v1" =
    .ok (activeManifest records) := by
  have written : PublicData.ReleaseDirectory.Written ⟨stagedManifest records, records⟩ .cbp "2022-v1" :=
    ⟨rfl, rfl, rfl, rfl, rfl⟩
  have same : PublicData.SameRelease (stagedManifest records) (activeManifest records) := ⟨rfl, rfl, rfl⟩
  unfold PublicDataStore.validateRegistered
  rw [Checks.bind_ok]
  refine ⟨activeManifest records, rfl, ?_⟩
  rw [Checks.bind_ok]
  exact ⟨(), PublicDataStore.validate_written written same, rfl⟩

theorem cbpStore_records (geographyId sourceGeoid : Option String) :
    (cbpStore records).activeRecords .cbp geographyId sourceGeoid = .ok (records.filter fun record =>
      (geographyId = none ∨ geographyId = some record.geographyId) ∧
        (sourceGeoid = none ∨ sourceGeoid = some record.sourceGeoid)) := by
  unfold PublicDataStore.activeRecords
  rw [Checks.bind_ok]
  refine ⟨some (activeManifest records), cbpStore_active records .cbp, ?_⟩
  dsimp only
  rw [Checks.bind_ok]
  refine ⟨_, cbpStore_loads records, ?_⟩
  rw [Checks.bind_ok]
  refine ⟨_, cbpStore_valid records, ?_⟩
  rw [Checks.bind_ok]
  exact ⟨records, rfl, rfl⟩

theorem cbpStore_round (countyFips : String) (today : Date) (before : PublicDataSnapshot) (dataset : DatasetKind) :
    ∃ after, (cbpStore records).addDataset countyFips [] today before dataset = .ok after := by
  by_cases cbp : dataset = .cbp
  · subst cbp
    have own := cbpStore_records records (some before.geographyId) none
    have county := cbpStore_records records none (some countyFips)
    have taken : ∃ found, (cbpStore records).datasetRecords .cbp before.geographyId countyFips = .ok found := by
      unfold PublicDataStore.datasetRecords
      rw [own]
      change ∃ found, (if _ ∧ countyFips ≠ "" then _ else _) = Except.ok found
      split
      · rw [county]
        exact ⟨_, rfl⟩
      · exact ⟨_, rfl⟩
    obtain ⟨found, taken⟩ := taken
    have known : (cbpStore records).activeManifest .cbp = .ok (some (activeManifest records)) :=
      cbpStore_active records .cbp
    unfold PublicDataStore.addDataset
    rw [known]
    dsimp only [bind, Except.bind]
    rw [taken]
    exact ⟨_, rfl⟩
  · unfold PublicDataStore.addDataset
    rw [cbpStore_active, if_neg cbp]
    exact ⟨before, rfl⟩

theorem cbpStore_snapshot (geographyId countyFips : String) (today : Date) :
    ∃ snapshot, (cbpStore records).snapshot geographyId countyFips [] today = .ok snapshot := by
  have rounds (datasets : List DatasetKind) (before : PublicDataSnapshot) :
      ∃ after, datasets.foldlM ((cbpStore records).addDataset countyFips [] today) before = .ok after := by
    induction datasets generalizing before with
    | nil => exact ⟨before, rfl⟩
    | cons dataset datasets ih =>
      obtain ⟨middle, first⟩ := cbpStore_round records countyFips today before dataset
      obtain ⟨after, rest⟩ := ih middle
      exact ⟨after, by rw [List.foldlM_cons, first]; exact rest⟩
  exact rounds PublicData.datasetKinds _

end

/-- A record of a geography that counts plumbing and heating contractors, or of the
trades above them. -/
def businesses (level geoid code : String) (count : ℤ) : DatasetRecord where
  geographyId := level ++ ":" ++ geoid
  sourceGeoid := geoid
  geographyLevel := level
  values := [("establishments", .num count)]
  dimensions := [("naics_code", code)]

def plumbers : NaicsMapping := ⟨"23822", .exact, .high, "Plumbing", "Reviewed", by decide⟩
def trades : NaicsMapping := ⟨"238", .broadParent, .medium, "Specialty trades", "Reviewed", by decide⟩

/-- A market in a county of the state of Washington. -/
def market : USGeographyRecord := { springfield with countyFips := "53033" }

/-- A reviewed mapping with a code and the code above it. -/
def plumbing : ServiceNaicsMapping where
  serviceFamilyId := "plumbing"
  reviewedBy := "reviewer"
  reviewedAt := 19900
  naicsVersion := "2022"
  mappings := [plumbers, trades]
  unique_codes := by decide
  reviewed := by decide

/-- The releases that count twice: a place beside its county, the ZCTA with the digits of the
county, and a code beside the one above it. -/
def doubleCounts : List (List DatasetRecord) :=
  [[businesses "place" "1772000" "23822" 4, businesses "county" "53033" "23822" 40],
   [businesses "county" "53033" "23822" 40, businesses "zcta" "53033" "23822" 2],
   [businesses "county" "53033" "238" 90, businesses "county" "53033" "23822" 40]]

theorem supply_counted_twice : doubleCounts.Forall fun release => (cbpStore release).ActiveRelease .cbp release ∧
    ∃ snapshot, (cbpStore release).snapshot market.id market.countyFips [] 20000 = .ok snapshot ∧
      ¬ CountedOnce market (counted (snapshot.recordsOf .cbp) plumbing.mappings establishments) := by
  rw [List.forall_iff_forall_mem]
  intro release listed
  have active := cbpStore_release release
  obtain ⟨snapshot, taken⟩ := cbpStore_snapshot release market.id market.countyFips 20000
  have member := mem_counted (.inl rfl) active taken plumbing.mappings establishments
  refine ⟨active, snapshot, taken, ?_⟩
  rintro ⟨level, hierarchy⟩
  simp only [member] at level hierarchy
  simp only [doubleCounts, List.mem_cons, List.not_mem_nil, or_false] at listed
  rcases listed with rfl | rfl | rfl
  · rcases level with own | county
    · exact absurd (own _ ⟨List.mem_of_getElem? (i := 1) rfl, by decide +kernel⟩) (by decide)
    · exact absurd (county _ ⟨List.mem_of_getElem? (i := 0) rfl, by decide +kernel⟩) (by decide)
  · rcases level with own | county
    · exact absurd (own _ ⟨List.mem_of_getElem? (i := 0) rfl, by decide +kernel⟩) (by decide)
    · exact absurd (county _ ⟨List.mem_of_getElem? (i := 1) rfl, by decide +kernel⟩) (by decide)
  · exact hierarchy _ ⟨List.mem_of_getElem? (i := 0) rfl, by decide +kernel⟩ _
      ⟨List.mem_of_getElem? (i := 1) rfl, by decide +kernel⟩ ⟨by decide, by decide⟩

/-- A release of counties alone. -/
def countyRelease : List DatasetRecord :=
  [businesses "county" "53033" "23822" 40, businesses "county" "53061" "23822" 30]

/-- A profile with one signal. -/
def populationProfile : Profile where
  serviceFamilyId := "plumbing"
  profileVersion := 1
  signals := [("population",
    { weight := 1
      documentation := ⟨.acs, "B01003_001E", "Demand", "Mark unavailable", "Place", "Annual"⟩
      expectedDirection := .higher
      strongValue := some 300000
      weight_range := full_range
      strong_pos := by rintro _ ⟨⟩; norm_num
      normalization := ⟨rfl, rfl⟩
      credit_range := full_range })]
  version_pos := by decide
  minimum_range := half_range
  distinct := by decide
  weights_close := by decide +kernel

theorem supply_counted_once_county :
    ∃ snapshot, (cbpStore countyRelease).snapshot market.id market.countyFips [] 20000 = .ok snapshot ∧
      CountedOnce market (counted (snapshot.recordsOf .cbp) plumbing.mappings establishments) := by
  obtain ⟨snapshot, taken⟩ := cbpStore_snapshot countyRelease market.id market.countyFips 20000
  have once := supply_counted_once_iff (.inl rfl) (cbpStore_release countyRelease) taken populationProfile []
    plumbing ⟨"1", [plumbing], by decide⟩
  exact ⟨snapshot, taken, once.2.mpr ⟨.inr (by decide +kernel), by decide +kernel⟩⟩

end RankRent.Prefilter
