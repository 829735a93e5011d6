import RankRent.Geography.Search

/-!
# Cities by their names

When a search for a name of a city finds it, and when the name of the city resolves to it.
-/

namespace RankRent.Geography
open Evidence (Python)

/-! ## Texts -/

section
variable (ratio : String → String → ℚ) (index : USGeographyIndex) {text : String}

theorem search_city (plain : zipCode? (PyString.strip text) = none) (long : 2 ≤ (parseCityState text).1.length)
    (limit : ℕ) : index.search ratio text limit =
      (index.searchCity ratio (parseCityState text).1 (parseCityState text).2).take limit := by
  have some : PyString.strip text ≠ "" := by
    intro empty
    have short := parseCityState_short (by simp [empty] : (PyString.strip text).length < 2)
    omega
  unfold USGeographyIndex.search
  simp only [if_neg some, plain, parseCityState_strip, normalizeLocation_parsed, if_neg (not_lt.mpr long)]

theorem search_short (plain : zipCode? (PyString.strip text) = none) (short : (parseCityState text).1.length < 2)
    (limit : ℕ) : index.search ratio text limit = [] := by
  unfold USGeographyIndex.search
  simp only [plain, parseCityState_strip, normalizeLocation_parsed, if_pos short, ite_self]

/-- What a ZIP code finds has a ZIP code. -/
theorem search_zip {postalCode : String} (zip : zipCode? (PyString.strip text) = some postalCode) (limit : ℕ) :
    ∀ found ∈ index.search ratio text limit, found.record ∈ index.geographies ∧ found.record.kind ≠ .city := by
  intro found member
  have some : PyString.strip text ≠ "" := by
    intro empty
    rw [empty] at zip
    revert zip
    simp [zipCode?]
  unfold USGeographyIndex.search at member
  simp only [if_neg some, zip, USGeographyIndex.searchZip] at member
  split at member
  · cases member
  next record listed =>
    rw [List.mem_singleton] at member
    subst member
    have there := List.mem_of_find?_eq_some listed
    have code := List.find?_some listed
    refine ⟨there, fun city => ?_⟩
    rw [decide_eq_true_eq, index.city_postal record there city] at code
    cases code

end

/-! ## Names that are found -/

section
variable (ratio : String → String → ℚ) (index : USGeographyIndex) (text : String) (record : USGeographyRecord)

/-- From some limit on, the search returns the record with the reason of an exact match. -/
def FoundExactly : Prop :=
  ∃ enough, ∀ limit, enough ≤ limit →
    ∃ found ∈ index.search ratio text limit, found.record = record ∧ found.matchReason ∈ exactReasons

/-- The text is no ZIP code, and what parsing leaves of it is an alias of the record. -/
def Finds : Prop :=
  zipCode? (PyString.strip text) = none ∧ 2 ≤ (parseCityState text).1.length ∧
    ∃ row ∈ index.exactRows (parseCityState text).1 (parseCityState text).2, row.1 = record

/-- It is an alias of no other record. -/
def FindsOnly : Prop :=
  Finds index text record ∧ ∀ row ∈ index.exactRows (parseCityState text).1 (parseCityState text).2, row.1 = record

variable {index text record}

theorem foundExactly_iff (city : record.kind = .city) : FoundExactly ratio index text record ↔ Finds index text record := by
  cases zip : zipCode? (PyString.strip text) with
  | some postalCode =>
    constructor
    · rintro ⟨enough, search⟩
      obtain ⟨found, member, rfl, -⟩ := search enough le_rfl
      exact absurd city (search_zip ratio index zip enough found member).2
    · rintro ⟨plain, -⟩
      rw [zip] at plain
      cases plain
  | none =>
    by_cases long : 2 ≤ (parseCityState text).1.length
    · constructor
      · rintro ⟨enough, search⟩
        obtain ⟨found, member, same, reason⟩ := search enough le_rfl
        rw [search_city ratio index zip long] at member
        have matched := List.mem_of_mem_take member
        exact ⟨zip, long, searchCity_exact.mp ⟨found, matched, same, (searchCity_reason matched).mp reason⟩⟩
      · rintro ⟨-, -, row⟩
        have listed : ∃ found ∈ index.searchCity ratio (parseCityState text).1 (parseCityState text).2,
            found.record = record ∧ found.exact = true := searchCity_exact.mpr row
        obtain ⟨found, matched, same, exact_⟩ := listed
        refine ⟨(index.searchCity ratio (parseCityState text).1 (parseCityState text).2).length, fun limit enough => ?_⟩
        rw [search_city ratio index zip long, List.take_of_length_le enough]
        exact ⟨found, matched, same, (searchCity_reason matched).mpr exact_⟩
    · constructor
      · rintro ⟨enough, search⟩
        obtain ⟨found, member, -⟩ := search enough le_rfl
        rw [search_short ratio index zip (by omega)] at member
        cases member
      · rintro ⟨-, long', -⟩
        exact absurd long' long

end

/-! ## Names that resolve -/

section
variable (python : Python) {ratio : String → String → ℚ} {index : USGeographyIndex}

/-- The scan's country is that of the index. -/
theorem normalizeCountry_us (lower : python.lower "US" = "us") : normalizeCountry python "US" = "US" := by
  have words : String.intercalate " " (PyString.words (String.ofList ("us".toList.map fun c =>
      if c = '.' then ' ' else c))) = "us" := by decide +kernel
  rw [normalizeCountry, lower, words]
  rfl

/-- Without a choice by the client, the market is that of the only exact match. -/
theorem resolve_ok {text country : String} (us : normalizeCountry python country = "US")
    (lower : python.lower "US" = "us") {market : Market} :
    resolveMarketForScan python ratio index text country none = .ok market ↔
      2 ≤ (PyString.strip text).length ∧ ∃ found,
        (index.search ratio text 12).filter (fun found => found.matchReason ∈ exactReasons) = [found] ∧
          (candidateFromMatch found).toMarket python = market := by
  have filtered (matches_ : List USGeographyMatch) :
      (matches_.map candidateFromMatch).filter (fun candidate => candidate.matchReason ∈ exactReasons) =
        (matches_.filter fun found => found.matchReason ∈ exactReasons).map candidateFromMatch :=
    List.filter_map
  unfold resolveMarketForScan searchLocations
  simp only [us, normalizeCountry_us python lower, ne_eq, not_true_eq_false, if_false, false_or]
  by_cases short : (PyString.strip text).length < 2
  · simp only [if_pos short, List.isEmpty_nil, if_true, reduceCtorEq, false_iff]
    exact fun more => absurd more.1 (not_le.mpr short)
  · rw [if_neg short, filtered]
    cases listed : (index.search ratio text 12).filter fun found => found.matchReason ∈ exactReasons with
    | nil =>
      constructor
      · intro ran
        split at ran <;> cases ran
      · rintro ⟨-, found, none_, -⟩
        cases none_
    | cons found rest =>
      have some : (index.search ratio text 12).map candidateFromMatch ≠ [] := by
        intro empty
        rw [List.map_eq_nil_iff.mp empty] at listed
        cases listed
      rw [if_neg (by simpa using some)]
      cases rest with
      | nil =>
        simp only [List.map_cons, List.map_nil, Except.ok.injEq, List.cons.injEq, and_true, exists_eq_left']
        exact (and_iff_right (not_lt.mp short)).symm
      | cons second rest => simp

theorem take_eq_singleton {α : Type} {items : List α} {limit : ℕ} (more : 1 < limit) {a : α} :
    items.take limit = [a] ↔ items = [a] := by
  constructor
  · intro cut
    have size := congrArg List.length cut
    rw [List.length_take, List.length_singleton] at size
    rwa [List.take_of_length_le (by omega)] at cut
  · rintro rfl
    exact List.take_of_length_le (by simpa using more.le)

theorem resolves_iff {record : USGeographyRecord} (member : record ∈ index.geographies) (city : record.kind = .city)
    {text country : String} (us : normalizeCountry python country = "US") (lower : python.lower "US" = "us") :
    (∃ market, resolveMarketForScan python ratio index text country none = .ok market ∧
      market.geographyId = record.id) ↔ FindsOnly index text record := by
  simp only [resolve_ok python us lower]
  cases zip : zipCode? (PyString.strip text) with
  | some postalCode =>
    constructor
    · rintro ⟨market, ⟨-, found, single, rfl⟩, same⟩
      have inside : found ∈ index.search ratio text 12 :=
        (List.mem_filter.mp (single ▸ List.mem_singleton_self found)).1
      obtain ⟨there, other⟩ := search_zip ratio index zip 12 found inside
      exact absurd (same_record index there member same ▸ city) other
    · rintro ⟨⟨plain, -⟩, -⟩
      rw [zip] at plain
      cases plain
  | none =>
    by_cases long : 2 ≤ (parseCityState text).1.length
    · have size : 2 ≤ (PyString.strip text).length := by
        by_contra short
        have left := parseCityState_short (not_le.mp short)
        omega
      have exacts : (index.search ratio text 12).filter (fun found => found.matchReason ∈ exactReasons) =
          ((index.searchCity ratio (parseCityState text).1 (parseCityState text).2).filter
            USGeographyMatch.exact).take 12 := by
        rw [search_city ratio index zip long, ← searchCity_take]
        refine List.filter_congr fun found inside => ?_
        rw [Bool.eq_iff_iff, decide_eq_true_eq, searchCity_reason (List.mem_of_mem_take inside)]
      have one : (∃ found, (index.searchCity ratio (parseCityState text).1 (parseCityState text).2).filter
          USGeographyMatch.exact = [found] ∧ found.record = record) ↔ _ := single_exact
      simp only [exacts, take_eq_singleton (show 1 < 12 by omega), FindsOnly, Finds, zip, long, size, true_and]
      rw [← one]
      constructor
      · rintro ⟨market, ⟨found, single, rfl⟩, same⟩
        have inside : found ∈ index.searchCity ratio (parseCityState text).1 (parseCityState text).2 :=
          (List.mem_filter.mp (single ▸ List.mem_singleton_self found)).1
        exact ⟨found, single, same_record index (searchCity_city inside).1 member same⟩
      · rintro ⟨found, single, same⟩
        exact ⟨_, ⟨found, single, rfl⟩, congrArg USGeographyRecord.id same⟩
    · constructor
      · rintro ⟨market, ⟨-, found, single, rfl⟩, -⟩
        rw [search_short ratio index zip (by omega)] at single
        cases single
      · rintro ⟨⟨-, long', -⟩, -⟩
        exact absurd long' long

end

end RankRent.Geography
