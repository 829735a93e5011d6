import RankRent.Geography.LocationTexts
import RankRent.Geography.Matches

/-!
# Search by name

What a search finds of the rows with the very name it was given, and when that is the city.
-/

namespace RankRent.Geography

/-! ## Rows -/

section
variable (index : USGeographyIndex) {query : String} {state : Option String} {row : Row}

/-- A row of a city whose alias is the query itself, in the state if one is given. -/
def isExact (query : String) (state : Option String) (row : Row) : Bool :=
  row.1.kind = .city && (state = none || state = some row.1.state) && row.2.aliasNorm = query

/-- Of these rows, the ones the limit of the query lets through. -/
def USGeographyIndex.exactRows (query : String) (state : Option String) : List Row :=
  ((index.join.filter (isExact query state)).mergeSort fun a b => rowKey query a ≤ rowKey query b).take 400

theorem rowKey_first (query : String) {a b : Row} (before : rowKey query a ≤ rowKey query b)
    (exact_ : b.2.aliasNorm = query) : a.2.aliasNorm = query := by
  have least : matchClass query a.2.aliasNorm ≤ matchClass query b.2.aliasNorm := by
    rcases Prod.Lex.le_iff.mp before with less | same
    · exact less.le
    · exact same.1.le
  rw [matchClass, matchClass, if_pos exact_] at least
  by_contra other
  rw [if_neg other] at least
  split at least <;> omega

/-- The exact rows among those that are read. -/
theorem filter_orderedRows (query : String) (state : Option String) :
    ((index.orderedRows query state).take 400).filter (fun row => row.2.aliasNorm = query) =
      index.exactRows query state := by
  have both : (index.join.filter (selects query state)).filter (fun row => row.2.aliasNorm = query) =
      index.join.filter (isExact query state) := by
    rw [List.filter_filter]
    refine List.filter_congr fun row _ => ?_
    by_cases same : row.2.aliasNorm = query
    · simp [selects, isExact, same]
    · simp [isExact, same]
  rw [USGeographyIndex.orderedRows, List.filter_take_mergeSort, both, USGeographyIndex.exactRows]
  · intro a b c first second
    simp only [decide_eq_true_eq] at *
    exact first.trans second
  · intro a b
    simpa using le_total (rowKey query a) (rowKey query b)
  · intro a b before exact_
    simp only [decide_eq_true_eq] at *
    exact rowKey_first query before exact_

theorem mem_exactRows : row ∈ index.exactRows query state ↔
    row ∈ (index.orderedRows query state).take 400 ∧ row.2.aliasNorm = query := by
  rw [← filter_orderedRows, List.mem_filter, decide_eq_true_eq]

theorem join_mem (member : row ∈ index.join) : row.1 ∈ index.geographies := by
  obtain ⟨source, -, found⟩ := List.mem_filterMap.mp member
  obtain ⟨geography, got, rfl⟩ := Option.map_eq_some_iff.mp found
  exact List.mem_of_find?_eq_some got

/-- What is read is of a city of the index. -/
theorem orderedRows_mem (member : row ∈ index.orderedRows query state) :
    row.1 ∈ index.geographies ∧ row.1.kind = .city := by
  rw [USGeographyIndex.orderedRows, List.mem_mergeSort] at member
  obtain ⟨joined, selected⟩ := List.mem_filter.mp member
  refine ⟨join_mem index joined, ?_⟩
  simp only [selects, Bool.and_eq_true, decide_eq_true_eq] at selected
  exact selected.1.1

/-- An id has one record. -/
theorem same_record {a b : USGeographyRecord} (ha : a ∈ index.geographies) (hb : b ∈ index.geographies)
    (same : a.id = b.id) : a = b :=
  List.inj_on_of_nodup_map index.ids_unique ha hb same

end

/-! ## City queries -/

section
variable (ratio : String → String → ℚ) (index : USGeographyIndex) (query : String) (state : Option String)

theorem searchCity_perm : (index.searchCity ratio query state).Perm
    ((((index.orderedRows query state).take 400).foldl (addMatch ratio query state.isSome) []).map Prod.snd) :=
  List.mergeSort_perm ..

variable {ratio index query state}

/-- A match has the score of a row that was read. -/
theorem searchCity_row {found : USGeographyMatch} (member : found ∈ index.searchCity ratio query state) :
    ∃ row ∈ (index.orderedRows query state).take 400, found.record = row.1 ∧
      (found.confidence, found.matchReason) = matchScore ratio query row.2.aliasNorm state.isSome := by
  obtain ⟨entry, listed, rfl⟩ := List.mem_map.mp ((searchCity_perm ratio index query state).subset member)
  obtain ⟨row, read, -, record, scored⟩ := (found_rows ratio query state.isSome _).of_row entry listed
  exact ⟨row, read, record, scored⟩

theorem searchCity_city {found : USGeographyMatch} (member : found ∈ index.searchCity ratio query state) :
    found.record ∈ index.geographies ∧ found.record.kind = .city := by
  obtain ⟨row, read, record, -⟩ := searchCity_row member
  rw [record]
  exact orderedRows_mem index (List.mem_of_mem_take read)

/-- The reason tells the exact matches, as the confidence does. -/
theorem searchCity_reason {found : USGeographyMatch} (member : found ∈ index.searchCity ratio query state) :
    found.matchReason ∈ exactReasons ↔ found.exact = true := by
  obtain ⟨row, -, -, scored⟩ := searchCity_row member
  have confidence : found.confidence = _ := congrArg Prod.fst scored
  have reason : found.matchReason = _ := congrArg Prod.snd scored
  rw [reason, matchScore_reason, USGeographyMatch.exact, decide_eq_true_eq, confidence, matchScore_exact]

/-- The exact matches are of the records with an exact row. -/
theorem searchCity_exact {record : USGeographyRecord} :
    (∃ found ∈ index.searchCity ratio query state, found.record = record ∧ found.exact = true) ↔
      ∃ row ∈ index.exactRows query state, row.1 = record := by
  constructor
  · rintro ⟨found, member, rfl, exact_⟩
    obtain ⟨row, read, record, scored⟩ := searchCity_row member
    have confidence : found.confidence = _ := congrArg Prod.fst scored
    rw [USGeographyMatch.exact, decide_eq_true_eq, confidence, matchScore_exact] at exact_
    exact ⟨row, (mem_exactRows index).mpr ⟨read, exact_.symm⟩, record.symm⟩
  · rintro ⟨row, member, rfl⟩
    obtain ⟨read, same⟩ := (mem_exactRows index).mp member
    have rounds := found_rows ratio query state.isSome ((index.orderedRows query state).take 400)
    obtain ⟨found, listed, exact_⟩ := rounds.of_exact row read same
    have entry := PyDict.mem_of_lookup listed
    obtain ⟨source, there, id, record, -⟩ := rounds.of_row _ entry
    have inside := (searchCity_perm ratio index query state).symm.subset (List.mem_map_of_mem entry)
    have one : source.1 = row.1 := same_record index (orderedRows_mem index (List.mem_of_mem_take there)).1
      (orderedRows_mem index (List.mem_of_mem_take read)).1 id.symm
    exact ⟨found, inside, record.trans one, exact_⟩

/-- No record is matched twice. -/
theorem searchCity_ids :
    ((index.searchCity ratio query state).map fun found => found.record.id).Nodup := by
  have rounds := found_rows ratio query state.isSome ((index.orderedRows query state).take 400)
  rw [((searchCity_perm ratio index query state).map _).nodup_iff, List.map_map]
  have keys := rounds.distinct
  rwa [List.map_congr_left fun entry member => ?_] at keys
  obtain ⟨row, -, id, record, -⟩ := rounds.of_row entry member
  rw [id, Function.comp_apply, record]

/-- A limit takes the exact matches first. -/
theorem searchCity_take (limit : ℕ) :
    ((index.searchCity ratio query state).take limit).filter USGeographyMatch.exact =
      ((index.searchCity ratio query state).filter USGeographyMatch.exact).take limit := by
  have transitive (a b c : USGeographyMatch) (first : decide (matchKey b ≤ matchKey a) = true)
      (second : decide (matchKey c ≤ matchKey b) = true) : decide (matchKey c ≤ matchKey a) = true := by
    simp only [decide_eq_true_eq] at *
    exact second.trans first
  have total (a b : USGeographyMatch) :
      (decide (matchKey b ≤ matchKey a) || decide (matchKey a ≤ matchKey b)) = true := by
    simpa using le_total (matchKey b) (matchKey a)
  have first (a b : USGeographyMatch) (before : decide (matchKey b ≤ matchKey a) = true) (exact_ : b.exact = true) :
      a.exact = true := by
    have more : b.confidence ≤ a.confidence := by
      rcases Prod.Lex.le_iff.mp (of_decide_eq_true before) with less | same
      · exact less.le
      · exact same.1.le
    simp only [USGeographyMatch.exact, decide_eq_true_eq] at *
    linarith
  rw [USGeographyIndex.searchCity, List.filter_take_mergeSort transitive total first,
    List.filter_mergeSort transitive total]

/-- There is one exact match, of the record, where all exact rows are of it. -/
theorem single_exact {record : USGeographyRecord} :
    (∃ found, (index.searchCity ratio query state).filter USGeographyMatch.exact = [found] ∧ found.record = record) ↔
      (∃ row ∈ index.exactRows query state, row.1 = record) ∧ ∀ row ∈ index.exactRows query state, row.1 = record := by
  have members (found : USGeographyMatch) :
      found ∈ (index.searchCity ratio query state).filter USGeographyMatch.exact ↔
        found ∈ index.searchCity ratio query state ∧ found.exact = true := List.mem_filter
  constructor
  · rintro ⟨found, single, rfl⟩
    have here : found ∈ (index.searchCity ratio query state).filter USGeographyMatch.exact := by simp [single]
    refine ⟨searchCity_exact.mp ⟨found, ((members found).mp here).1, rfl, ((members found).mp here).2⟩, ?_⟩
    intro row member
    obtain ⟨other, matched, same, exact_⟩ :=
      searchCity_exact.mpr ⟨row, member, rfl⟩
    have listed := (members other).mpr ⟨matched, exact_⟩
    rw [single, List.mem_singleton] at listed
    rw [← same, listed]
  · rintro ⟨some, all⟩
    have each : ∀ found ∈ (index.searchCity ratio query state).filter USGeographyMatch.exact,
        found.record = record := by
      intro found listed
      obtain ⟨matched, exact_⟩ := (members found).mp listed
      obtain ⟨row, member, same⟩ := searchCity_exact.mp ⟨found, matched, rfl, exact_⟩
      rw [← same, all row member]
    have ids : (((index.searchCity ratio query state).filter USGeographyMatch.exact).map fun found =>
        found.record.id).Nodup := searchCity_ids.sublist (List.filter_sublist.map _)
    obtain ⟨found, matched, is, exact_⟩ := searchCity_exact.mpr some
    have here := (members found).mpr ⟨matched, exact_⟩
    cases listed : (index.searchCity ratio query state).filter USGeographyMatch.exact with
    | nil =>
      rw [listed] at here
      cases here
    | cons first rest =>
      rw [listed] at each ids
      cases rest with
      | nil => exact ⟨first, rfl, each first (by simp)⟩
      | cons second rest =>
        have one : first.record.id = second.record.id := by
          rw [each first (by simp), each second (by simp)]
        simp [one] at ids

end

end RankRent.Geography
