import RankRent.Geography.Index
import RankRent.Library.SortedFilters

/-!
# Matches of a query

An exact match scores above 0.95 and no other one does, so no limit drops it for another,
and the matches have each record with an exact row once.
-/

namespace RankRent.Geography

/-! ## Scores -/

section
variable (ratio : String → String → ℚ) (query aliasNorm : String) (stateSupplied : Bool)

theorem matchScore_exact :
    95 / 100 < (matchScore ratio query aliasNorm stateSupplied).1 ↔ query = aliasNorm := by
  unfold matchScore
  dsimp only
  split_ifs with same
  · simp only [same, iff_true]
    norm_num
  · simp only [same, iff_true]
    norm_num
  all_goals
    simp only [same, iff_false, not_lt]
    first
      | exact min_le_left _ _
      | exact (min_le_left _ _).trans (by norm_num)

theorem matchScore_reason :
    (matchScore ratio query aliasNorm stateSupplied).2 ∈ exactReasons ↔ query = aliasNorm := by
  unfold matchScore
  dsimp only
  split_ifs with same
  all_goals simp [same, exactReasons]

end

/-- A match is exact if its confidence is above that of the others. -/
def USGeographyMatch.exact (found : USGeographyMatch) : Bool := 95 / 100 < found.confidence

/-! ## The loop -/

section
variable {ratio : String → String → ℚ} {query : String} {stateSupplied : Bool}
  {best : List (String × USGeographyMatch)} {rows : List Row} {row : Row}

/-- What the loop has found in the rows it read: a match of a row under its id, and an exact
one under each id with an exact row. -/
structure Found (ratio : String → String → ℚ) (query : String) (stateSupplied : Bool) (rows : List Row)
    (best : List (String × USGeographyMatch)) : Prop where
  distinct : (best.map Prod.fst).Nodup
  of_row : ∀ entry ∈ best, ∃ row ∈ rows, entry.1 = row.1.id ∧ entry.2.record = row.1 ∧
    (entry.2.confidence, entry.2.matchReason) = matchScore ratio query row.2.aliasNorm stateSupplied
  of_exact : ∀ row ∈ rows, row.2.aliasNorm = query → ∃ found, best.lookup row.1.id = some found ∧ found.exact = true

theorem Found.empty : Found ratio query stateSupplied [] [] where
  distinct := List.nodup_nil
  of_row := by simp
  of_exact := by simp

/-- A row that is let go changes nothing, if it has no exact match to add. -/
theorem Found.skip (found : Found ratio query stateSupplied rows best)
    (known : row.2.aliasNorm = query → ∃ old, best.lookup row.1.id = some old ∧ old.exact = true) :
    Found ratio query stateSupplied (rows ++ [row]) best where
  distinct := found.distinct
  of_row entry member := by
    obtain ⟨source, read, same⟩ := found.of_row entry member
    exact ⟨source, List.mem_append_left _ read, same⟩
  of_exact other member exact_ := by
    rcases List.mem_append.mp member with old | new
    · exact found.of_exact other old exact_
    · obtain rfl := List.mem_singleton.mp new
      exact known exact_

/-- A row whose match is kept has it under its id. -/
theorem Found.keep (found : Found ratio query stateSupplied rows best) {kept : USGeographyMatch}
    (record : kept.record = row.1)
    (scored : (kept.confidence, kept.matchReason) = matchScore ratio query row.2.aliasNorm stateSupplied)
    (better : ∀ old, best.lookup row.1.id = some old → old.confidence < kept.confidence) :
    Found ratio query stateSupplied (rows ++ [row]) (PyDict.setItem best row.1.id kept) where
  distinct := PyDict.nodup_setItem found.distinct _ _
  of_row entry member := by
    rcases PyDict.mem_setItem member with rfl | old
    · exact ⟨row, by simp, rfl, record, scored⟩
    · obtain ⟨source, read, same⟩ := found.of_row entry old
      exact ⟨source, List.mem_append_left _ read, same⟩
  of_exact other member exact_ := by
    by_cases same : other.1.id = row.1.id
    · refine ⟨kept, by rw [same, PyDict.lookup_setItem], ?_⟩
      rcases List.mem_append.mp member with old | new
      · obtain ⟨before, listed, above⟩ := found.of_exact other old exact_
        rw [same] at listed
        have more := better before listed
        simp only [USGeographyMatch.exact, decide_eq_true_eq] at above ⊢
        linarith
      · obtain rfl := List.mem_singleton.mp new
        have confidence := congrArg Prod.fst scored
        simp only [USGeographyMatch.exact, decide_eq_true_eq]
        rw [show kept.confidence = _ from confidence, matchScore_exact]
        exact exact_.symm
    · rcases List.mem_append.mp member with old | new
      · obtain ⟨before, listed, above⟩ := found.of_exact other old exact_
        exact ⟨before, by rw [PyDict.lookup_setItem_of_ne _ _ same, listed], above⟩
      · obtain rfl := List.mem_singleton.mp new
        exact absurd rfl same

/-- A round of the loop. -/
theorem Found.addMatch (found : Found ratio query stateSupplied rows best) (row : Row) :
    Found ratio query stateSupplied (rows ++ [row]) (addMatch ratio query stateSupplied best row) := by
  unfold Geography.addMatch
  dsimp only
  split
  next low =>
    refine found.skip fun exact_ => ?_
    have top := (matchScore_exact ratio query row.2.aliasNorm stateSupplied).mpr exact_.symm
    linarith
  next =>
    split
    next absent =>
      refine found.keep rfl rfl fun old listed => ?_
      rw [absent] at listed
      cases listed
    next old listed =>
      split
      next more =>
        refine found.keep rfl rfl fun other same => ?_
        rw [listed] at same
        cases same
        exact more
      next less =>
        refine found.skip fun exact_ => ⟨old, listed, ?_⟩
        have top := (matchScore_exact ratio query row.2.aliasNorm stateSupplied).mpr exact_.symm
        simp only [USGeographyMatch.exact, decide_eq_true_eq]
        simp only [not_lt] at less
        linarith

/-- The loop over the rows. -/
theorem found_rows (ratio : String → String → ℚ) (query : String) (stateSupplied : Bool) (rows : List Row) :
    Found ratio query stateSupplied rows (rows.foldl (addMatch ratio query stateSupplied) []) := by
  induction rows using List.reverseRecOn with
  | nil => exact .empty
  | append_singleton rows row ih =>
    rw [List.foldl_append]
    exact ih.addMatch row

end

end RankRent.Geography
