import RankRent.Prefilter.Assessment
import RankRent.Prefilter.DerivedSignals

/-!
# When an assessment is built

Signal weights add up to 1 only within a tolerance and points are rounded one by one, so
coverage and score can leave the bounds the result has.
-/

namespace RankRent.Prefilter
open Geography (USGeographyRecord)
open PublicData (PublicDataSnapshot)
open PyString (rounded)

/-! ## Signals -/

theorem divide_of_pos (a : ℚ) {b : ℚ} (pos : 0 < b) : divide a b = .ok (a / b) := if_neg pos.ne'

theorem Log1p.pos (log1p : Log1p) {x : ℚ} (pos : 0 < x) : 0 < log1p.value x := by
  have more := log1p.strictMono 0 x le_rfl pos
  rwa [log1p.zero] at more

theorem Log1p.nonneg (log1p : Log1p) {x : ℚ} (nonneg : 0 ≤ x) : 0 ≤ log1p.value x := by
  rcases nonneg.eq_or_lt with rfl | pos
  · exact log1p.zero.ge
  · exact (log1p.pos pos).le

/-- Beside an ideal range the credit is between 0 and 1. -/
theorem sideCredit_ok {distance span : ℚ} (near : distance ≤ span) :
    ∃ credit, sideCredit distance span = .ok credit ∧ 0 ≤ credit ∧ credit ≤ 1 := by
  unfold sideCredit
  by_cases pos : 0 < span
  · rw [if_pos pos, divide_of_pos distance pos]
    refine ⟨max 0 (distance / span), rfl, le_max_left _ _, ?_⟩
    exact max_le zero_le_one ((div_le_one pos).mpr near)
  · rw [if_neg pos]
    exact ⟨0, rfl, le_rfl, zero_le_one⟩

/-- A part of a positive number, at most 1. -/
theorem capped_ok {a b : ℚ} (nonneg : 0 ≤ a) (pos : 0 < b) :
    ∃ credit, (divide a b).map (min 1) = .ok credit ∧ 0 ≤ credit ∧ credit ≤ 1 := by
  rw [divide_of_pos a pos]
  exact ⟨min 1 (a / b), rfl, le_min zero_le_one (div_nonneg nonneg pos.le), min_le_left _ _⟩

/-- No signal divides by zero, and each is normalized to at most 1. -/
theorem normalizeSignal_ok (log1p : Log1p) (value : ℚ) (profile : SignalProfile) :
    ∃ credit, normalizeSignal log1p value profile = .ok credit ∧ 0 ≤ credit ∧ credit ≤ 1 := by
  have safe : 0 ≤ max 0 value := le_max_left _ _
  unfold normalizeSignal
  cases profile.expectedDirection with
  | idealRange =>
    cases profile.idealRange with
    | none => exact ⟨0, rfl, le_rfl, zero_le_one⟩
    | some bounds =>
      dsimp only
      split_ifs with within below
      · exact ⟨1, rfl, zero_le_one, le_rfl⟩
      · exact sideCredit_ok (by linarith)
      · have above : bounds.maximum ≤ max 0 value := by
          by_contra under
          exact within ⟨not_lt.mp below, (not_le.mp under).le⟩
        exact sideCredit_ok (by linarith)
  | higher =>
    cases known : profile.strongValue with
    | none =>
      cases profile.transform with
      | log => exact capped_ok (log1p.nonneg safe) (log1p.pos zero_lt_one)
      | linear => exact capped_ok safe zero_lt_one
    | some strong =>
      have pos := profile.strong_pos strong known
      dsimp only
      rw [if_neg pos.ne']
      cases profile.transform with
      | log => exact capped_ok (log1p.nonneg safe) (log1p.pos pos)
      | linear => exact capped_ok safe pos

/-! ## Points -/

/-- The points of a signal with that value. -/
def signalPoints (log1p : Log1p) (profile : SignalProfile) (value : ℚ) : ℚ :=
  match normalizeSignal log1p value profile with
  | .ok credit => rounded 2 (credit * profile.maximumCredit * profile.weight * 100)
  | .error _ => 0

/-- The points of a signal, where there is evidence for it. -/
def points (log1p : Log1p) (signals : Signals) (entry : String × SignalProfile) : ℚ :=
  ((signals.get entry.1).map (signalPoints log1p entry.2)).getD 0

/-- The weight of a signal, where there is evidence for it. -/
def availableWeight (signals : Signals) (entry : String × SignalProfile) : ℚ :=
  if (signals.get entry.1).isSome then entry.2.weight else 0

section
variable {log1p : Log1p} {signals : Signals}

theorem points_nonneg (entry : String × SignalProfile) : 0 ≤ points log1p signals entry := by
  unfold points
  cases signals.get entry.1 with
  | none => exact le_rfl
  | some value =>
    obtain ⟨credit, normalized, nonneg, -⟩ := normalizeSignal_ok log1p value entry.2
    have maximum := entry.2.credit_range.1
    have weight := entry.2.weight_range.1
    simp only [Option.map_some, Option.getD_some, signalPoints, normalized]
    exact PyString.rounded_nonneg (by positivity)

/-- No signal gets more than its weight and its credit give. -/
theorem points_le (entry : String × SignalProfile) :
    points log1p signals entry ≤ rounded 2 (entry.2.maximumCredit * entry.2.weight * 100) := by
  have maximum := entry.2.credit_range.1
  have weight := entry.2.weight_range.1
  unfold points
  cases signals.get entry.1 with
  | none => exact PyString.rounded_nonneg (by positivity)
  | some value =>
    obtain ⟨credit, normalized, -, most⟩ := normalizeSignal_ok log1p value entry.2
    simp only [Option.map_some, Option.getD_some, signalPoints, normalized]
    refine PyString.rounded_mono 2 ?_
    calc credit * entry.2.maximumCredit * entry.2.weight * 100
        ≤ 1 * entry.2.maximumCredit * entry.2.weight * 100 := by gcongr
      _ = entry.2.maximumCredit * entry.2.weight * 100 := by ring

theorem points_whole (entry : String × SignalProfile) : PyString.Whole 2 (points log1p signals entry) := by
  unfold points
  cases signals.get entry.1 with
  | none => exact ⟨0, by norm_num⟩
  | some value =>
    obtain ⟨credit, normalized, -⟩ := normalizeSignal_ok log1p value entry.2
    simp only [Option.map_some, Option.getD_some, signalPoints, normalized]
    exact PyString.whole_rounded 2 _

theorem availableWeight_nonneg (entry : String × SignalProfile) : 0 ≤ availableWeight signals entry := by
  unfold availableWeight
  split
  · exact entry.2.weight_range.1.le
  · exact le_rfl

theorem sum_whole {digits : Nat} {values : List ℚ} (whole : ∀ value ∈ values, PyString.Whole digits value) :
    PyString.Whole digits values.sum := by
  induction values with
  | nil => exact ⟨0, by simp⟩
  | cons value values ih =>
    rw [List.sum_cons]
    obtain ⟨first, rest⟩ := List.forall_mem_cons.mp whole
    exact first.add (ih rest)

/-! ## The loop -/

variable (log1p signals)

/-- A round adds the weight and sets the points of its signal. -/
theorem assessSignal_ok (sources : Sources) (progress : Progress) (entry : String × SignalProfile) :
    ∃ after, assessSignal log1p signals sources progress entry = .ok after ∧
      after.availableWeight = progress.availableWeight + availableWeight signals entry ∧
      after.componentScores = PyDict.setItem progress.componentScores entry.1 (points log1p signals entry) := by
  unfold assessSignal points availableWeight
  dsimp only
  cases signals.get entry.1 with
  | none => exact ⟨_, rfl, by simp, by simp⟩
  | some value =>
    obtain ⟨credit, normalized, -⟩ := normalizeSignal_ok log1p value entry.2
    dsimp only
    rw [normalized]
    refine ⟨_, rfl, by simp, ?_⟩
    simp [signalPoints, normalized]

/-- The rounds over distinct signals. -/
theorem foldlM_assessSignal (sources : Sources) {entries : List (String × SignalProfile)} {progress : Progress}
    (distinct : (progress.componentScores.map Prod.fst ++ entries.map Prod.fst).Nodup) :
    ∃ after, entries.foldlM (assessSignal log1p signals sources) progress = .ok after ∧
      after.availableWeight = progress.availableWeight + (entries.map (availableWeight signals)).sum ∧
      after.componentScores =
        progress.componentScores ++ entries.map fun entry => (entry.1, points log1p signals entry) := by
  induction entries generalizing progress with
  | nil => exact ⟨progress, rfl, by simp, by simp⟩
  | cons entry entries ih =>
    obtain ⟨middle, first, weight, scores⟩ := assessSignal_ok log1p signals sources progress entry
    have fresh : entry.1 ∉ progress.componentScores.map Prod.fst := by
      rw [List.map_cons, List.nodup_append] at distinct
      intro there
      exact distinct.2.2 _ there _ List.mem_cons_self rfl
    rw [PyDict.setItem_fresh fresh] at scores
    have later : (middle.componentScores.map Prod.fst ++ entries.map Prod.fst).Nodup := by
      simpa [scores] using distinct
    obtain ⟨after, rest, weights, allScores⟩ := ih later
    refine ⟨after, by rw [List.foldlM_cons, first]; exact rest, ?_, ?_⟩
    · rw [weights, weight, List.map_cons, List.sum_cons, add_assoc]
    · rw [allScores, scores, List.map_cons, List.append_assoc]
      rfl

end

/-! ## Bounds -/

/-- The weights of the signals with evidence round to at most 1, and where they suffice
for a score, the points do not exceed 100. -/
structure WithinBounds (log1p : Log1p) (profile : Profile) (signals : Signals) : Prop where
  weights : (profile.signals.map (availableWeight signals)).sum ≤ 100005 / 100000
  points : rounded 4 (profile.signals.map (availableWeight signals)).sum < profile.minimumEvidenceCoverage ∨
    (profile.signals.map (points log1p signals)).sum ≤ 100

/-- Half a unit of the fourth digit goes down to 1. -/
theorem rounded_le_one {q : ℚ} : rounded 4 q ≤ 1 ↔ q ≤ 100005 / 100000 := by
  have scale : (0 : ℚ) < 10 ^ 4 := by norm_num
  unfold rounded
  rw [div_le_one scale]
  have whole : (PyString.roundHalfEven (q * 10 ^ 4) : ℚ) ≤ 10 ^ 4 ↔ PyString.roundHalfEven (q * 10 ^ 4) ≤ 10000 := by
    rw [← Int.cast_le (R := ℚ)]
    norm_num
  rw [whole, PyString.roundHalfEven_le_iff (by decide)]
  constructor <;> intro le <;> norm_num at le ⊢ <;> linarith

/-- A result is built exactly where its score and its coverage are in their bounds. -/
theorem result_ok_iff (prefilter : AddressableMarketPrefilter) (profileId : String) (profile : Profile)
    (record : USGeographyRecord) (snapshot : PublicDataSnapshot) (signals : Signals)
    (density : ProviderDensityEvidence) (progress : Progress) :
    prefilter.result profileId profile record snapshot signals density progress ≠ .error .zeroDivision ∧
      ((∃ assessment, prefilter.result profileId profile record snapshot signals density progress = .ok assessment) ↔
        (∀ value, progress.score profile = some value → 0 ≤ value ∧ value ≤ 100) ∧
          0 ≤ progress.coverage ∧ progress.coverage ≤ 1) := by
  unfold AddressableMarketPrefilter.result
  dsimp only
  by_cases inScore : ∀ value, progress.score profile = some value → 0 ≤ value ∧ value ≤ 100
  · rw [dif_pos inScore]
    by_cases inCoverage : 0 ≤ progress.coverage ∧ progress.coverage ≤ 1
    · rw [dif_pos inCoverage]
      exact ⟨by rintro ⟨⟩, fun _ => ⟨inScore, inCoverage⟩, fun _ => ⟨_, rfl⟩⟩
    · rw [dif_neg inCoverage]
      exact ⟨by rintro ⟨⟩, by rintro ⟨_, ⟨⟩⟩, fun both => absurd both.2 inCoverage⟩
  · rw [dif_neg inScore]
    exact ⟨by rintro ⟨⟩, by rintro ⟨_, ⟨⟩⟩, fun both => absurd both.1 inScore⟩

/-- What the loop over the signals of a profile gathers. -/
theorem progress_bounds (log1p : Log1p) {profile : Profile} {signals : Signals} {progress : Progress}
    (weights : progress.availableWeight = (profile.signals.map (availableWeight signals)).sum)
    (scores : (progress.componentScores.map Prod.snd).sum = (profile.signals.map (points log1p signals)).sum) :
    ((∀ value, progress.score profile = some value → 0 ≤ value ∧ value ≤ 100) ∧
        0 ≤ progress.coverage ∧ progress.coverage ≤ 1) ↔ WithinBounds log1p profile signals := by
  have weightNonneg : 0 ≤ (profile.signals.map (availableWeight signals)).sum := by
    refine List.sum_nonneg ?_
    intro weight member
    obtain ⟨entry, -, rfl⟩ := List.mem_map.mp member
    exact availableWeight_nonneg entry
  have pointsNonneg : 0 ≤ (profile.signals.map (points log1p signals)).sum := by
    refine List.sum_nonneg ?_
    intro value member
    obtain ⟨entry, -, rfl⟩ := List.mem_map.mp member
    exact points_nonneg entry
  -- The points have two digits, so their sum is not rounded again.
  have whole : PyString.Whole 2 (profile.signals.map (points log1p signals)).sum := by
    refine sum_whole ?_
    intro value member
    obtain ⟨entry, -, rfl⟩ := List.mem_map.mp member
    exact points_whole entry
  have coverage : progress.coverage = rounded 4 (profile.signals.map (availableWeight signals)).sum := by
    rw [Progress.coverage, weights]
  unfold Progress.score
  rw [coverage, scores, whole.rounded, rounded_le_one]
  constructor
  · rintro ⟨inScore, -, most⟩
    refine ⟨most, ?_⟩
    by_cases enough : profile.minimumEvidenceCoverage ≤ rounded 4 (profile.signals.map (availableWeight signals)).sum
    · exact .inr (inScore _ (if_pos enough)).2
    · exact .inl (not_le.mp enough)
  · rintro ⟨most, few⟩
    refine ⟨?_, PyString.rounded_nonneg weightNonneg, most⟩
    intro value scored
    split at scored
    · rename_i enough
      obtain rfl := Option.some.inj scored
      exact ⟨pointsNonneg, few.resolve_left (not_lt.mpr enough)⟩
    · cases scored

/-- The result is built exactly where the signals with evidence stay within bounds. -/
theorem assess_built_iff (prefilter : AddressableMarketPrefilter) (log1p : Log1p) (serviceId : String)
    (record : USGeographyRecord) (snapshot : PublicDataSnapshot) :
    prefilter.assess log1p serviceId record snapshot ≠ .error .zeroDivision ∧
      ((∃ assessment, prefilter.assess log1p serviceId record snapshot = .ok assessment) ↔
        WithinBounds log1p (prefilter.config.profileForService serviceId).2
          (prefilter.assessed serviceId record snapshot).1) := by
  have distinct : (({} : Progress).componentScores.map Prod.fst ++
      (prefilter.config.profileForService serviceId).2.signals.map Prod.fst).Nodup := by
    simpa using (prefilter.config.profileForService serviceId).2.distinct
  obtain ⟨progress, ran, weights, scores⟩ := foldlM_assessSignal log1p
    (prefilter.assessed serviceId record snapshot).1 (prefilter.assessed serviceId record snapshot).2.1 distinct
  rw [zero_add] at weights
  have sum : (progress.componentScores.map Prod.snd).sum =
      ((prefilter.config.profileForService serviceId).2.signals.map
        (points log1p (prefilter.assessed serviceId record snapshot).1)).sum := by
    rw [scores, List.nil_append, List.map_map]
    rfl
  obtain ⟨divides, built⟩ := result_ok_iff prefilter (prefilter.config.profileForService serviceId).1
    (prefilter.config.profileForService serviceId).2 record snapshot
    (prefilter.assessed serviceId record snapshot).1 (prefilter.assessed serviceId record snapshot).2.2 progress
  rw [progress_bounds log1p weights sum] at built
  unfold AddressableMarketPrefilter.assess
  dsimp only
  rw [ran]
  exact ⟨divides, built⟩

/-- A profile whose weights and whose points, each rounded, fit for all of its signals is in
bounds on any evidence. -/
theorem withinBounds_of_profile (log1p : Log1p) {profile : Profile}
    (weights : (profile.signals.map fun entry => entry.2.weight).sum ≤ 100005 / 100000)
    (credits : (profile.signals.map fun entry => rounded 2 (entry.2.maximumCredit * entry.2.weight * 100)).sum ≤ 100)
    (signals : Signals) : WithinBounds log1p profile signals := by
  constructor
  · refine (List.sum_le_sum fun entry _ => ?_).trans weights
    unfold availableWeight
    split
    · exact le_rfl
    · exact entry.2.weight_range.1.le
  · right
    exact (List.sum_le_sum fun entry _ => points_le entry).trans credits

/-- Such a profile never fails an assessment. -/
theorem assess_of_profile (prefilter : AddressableMarketPrefilter) (log1p : Log1p) (serviceId : String)
    (weights : ((prefilter.config.profileForService serviceId).2.signals.map fun entry => entry.2.weight).sum ≤
      100005 / 100000)
    (credits : ((prefilter.config.profileForService serviceId).2.signals.map fun entry =>
      rounded 2 (entry.2.maximumCredit * entry.2.weight * 100)).sum ≤ 100)
    (record : USGeographyRecord) (snapshot : PublicDataSnapshot) :
    ∃ assessment, prefilter.assess log1p serviceId record snapshot = .ok assessment :=
  (assess_built_iff prefilter log1p serviceId record snapshot).2.mpr
    (withinBounds_of_profile log1p weights credits _)

/-! ### Profiles that do not fit -/

/-- A signal that any positive value saturates. -/
def saturated (weight : ℚ) (range : 0 < weight ∧ weight ≤ 1) : SignalProfile where
  weight
  documentation := ⟨.acs, "B01003_001E", "Demand", "Mark unavailable", "Place", "Annual"⟩
  expectedDirection := .higher
  strongValue := some (1 / 2)
  weight_range := range
  strong_pos := by
    rintro _ ⟨⟩
    norm_num
  normalization := ⟨rfl, rfl⟩
  credit_range := full_range

/-- A fallback profile with those signals. -/
def fallbackProfile (signals : List (String × SignalProfile)) (distinct : (signals.map Prod.fst).Nodup)
    (weights_close : IsClose (signals.map fun (_, signal) => signal.weight).sum) : Profile where
  serviceFamilyId := genericLocalService
  profileVersion := 1
  signals
  version_pos := le_rfl
  minimum_range := half_range
  distinct
  weights_close

/-- A prefilter with that profile alone. -/
def prefilterOf (profile : Profile) (named : genericLocalService = profile.serviceFamilyId) :
    AddressableMarketPrefilter where
  config :=
    { assessmentVersion := "addressable-market-v2.0"
      minimumPopulation := 5000
      maximumResults := 500
      recommendationThresholds := ⟨65, 45, by norm_num, by norm_num, by norm_num⟩
      profiles := [(genericLocalService, profile)]
      population_pos := by norm_num
      results_range := by norm_num
      fallback := rfl
      named := by simpa using named }
  naicsRegistry := ⟨"1", [], List.nodup_nil⟩
  warningAgeDays := []
  publicDataStore := { root := "data" }

/-- `log1p` that is not read. -/
def unread : Log1p := ⟨id, rfl, fun _ _ _ less => less⟩

end RankRent.Prefilter
