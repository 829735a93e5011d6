import Mathlib.Algebra.Order.BigOperators.Group.List
import RankRent.Library.Checks
import RankRent.Library.PyDict
import RankRent.Scoring.Rows

/-!
# Keyword weights

`_query_keyword_evidence`: how much a query counts, by the demand and the CPC of the
metric that matches it.
-/

namespace RankRent.Scoring
open PyString (rounded)

structure KeywordEvidence where
  query : String
  matchedKeyword : Option String
  keywordWeight : ℚ

/-- `metrics_by_query`: `setdefault` keeps the first metric of a query, and so does a lookup. -/
def metricsByQuery (metrics : List KeywordMetric) : List (String × KeywordMetric) :=
  metrics.flatMap fun metric =>
    [(normalizeQuery metric.keyword, metric), (normalizeQuery metric.canonicalKeyword, metric)]

/-- The metric of a query. -/
def matchedMetric (metrics : List KeywordMetric) (query : String) : Option KeywordMetric :=
  (metricsByQuery metrics).lookup (normalizeQuery query)

/-- The largest value there is, or 0. -/
def largest {α : Type} [Max α] [Zero α] (values : List α) : α := values.max?.getD 0

def maxVolume (matched_ : List KeywordMetric) : ℤ := largest (matched_.filterMap KeywordMetric.searchVolume)

def maxCpc (matched_ : List KeywordMetric) : ℚ := largest (matched_.filterMap KeywordMetric.cpc)

/-- A signal relative to the largest one, with its share. -/
def weightedSignal (share : ℚ) (signal : Option ℚ) (largest : ℚ) : Except WorkerError (List (ℚ × ℚ)) :=
  match signal with
  | some signal =>
    if 0 < largest then (divide signal largest).map fun relative => [(share, relative)] else .ok []
  | none => .ok []

/-- `keyword_weight`. -/
def keywordWeight (config : KeywordWeighting) (volume : ℤ) (cpc : ℚ) :
    Option KeywordMetric → Except WorkerError ℚ
  | none => .ok config.unmatchedKeywordWeight
  | some metric => do
    let demand ← weightedSignal config.demandShare (metric.searchVolume.map Int.cast) volume
    let commercial ← weightedSignal config.commercialShare metric.cpc cpc
    let signals := demand ++ commercial
    if signals.isEmpty then return rounded 4 config.unmatchedKeywordWeight
    else
      let rawWeight ← divide (signals.map fun (share, signal) => share * signal).sum (signals.map Prod.fst).sum
      return rounded 4 (max config.minimumWeight rawWeight)

/-- `_query_keyword_evidence`. -/
def queryKeywordEvidence (config : KeywordWeighting) (queries : List String) (metrics : List KeywordMetric) :
    Except WorkerError (List KeywordEvidence) :=
  let found := queries.filterMap (matchedMetric metrics)
  queries.mapM fun query => do
    let metric := matchedMetric metrics query
    let weight ← keywordWeight config (maxVolume found) (maxCpc found) metric
    return ⟨query, metric.map KeywordMetric.keyword, weight⟩

/-! ## What it gives -/

/-- The signals of `weightedSignal`, which never fails. -/
def signals (share : ℚ) (signal : Option ℚ) (largest : ℚ) : List (ℚ × ℚ) :=
  match signal with
  | some signal => if 0 < largest then [(share, signal / largest)] else []
  | none => []

theorem weightedSignal_eq (share : ℚ) (signal : Option ℚ) (largest : ℚ) :
    weightedSignal share signal largest = .ok (signals share signal largest) := by
  cases signal with
  | none => rfl
  | some signal =>
    unfold weightedSignal signals
    by_cases positive : 0 < largest
    · simp [positive, divide_of_ne positive.ne', Except.map]
    · simp [positive]

/-- The keyword weights of the shipped configuration. -/
def keywordWeighting : KeywordWeighting := shipped.organicClick.keywordWeighting

/-- The signals of a metric among others. -/
def signalsOf (volume : ℤ) (cpc : ℚ) (metric : KeywordMetric) : List (ℚ × ℚ) :=
  signals (60 / 100) (metric.searchVolume.map Int.cast) volume ++ signals (40 / 100) metric.cpc cpc

/-- Its weight. -/
def keywordValue (volume : ℤ) (cpc : ℚ) : Option KeywordMetric → ℚ
  | none => 1
  | some metric =>
    let signals := signalsOf volume cpc metric
    if signals.isEmpty then 1
    else rounded 4 (max (25 / 100)
      ((signals.map fun (share, signal) => share * signal).sum / (signals.map Prod.fst).sum))

theorem signals_shape (share : ℚ) (signal : Option ℚ) (largest : ℚ) :
    signals share signal largest = [] ∨ ∃ relative, signals share signal largest = [(share, relative)] := by
  unfold signals
  split
  · split
    · exact Or.inr ⟨_, rfl⟩
    · exact Or.inl rfl
  · exact Or.inl rfl

theorem shares_pos {volume : ℤ} {cpc : ℚ} {metric : KeywordMetric} (some : signalsOf volume cpc metric ≠ []) :
    0 < ((signalsOf volume cpc metric).map Prod.fst).sum := by
  unfold signalsOf at some ⊢
  rcases signals_shape (60 / 100) (metric.searchVolume.map Int.cast) volume with first | ⟨p, first⟩ <;>
    rcases signals_shape (40 / 100) metric.cpc cpc with second | ⟨q, second⟩ <;>
      rw [first, second] at some ⊢
  · exact absurd rfl some
  · norm_num
  · norm_num
  · norm_num

theorem keywordWeight_eq (volume : ℤ) (cpc : ℚ) (metric : Option KeywordMetric) :
    keywordWeight keywordWeighting volume cpc metric = .ok (keywordValue volume cpc metric) := by
  cases metric with
  | none => rfl
  | some metric =>
    have whole : rounded 4 (1 : ℚ) = 1 := PyString.Whole.rounded (by simpa using PyString.whole_intCast 4 1)
    have same : signals keywordWeighting.demandShare (metric.searchVolume.map Int.cast) volume ++
        signals keywordWeighting.commercialShare metric.cpc cpc = signalsOf volume cpc metric := rfl
    unfold keywordWeight keywordValue
    simp only [weightedSignal_eq, bind, Except.bind, pure, Except.pure, same]
    by_cases empty : signalsOf volume cpc metric = []
    · simp [empty, keywordWeighting, shipped, whole]
    · simp only [List.isEmpty_iff, empty, if_false]
      rw [divide_of_ne (shares_pos empty).ne']
      rfl

theorem le_largest {α : Type} [LinearOrder α] [Zero α] {values : List α} {a : α} (member : a ∈ values) :
    a ≤ largest values := by
  unfold largest
  cases found : values.max? with
  | none =>
    rw [List.max?_eq_none_iff.mp found] at member
    cases member
  | some m => exact (List.max?_eq_some_iff.mp found).2 a member

theorem largest_congr {α : Type} [LinearOrder α] [Zero α] {xs ys : List α} (same : ∀ a, a ∈ xs ↔ a ∈ ys) :
    largest xs = largest ys := by
  unfold largest
  congr 1
  ext m
  rw [List.max?_eq_some_iff, List.max?_eq_some_iff]
  simp only [same]

theorem signals_le_one {share : ℚ} {signal : Option ℚ} {largest : ℚ} (within : ∀ s ∈ signal, s ≤ largest) :
    ∀ entry ∈ signals share signal largest, entry.2 ≤ 1 := by
  intro entry member
  unfold signals at member
  split at member
  · split at member
    · rename_i s positive
      obtain rfl := List.mem_singleton.mp member
      exact (div_le_one positive).mpr (within s rfl)
    · cases member
  · cases member

/-- A weighted mean of signals up to 1 is at most 1. -/
theorem weighted_le {entries : List (ℚ × ℚ)} (shares : ∀ entry ∈ entries, 0 ≤ entry.1)
    (small : ∀ entry ∈ entries, entry.2 ≤ 1) :
    (entries.map fun (share, signal) => share * signal).sum ≤ (entries.map Prod.fst).sum := by
  refine List.sum_le_sum fun entry member => ?_
  have share := shares entry member
  have signal := small entry member
  nlinarith

theorem signalsOf_share {volume : ℤ} {cpc : ℚ} {metric : KeywordMetric} {entry : ℚ × ℚ}
    (member : entry ∈ signalsOf volume cpc metric) : 0 ≤ entry.1 := by
  unfold signalsOf at member
  rcases List.mem_append.mp member with first | second
  · rcases signals_shape (60 / 100) (metric.searchVolume.map Int.cast) volume with none_ | ⟨p, one⟩
    · rw [none_] at first
      cases first
    · rw [one] at first
      rw [List.mem_singleton.mp first]
      norm_num
  · rcases signals_shape (40 / 100) metric.cpc cpc with none_ | ⟨p, one⟩
    · rw [none_] at second
      cases second
    · rw [one] at second
      rw [List.mem_singleton.mp second]
      norm_num

/-- A keyword weighs at least the minimum and at most 1. -/
theorem keywordValue_bounds {volume : ℤ} {cpc : ℚ} {metric : Option KeywordMetric}
    (volumes : ∀ m ∈ metric, ∀ v ∈ m.searchVolume, v ≤ volume) (cpcs : ∀ m ∈ metric, ∀ c ∈ m.cpc, c ≤ cpc) :
    25 / 100 ≤ keywordValue volume cpc metric ∧ keywordValue volume cpc metric ≤ 1 := by
  cases metric with
  | none => norm_num [keywordValue]
  | some metric =>
    unfold keywordValue
    dsimp only
    by_cases empty : signalsOf volume cpc metric = []
    · norm_num [empty]
    · rw [if_neg (by simpa using empty)]
      have least : PyString.Whole 4 (25 / 100) := ⟨2500, by norm_num⟩
      have one : PyString.Whole 4 (1 : ℚ) := by simpa using PyString.whole_intCast 4 1
      have small : ∀ entry ∈ signalsOf volume cpc metric, entry.2 ≤ 1 := by
        intro entry member
        rcases List.mem_append.mp member with first | second
        · refine signals_le_one (fun s there => ?_) entry first
          obtain ⟨v, known, rfl⟩ := Option.mem_map.mp there
          exact_mod_cast volumes metric rfl v known
        · exact signals_le_one (fun s there => cpcs metric rfl s there) entry second
      constructor
      · exact PyString.le_rounded least (le_max_left _ _)
      · refine PyString.rounded_le one (max_le (by norm_num) ?_)
        exact (div_le_one (shares_pos empty)).mpr (weighted_le (fun entry => signalsOf_share) small)

/-- The weight of a query among the queries of the evidence. -/
def queryWeight (metrics : List KeywordMetric) (queries : List String) (query : String) : ℚ :=
  keywordValue (maxVolume (queries.filterMap (matchedMetric metrics)))
    (maxCpc (queries.filterMap (matchedMetric metrics))) (matchedMetric metrics query)

theorem queryWeight_bounds (metrics : List KeywordMetric) {queries : List String} {query : String}
    (member : query ∈ queries) :
    25 / 100 ≤ queryWeight metrics queries query ∧ queryWeight metrics queries query ≤ 1 := by
  have there : ∀ m ∈ matchedMetric metrics query, m ∈ queries.filterMap (matchedMetric metrics) :=
    fun m found => List.mem_filterMap.mpr ⟨query, member, found⟩
  apply keywordValue_bounds
  · intro m found v known
    exact le_largest (List.mem_filterMap.mpr ⟨m, there m found, known⟩)
  · intro m found c known
    exact le_largest (List.mem_filterMap.mpr ⟨m, there m found, known⟩)

theorem evidence_eq (queries : List String) (metrics : List KeywordMetric) :
    queryKeywordEvidence keywordWeighting queries metrics =
      .ok (queries.map fun query =>
        ⟨query, (matchedMetric metrics query).map KeywordMetric.keyword, queryWeight metrics queries query⟩) := by
  refine Checks.mapM_ok fun query _ => ?_
  simp only [keywordWeight_eq, bind, Except.bind, pure, Except.pure, queryWeight]

/-! ## Its order -/

/-- A metric is of a query. -/
def KeywordMetric.Matches (metric : KeywordMetric) (query : String) : Prop :=
  normalizeQuery query = normalizeQuery metric.keyword ∨ normalizeQuery query = normalizeQuery metric.canonicalKeyword

/-- What a keyword weight reads of a metric. -/
def level (metric : Option KeywordMetric) : Option (Option ℤ × Option ℚ) := metric.map fun m => (m.searchVolume, m.cpc)

/-- The weight of a query among others, of any configuration. -/
def weightFor (config : KeywordWeighting) (metrics : List KeywordMetric) (queries : List String) (query : String) :
    Except WorkerError ℚ :=
  keywordWeight config (maxVolume (queries.filterMap (matchedMetric metrics)))
    (maxCpc (queries.filterMap (matchedMetric metrics))) (matchedMetric metrics query)

theorem queryKeywordEvidence_eq (config : KeywordWeighting) (queries : List String) (metrics : List KeywordMetric) :
    queryKeywordEvidence config queries metrics = queries.mapM fun query =>
      (weightFor config metrics queries query).map fun weight =>
        ⟨query, (matchedMetric metrics query).map KeywordMetric.keyword, weight⟩ := rfl

theorem mem_metricsByQuery {metrics : List KeywordMetric} {key : String} {m : KeywordMetric} :
    (key, m) ∈ metricsByQuery metrics ↔
      m ∈ metrics ∧ (key = normalizeQuery m.keyword ∨ key = normalizeQuery m.canonicalKeyword) := by
  simp only [metricsByQuery, List.mem_flatMap, List.mem_cons, Prod.mk.injEq, List.not_mem_nil, or_false]
  constructor
  · rintro ⟨metric, there, ⟨rfl, rfl⟩ | ⟨rfl, rfl⟩⟩
    · exact ⟨there, Or.inl rfl⟩
    · exact ⟨there, Or.inr rfl⟩
  · rintro ⟨there, is | is⟩
    · exact ⟨m, there, Or.inl ⟨is, rfl⟩⟩
    · exact ⟨m, there, Or.inr ⟨is, rfl⟩⟩

theorem matchedMetric_some {metrics : List KeywordMetric} {query : String} {m : KeywordMetric}
    (found : matchedMetric metrics query = some m) : m ∈ metrics ∧ m.Matches query := by
  rw [matchedMetric] at found
  rw [KeywordMetric.Matches]
  exact mem_metricsByQuery.mp (PyDict.mem_of_lookup found)

theorem matchedMetric_isSome {metrics : List KeywordMetric} {query : String} :
    (matchedMetric metrics query).isSome = true ↔ ∃ m ∈ metrics, m.Matches query := by
  rw [matchedMetric, PyDict.lookup_isSome, List.mem_map]
  constructor
  · rintro ⟨⟨key, m⟩, there, same⟩
    obtain ⟨member, is⟩ := mem_metricsByQuery.mp there
    rw [show key = normalizeQuery query from same] at is
    exact ⟨m, member, is⟩
  · rintro ⟨m, member, is⟩
    have there : (normalizeQuery query, m) ∈ metricsByQuery metrics := mem_metricsByQuery.mpr ⟨member, is⟩
    refine ⟨(normalizeQuery query, m), there, ?_⟩
    dsimp only

theorem level_perm {metrics other : List KeywordMetric} (perm : metrics.Perm other) {query : String}
    (consistent : ∀ m ∈ metrics, ∀ m' ∈ metrics, m.Matches query → m'.Matches query →
      m.searchVolume = m'.searchVolume ∧ m.cpc = m'.cpc) :
    level (matchedMetric metrics query) = level (matchedMetric other query) := by
  have there : (matchedMetric metrics query).isSome = (matchedMetric other query).isSome := by
    rw [Bool.eq_iff_iff, matchedMetric_isSome, matchedMetric_isSome]
    simp only [perm.mem_iff]
  cases found : matchedMetric metrics query with
  | none =>
    rw [found] at there
    rw [Option.isNone_iff_eq_none.mp (Option.isSome_eq_false_iff.mp there.symm)]
  | some m =>
    rw [found] at there
    obtain ⟨m', found'⟩ := Option.isSome_iff_exists.mp there.symm
    obtain ⟨member, matches_⟩ := matchedMetric_some found
    obtain ⟨member', matches'⟩ := matchedMetric_some found'
    obtain ⟨volume, cpc⟩ := consistent m member m' (perm.symm.subset member') matches_ matches'
    rw [found', level, level, Option.map_some, Option.map_some, volume, cpc]

theorem keywordWeight_congr (config : KeywordWeighting) (volume : ℤ) (cpc : ℚ) {metric other : Option KeywordMetric}
    (same : level metric = level other) :
    keywordWeight config volume cpc metric = keywordWeight config volume cpc other := by
  cases metric <;> cases other
  · rfl
  · cases same
  · cases same
  · rename_i m m'
    obtain ⟨volumes, cpcs⟩ : m.searchVolume = m'.searchVolume ∧ m.cpc = m'.cpc := by simpa [level] using same
    simp only [keywordWeight, volumes, cpcs]

section
variable {config : KeywordWeighting} {metrics other : List KeywordMetric} {queries queries' : List String}

/-- The weight of a query does not depend on the order of the queries or of the metrics, where the metrics
of each query agree. -/
theorem weightFor_congr (members : ∀ query, query ∈ queries ↔ query ∈ queries')
    (levels : ∀ query ∈ queries, level (matchedMetric metrics query) = level (matchedMetric other query)) {query : String}
    (member : query ∈ queries) : weightFor config metrics queries query = weightFor config other queries' query := by
  have found {α : Type} (f : Option ℤ × Option ℚ → Option α) (g : KeywordMetric → Option α)
      (reads : ∀ m, g m = f (m.searchVolume, m.cpc)) (a : α) :
      a ∈ (queries.filterMap (matchedMetric metrics)).filterMap g ↔
        a ∈ (queries'.filterMap (matchedMetric other)).filterMap g := by
    have by_ (metrics : List KeywordMetric) (queries : List String) :
        a ∈ (queries.filterMap (matchedMetric metrics)).filterMap g ↔
          ∃ query ∈ queries, ∃ l ∈ level (matchedMetric metrics query), f l = some a := by
      simp only [List.mem_filterMap, level, Option.mem_def, Option.map_eq_some_iff]
      constructor
      · rintro ⟨m, ⟨query, there, is⟩, value⟩
        exact ⟨query, there, _, ⟨m, is, rfl⟩, (reads m).symm.trans value⟩
      · rintro ⟨query, there, _, ⟨m, is, rfl⟩, value⟩
        exact ⟨m, ⟨query, there, is⟩, (reads m).trans value⟩
    rw [by_, by_]
    constructor
    · rintro ⟨query, there, l, is, value⟩
      exact ⟨query, (members query).mp there, l, levels query there ▸ is, value⟩
    · rintro ⟨query, there, l, is, value⟩
      have back := (members query).mpr there
      exact ⟨query, back, l, (levels query back).symm ▸ is, value⟩
  have volumes : maxVolume (queries.filterMap (matchedMetric metrics)) =
      maxVolume (queries'.filterMap (matchedMetric other)) :=
    largest_congr (found Prod.fst KeywordMetric.searchVolume fun _ => rfl)
  have cpcs : maxCpc (queries.filterMap (matchedMetric metrics)) = maxCpc (queries'.filterMap (matchedMetric other)) :=
    largest_congr (found Prod.snd KeywordMetric.cpc fun _ => rfl)
  rw [weightFor, weightFor, volumes, cpcs]
  exact keywordWeight_congr config _ _ (levels query member)

theorem weightFor_normal {query query' : String} (same : normalizeQuery query = normalizeQuery query') :
    weightFor config metrics queries query = weightFor config metrics queries query' := by
  simp only [weightFor, matchedMetric, same]

end

theorem divide_fails (a b : ℚ) : Checks.FailsAs zeroDivision (divide a b) := by
  unfold divide
  split
  · rintro other ⟨⟩
    rfl
  · exact Checks.failsAs_ok _ _

theorem weightedSignal_fails (share : ℚ) (signal : Option ℚ) (largest : ℚ) :
    Checks.FailsAs zeroDivision (weightedSignal share signal largest) := by
  rw [weightedSignal_eq]
  exact Checks.failsAs_ok _ _

theorem keywordWeight_fails (config : KeywordWeighting) (volume : ℤ) (cpc : ℚ) (metric : Option KeywordMetric) :
    Checks.FailsAs zeroDivision (keywordWeight config volume cpc metric) := by
  cases metric with
  | none => exact Checks.failsAs_ok _ _
  | some metric =>
    refine (weightedSignal_fails _ _ _).bind fun demand => ?_
    refine (weightedSignal_fails _ _ _).bind fun commercial => ?_
    dsimp only
    split
    · exact Checks.failsAs_ok _ _
    · exact (divide_fails _ _).bind fun raw => Checks.failsAs_ok _ _

end RankRent.Scoring
