import RankRent.Scoring.Threats
import RankRent.Scoring.UniqueDomains

/-!
# Scores and the order of lists

The metrics, the results pages with their results, the competitors and the providers may
come in any order, of any configuration, when metrics of one query agree on its volume and
its CPC and rows of one domain can be merged in any order.
-/

namespace RankRent.Scoring
open Evidence (Python Observation)
open PyString (rounded)
open Checks (Alike FailsAs)

/-! ## Competitors -/

section
variable {python : Python}

theorem mem_observationQueries {rows : List CompetitorMetric} {query : String} :
    query ∈ observationQueries rows ↔ ∃ r ∈ rows, (∃ position, (some query, position) ∈ r.appearances) ∧
      (r.serpObservations = [] → query ≠ "") := by
  have step (queries : List String) (r : CompetitorMetric) : query ∈ addQuery queries r ↔
      query ∈ queries ∨ r.serpObservations = [] ∧ r.representativeQuery = some query ∧ query ≠ "" := by
    unfold addQuery
    split
    · rename_i q asked
      by_cases added : r.serpObservations.isEmpty ∧ q ≠ "" ∧ q ∉ queries
      · obtain ⟨empty, named, fresh⟩ := added
        have empty : r.serpObservations = [] := by simpa using empty
        grind
      · grind
    · rename_i unasked
      simp [unasked]
  have loop : ∀ (rows : List CompetitorMetric) (start : List String), query ∈ rows.foldl addQuery start ↔
      query ∈ start ∨ ∃ r ∈ rows, r.serpObservations = [] ∧ r.representativeQuery = some query ∧ query ≠ "" := by
    intro rows
    induction rows with
    | nil => simp
    | cons r rest ih =>
      intro start
      rw [List.foldl_cons, ih, step, List.exists_mem_cons_iff, or_assoc]
  unfold observationQueries
  rw [loop, List.mem_eraseDups, List.mem_flatMap]
  constructor
  · rintro (⟨r, member, seen⟩ | ⟨r, member, none_, asked, named⟩)
    · obtain ⟨o, there, rfl⟩ := List.mem_map.mp seen
      have observed := List.ne_nil_of_mem there
      refine ⟨r, member, ⟨some o.position, ?_⟩, fun none_ => absurd none_ observed⟩
      rw [appearances_of_observed observed]
      exact List.mem_map_of_mem (f := seenAt) there
    · refine ⟨r, member, ⟨r.serpPosition, ?_⟩, fun _ => named⟩
      rw [appearances_of_unobserved none_, asked]
      exact List.mem_singleton_self _
  · rintro ⟨r, member, ⟨position, there⟩, named⟩
    by_cases none_ : r.serpObservations = []
    · rw [appearances_of_unobserved none_, List.mem_singleton, Prod.mk.injEq] at there
      exact Or.inr ⟨r, member, none_, there.1.symm, named none_⟩
    · rw [appearances_of_observed none_] at there
      obtain ⟨o, inside, same⟩ := List.mem_map.mp there
      simp only [seenAt, Prod.mk.injEq, Option.some.injEq] at same
      exact Or.inl ⟨r, member, List.mem_map.mpr ⟨o, inside, same.1⟩⟩

theorem observationQueries_twin {rows middle other : List CompetitorMetric} (perm : rows.Perm middle)
    (twins : List.Forall₂ (Twin python) middle other) (query : String) :
    query ∈ observationQueries rows ↔ query ∈ observationQueries other := by
  rw [mem_observationQueries, mem_observationQueries]
  simp only [perm.mem_iff]
  clear perm
  induction twins with
  | nil => exact Iff.rfl
  | cons twin _ ih =>
    rw [List.exists_mem_cons_iff, List.exists_mem_cons_iff, ih, twin.observed]
    simp only [twin.appearances.mem_iff]

/-! ### Keyword evidence -/

theorem evidence_members {config : KeywordWeighting} {queries : List String} {metrics : List KeywordMetric}
    {evidence : List KeywordEvidence} (ran : queryKeywordEvidence config queries metrics = .ok evidence) :
    List.Forall₂ (fun query item => item.query = query ∧
      weightFor config metrics queries query = .ok item.keywordWeight) queries evidence := by
  rw [queryKeywordEvidence_eq] at ran
  refine (Checks.mapM_forall₂ ran).imp fun query item made => ?_
  cases weight : weightFor config metrics queries query with
  | error e =>
    rw [weight] at made
    cases made
  | ok w =>
    rw [weight] at made
    cases made
    exact ⟨rfl, rfl⟩

theorem mem_of_forall₂ {α β : Type} {R : α → β → Prop} {xs : List α} {ys : List β} (related : List.Forall₂ R xs ys)
    {y : β} (member : y ∈ ys) : ∃ x ∈ xs, R x y := by
  induction related with
  | nil => cases member
  | @cons x _ _ _ first _ ih =>
    rcases List.mem_cons.mp member with rfl | later
    · exact ⟨x, List.mem_cons_self, first⟩
    · obtain ⟨found, there, is⟩ := ih later
      exact ⟨found, List.mem_cons_of_mem x there, is⟩

theorem mem_of_forall₂' {α β : Type} {R : α → β → Prop} {xs : List α} {ys : List β} (related : List.Forall₂ R xs ys)
    {x : α} (member : x ∈ xs) : ∃ y ∈ ys, R x y :=
  mem_of_forall₂ related.flip member

/-- The weight that is found by a normal form. -/
theorem lookup_weight {config : KeywordWeighting} {queries : List String} {metrics : List KeywordMetric}
    {evidence : List KeywordEvidence} (ran : queryKeywordEvidence config queries metrics = .ok evidence) (key : String) :
    (∀ query ∈ queries, normalizeQuery query = key →
      ∃ weight, weightFor config metrics queries query = .ok weight ∧
        ((evidenceByQuery evidence).lookup key).map KeywordEvidence.keywordWeight = some weight) ∧
    ((∀ query ∈ queries, normalizeQuery query ≠ key) → (evidenceByQuery evidence).lookup key = none) := by
  have related := evidence_members ran
  rw [lookup_evidenceByQuery]
  constructor
  · intro query member normal
    obtain ⟨item, there, same, -⟩ := mem_of_forall₂' related member
    have kept : item ∈ evidence.filter fun item => normalizeQuery item.query = key :=
      List.mem_filter.mpr ⟨there, decide_eq_true (same ▸ normal)⟩
    cases last : (evidence.filter fun item => normalizeQuery item.query = key).getLast? with
    | none =>
      rw [List.getLast?_eq_none_iff.mp last] at kept
      cases kept
    | some found =>
      obtain ⟨inside, is⟩ := List.mem_filter.mp (List.mem_of_getLast? last)
      obtain ⟨other, -, named, weight⟩ := mem_of_forall₂ related inside
      refine ⟨found.keywordWeight, ?_, rfl⟩
      rw [← weight]
      refine weightFor_normal (normal.trans ?_)
      rw [← named]
      exact (of_decide_eq_true is).symm
  · intro apart
    rw [List.getLast?_eq_none_iff, List.filter_eq_nil_iff]
    intro item there
    obtain ⟨query, member, named, -⟩ := mem_of_forall₂ related there
    rw [decide_eq_true_eq, named]
    exact apart query member

theorem evidence_isOk {config : KeywordWeighting} {queries : List String} {metrics : List KeywordMetric} :
    (queryKeywordEvidence config queries metrics).isOk = true ↔
      ∀ query ∈ queries, (weightFor config metrics queries query).isOk = true := by
  rw [queryKeywordEvidence_eq, Checks.mapM_isOk]
  simp only [Checks.isOk_map]

theorem evidence_fails (config : KeywordWeighting) (queries : List String) (metrics : List KeywordMetric) :
    FailsAs zeroDivision (queryKeywordEvidence config queries metrics) := by
  rw [queryKeywordEvidence_eq]
  exact Checks.mapM_fails fun query _ => (keywordWeight_fails _ _ _ _).map _

/-- Two results that fail in one way, together. -/
theorem alike_of_isOk {α β : Type} {R : α → β → Prop} {e : WorkerError} {x : Except WorkerError α}
    {y : Except WorkerError β} (left : FailsAs e x) (right : FailsAs e y) (same : x.isOk = y.isOk)
    (related : ∀ a b, x = .ok a → y = .ok b → R a b) : Alike R x y := by
  cases x <;> cases y
  · rename_i first second
    rw [left first rfl, right second rfl]
    exact .error e
  · cases same
  · cases same
  · exact .ok (related _ _ rfl rfl)

/-- The keyword evidence of the same queries. -/
theorem evidence_alike (config : KeywordWeighting) {metrics other : List KeywordMetric} {queries queries' : List String}
    (members : ∀ query, query ∈ queries ↔ query ∈ queries')
    (levels : ∀ query ∈ queries, level (matchedMetric metrics query) = level (matchedMetric other query)) :
    Alike (fun evidence evidence' => ∀ key, ((evidenceByQuery evidence).lookup key).map KeywordEvidence.keywordWeight =
        ((evidenceByQuery evidence').lookup key).map KeywordEvidence.keywordWeight)
      (queryKeywordEvidence config queries metrics) (queryKeywordEvidence config queries' other) := by
  have same {query : String} (member : query ∈ queries) :
      weightFor config metrics queries query = weightFor config other queries' query :=
    weightFor_congr members levels member
  refine alike_of_isOk (evidence_fails _ _ _) (evidence_fails _ _ _) ?_ fun evidence evidence' ran ran' key => ?_
  · rw [Bool.eq_iff_iff, evidence_isOk, evidence_isOk]
    constructor
    · intro all query member
      have back := (members query).mpr member
      exact same back ▸ all query back
    · intro all query member
      rw [same member]
      exact all query ((members query).mp member)
  · by_cases there : ∃ query ∈ queries, normalizeQuery query = key
    · obtain ⟨query, member, normal⟩ := there
      obtain ⟨weight, is, found⟩ := (lookup_weight ran key).1 query member normal
      obtain ⟨weight', is', found'⟩ := (lookup_weight ran' key).1 query ((members query).mp member) normal
      rw [same member, is'] at is
      cases is
      rw [found, found']
    · simp only [not_exists, not_and] at there
      rw [(lookup_weight ran key).2 there,
        (lookup_weight ran' key).2 fun query member => there query ((members query).mpr member)]

/-! ### Weakness -/

theorem exposureWeight_congr (config : Config) {byQuery byQuery' : List (String × KeywordEvidence)}
    (same : ∀ key, (byQuery.lookup key).map KeywordEvidence.keywordWeight =
      (byQuery'.lookup key).map KeywordEvidence.keywordWeight) (appearance : Option String × Option ℤ) :
    exposureWeight config byQuery appearance = exposureWeight config byQuery' appearance := by
  have weight : ((appearance.1.filter (· ≠ "")).bind fun query => byQuery.lookup (normalizeQuery query)).map
      KeywordEvidence.keywordWeight = ((appearance.1.filter (· ≠ "")).bind fun query =>
        byQuery'.lookup (normalizeQuery query)).map KeywordEvidence.keywordWeight := by
    cases appearance.1.filter (· ≠ "") with
    | none => rfl
    | some query => exact same _
  unfold exposureWeight
  dsimp only
  rw [weight]

theorem domainExposureWeight_twin (config : Config) {byQuery byQuery' : List (String × KeywordEvidence)}
    (same : ∀ key, (byQuery.lookup key).map KeywordEvidence.keywordWeight =
      (byQuery'.lookup key).map KeywordEvidence.keywordWeight) {r r' : CompetitorMetric} (twin : Twin python r r') :
    domainExposureWeight config byQuery r = domainExposureWeight config byQuery' r' := by
  unfold domainExposureWeight
  rw [(twin.appearances.map _).sum_eq]
  congr 1
  exact List.map_congr_left fun appearance _ => exposureWeight_congr config same appearance

theorem weaknessOf_twin (config : Config) {byQuery byQuery' : List (String × KeywordEvidence)}
    (same : ∀ key, (byQuery.lookup key).map KeywordEvidence.keywordWeight =
      (byQuery'.lookup key).map KeywordEvidence.keywordWeight) {r r' : CompetitorMetric} (twin : Twin python r r') :
    weaknessOf python config byQuery r = weaknessOf python config byQuery' r' := by
  have relevance : directRelevance config.competitors r = directRelevance config.competitors r' := by
    simp only [directRelevance, twin.agree.page, twin.agree.near]
  unfold weaknessOf
  rw [twin.agree.links, relevance, twin.agree.archetype, domainExposureWeight_twin config same twin]

theorem weaknessOf_fails (config : Config) (byQuery : List (String × KeywordEvidence)) (r : CompetitorMetric) :
    FailsAs zeroDivision (weaknessOf python config byQuery r) := by
  have links : FailsAs zeroDivision (linkWeakness config.competitors r.referringDomains) := by
    cases r.referringDomains with
    | none => exact Checks.failsAs_ok _ _
    | some n => exact (divide_fails _ _).map _
  have share (a b : ℚ) : FailsAs zeroDivision (if 0 < b then divide a b else .ok 0) := by
    split
    · exact divide_fails _ _
    · exact Checks.failsAs_ok _ _
  have relevance : FailsAs zeroDivision (directRelevance config.competitors r) :=
    (share _ _).bind fun _ => (share _ _).bind fun _ => (share _ _).bind fun _ => Checks.failsAs_ok _ _
  exact links.bind fun _ => relevance.bind fun _ => Checks.failsAs_ok _ _

theorem weaknessComponent_perm (weight : ℚ) {weaknesses other : List Weakness} (perm : weaknesses.Perm other) :
    weaknessComponent weight weaknesses = weaknessComponent weight other := by
  have totals : PyJson.sortKeys (archetypePointTotals weaknesses) = PyJson.sortKeys (archetypePointTotals other) :=
    PyJson.sortKeys_perm (PyDict.tally_perm perm _ _) (PyDict.nodup_tally _ _ _)
  have sums (f : Weakness → ℚ) : (weaknesses.map f).sum = (other.map f).sum := (perm.map f).sum_eq
  unfold weaknessComponent
  simp only [totals, sums]

/-- The component of the competitors does not depend on their order. -/
theorem competitorWeakness_perm (config : Config) {competitors other : List CompetitorMetric}
    (perm : competitors.Perm other)
    (compatible : competitors.Pairwise fun c c' => domainOf python c = domainOf python c' → Compatible python c c')
    {metrics metrics' : List KeywordMetric}
    (levels : ∀ rows, uniqueDomainCompetitors python competitors = .ok rows → ∀ query ∈ observationQueries rows,
      level (matchedMetric metrics query) = level (matchedMetric metrics' query)) :
    competitorWeakness python config competitors metrics = competitorWeakness python config other metrics' := by
  apply Alike.eq
  have rows := uniqueDomainCompetitors_perm python perm compatible
  unfold competitorWeakness
  revert rows levels
  cases uniqueDomainCompetitors python competitors <;> cases uniqueDomainCompetitors python other <;>
    intro levels rows <;> cases rows
  · exact .error _
  · rename_i rows rows' twins
    obtain ⟨middle, moved, twins⟩ := twins
    have empty : rows.isEmpty = rows'.isEmpty := by
      rw [isEmpty_perm moved]
      cases twins <;> rfl
    have evidence := evidence_alike config.organicClick.keywordWeighting
      (observationQueries_twin moved twins) (levels rows rfl)
    change Alike Eq (if rows.isEmpty then _ else _) (if rows'.isEmpty then _ else _)
    rw [empty]
    split
    · exact .ok rfl
    · refine evidence.bind fun found found' same => ?_
      have first := Checks.mapM_perm moved fun r _ => @weaknessOf_fails python config (evidenceByQuery found) r
      have second := Checks.mapM_alike (R := Eq) (f := weaknessOf python config (evidenceByQuery found))
        (g := weaknessOf python config (evidenceByQuery found')) twins (by
          intro r _ r' twin
          rw [weaknessOf_twin config same twin]
          exact Checks.alike_refl fun _ => rfl)
      refine (first.trans second).bind fun weaknesses weaknesses' both => ?_
      obtain ⟨between, perm, equal⟩ := both
      rw [List.forall₂_eq_eq_eq] at equal
      rw [weaknessComponent_perm _ (equal ▸ perm)]
      exact Checks.alike_refl fun _ => rfl

end

/-! ## Results pages -/

/-- A results page with its results in another order. -/
def Reordered (s s' : SerpSnapshot) : Prop := ∃ results, s.results.Perm results ∧ s' = { s with results := results }

/-- Weighted results pages in another order. -/
def WeightedAlike (ws ws' : List (SerpSnapshot × ℚ)) : Prop :=
  ∃ middle, ws.Perm middle ∧ List.Forall₂ (fun p p' => Reordered p.1 p'.1 ∧ p.2 = p'.2) middle ws'

theorem Reordered.organic {s s' : SerpSnapshot} (reordered : Reordered s s') : s.organic.Perm s'.organic := by
  obtain ⟨results, perm, rfl⟩ := reordered
  exact perm.filter _

theorem Reordered.query {s s' : SerpSnapshot} (reordered : Reordered s s') : s'.query = s.query := by
  obtain ⟨results, -, rfl⟩ := reordered
  rfl

theorem Reordered.hasFeature {s s' : SerpSnapshot} (reordered : Reordered s s') (feature : String) :
    hasFeature feature s' = hasFeature feature s := by
  obtain ⟨results, -, rfl⟩ := reordered
  rfl

theorem Reordered.showsProducts {s s' : SerpSnapshot} (reordered : Reordered s s') (python : Python)
    (config : OrganicClickConfig) : showsProducts python config s' = showsProducts python config s := by
  obtain ⟨results, perm, rfl⟩ := reordered
  unfold Scoring.showsProducts
  dsimp only
  rw [perm.any_eq]

section
variable {ws ws' : List (SerpSnapshot × ℚ)}

theorem WeightedAlike.sum (alike : WeightedAlike ws ws') : (ws.map Prod.snd).sum = (ws'.map Prod.snd).sum := by
  obtain ⟨middle, perm, related⟩ := alike
  rw [(perm.map Prod.snd).sum_eq]
  clear perm
  induction related with
  | nil => rfl
  | cons first _ ih => rw [List.map_cons, List.map_cons, List.sum_cons, List.sum_cons, ih, first.2]

theorem WeightedAlike.shown (alike : WeightedAlike ws ws') {predicate : SerpSnapshot → Bool}
    (same : ∀ {s s'}, Reordered s s' → predicate s' = predicate s) :
    weightedSerpFeatureShare ws predicate = weightedSerpFeatureShare ws' predicate := by
  have shown : ((ws.filter fun p => predicate p.1).map Prod.snd).sum =
      ((ws'.filter fun p => predicate p.1).map Prod.snd).sum := by
    obtain ⟨middle, perm, related⟩ := alike
    rw [((perm.filter _).map Prod.snd).sum_eq]
    clear perm
    induction related with
    | nil => rfl
    | @cons p p' _ _ first _ ih =>
      have predicates := same first.1
      rw [List.filter_cons, List.filter_cons]
      rw [predicates]
      split
      · rw [List.map_cons, List.map_cons, List.sum_cons, List.sum_cons, ih, first.2]
      · exact ih
  unfold weightedSerpFeatureShare
  dsimp only
  rw [alike.sum, shown]

theorem WeightedAlike.results (alike : WeightedAlike ws ws') (config : OrganicClickConfig) :
    (weightedResults config ws).Perm (weightedResults config ws') := by
  obtain ⟨middle, perm, related⟩ := alike
  refine (perm.flatMap_right _).trans ?_
  clear perm
  induction related with
  | nil => exact .nil
  | cons first _ ih =>
    rw [List.flatMap_cons, weightedResults, List.flatMap_cons]
    refine List.Perm.append ?_ ih
    dsimp only
    rw [first.2]
    exact first.1.organic.map _

theorem lookup_classificationWeightTotals (alike : WeightedAlike ws ws') (config : OrganicClickConfig)
    (classification : String) :
    (classificationWeightTotals config ws).lookup classification =
      (classificationWeightTotals config ws').lookup classification :=
  PyDict.lookup_perm (PyDict.tally_perm (alike.results config) _ _) (PyDict.nodup_tally _ _ _) classification

/-- A published share of a classification. -/
def classShare (capacity : ℚ) (entry : String × ℚ) : Except WorkerError (String × ℚ) := do
  return (entry.1, rounded 4 (← divide entry.2 capacity))

theorem classShare_fails (capacity : ℚ) (entry : String × ℚ) : FailsAs zeroDivision (classShare capacity entry) :=
  (divide_fails _ _).bind fun _ => Checks.failsAs_ok _ _

theorem lookup_classShare {totals shares : List (String × ℚ)} {capacity : ℚ}
    (ran : totals.mapM (classShare capacity) = .ok shares) (key : String) :
    shares.lookup key = (totals.lookup key).bind fun total => (divide total capacity).toOption.map (rounded 4) := by
  have related := Checks.mapM_forall₂ ran
  clear ran
  induction related with
  | nil => rfl
  | @cons entry share _ _ first _ ih =>
    unfold classShare at first
    cases value : divide entry.2 capacity with
    | error e =>
      rw [value] at first
      cases first
    | ok v =>
      rw [value] at first
      cases first
      rw [List.lookup_cons, List.lookup_cons, ih]
      cases key == entry.1 with
      | true => simp [value, Except.toOption]
      | false => rfl

theorem classShares_alike (alike : WeightedAlike ws ws') (config : OrganicClickConfig) (capacity : ℚ) :
    Alike (fun shares shares' : List (String × ℚ) => ∀ key, shares.lookup key = shares'.lookup key)
      ((classificationWeightTotals config ws).mapM (classShare capacity))
      ((classificationWeightTotals config ws').mapM (classShare capacity)) := by
  refine alike_of_isOk (Checks.mapM_fails fun _ _ => classShare_fails _ _)
    (Checks.mapM_fails fun _ _ => classShare_fails _ _) ?_ fun shares shares' ran ran' key => ?_
  · have moved : (classificationWeightTotals config ws).Perm (classificationWeightTotals config ws') :=
      PyDict.tally_perm (alike.results config) _ _
    rw [Bool.eq_iff_iff, Checks.mapM_isOk, Checks.mapM_isOk]
    simp only [moved.mem_iff]
  · rw [lookup_classShare ran, lookup_classShare ran', lookup_classificationWeightTotals alike]

/-- The clicks that results pages leave do not depend on their order. -/
theorem weightedClickAvailability_alike (python : Python) (config : Config) (alike : WeightedAlike ws ws') :
    Alike (fun clicks clicks' => clicks.component.score = clicks'.component.score ∧
        clicks.classificationWeightedShares.lookup "unknown" = clicks'.classificationWeightedShares.lookup "unknown")
      (weightedClickAvailability python config ws) (weightedClickAvailability python config ws') := by
  have shopping := @WeightedAlike.shown _ _ alike (showsProducts python config.organicClick)
    fun reordered => reordered.showsProducts python config.organicClick
  have localPack := @WeightedAlike.shown _ _ alike (hasFeature "local_pack") fun reordered => reordered.hasFeature _
  have adsTop := @WeightedAlike.shown _ _ alike (hasFeature "ads_top") fun reordered => reordered.hasFeature _
  have totals := lookup_classificationWeightTotals alike config.organicClick
  unfold weightedClickAvailability
  dsimp only
  rw [shopping, localPack, adsTop, alike.sum]
  simp only [totals]
  refine (Checks.alike_refl (R := Eq) fun _ => rfl).bind fun shopping _ same => ?_
  subst same
  refine (Checks.alike_refl (R := Eq) fun _ => rfl).bind fun localPack _ same => ?_
  subst same
  refine (Checks.alike_refl (R := Eq) fun _ => rfl).bind fun adsTop _ same => ?_
  subst same
  refine (classShares_alike alike config.organicClick _).bind fun shares shares' same => ?_
  refine (Checks.alike_refl (R := Eq) fun _ => rfl).bind fun deductions _ both => ?_
  subst both
  exact .ok ⟨rfl, same "unknown"⟩

end

/-- Results pages in another order, and their results too. -/
def PagesAlike (snapshots snapshots' : List SerpSnapshot) : Prop :=
  ∃ middle, snapshots.Perm middle ∧ List.Forall₂ Reordered middle snapshots'

/-- `_query_keyword_evidence` of results pages, page by page. -/
theorem weighted_eq (config : KeywordWeighting) (snapshots : List SerpSnapshot) (metrics : List KeywordMetric) :
    (queryKeywordEvidence config (snapshots.map SerpSnapshot.query) metrics).map
        (fun evidence => snapshots.zip (evidence.map KeywordEvidence.keywordWeight)) =
      snapshots.mapM fun s =>
        (weightFor config metrics (snapshots.map SerpSnapshot.query) s.query).map (s, ·) := by
  have pages : ∀ (queries : List String) (snapshots : List SerpSnapshot),
      ((snapshots.map SerpSnapshot.query).mapM fun query => (weightFor config metrics queries query).map fun weight =>
          (⟨query, (matchedMetric metrics query).map KeywordMetric.keyword, weight⟩ : KeywordEvidence)).map
        (fun evidence => snapshots.zip (evidence.map KeywordEvidence.keywordWeight)) =
      snapshots.mapM fun s => (weightFor config metrics queries s.query).map (s, ·) := by
    intro queries snapshots
    induction snapshots with
    | nil => rfl
    | cons s rest ih =>
      rw [List.map_cons, List.mapM_cons, List.mapM_cons, ← ih]
      cases weightFor config metrics queries s.query with
      | error e => rfl
      | ok weight =>
        cases (rest.map SerpSnapshot.query).mapM fun query => (weightFor config metrics queries query).map fun weight =>
            (⟨query, (matchedMetric metrics query).map KeywordMetric.keyword, weight⟩ : KeywordEvidence) <;> rfl
  exact pages _ snapshots

section
variable {snapshots snapshots' : List SerpSnapshot}

theorem PagesAlike.organic (alike : PagesAlike snapshots snapshots') :
    (snapshots.flatMap SerpSnapshot.organic).Perm (snapshots'.flatMap SerpSnapshot.organic) := by
  obtain ⟨middle, perm, related⟩ := alike
  refine (perm.flatMap_right _).trans ?_
  clear perm
  induction related with
  | nil => exact .nil
  | cons first _ ih =>
    rw [List.flatMap_cons, List.flatMap_cons]
    exact first.organic.append ih

theorem PagesAlike.queries (alike : PagesAlike snapshots snapshots') :
    (snapshots.map SerpSnapshot.query).Perm (snapshots'.map SerpSnapshot.query) := by
  obtain ⟨middle, perm, related⟩ := alike
  refine (perm.map _).trans (List.Perm.of_eq ?_)
  clear perm
  induction related with
  | nil => rfl
  | cons first _ ih => rw [List.map_cons, List.map_cons, first.query, ih]

theorem organicClickAvailability_alike (python : Python) (config : Config) (alike : PagesAlike snapshots snapshots')
    {metrics metrics' : List KeywordMetric}
    (levels : ∀ query ∈ snapshots.map SerpSnapshot.query,
      level (matchedMetric metrics query) = level (matchedMetric metrics' query)) :
    Alike (fun clicks clicks' => clicks.component.score = clicks'.component.score ∧
        clicks.classificationWeightedShares.lookup "unknown" = clicks'.classificationWeightedShares.lookup "unknown")
      (organicClickAvailability python config snapshots metrics)
      (organicClickAvailability python config snapshots' metrics') := by
  unfold organicClickAvailability
  rw [isEmpty_perm alike.organic]
  split
  · exact .ok ⟨rfl, rfl⟩
  · have pages := alike.queries
    obtain ⟨middle, perm, related⟩ := alike
    have first := Checks.mapM_perm (f := fun s : SerpSnapshot => (weightFor config.organicClick.keywordWeighting metrics
      (snapshots.map SerpSnapshot.query) s.query).map (s, ·)) perm fun s _ => (keywordWeight_fails _ _ _ _).map _
    have second := Checks.mapM_alike (R := fun p p' : SerpSnapshot × ℚ => Reordered p.1 p'.1 ∧ p.2 = p'.2)
      (f := fun s : SerpSnapshot => (weightFor config.organicClick.keywordWeighting metrics
        (snapshots.map SerpSnapshot.query) s.query).map (s, ·))
      (g := fun s : SerpSnapshot => (weightFor config.organicClick.keywordWeighting metrics'
        (snapshots'.map SerpSnapshot.query) s.query).map (s, ·)) related (by
      intro s member s' reordered
      have there : s.query ∈ snapshots.map SerpSnapshot.query := List.mem_map_of_mem (perm.symm.subset member)
      rw [reordered.query, weightFor_congr (fun query => pages.mem_iff) levels there]
      exact (Checks.alike_refl (R := Eq) fun _ => rfl).map fun a b same => ⟨reordered, same⟩)
    have weighted := (first.trans second).bind fun ws ws' both => weightedClickAvailability_alike python config both
    rw [← weighted_eq, ← weighted_eq] at weighted
    revert weighted
    cases queryKeywordEvidence config.organicClick.keywordWeighting (snapshots.map SerpSnapshot.query) metrics <;>
      cases queryKeywordEvidence config.organicClick.keywordWeighting (snapshots'.map SerpSnapshot.query) metrics' <;>
      exact id

end

/-! ## The rest of the evidence -/

theorem max?_perm {values other : List ℚ} (perm : values.Perm other) : values.max? = other.max? := by
  ext m
  rw [List.max?_eq_some_iff, List.max?_eq_some_iff]
  simp only [perm.mem_iff]

theorem mean_perm {values other : List ℚ} (perm : values.Perm other) : mean values = mean other := by
  unfold mean
  rw [isEmpty_perm perm, perm.sum_eq, perm.length_eq]

theorem orZero_perm {values other : List ℚ} (perm : values.Perm other) : (orZero values).Perm (orZero other) := by
  unfold orZero
  rw [isEmpty_perm perm]
  split
  · exact .refl _
  · exact perm

theorem PagesAlike.captured {snapshots snapshots' : List SerpSnapshot} (alike : PagesAlike snapshots snapshots') :
    (snapshots.map SerpSnapshot.capturedAt).Perm (snapshots'.map SerpSnapshot.capturedAt) := by
  obtain ⟨middle, perm, related⟩ := alike
  refine (perm.map _).trans (List.Perm.of_eq ?_)
  clear perm
  induction related with
  | nil => rfl
  | cons first _ ih =>
    obtain ⟨results, -, rfl⟩ := first
    rw [List.map_cons, List.map_cons, ih]

theorem PagesAlike.filled {snapshots snapshots' : List SerpSnapshot} (alike : PagesAlike snapshots snapshots') :
    (snapshots.any fun s => !s.results.isEmpty) = snapshots'.any fun s => !s.results.isEmpty := by
  obtain ⟨middle, perm, related⟩ := alike
  rw [perm.any_eq]
  clear perm
  induction related with
  | nil => rfl
  | cons first _ ih =>
    obtain ⟨results, perm, rfl⟩ := first
    rw [List.any_cons, List.any_cons, ih, isEmpty_perm perm]

/-- The same evidence, each list in another order. -/
structure EvidenceSet.Alike (e e' : EvidenceSet) : Prop where
  metrics : e.metrics.Perm e'.metrics
  serpSnapshots : PagesAlike e.serpSnapshots e'.serpSnapshots
  competitors : e.competitors.Perm e'.competitors
  providers : e.providers.Perm e'.providers
  market : e'.market = e.market
  sourceMode : e'.sourceMode = e.sourceMode
  assessmentType : e'.assessmentType = e.assessmentType
  now : e'.now = e.now

/-- The queries of the evidence. -/
def EvidenceSet.queries (e : EvidenceSet) : List String :=
  e.serpSnapshots.map SerpSnapshot.query ++ e.competitors.flatMap fun c => c.appearances.filterMap Prod.fst

/-- The included metrics of a query agree on its volume and its CPC, and the rows of a domain can be
merged in any order. -/
structure EvidenceSet.Consistent (python : Python) (e : EvidenceSet) : Prop where
  metrics : ∀ query ∈ e.queries, ∀ m ∈ e.metrics, ∀ m' ∈ e.metrics, m.included → m'.included →
    m.Matches query → m'.Matches query → m.searchVolume = m'.searchVolume ∧ m.cpc = m'.cpc
  competitors : e.competitors.Pairwise fun c c' => domainOf python c = domainOf python c' → Compatible python c c'

/-- The total, the scores of the components, the status and the confidence. -/
def OpportunityScore.outcome (s : OpportunityScore) : ℚ × List ℚ × String × Confidence × ℚ :=
  (s.totalScore, s.components.toList.map Component.score, s.evidenceStatus, s.confidence, s.confidenceScore)

section
variable {python : Python} {e e' : EvidenceSet}

theorem EvidenceSet.Alike.scored (alike : e.Alike e') :
    (e.metrics.filter (·.included)).Perm (e'.metrics.filter (·.included)) :=
  alike.metrics.filter _

theorem missingFields_alike (alike : e.Alike e') (model : DemandModel) :
    missingFields (e.metrics.filter (·.included)) e.serpSnapshots e.competitors e.providers model =
      missingFields (e'.metrics.filter (·.included)) e'.serpSnapshots e'.competitors e'.providers model := by
  have pages : e.serpSnapshots.isEmpty = e'.serpSnapshots.isEmpty := by
    have empty := isEmpty_perm alike.serpSnapshots.queries
    rwa [List.isEmpty_map, List.isEmpty_map] at empty
  unfold missingFields
  rw [isEmpty_perm alike.scored, alike.scored.any_eq, pages, alike.serpSnapshots.filled,
    isEmpty_perm alike.competitors, isEmpty_perm alike.providers]

theorem confidence_alike (alike : e.Alike e') (config : Config) (missing : List String) (model : DemandModel)
    (share : ℚ) :
    confidence python config missing (e.metrics.filter (·.included)) e.serpSnapshots e.competitors e.providers model
        e.sourceMode e.assessmentType e.now share =
      confidence python config missing (e'.metrics.filter (·.included)) e'.serpSnapshots e'.competitors e'.providers
        model e'.sourceMode e'.assessmentType e'.now share := by
  have pages : e.serpSnapshots.length = e'.serpSnapshots.length := by
    simpa using alike.serpSnapshots.queries.length_eq
  have mode : sourceMode python (e.metrics.filter (·.included)) e.sourceMode =
      sourceMode python (e'.metrics.filter (·.included)) e.sourceMode := by
    unfold sourceMode
    simp only [alike.scored.any_eq]
  have keywords : oldestAgeDays e.now ((e.metrics.filter (·.included)).map KeywordMetric.sourceTimestamp) =
      oldestAgeDays e.now ((e'.metrics.filter (·.included)).map KeywordMetric.sourceTimestamp) :=
    max?_perm ((alike.scored.map _).map _)
  have serps : oldestAgeDays e.now (e.serpSnapshots.map SerpSnapshot.capturedAt) =
      oldestAgeDays e.now (e'.serpSnapshots.map SerpSnapshot.capturedAt) :=
    max?_perm (alike.serpSnapshots.captured.map _)
  unfold confidence
  rw [alike.sourceMode, alike.assessmentType, alike.now, mode, keywords, serps, pages, alike.competitors.length_eq,
    alike.providers.length_eq]

/-- The queries of the rows are queries of the evidence. -/
theorem EvidenceSet.Consistent.rows (consistent : e.Consistent python) {rows : List CompetitorMetric}
    (ran : uniqueDomainCompetitors python e.competitors = .ok rows) : observationQueries rows ⊆ e.queries := by
  intro query member
  obtain ⟨r, there, ⟨position, seen⟩, -⟩ := mem_observationQueries.mp member
  obtain ⟨group, subset, merged⟩ := uniqueDomainCompetitors_merged python consistent.competitors ran there
  obtain ⟨c, inside, position, seen⟩ := merged.query seen
  refine List.mem_append_right _ (List.mem_flatMap.mpr ⟨c, subset inside, ?_⟩)
  exact List.mem_filterMap.mpr ⟨(some query, position), seen, rfl⟩

theorem EvidenceSet.Consistent.level (consistent : e.Consistent python) (alike : e.Alike e') {query : String}
    (member : query ∈ e.queries) :
    level (matchedMetric (e.metrics.filter (·.included)) query) =
      Scoring.level (matchedMetric (e'.metrics.filter (·.included)) query) := by
  refine level_perm alike.scored fun m there m' there' is is' => ?_
  obtain ⟨known, included⟩ := List.mem_filter.mp there
  obtain ⟨known', included'⟩ := List.mem_filter.mp there'
  exact consistent.metrics query member m known m' known' included included' is is'

/-- Consistent evidence scores the same in any order. -/
theorem score_any_order (python : Python) (config : Config) {e e' : EvidenceSet} (consistent : e.Consistent python)
    (alike : e.Alike e') :
    (score python config e).map OpportunityScore.outcome = (score python config e').map OpportunityScore.outcome := by
  have demand := analyzeDemand_perm python alike.scored (e.market.getD ⟨none, none, []⟩)
  have cpc := mean_perm (orZero_perm (alike.scored.filterMap KeywordMetric.cpc))
  have paid := mean_perm (orZero_perm (alike.scored.filterMap KeywordMetric.paidCompetition))
  have intent := (alike.scored.filter (·.intent ∈ highIntents)).length_eq
  have weakness := @competitorWeakness_perm python config _ _ alike.competitors consistent.competitors
    (e.metrics.filter (·.included)) (e'.metrics.filter (·.included))
    fun rows ran query member => consistent.level alike (consistent.rows ran member)
  have organic := @organicClickAvailability_alike _ _ python config alike.serpSnapshots
    (e.metrics.filter (·.included)) (e'.metrics.filter (·.included))
    fun query member => consistent.level alike (List.mem_append_left _ member)
  have provider := providerSuitability_perm python config alike.providers
  have summary := providerSuitabilitySummary_perm python config.providers alike.providers
  have referring := mean_perm (orZero_perm (alike.competitors.filterMap fun competitor =>
    competitor.referringDomains.map (Int.cast (R := ℚ))))
  have runs : Alike (fun s s' => s.outcome = s'.outcome) (score python config e) (score python config e') := by
    unfold score
    dsimp only
    rw [alike.market]
    refine (Checks.alike_of_eq demand).bind fun model _ same => ?_
    subst same
    refine (Checks.alike_of_eq cpc).bind fun averageCpc _ same => ?_
    subst same
    refine (Checks.alike_of_eq paid).bind fun averagePaid _ same => ?_
    subst same
    refine (Checks.alike_of_eq rfl).bind fun demand _ same => ?_
    subst same
    rw [intent, alike.scored.length_eq]
    refine (Checks.alike_of_eq rfl).bind fun commercial _ same => ?_
    subst same
    refine (Checks.alike_of_eq weakness).bind fun competitor _ same => ?_
    subst same
    refine organic.bind fun clicks clicks' same => ?_
    refine (Checks.alike_of_eq provider).bind fun provider _ both => ?_
    subst both
    rw [missingFields_alike alike model, same.2]
    refine (Checks.alike_of_eq rfl).bind fun completeness _ both => ?_
    subst both
    refine (Checks.alike_of_eq rfl).bind fun penalties _ both => ?_
    subst both
    refine (Checks.alike_of_eq referring).bind fun referring _ both => ?_
    subst both
    refine (Checks.alike_of_eq summary).bind fun summary _ both => ?_
    subst both
    refine (Checks.alike_of_eq (confidence_alike alike config _ model _)).bind fun level _ both => ?_
    subst both
    refine .ok ?_
    simp only [OpportunityScore.outcome, Components.toList, List.map_cons, List.map_nil, List.sum_cons, same.1,
      alike.assessmentType]
  exact (runs.map fun _ _ same => same).eq

end

/-! ## Where the order matters -/

/-- Equal outcomes have equal components. -/
theorem outcome_components {python : Python} {config : Config} {e e' : EvidenceSet} {s s' : OpportunityScore}
    (ran : score python config e = .ok s) (ran' : score python config e' = .ok s')
    (same : (score python config e).map OpportunityScore.outcome = (score python config e').map OpportunityScore.outcome) :
    s.components.competitorWeakness.score = s'.components.competitorWeakness.score ∧
      s.components.organicClickAvailability.score = s'.components.organicClickAvailability.score := by
  rw [ran, ran'] at same
  simp only [Except.map, OpportunityScore.outcome, Components.toList, List.map_cons, List.map_nil, Except.ok.injEq,
    Prod.mk.injEq, List.cons.injEq] at same
  exact ⟨same.2.1.2.2.1, same.2.1.2.2.2.1⟩

/-- Two pages, and metrics of one query that disagree on its volume. -/
def disputedPages : List SerpSnapshot :=
  [⟨"roof repair", 0, [], [⟨1, "organic", "directory"⟩]⟩, ⟨"plumber", 0, [], [⟨1, "organic", "local_provider"⟩]⟩]

def volumeMetric (keyword : String) (volume : ℤ) : KeywordMetric :=
  ⟨keyword, keyword, "transactional", some volume, none, none, [], "fixture", 0, "city", true⟩

def disputed (first second : ℤ) : EvidenceSet :=
  { roofing with
    metrics := [volumeMetric "roof repair" first, volumeMetric "roof repair" second, volumeMetric "plumber" 100]
    serpSnapshots := disputedPages }

theorem disputed_order :
    (disputed 100 10).Alike (disputed 10 100) ∧
      (score Evidence.asciiPython shipped (disputed 100 10)).map OpportunityScore.outcome ≠
        (score Evidence.asciiPython shipped (disputed 10 100)).map OpportunityScore.outcome := by
  constructor
  · exact ⟨.swap _ _ _, ⟨_, .refl _, List.forall₂_same.mpr fun s _ => ⟨s.results, .refl _, rfl⟩⟩, .refl _, .refl _, rfl,
      rfl, rfl, rfl⟩
  · intro same
    obtain ⟨s, ran⟩ := scored_of_named Evidence.asciiPython (e := disputed 100 10) (by norm_num [disputed, roofing]) (by decide)
    obtain ⟨s', ran'⟩ := scored_of_named Evidence.asciiPython (e := disputed 10 100) (by norm_num [disputed, roofing]) (by decide)
    obtain ⟨clicks, first, component⟩ := (score_ok ran).2
    obtain ⟨clicks', second, component'⟩ := (score_ok ran').2
    rw [organicClickAvailability_from] at first second
    cases first
    cases second
    have equal := (outcome_components ran ran' same).2
    rw [component, component'] at equal
    revert equal
    decide +kernel

/-- A row of a domain, with its own position, and with or without an observation at position 5. -/
def roofer (referring position : ℤ) (observed : Bool) : CompetitorMetric :=
  ⟨"", "roofer.example", some referring, none, none, "", [], none, some position,
    if observed then [⟨"roof repair", 5, "https://roofer.example/", 0⟩] else []⟩

/-- What rows with an observation become. -/
def settledRoofer (referring : ℤ) : CompetitorMetric :=
  { roofer referring 5 true with representativeQuery := some "roof repair" }

theorem roofer_domain (referring position : ℤ) (observed : Bool) :
    competitorDomain Evidence.asciiPython (roofer referring position observed) = .ok "roofer.example" := by
  have read : competitorDomain Evidence.asciiPython (roofer 0 0 true) = .ok "roofer.example" := by decide +kernel
  exact read

/-- Rows at one position. -/
theorem tied_rows (first second : ℤ) :
    uniqueDomainCompetitors Evidence.asciiPython [roofer first 2 false, roofer second 2 false] =
      .ok [roofer first 2 false] := by
  simp only [uniqueDomainCompetitors, List.foldlM_cons, List.foldlM_nil, addCompetitor, roofer_domain, bind,
    Except.bind, pure, Except.pure]
  simp [PyDict.setItem, mergeRows, mergeObservations, Evidence.sortObservations, Except.map, roofer, ahead]

/-- Only one row was observed. -/
theorem mixed_rows :
    uniqueDomainCompetitors Evidence.asciiPython [roofer 0 5 true, roofer 60 3 false, roofer 260 4 false] =
        .ok [settledRoofer 260] ∧
      uniqueDomainCompetitors Evidence.asciiPython [roofer 60 3 false, roofer 260 4 false, roofer 0 5 true] =
        .ok [settledRoofer 60] := by
  constructor
  all_goals
    simp only [uniqueDomainCompetitors, List.foldlM_cons, List.foldlM_nil, addCompetitor, roofer_domain, bind,
      Except.bind, pure, Except.pure]
    simp [PyDict.setItem, mergeRows, mergeObservations, Evidence.sortObservations, Except.map, roofer, ahead,
      settledRoofer]

/-- The rows do not stand at their observation. -/
theorem unplaced_rows :
    uniqueDomainCompetitors Evidence.asciiPython [roofer 0 1 true, roofer 60 3 true, roofer 260 4 true] =
        .ok [settledRoofer 260] ∧
      uniqueDomainCompetitors Evidence.asciiPython [roofer 0 1 true, roofer 260 4 true, roofer 60 3 true] =
        .ok [settledRoofer 60] := by
  constructor
  all_goals
    simp only [uniqueDomainCompetitors, List.foldlM_cons, List.foldlM_nil, addCompetitor, roofer_domain, bind,
      Except.bind, pure, Except.pure]
    simp [PyDict.setItem, mergeRows, mergeObservations, Evidence.sortObservations, Except.map, roofer, ahead,
      settledRoofer]

def ranked (competitors : List CompetitorMetric) : EvidenceSet := { roofing with competitors := competitors }

theorem ranked_order {competitors other rows rows' : List CompetitorMetric} (perm : competitors.Perm other)
    (named : ∀ c ∈ competitors, c.domain ≠ "")
    (first : uniqueDomainCompetitors Evidence.asciiPython competitors = .ok rows)
    (second : uniqueDomainCompetitors Evidence.asciiPython other = .ok rows')
    (apart : (weaknessFrom Evidence.asciiPython rows (roofing.metrics.filter (·.included))).score ≠
      (weaknessFrom Evidence.asciiPython rows' (roofing.metrics.filter (·.included))).score) :
    (ranked competitors).Alike (ranked other) ∧
      (score Evidence.asciiPython shipped (ranked competitors)).map OpportunityScore.outcome ≠
        (score Evidence.asciiPython shipped (ranked other)).map OpportunityScore.outcome := by
  constructor
  · exact ⟨.refl _, ⟨_, .refl _, List.forall₂_same.mpr fun s _ => ⟨s.results, .refl _, rfl⟩⟩, perm, .refl _, rfl,
      rfl, rfl, rfl⟩
  · intro same
    obtain ⟨s, ran⟩ := scored_of_named Evidence.asciiPython (e := ranked competitors) (by norm_num [ranked, roofing]) named
    obtain ⟨s', ran'⟩ := scored_of_named Evidence.asciiPython (e := ranked other) (by norm_num [ranked, roofing])
      fun c member => named c (perm.symm.subset member)
    have weak := (score_ok ran).1
    have weak' := (score_ok ran').1
    rw [competitorWeakness_eq] at weak weak'
    change (uniqueDomainCompetitors Evidence.asciiPython competitors).map _ = _ at weak
    change (uniqueDomainCompetitors Evidence.asciiPython other).map _ = _ at weak'
    rw [first] at weak
    rw [second] at weak'
    have equal := (outcome_components ran ran' same).1
    rw [← Except.ok.inj weak, ← Except.ok.inj weak'] at equal
    exact apart equal

/-- Metrics that disagree, rows at one position that disagree, rows of which only some were observed, and rows
that do not stand at their first observation: each time another order gives another score. -/
theorem order_matters :
    ((disputed 100 10).Alike (disputed 10 100) ∧
      (score Evidence.asciiPython shipped (disputed 100 10)).map OpportunityScore.outcome ≠
        (score Evidence.asciiPython shipped (disputed 10 100)).map OpportunityScore.outcome) ∧
    ∀ rows ∈ [([roofer 60 2 false, roofer 260 2 false], [roofer 260 2 false, roofer 60 2 false]),
        ([roofer 0 5 true, roofer 60 3 false, roofer 260 4 false], [roofer 60 3 false, roofer 260 4 false, roofer 0 5 true]),
        ([roofer 0 1 true, roofer 60 3 true, roofer 260 4 true], [roofer 0 1 true, roofer 260 4 true, roofer 60 3 true])],
      (ranked rows.1).Alike (ranked rows.2) ∧
        (score Evidence.asciiPython shipped (ranked rows.1)).map OpportunityScore.outcome ≠
          (score Evidence.asciiPython shipped (ranked rows.2)).map OpportunityScore.outcome := by
  refine ⟨disputed_order, ?_⟩
  intro rows member
  simp only [List.mem_cons, List.not_mem_nil, or_false] at member
  rcases member with rfl | rfl | rfl
  · exact ranked_order (.swap _ _ _) (by simp [roofer]) (tied_rows 60 260) (tied_rows 260 60) (by decide +kernel)
  · exact ranked_order (@List.perm_append_comm _ [_] [_, _]) (by simp [roofer]) mixed_rows.1 mixed_rows.2
      (by decide +kernel)
  · exact ranked_order (.cons _ (.swap _ _ _)) (by simp [roofer]) unplaced_rows.1 unplaced_rows.2 (by decide +kernel)

theorem score_any_order_rows :
    (score Evidence.asciiPython shipped (ranked [roofer 60 2 false, roofer 90 3 false])).map OpportunityScore.outcome =
      (score Evidence.asciiPython shipped (ranked [roofer 90 3 false, roofer 60 2 false])).map OpportunityScore.outcome := by
  refine score_any_order Evidence.asciiPython shipped ⟨?_, ?_⟩ ⟨.refl _, ⟨_, .refl _, ?_⟩, .swap _ _ _, .refl _, rfl, rfl,
    rfl, rfl⟩
  · intro query _ m member m' member' _ _ _ _
    rw [List.mem_singleton.mp member, List.mem_singleton.mp member']
    exact ⟨rfl, rfl⟩
  · refine List.pairwise_pair.mpr fun _ => ⟨Or.inl ⟨rfl, rfl⟩, fun same => ?_⟩
    exact absurd same (by decide)
  · exact List.forall₂_same.mpr fun s _ => ⟨s.results, .refl _, rfl⟩

end RankRent.Scoring
