import Mathlib.Data.List.Sort
import RankRent.Evidence.KeywordPlans
import RankRent.Evidence.Totality
import RankRent.Library.Checks

/-!
# Clusters of keyword metrics

`rank_and_cluster_keyword_metrics` keeps every metric in one cluster, rates a cluster by
its highest volume and decides once on each metric, whatever the similarity of keys and
whatever the order that scores which are no numbers come out in.
-/

namespace RankRent.Evidence

/-- `sorted(values, key=key, reverse=True)`: a permutation, which goes down where every
key is a number. -/
structure SortsDown (ranker : Ranker) : Prop where
  perm (entries : List (KeywordMetric × PyFloat)) : (ranker.sortDown entries).Perm entries
  ordered (entries : List (KeywordMetric × PyFloat)) (numbers : ∀ entry ∈ entries, entry.2 ≠ .nan) :
    (ranker.sortDown entries).Pairwise fun a b => PyFloat.lt a.2 b.2 = false

/-- A ranker that puts NaN last; two texts are like each other when they are equal. -/
def plainRanker : Ranker where
  ratio a b := .finite (if a = b then 1 else 0)
  sortDown := List.insertionSort fun a b => a.2.atLeast b.2 = true
  floatText := PyFloat.fixed1

theorem sortsDown_plainRanker : SortsDown plainRanker where
  perm entries := List.perm_insertionSort _ entries
  ordered entries numbers := by
    have total : Std.Total fun a b : KeywordMetric × PyFloat => a.2.atLeast b.2 = true :=
      ⟨fun a b => PyFloat.atLeast_total a.2 b.2⟩
    have trans : IsTrans _ fun a b : KeywordMetric × PyFloat => a.2.atLeast b.2 = true :=
      ⟨fun _ _ _ => PyFloat.atLeast_trans⟩
    have sorted := List.pairwise_insertionSort
      (fun a b : KeywordMetric × PyFloat => a.2.atLeast b.2 = true) entries
    refine sorted.imp_of_mem fun {a b} inA _ above => ?_
    exact PyFloat.lt_of_atLeast (numbers a ((List.mem_insertionSort _).mp inA)) above

/-- A metric without its volume and its inclusion. -/
def KeywordMetric.bare (metric : KeywordMetric) : KeywordMetric :=
  { metric with searchVolume := none, included := false, excludedReason := none }

/-- A cluster of a group, and its scoring metric. -/
structure PartOf (group : List KeywordMetric) (part : KeywordCluster × KeywordMetric) : Prop where
  keywords : part.1.keywords.Perm (group.map KeywordMetric.keyword)
  representative : part.1.representativeKeyword = part.2.keyword
  member : part.2.bare ∈ group.map KeywordMetric.bare
  volume : part.1.combinedVolume = part.2.searchVolume
  attained : ∃ metric ∈ group, part.2.searchVolume = some metric.volume
  highest : ∀ metric ∈ group, metric.volume ≤ part.2.volume

/-- A decision on a metric of a plan. -/
structure Decides (metric : KeywordMetric) (decision : KeywordDecision) : Prop where
  keyword : decision.keyword = metric.keyword
  volume : decision.searchVolume = metric.searchVolume
  kind : if metric.included then
      decision.decision = "representative" ∨ decision.decision = "included_scoring"
    else decision.decision = "grouped_variant"

/-- What a plan makes of its metrics. -/
structure MetricsPlanned (python : Python) (metrics : List KeywordMetric)
    (service : Research.ServiceFamily) (market : Market) (selectedLimit : ℤ)
    (existingDecisions : List KeywordDecision) (plan : KeywordMetricPlan) : Prop where
  kept : (plan.metrics.map KeywordMetric.bare).Perm (metrics.map KeywordMetric.bare)
  clustered : ∃ (groups : List (List KeywordMetric)) (parts : List (KeywordCluster × KeywordMetric)),
    groups.flatten.Perm metrics ∧ List.Forall₂ PartOf groups parts ∧
      plan.clusters.Perm (parts.map Prod.fst) ∧ plan.scoringMetrics.Perm (parts.map Prod.snd)
  bounded : (∀ metric ∈ metrics, 0 ≤ metric.volume) →
    (plan.scoringMetrics.map KeywordMetric.volume).sum ≤ (metrics.map KeywordMetric.volume).sum
  selected : plan.selectedSerpKeywords = (plan.scoringMetrics.map KeywordMetric.keyword).take
    (min selectedLimit.toNat plan.clusters.length)
  ordered : (∀ metric ∈ plan.scoringMetrics, metricValueScore python service market metric ≠ .ok .nan) →
    plan.scoringMetrics.Pairwise fun a b => ∀ s t, metricValueScore python service market a = .ok s →
      metricValueScore python service market b = .ok t → PyFloat.lt s t = false
  decided : ∃ decisions, plan.decisions = existingDecisions ++ decisions ∧
    ∃ order, order.Perm plan.metrics ∧ List.Forall₂ Decides order decisions

section
variable {python : Python} {ranker : Ranker} {service : Research.ServiceFamily} {market : Market}

/-! ## Grouping -/

theorem groupMetrics_spec (python : Python) (ranker : Ranker) (market : Market)
    (metrics : List KeywordMetric) :
    ((groupMetrics python ranker market metrics).flatMap Prod.snd).Perm metrics ∧
      ∀ group ∈ groupMetrics python ranker market metrics, group.2 ≠ [] := by
  have general : ∀ (metrics : List KeywordMetric) (grouped : List (String × List KeywordMetric)),
      (grouped.map Prod.fst).Nodup → (∀ group ∈ grouped, group.2 ≠ []) →
      let after := metrics.foldl (fun grouped metric =>
        PyDict.appendTo grouped (slot ranker (grouped.map Prod.fst)
          (clusterKey python metric.name market)) metric) grouped
      (after.flatMap Prod.snd).Perm (grouped.flatMap Prod.snd ++ metrics) ∧
        ∀ group ∈ after, group.2 ≠ [] := by
    intro metrics
    induction metrics with
    | nil => intro grouped _ filled; exact ⟨by simp, filled⟩
    | cons metric rest ih =>
      intro grouped distinct filled after
      obtain ⟨perm, kept⟩ := ih _ (PyDict.nodup_appendTo distinct (slot ranker (grouped.map Prod.fst)
        (clusterKey python metric.name market)) metric) (by
          intro group member
          rcases PyDict.mem_setItem member with rfl | old
          · simp
          · exact filled group old)
      refine ⟨perm.trans ?_, kept⟩
      have added := (PyDict.appendTo_perm distinct (slot ranker (grouped.map Prod.fst)
        (clusterKey python metric.name market)) metric).append_right rest
      simpa using added
  obtain ⟨perm, filled⟩ := general metrics [] List.nodup_nil (by simp)
  exact ⟨by simpa [groupMetrics] using perm, filled⟩

/-! ## Ranking -/

theorem byValue_spec (sorts : SortsDown ranker) {metrics : List KeywordMetric}
    {ranked : List (KeywordMetric × PyFloat)}
    (ran : byValue python ranker service market metrics = .ok ranked) :
    (ranked.map Prod.fst).Perm metrics ∧
      (∀ entry ∈ ranked, metricValueScore python service market entry.1 = .ok entry.2) ∧
      ((∀ entry ∈ ranked, entry.2 ≠ .nan) →
        ranked.Pairwise fun a b => PyFloat.lt a.2 b.2 = false) := by
  unfold byValue at ran
  cases scored : metrics.mapM fun metric =>
      (metricValueScore python service market metric).map (metric, ·) with
  | error e =>
    rw [scored] at ran
    cases ran
  | ok entries =>
    rw [scored] at ran
    cases ran
    have each := Checks.mapM_forall₂ scored
    have names : entries.map Prod.fst = metrics ∧
        ∀ entry ∈ entries, metricValueScore python service market entry.1 = .ok entry.2 := by
      clear scored
      induction each with
      | nil => exact ⟨rfl, by simp⟩
      | @cons metric entry _ _ read _ ih =>
        cases score : metricValueScore python service market metric with
        | error e =>
          rw [score] at read
          cases read
        | ok value =>
          rw [score] at read
          cases read
          refine ⟨by rw [List.map_cons, ih.1], fun other member => ?_⟩
          rcases List.mem_cons.mp member with rfl | later
          · exact score
          · exact ih.2 other later
    have perm := sorts.perm entries
    refine ⟨names.1 ▸ perm.map Prod.fst, fun entry member => names.2 entry (perm.mem_iff.mp member), ?_⟩
    intro numbers
    exact sorts.ordered entries fun entry member => numbers entry (perm.mem_iff.mpr member)

/-! ## Clusters -/

/-- What one round of the loop makes of a group. -/
structure RunOf (group : List KeywordMetric) (run : ClusterRun) : Prop where
  members : (run.scoring.bare :: run.grouped.map KeywordMetric.bare).Perm
    (group.map KeywordMetric.bare)
  part : PartOf group (run.cluster, run.scoring)
  scoring : run.scoring.included = true
  grouped : ∀ metric ∈ run.grouped, metric.included = false
  decided : List.Forall₂ Decides run.grouped run.decisions

theorem bare_update (metric : KeywordMetric) (volume : Option ℤ) (included : Bool)
    (reason : Option String) :
    KeywordMetric.bare { metric with
      searchVolume := volume, included := included, excludedReason := reason } = metric.bare := rfl

/-- The highest volume of a cluster is that of one of its metrics. -/
theorem clusterVolume_spec (cluster : List KeywordMetric) (some : cluster ≠ []) :
    (∃ metric ∈ cluster, clusterVolume cluster = metric.volume) ∧
      ∀ metric ∈ cluster, metric.volume ≤ clusterVolume cluster := by
  unfold clusterVolume
  cases high : (cluster.map KeywordMetric.volume).max? with
  | none => simp [some] at high
  | some volume =>
    obtain ⟨there, above⟩ := List.max?_eq_some_iff.mp high
    obtain ⟨metric, member, same⟩ := List.mem_map.mp there
    exact ⟨⟨metric, member, same.symm⟩, fun other listed => above _ (List.mem_map_of_mem listed)⟩

theorem rankedRun_spec (python : Python) {group : List KeywordMetric} {ranked : List (KeywordMetric × PyFloat)}
    (perm : (ranked.map Prod.fst).Perm group) (some : group ≠ []) :
    ∃ run, rankedRun python ranked = .some run ∧ RunOf group run := by
  cases ranked with
  | nil => exact absurd perm.symm.eq_nil some
  | cons first duplicates =>
    refine ⟨_, rfl, ?_, ?_, rfl, ?_, ?_⟩
    · have bare := perm.map KeywordMetric.bare
      simpa [List.map_map, Function.comp_def, bare_update] using bare
    · obtain ⟨⟨metric, listed, attained⟩, highest⟩ :=
        clusterVolume_spec ((first :: duplicates).map Prod.fst) (by simp)
      constructor
      · simpa [List.map_map, Function.comp_def] using perm.map KeywordMetric.keyword
      · rfl
      · exact (perm.map KeywordMetric.bare).subset List.mem_cons_self
      · rfl
      · exact ⟨metric, perm.subset listed, congrArg Option.some attained⟩
      · exact fun other member => highest other (perm.symm.subset member)
    · intro metric member
      obtain ⟨duplicate, -, rfl⟩ := List.mem_map.mp member
      rfl
    · rw [List.forall₂_map_left_iff, List.forall₂_map_right_iff, List.forall₂_same]
      intro duplicate _
      exact ⟨rfl, rfl, by simp [groupedDecision]⟩

theorem clusterRuns_spec (sorts : SortsDown ranker) {groups : List (String × List KeywordMetric)}
    (filled : ∀ group ∈ groups, group.2 ≠ []) {runs : List ClusterRun}
    (ran : clusterRuns python ranker service market groups = .ok runs) :
    List.Forall₂ RunOf (groups.map Prod.snd) runs := by
  unfold clusterRuns at ran
  cases ranked : groups.mapM fun group => byValue python ranker service market group.2 with
  | error e =>
    rw [ranked] at ran
    cases ran
  | ok lists =>
    rw [ranked] at ran
    cases ran
    have each := Checks.mapM_forall₂ ranked
    clear ranked
    induction each with
    | nil => exact .nil
    | @cons group list _ _ read _ ih =>
      obtain ⟨run, made, spec⟩ := rankedRun_spec python (byValue_spec sorts read).1
        (filled group List.mem_cons_self)
      dsimp only
      rw [List.map_cons, List.filterMap_cons, made]
      exact .cons spec (ih fun other member => filled other (List.mem_cons_of_mem group member))

theorem members_perm {groups : List (List KeywordMetric)} {runs : List ClusterRun}
    (each : List.Forall₂ RunOf groups runs) :
    (((runs.map ClusterRun.scoring).map KeywordMetric.bare) ++
      (runs.flatMap ClusterRun.grouped).map KeywordMetric.bare).Perm
      (groups.flatten.map KeywordMetric.bare) := by
  induction each with
  | nil => exact .nil
  | @cons group run _ runs spec _ ih =>
    simp only [List.map_cons, List.flatMap_cons, List.map_append, List.flatten_cons, List.cons_append]
    have moved : (run.scoring.bare :: ((runs.map ClusterRun.scoring).map KeywordMetric.bare ++
        (run.grouped.map KeywordMetric.bare ++
          (runs.flatMap ClusterRun.grouped).map KeywordMetric.bare))).Perm
        ((run.scoring.bare :: run.grouped.map KeywordMetric.bare) ++
          ((runs.map ClusterRun.scoring).map KeywordMetric.bare ++
            (runs.flatMap ClusterRun.grouped).map KeywordMetric.bare)) := by
      rw [List.cons_append, List.perm_cons, ← List.append_assoc, ← List.append_assoc]
      exact List.perm_append_comm.append_right _
    exact moved.trans (spec.members.append ih)

/-- A cluster counts its highest volume, which its metrics have between them. -/
theorem volumes_le {groups : List (List KeywordMetric)} {runs : List ClusterRun}
    (each : List.Forall₂ RunOf groups runs)
    (positive : ∀ metric ∈ groups.flatten, 0 ≤ metric.volume) :
    (runs.map fun run => run.scoring.volume).sum ≤ (groups.flatten.map KeywordMetric.volume).sum := by
  induction each with
  | nil => simp
  | @cons group run groups runs spec _ ih =>
    simp only [List.flatten_cons, List.mem_append] at positive
    have rest := ih fun metric member => positive metric (.inr member)
    obtain ⟨metric, member, attained⟩ := spec.part.attained
    have volume : run.scoring.volume = metric.volume := by
      rw [KeywordMetric.volume, attained]
      rfl
    have within : metric.volume ≤ (group.map KeywordMetric.volume).sum :=
      List.single_le_sum (by
        intro other listed
        obtain ⟨one, there, rfl⟩ := List.mem_map.mp listed
        exact positive one (.inl there)) _ (List.mem_map_of_mem member)
    simp only [List.map_cons, List.sum_cons, List.flatten_cons, List.map_append, List.sum_append]
    omega

/-- A scoring metric has the volume of one of the metrics. -/
theorem scoring_attained {groups : List (List KeywordMetric)} {runs : List ClusterRun}
    (each : List.Forall₂ RunOf groups runs) {run : ClusterRun} (member : run ∈ runs) :
    ∃ metric ∈ groups.flatten, run.scoring.volume = metric.volume := by
  induction each with
  | nil => cases member
  | @cons group first groups runs spec _ ih =>
    rcases List.mem_cons.mp member with rfl | later
    · obtain ⟨metric, inside, attained⟩ := spec.part.attained
      dsimp only at attained
      refine ⟨metric, List.mem_append_left _ inside, ?_⟩
      rw [KeywordMetric.volume, attained]
      rfl
    · obtain ⟨metric, inside, same⟩ := ih later
      exact ⟨metric, List.mem_append_right group inside, same⟩

theorem decisions_forall₂ {groups : List (List KeywordMetric)} {runs : List ClusterRun}
    (each : List.Forall₂ RunOf groups runs) :
    List.Forall₂ Decides (runs.flatMap ClusterRun.grouped) (runs.flatMap ClusterRun.decisions) := by
  induction each with
  | nil => exact .nil
  | cons spec _ ih =>
    rw [List.flatMap_cons, List.flatMap_cons]
    exact List.rel_append spec.decided ih

theorem scoringDecision_decides (ranked : List (KeywordMetric × PyFloat)) (selected : List String) :
    List.Forall₂ Decides ((ranked.map Prod.fst).map fun metric => { metric with included := true })
      (ranked.zipIdx.map (scoringDecision python ranker selected)) := by
  have names : (ranked.map Prod.fst).map (fun metric => { metric with included := true }) =
      ranked.zipIdx.map fun entry => { entry.1.1 with included := true } := by
    conv_lhs => rw [← List.zipIdx_map_fst 0 ranked]
    simp only [List.map_map]
    rfl
  rw [names, List.forall₂_map_left_iff, List.forall₂_map_right_iff, List.forall₂_same]
  intro entry _
  refine ⟨rfl, rfl, ?_⟩
  by_cases chosen : entry.1.1.keyword ∈ selected <;> simp [scoringDecision, chosen]

theorem metrics_planned (sorts : SortsDown ranker) {metrics : List KeywordMetric} {selectedLimit : ℤ}
    {existing : List KeywordDecision} {plan : KeywordMetricPlan}
    (ran : rankAndClusterKeywordMetrics python ranker metrics service market selectedLimit existing =
      .ok plan) :
    MetricsPlanned python metrics service market selectedLimit existing plan := by
  unfold rankAndClusterKeywordMetrics at ran
  cases clustered : clusterRuns python ranker service market
      (groupMetrics python ranker market metrics) with
  | error e =>
    rw [clustered] at ran
    cases ran
  | ok runs =>
    rw [clustered] at ran
    simp only [Except.bind] at ran
    cases rated : byValue python ranker service market (runs.map ClusterRun.scoring) with
    | error e =>
      rw [rated] at ran
      cases ran
    | ok ranked =>
      rw [rated] at ran
      cases ran
      obtain ⟨grouped, filled⟩ := groupMetrics_spec python ranker market metrics
      have each := clusterRuns_spec sorts filled clustered
      have flat : ((groupMetrics python ranker market metrics).map Prod.snd).flatten.Perm metrics := by
        rwa [← List.flatMap_def]
      obtain ⟨perm, scores, down⟩ := byValue_spec sorts rated
      constructor
      · have bare : ((ranked.map Prod.fst).map fun metric => { metric with included := true }).map
            KeywordMetric.bare = (ranked.map Prod.fst).map KeywordMetric.bare := by
          simp [Function.comp_def, KeywordMetric.bare]
        rw [List.map_append, bare]
        have first := (perm.map KeywordMetric.bare).append_right
          ((runs.flatMap ClusterRun.grouped).map KeywordMetric.bare)
        exact (first.trans (members_perm each)).trans (flat.map KeywordMetric.bare)
      · refine ⟨_, runs.map fun run => (run.cluster, run.scoring), flat, ?_, ?_, ?_⟩
        · exact List.forall₂_map_right_iff.mpr (each.imp fun _ _ spec => spec.part)
        · rw [List.map_map]
          exact List.mergeSort_perm _ _
        · rw [List.map_map]
          exact perm
      · intro positive
        have total := (perm.map KeywordMetric.volume).sum_eq
        rw [total, List.map_map, ← (flat.map KeywordMetric.volume).sum_eq]
        exact volumes_le each fun metric member => positive metric (flat.subset member)
      · have size : ((runs.map ClusterRun.cluster).mergeSort fun a b =>
            decide (a.representativeKeyword ≤ b.representativeKeyword)).length =
            (ranked.map Prod.fst).length := by
          rw [List.length_mergeSort, perm.length_eq, List.length_map, List.length_map]
        dsimp only
        rw [size, List.map_take, ← List.length_map KeywordMetric.keyword, ← List.take_eq_take_min]
      · intro numbers
        have pairs := down fun entry member nan => numbers entry.1 (List.mem_map_of_mem member)
          (nan ▸ scores entry member)
        rw [List.pairwise_map]
        refine pairs.imp_of_mem fun {a b} inA inB below s t scoreA scoreB => ?_
        rw [scores a inA] at scoreA
        rw [scores b inB] at scoreB
        cases scoreA
        cases scoreB
        exact below
      · refine ⟨_, List.append_assoc .., _, List.perm_append_comm, ?_⟩
        exact List.rel_append (decisions_forall₂ each) (scoringDecision_decides ranked _)

/-! ## When it returns -/

/-- A thousandth of the volume is no overflow. -/
def Fits (metric : KeywordMetric) : Prop := |(metric.volume : ℚ) / 1000| < 2 ^ 1024 - 2 ^ 970

theorem metricValueScore_isOk (metric : KeywordMetric) :
    (metricValueScore python service market metric).isOk = true ↔ Fits metric := by
  unfold metricValueScore
  dsimp only
  rw [Checks.isOk_map]
  unfold divide PyFloat.ofRat Fits
  push_cast
  by_cases large : 2 ^ 1024 - 2 ^ 970 ≤ |(metric.volume : ℚ) / 1000|
  · rw [if_pos large]
    simp only [Except.isOk, Except.toBool, Bool.false_eq_true, false_iff, not_lt]
    exact large
  · rw [if_neg large]
    simp only [Except.isOk, Except.toBool, true_iff]
    exact not_le.mp large

theorem byValue_isOk (metrics : List KeywordMetric) :
    (byValue python ranker service market metrics).isOk = true ↔ ∀ metric ∈ metrics, Fits metric := by
  unfold byValue
  rw [Checks.isOk_map, Checks.mapM_isOk]
  simp only [Checks.isOk_map, metricValueScore_isOk]

/-- It returns exactly when no volume overflows. -/
theorem rankAndCluster_isOk (sorts : SortsDown ranker) (metrics : List KeywordMetric)
    (selectedLimit : ℤ) (existing : List KeywordDecision) :
    (rankAndClusterKeywordMetrics python ranker metrics service market selectedLimit
      existing).isOk = true ↔ ∀ metric ∈ metrics, Fits metric := by
  obtain ⟨grouped, filled⟩ := groupMetrics_spec python ranker market metrics
  have clusters : (clusterRuns python ranker service market
      (groupMetrics python ranker market metrics)).isOk = true ↔ ∀ metric ∈ metrics, Fits metric := by
    unfold clusterRuns
    rw [Checks.isOk_map, Checks.mapM_isOk]
    simp only [byValue_isOk]
    constructor
    · intro each metric member
      obtain ⟨group, listed, inside⟩ := List.mem_flatMap.mp (grouped.symm.subset member)
      exact each group listed metric inside
    · intro all group listed metric inside
      exact all metric (grouped.subset (List.mem_flatMap.mpr ⟨group, listed, inside⟩))
  rw [← clusters]
  unfold rankAndClusterKeywordMetrics
  cases ran : clusterRuns python ranker service market (groupMetrics python ranker market metrics) with
  | error e => rfl
  | ok runs =>
    have each := clusterRuns_spec sorts filled ran
    have all : ∀ metric ∈ metrics, Fits metric := clusters.mp (by rw [ran]; rfl)
    have scoring : ∀ metric ∈ runs.map ClusterRun.scoring, Fits metric := by
      intro metric member
      obtain ⟨run, listed, rfl⟩ := List.mem_map.mp member
      obtain ⟨other, inside, same⟩ := scoring_attained each listed
      have fits := all other (grouped.subset (by rwa [List.flatMap_def]))
      rwa [Fits, same]
    simp only [Except.bind, Checks.isOk_map, (byValue_isOk _).mpr scoring]
    simp [Except.isOk, Except.toBool]

end

/-- The plans of `services/keywords.py`: `plan_keyword_candidates` for every list of
candidates and of negative terms, and `rank_and_cluster_keyword_metrics` for every list of
metrics, service, market, limit and list of earlier decisions. -/
theorem keywords_planned (python : Python) (ranker : Ranker) (sorts : SortsDown ranker) :
    (∀ candidates negativeTerms, CandidatesPlanned python candidates negativeTerms
      (planKeywordCandidates python candidates negativeTerms)) ∧
    ∀ metrics service market selectedLimit existing,
      ((rankAndClusterKeywordMetrics python ranker metrics service market selectedLimit
        existing).isOk = true ↔ ∀ metric ∈ metrics, Fits metric) ∧
      ∀ plan, rankAndClusterKeywordMetrics python ranker metrics service market selectedLimit existing =
        .ok plan → MetricsPlanned python metrics service market selectedLimit existing plan := by
  refine ⟨candidates_planned, fun metrics service market selectedLimit existing => ⟨?_, ?_⟩⟩
  · exact rankAndCluster_isOk sorts metrics selectedLimit existing
  · exact fun plan ran => metrics_planned sorts ran

def roofRepair : KeywordMetric :=
  ⟨"roof repair", "roof repair", "transactional", some 90, none, none, [], "dataforseo", 0, "city", true,
    none⟩

def roofing : Research.ServiceFamily := ⟨"Roof repair", ["roof repair"], [], [], [], []⟩

theorem keywords_planned_roofRepair : ∃ plan,
    rankAndClusterKeywordMetrics asciiPython plainRanker [roofRepair, roofRepair] roofing miami 1 [] =
      .ok plan ∧
    MetricsPlanned asciiPython [roofRepair, roofRepair] roofing miami 1 [] plan ∧
    CandidatesPlanned asciiPython [] ["jobs"] (planKeywordCandidates asciiPython [] ["jobs"]) := by
  obtain ⟨candidates, metrics⟩ := keywords_planned asciiPython plainRanker sortsDown_plainRanker
  obtain ⟨returns, planned⟩ := metrics [roofRepair, roofRepair] roofing miami 1 []
  have fits : Fits roofRepair := by
    unfold Fits
    decide +kernel
  obtain ⟨plan, ran⟩ := Checks.of_isOk (returns.mpr (by simp [fits]))
  exact ⟨plan, ran, planned plan ran, candidates [] ["jobs"]⟩

/-- A metric that comes twice: its keyword is decided on twice, and one copy is given a
reason to be left out. -/
theorem roofRepair_twice : ∃ plan,
    rankAndClusterKeywordMetrics asciiPython plainRanker [roofRepair, roofRepair] roofing miami 1 [] =
      .ok plan ∧
    plan.decisions.map KeywordDecision.keyword = ["roof repair", "roof repair"] ∧
    ¬ (plan.metrics.map fun metric => { metric with searchVolume := none, included := false }).Perm
      ([roofRepair, roofRepair].map fun metric =>
        { metric with searchVolume := none, included := false }) := by
  have outcome : (rankAndClusterKeywordMetrics asciiPython plainRanker [roofRepair, roofRepair] roofing
      miami 1 []).map (fun plan => (plan.decisions.map KeywordDecision.keyword,
        plan.metrics.map KeywordMetric.excludedReason)) =
      .ok (["roof repair", "roof repair"], [none, some "grouped_with:roof repair"]) := by
    decide +kernel
  cases ran : rankAndClusterKeywordMetrics asciiPython plainRanker [roofRepair, roofRepair] roofing
      miami 1 [] with
  | error e =>
    rw [ran] at outcome
    cases outcome
  | ok plan =>
    rw [ran] at outcome
    simp only [Except.map, Except.ok.injEq, Prod.mk.injEq] at outcome
    refine ⟨plan, rfl, outcome.1, fun perm => ?_⟩
    have reasons := perm.map KeywordMetric.excludedReason
    simp only [List.map_map, Function.comp_def] at reasons
    have listed := reasons.subset (outcome.2 ▸ List.mem_cons_of_mem _ List.mem_cons_self :
      some "grouped_with:roof repair" ∈ plan.metrics.map KeywordMetric.excludedReason)
    simp [roofRepair] at listed

end RankRent.Evidence
