import RankRent.Evidence.Competitors
import RankRent.Evidence.Totality
import RankRent.Library.Descents

/-!
# Competitor evidence and its results pages

Three functions name the domain of a competitor: the observations by the domain of a
result, the summary by the host of the chosen URL, and the join by that host in lower
case. What is chosen comes back to its observations exactly when the first and the
third agree on it.
-/

namespace RankRent.Evidence

/-! ## Groups -/

/-- The groups of `_serp_observations_by_domain`. -/
structure Grouped.Good (byDomain : Grouped) : Prop where
  distinct : (byDomain.map Prod.fst).Nodup
  named : ∀ group ∈ byDomain, group.1 ≠ ""
  filled : ∀ group ∈ byDomain, group.2 ≠ []

section
variable {python : Python}

theorem collect_good {state next : Collected} {row : SerpSnapshot × SerpResult}
    (ran : collect python state row = .ok next) (good : state.byDomain.Good) : next.byDomain.Good := by
  unfold collect at ran
  dsimp only at ran
  split at ran
  · cases ran
    exact good
  · cases domain : joinDomain python row.2.domain row.2.url with
    | error e =>
      rw [domain] at ran
      cases ran
    | ok domain =>
      rw [domain] at ran
      simp only [Except.bind] at ran
      split at ran
      · cases ran
        exact good
      · rename_i fresh
        split at ran
        · cases ran
        · cases ran
          refine ⟨PyDict.nodup_appendTo good.distinct _ _, ?_, ?_⟩
          · intro group member
            rcases PyDict.mem_setItem member with rfl | old
            · exact fun empty => fresh (.inl empty)
            · exact good.named group old
          · intro group member
            rcases PyDict.mem_setItem member with rfl | old
            · simp
            · exact good.filled group old

theorem serpObservationsByDomain_good {snapshots : List SerpSnapshot} {byDomain : Grouped}
    (found : serpObservationsByDomain python snapshots = .ok byDomain) : byDomain.Good := by
  unfold serpObservationsByDomain at found
  dsimp only at found
  cases ran : (snapshots.flatMap fun snapshot => snapshot.results.map fun result =>
      (snapshot, result)).foldlM (collect python) ⟨[], []⟩ with
  | error e =>
    rw [ran] at found
    cases found
  | ok state =>
    rw [ran] at found
    cases found
    have good : state.byDomain.Good :=
      Checks.foldlM_keeps (fun state => state.byDomain.Good) collect_good ran
        ⟨List.nodup_nil, by simp, by simp⟩
    refine ⟨by simpa [Function.comp_def] using good.distinct, ?_, ?_⟩
    · intro group member
      obtain ⟨old, there, rfl⟩ := List.mem_map.mp member
      exact good.named old there
    · intro group member
      obtain ⟨old, there, rfl⟩ := List.mem_map.mp member
      intro empty
      have size := congrArg List.length empty
      rw [sortObservations, List.length_mergeSort] at size
      exact good.filled old there (List.length_eq_zero_iff.mp size)

end

/-! ## What is chosen -/

/-- The representative of each domain. -/
def Grouped.representatives (byDomain : Grouped) : List (String × Observation) :=
  byDomain.filterMap fun group => (group.2.argmin Observation.key).map (group.1, ·)

/-- The representatives in order, up to the limit. -/
def Grouped.selected (byDomain : Grouped) (limit : ℤ) : List (String × Observation) :=
  upTo limit (byDomain.representatives.mergeSort fun a b => decide (a.2.key ≤ b.2.key))

/-- The domains `select_competitor_urls` chooses, each with the observation it is chosen for. -/
def selectedDomains (python : Python) (snapshots : List SerpSnapshot) (limit : ℤ) :
    Except WorkerError (List (String × Observation)) :=
  (serpObservationsByDomain python snapshots).map fun byDomain => byDomain.selected limit

theorem upTo_map {α β : Type} (limit : ℤ) (f : α → β) (values : List α) :
    (upTo limit values).map f = upTo limit (values.map f) := by
  unfold upTo
  split <;> simp

theorem upTo_sublist {α : Type} (limit : ℤ) (values : List α) : (upTo limit values).Sublist values := by
  unfold upTo
  split <;> exact List.take_sublist _ _

/-- The URLs are those of the observations. -/
theorem selectCompetitorUrls_eq (python : Python) (snapshots : List SerpSnapshot) (limit : ℤ) :
    selectCompetitorUrls python snapshots limit =
      (selectedDomains python snapshots limit).map fun selected =>
        selected.map fun entry => entry.2.url := by
  unfold selectCompetitorUrls selectedDomains
  cases serpObservationsByDomain python snapshots with
  | error e => rfl
  | ok byDomain =>
    have observations : (byDomain.filterMap fun group => group.2.argmin Observation.key) =
        byDomain.representatives.map Prod.snd := by
      rw [Grouped.representatives, List.map_filterMap]
      exact List.filterMap_congr fun group _ => by simp
    have sorted : sortObservations (byDomain.representatives.map Prod.snd) =
        (byDomain.representatives.mergeSort fun a b => decide (a.2.key ≤ b.2.key)).map Prod.snd :=
      (List.map_mergeSort (f := Prod.snd) (s := fun a b : Observation => decide (a.key ≤ b.key))
        fun _ _ _ _ => rfl).symm
    simp only [Except.map, observations, sorted, Grouped.selected, ← upTo_map, List.map_map]
    rfl

section
variable {byDomain : Grouped} {limit : ℤ}

theorem Grouped.mem_selected {entry : String × Observation}
    (member : entry ∈ byDomain.selected limit) :
    ∃ observations, (entry.1, observations) ∈ byDomain ∧
      entry.2 ∈ observations.argmin Observation.key := by
  have there := (upTo_sublist limit _).subset member
  rw [List.mem_mergeSort, Grouped.representatives, List.mem_filterMap] at there
  obtain ⟨group, listed, chosen⟩ := there
  obtain ⟨observation, least, rfl⟩ := Option.map_eq_some_iff.mp chosen
  exact ⟨group.2, listed, least⟩

theorem Grouped.Good.selected_nodup (good : byDomain.Good) (limit : ℤ) :
    ((byDomain.selected limit).map Prod.fst).Nodup := by
  have keys : (byDomain.representatives.map Prod.fst).Sublist (byDomain.map Prod.fst) := by
    rw [Grouped.representatives, List.map_filterMap]
    have heads : (byDomain.filterMap fun group =>
        ((group.2.argmin Observation.key).map (group.1, ·)).map Prod.fst) =
        (byDomain.filter fun group => (group.2.argmin Observation.key).isSome).map Prod.fst := by
      rw [← List.filterMap_eq_map, ← List.filterMap_eq_filter, List.filterMap_filterMap]
      refine List.filterMap_congr fun group _ => ?_
      cases found : group.2.argmin Observation.key <;> simp [Option.guard, found]
    rw [heads]
    exact List.filter_sublist.map _
  have sorted : ((byDomain.representatives.mergeSort fun a b => decide (a.2.key ≤ b.2.key)).map
      Prod.fst).Nodup :=
    ((List.mergeSort_perm _ _).map _).nodup_iff.mpr (good.distinct.sublist keys)
  exact sorted.sublist ((upTo_sublist limit _).map _)

end

/-! ## Metrics and their enrichment -/

section
variable {python : Python} {now : DateTime} {post : String → Fields}

theorem competitor_names {url target : String} {payload : Fields} {metric : CompetitorMetric}
    (read : competitor python url target now payload = .ok metric) :
    metric.url = url ∧ metric.domain = target := by
  unfold competitor at read
  split at read
  · cases read
  · dsimp only at read
    split at read
    · cases read
    · split at read
      · cases read
      · cases read
        exact ⟨rfl, rfl⟩

/-- What the loop of `get_competitor_metrics` returns: each metric is of a URL and of its
target, which was not asked for before. -/
theorem competitorsAfter_metrics {seen urls : List String} {metrics : List CompetitorMetric}
    (read : competitorsAfter python now post seen urls = .ok metrics) :
    metrics.length ≤ urls.length ∧ (∀ url ∈ urls, (targetOf? python url).isSome = true) ∧
      ∀ metric ∈ metrics, metric.url ∈ urls ∧ targetOf? python metric.url = some metric.domain ∧
        metric.domain ≠ "" := by
  induction urls generalizing seen metrics with
  | nil =>
    cases read
    simp
  | cons url rest ih =>
    rw [competitorsAfter] at read
    cases parsed : targetDomain python url with
    | error e =>
      rw [parsed] at read
      cases read
    | ok target =>
      have known : targetOf? python url = some target := by simp [targetOf?, parsed, Except.toOption]
      rw [parsed] at read
      simp only [Except.bind] at read
      by_cases skipped : target = "" ∨ target ∈ seen
      · rw [if_pos skipped] at read
        obtain ⟨short, all, each⟩ := ih read
        refine ⟨by simp; omega, by simp [known]; simpa using all, fun metric member => ?_⟩
        obtain ⟨listed, rest⟩ := each metric member
        exact ⟨List.mem_cons_of_mem url listed, rest⟩
      · rw [if_neg skipped] at read
        cases first : competitor python url target now (post target) with
        | error e =>
          rw [first] at read
          cases read
        | ok metric =>
          rw [first] at read
          cases later : competitorsAfter python now post (target :: seen) rest with
          | error e =>
            rw [later] at read
            cases read
          | ok others =>
            rw [later] at read
            cases read
            obtain ⟨short, all, each⟩ := ih later
            obtain ⟨ofUrl, ofTarget⟩ := competitor_names first
            refine ⟨by simp; omega, by simp [known]; simpa using all, fun other member => ?_⟩
            rcases List.mem_cons.mp member with rfl | member
            · rw [ofUrl, ofTarget]
              exact ⟨List.mem_cons_self, known, fun empty => skipped (.inl empty)⟩
            · obtain ⟨listed, rest⟩ := each other member
              exact ⟨List.mem_cons_of_mem url listed, rest⟩

/-- Every target is answered with a summary that can be read. -/
def Answered (python : Python) (post : String → Fields) : Prop :=
  ∀ target, ∃ results, firstResult (post target) = .ok results ∧ countsFit python results = true

/-- URLs with distinct targets get one metric each. -/
theorem competitorsAfter_all (now : DateTime) (answered : Answered python post) {seen urls : List String}
    (targets : ∀ url ∈ urls, ∃ target, targetOf? python url = some target ∧ target ≠ "" ∧ target ∉ seen)
    (distinct : (urls.map (targetOf? python)).Nodup) :
    ∃ metrics, competitorsAfter python now post seen urls = .ok metrics ∧
      List.Forall₂ (fun url metric => metric.url = url ∧ targetOf? python url = some metric.domain)
        urls metrics := by
  induction urls generalizing seen with
  | nil => exact ⟨[], rfl, .nil⟩
  | cons url rest ih =>
    obtain ⟨target, known, given, fresh⟩ := targets url List.mem_cons_self
    rw [List.map_cons, List.nodup_cons] at distinct
    obtain ⟨results, found, fits⟩ := answered target
    have counts : (competitor python url target now (post target)).isOk = countsFit python results :=
      competitor_isOk found
    rw [fits] at counts
    obtain ⟨metric, first⟩ := Checks.of_isOk counts
    obtain ⟨ofUrl, ofTarget⟩ := competitor_names first
    have later : ∀ other ∈ rest, ∃ target', targetOf? python other = some target' ∧ target' ≠ "" ∧
        target' ∉ target :: seen := by
      intro other member
      obtain ⟨target', known', given', fresh'⟩ := targets other (List.mem_cons_of_mem url member)
      refine ⟨target', known', given', ?_⟩
      rintro (_ | ⟨_, old⟩)
      · exact distinct.1 (known ▸ known' ▸ List.mem_map_of_mem member)
      · exact fresh' old
    obtain ⟨metrics, read, each⟩ := ih later distinct.2
    refine ⟨metric :: metrics, ?_, .cons ⟨ofUrl, ofTarget ▸ known⟩ each⟩
    have parsed : targetDomain python url = .ok target := by
      unfold targetOf? at known
      cases parsed : targetDomain python url with
      | error e => simp [parsed, Except.toOption] at known
      | ok other =>
        rw [parsed] at known
        cases known
        rfl
    rw [competitorsAfter, parsed]
    simp only [Except.bind]
    rw [if_neg (by simp [given, fresh]), first]
    simp only [read]
    rfl

/-- The competitors `enrich_competitors` returns are those it is given. -/
theorem enrichAfter_mem {byDomain : Grouped} {seen : List String} {competitors : List CompetitorMetric}
    {enriched : List EnrichedCompetitor}
    (ran : enrichAfter python byDomain seen competitors = .ok enriched) {e : EnrichedCompetitor}
    (member : e ∈ enriched) :
    ∃ competitor ∈ competitors, ∃ domain,
      joinDomain python competitor.domain competitor.url = .ok domain ∧
      e = enrich byDomain domain competitor := by
  induction competitors generalizing seen enriched with
  | nil =>
    cases ran
    cases member
  | cons competitor rest ih =>
    rw [enrichAfter] at ran
    cases named : joinDomain python competitor.domain competitor.url with
    | error e =>
      rw [named] at ran
      cases ran
    | ok domain =>
      rw [named] at ran
      simp only [Except.bind] at ran
      split at ran
      · obtain ⟨other, listed, more⟩ := ih ran member
        exact ⟨other, List.mem_cons_of_mem competitor listed, more⟩
      · cases later : enrichAfter python byDomain (domain :: seen) rest with
        | error e =>
          rw [later] at ran
          cases ran
        | ok others =>
          rw [later] at ran
          cases ran
          rcases List.mem_cons.mp member with rfl | member
          · exact ⟨competitor, List.mem_cons_self, domain, named, rfl⟩
          · obtain ⟨other, listed, more⟩ := ih later member
            exact ⟨other, List.mem_cons_of_mem competitor listed, more⟩

theorem joinDomain_named {domain url : String} (named : domain ≠ "") :
    joinDomain python domain url = .ok (normalizeDomain python domain) := by
  rw [joinDomain, if_neg named]
  rfl

/-- Competitors of distinct domains are all enriched. -/
theorem enrichAfter_all {byDomain : Grouped} {seen : List String} {competitors : List CompetitorMetric}
    (named : ∀ c ∈ competitors, c.domain ≠ "" ∧ normalizeDomain python c.domain ≠ "" ∧
      normalizeDomain python c.domain ∉ seen)
    (distinct : (competitors.map fun c => normalizeDomain python c.domain).Nodup) :
    enrichAfter python byDomain seen competitors = .ok (competitors.map fun c =>
      enrich byDomain (normalizeDomain python c.domain) c) := by
  induction competitors generalizing seen with
  | nil => rfl
  | cons competitor rest ih =>
    rw [List.map_cons, List.nodup_cons] at distinct
    obtain ⟨given, joined, fresh⟩ := named competitor List.mem_cons_self
    have later : ∀ c ∈ rest, c.domain ≠ "" ∧ normalizeDomain python c.domain ≠ "" ∧
        normalizeDomain python c.domain ∉ normalizeDomain python competitor.domain :: seen := by
      intro c member
      obtain ⟨given', joined', fresh'⟩ := named c (List.mem_cons_of_mem competitor member)
      refine ⟨given', joined', ?_⟩
      intro old
      rcases List.mem_cons.mp old with same | old
      · exact distinct.1 (same ▸ List.mem_map_of_mem (f := fun c : CompetitorMetric =>
          normalizeDomain python c.domain) member)
      · exact fresh' old
    rw [enrichAfter, joinDomain_named given]
    simp only [Except.bind]
    rw [if_neg (by simp [joined, fresh]), ih later distinct.2]
    rfl

end

/-! ## The join -/

/-- The evidence of the selected domains comes back to their observations. -/
structure Joined (python : Python) (selected : List (String × Observation))
    (metrics : List CompetitorMetric) (enriched : List EnrichedCompetitor) : Prop where
  /-- The metric of a chosen URL is enriched with the observation it was chosen for. -/
  positioned : ∀ entry ∈ selected, ∀ metric ∈ metrics, metric.url = entry.2.url →
    ∃ e ∈ enriched, e.toCompetitorMetric = metric ∧ entry.2 ∈ e.serpObservations ∧
      e.serpPosition.isSome = true
  single : ∀ entry ∈ selected,
    (metrics.filter fun metric => normalizeDomain python metric.domain = entry.1).length ≤ 1
  kept : ∀ entry ∈ selected, ∃ metric ∈ metrics, normalizeDomain python metric.domain = entry.1

/-- Whatever summaries answer the targets, what is selected is joined. -/
def JoinsBack (python : Python) (snapshots : List SerpSnapshot) (limit : ℤ) : Prop :=
  ∀ (now : DateTime) (post : String → Fields), Answered python post →
  ∀ urls, selectCompetitorUrls python snapshots limit = .ok urls →
  ∀ selected, selectedDomains python snapshots limit = .ok selected →
    ∃ metrics enriched, getCompetitorMetrics python now post urls = .ok metrics ∧
      enrichCompetitors python metrics snapshots = .ok enriched ∧
      Joined python selected metrics enriched

/-- The host of a chosen URL is the domain it was chosen for. -/
def Agrees (python : Python) (entry : String × Observation) : Prop :=
  ∃ target, targetOf? python entry.2.url = some target ∧ target ≠ "" ∧
    normalizeDomain python target = entry.1

section
variable {python : Python} {byDomain : Grouped}

/-- The observations of a domain hold the one it is represented by. -/
theorem enrich_positioned (good : byDomain.Good) {limit : ℤ} {entry : String × Observation}
    (member : entry ∈ byDomain.selected limit) (metric : CompetitorMetric) :
    entry.2 ∈ (enrich byDomain entry.1 metric).serpObservations ∧
      (enrich byDomain entry.1 metric).serpPosition.isSome = true := by
  obtain ⟨observations, listed, least⟩ := Grouped.mem_selected member
  have found := PyDict.lookup_of_mem good.distinct listed
  constructor
  · simpa [enrich, found] using List.argmin_mem least
  · simp only [enrich, found, Option.getD_some, Option.isSome_map]
    rw [Option.mem_def.mp least]
    rfl

theorem domains_of_agrees {selected : List (String × Observation)} {metrics : List CompetitorMetric}
    (agrees : ∀ entry ∈ selected, Agrees python entry)
    (read : List.Forall₂ (fun entry metric => targetOf? python entry.2.url = some metric.domain)
      selected metrics) :
    metrics.map (fun metric => normalizeDomain python metric.domain) = selected.map Prod.fst := by
  induction read with
  | nil => rfl
  | @cons entry metric _ _ asked _ ih =>
    obtain ⟨target, known, -, same⟩ := agrees entry List.mem_cons_self
    rw [asked] at known
    cases known
    rw [List.map_cons, List.map_cons, same, ih fun other member =>
      agrees other (List.mem_cons_of_mem entry member)]

theorem joined_of_domains (good : byDomain.Good) {limit : ℤ} {metrics : List CompetitorMetric}
    (agrees : ∀ entry ∈ byDomain.selected limit, Agrees python entry)
    (asked : ∀ metric ∈ metrics, targetOf? python metric.url = some metric.domain)
    (domains : metrics.map (fun metric => normalizeDomain python metric.domain) =
      (byDomain.selected limit).map Prod.fst) :
    Joined python (byDomain.selected limit) metrics (metrics.map fun metric =>
      enrich byDomain (normalizeDomain python metric.domain) metric) := by
  constructor
  · intro entry member metric there url
    obtain ⟨target, known, -, same⟩ := agrees entry member
    rw [← url, asked metric there] at known
    cases known
    refine ⟨_, List.mem_map_of_mem there, rfl, ?_⟩
    rw [same]
    exact enrich_positioned good member metric
  · intro entry member
    have once := List.nodup_iff_count_le_one.mp (domains ▸ good.selected_nodup limit) entry.1
    rw [List.count, List.countP_map, List.countP_eq_length_filter] at once
    simpa [Function.comp_def, beq_eq_decide] using once
  · intro entry member
    have there : entry.1 ∈ metrics.map fun metric => normalizeDomain python metric.domain := by
      rw [domains]
      exact List.mem_map_of_mem member
    obtain ⟨metric, listed, same⟩ := List.mem_map.mp there
    exact ⟨metric, listed, same⟩

/-- The domain the join reads for a selected URL. -/
def joinKey (python : Python) (entry : String × Observation) : String :=
  normalizeDomain python ((targetOf? python entry.2.url).getD "")

/-- No selected domain is dropped: the join reads the selected domains, in some order. -/
theorem joinKeys_perm (good : byDomain.Good) {limit : ℤ} {metrics : List CompetitorMetric}
    (asked : ∀ metric ∈ metrics, (∃ entry ∈ byDomain.selected limit, entry.2.url = metric.url) ∧
      targetOf? python metric.url = some metric.domain)
    (kept : ∀ entry ∈ byDomain.selected limit, ∃ metric ∈ metrics,
      normalizeDomain python metric.domain = entry.1) :
    ((byDomain.selected limit).map Prod.fst).Perm ((byDomain.selected limit).map (joinKey python)) := by
  have within : (byDomain.selected limit).map Prod.fst ⊆
      (byDomain.selected limit).map (joinKey python) := by
    intro domain member
    obtain ⟨entry, listed, rfl⟩ := List.mem_map.mp member
    obtain ⟨metric, there, same⟩ := kept entry listed
    obtain ⟨⟨chosen, selected, url⟩, known⟩ := asked metric there
    refine List.mem_map.mpr ⟨chosen, selected, ?_⟩
    rw [joinKey, url, known, Option.getD_some, same]
  exact ((good.selected_nodup limit).subperm within).perm_of_length_le (by simp)

theorem agrees_of_joined (good : byDomain.Good) {limit : ℤ} {metrics : List CompetitorMetric}
    {enriched : List EnrichedCompetitor}
    (asked : ∀ metric ∈ metrics, (∃ entry ∈ byDomain.selected limit, entry.2.url = metric.url) ∧
      targetOf? python metric.url = some metric.domain ∧ metric.domain ≠ "")
    (ran : enrichAfter python byDomain [] metrics = .ok enriched)
    (joined : Joined python (byDomain.selected limit) metrics enriched) :
    ∀ entry ∈ byDomain.selected limit, Agrees python entry := by
  have perm := joinKeys_perm good (fun metric there => ⟨(asked metric there).1, (asked metric there).2.1⟩)
    joined.kept
  have keys := perm.nodup_iff.mp (good.selected_nodup limit)
  -- The metric that stands for what the join reads of an entry is that of its own URL.
  have own : ∀ entry ∈ byDomain.selected limit, ∃ metric ∈ metrics, metric.url = entry.2.url ∧
      normalizeDomain python metric.domain = joinKey python entry := by
    intro entry member
    obtain ⟨reached, listed, same⟩ := List.mem_map.mp
      (perm.mem_iff.mpr (List.mem_map_of_mem (f := joinKey python) member))
    obtain ⟨metric, there, domain⟩ := joined.kept reached listed
    obtain ⟨⟨chosen, selected, url⟩, known, -⟩ := asked metric there
    have agree : joinKey python chosen = joinKey python entry := by
      rw [← same, ← domain, joinKey, url, known, Option.getD_some]
    have here := List.inj_on_of_nodup_map keys selected member agree
    exact ⟨metric, there, by rw [← url, here], by rw [domain, same]⟩
  -- So the observation an entry was chosen for is one of the domain the join reads.
  have observed : ∀ entry ∈ byDomain.selected limit, ∀ reached ∈ byDomain.selected limit,
      reached.1 = joinKey python entry → reached.2.key ≤ entry.2.key := by
    intro entry member reached listed same
    obtain ⟨metric, there, url, domain⟩ := own entry member
    obtain ⟨e, present, ofMetric, holds, -⟩ := joined.positioned entry member metric there url
    obtain ⟨competitor, -, name, named, rfl⟩ := enrichAfter_mem ran present
    change competitor = metric at ofMetric
    subst ofMetric
    rw [joinDomain_named (asked _ there).2.2] at named
    obtain rfl := Except.ok.inj named
    obtain ⟨observations, stored, least⟩ := Grouped.mem_selected listed
    have found := PyDict.lookup_of_mem good.distinct stored
    simp only [enrich, domain, ← same, found, Option.getD_some] at holds
    exact List.le_of_mem_argmin holds least
  have reach : ∀ entry : {entry // entry ∈ byDomain.selected limit},
      ∃ reached : {entry // entry ∈ byDomain.selected limit},
        reached.1.1 = joinKey python entry.1 := by
    intro entry
    obtain ⟨reached, listed, same⟩ := List.mem_map.mp
      (perm.mem_iff.mpr (List.mem_map_of_mem (f := joinKey python) entry.2))
    exact ⟨⟨reached, listed⟩, same⟩
  choose next follows using reach
  have apart : ∀ a b : {entry // entry ∈ byDomain.selected limit}, a.1.1 = b.1.1 → a = b :=
    fun a b same => Subtype.ext
      (List.inj_on_of_nodup_map (good.selected_nodup limit) a.2 b.2 same)
  have finite_ : Finite {entry // entry ∈ byDomain.selected limit} :=
    (List.finite_toSet (byDomain.selected limit)).to_subtype
  have onto : Function.Surjective next := by
    intro reached
    obtain ⟨entry, listed, same⟩ := List.mem_map.mp
      (perm.mem_iff.mp (List.mem_map_of_mem (f := Prod.fst) reached.2))
    exact ⟨⟨entry, listed⟩, apart _ _ ((follows ⟨entry, listed⟩).trans same)⟩
  have fixed := Descents.eq_self
    (fun entry : {entry // entry ∈ byDomain.selected limit} => entry.1.2.key) onto
    (fun entry => observed entry.1 entry.2 (next entry).1 (next entry).2 (follows entry))
    (fun a b same => apart _ _ (by
      have url : a.1.2.url = b.1.2.url := by
        have inner := congrArg (fun key => (ofLex (ofLex key).2).2) same
        exact inner
      rw [follows, follows, joinKey, joinKey, url]))
  intro entry member
  obtain ⟨metric, there, url, domain⟩ := own entry member
  obtain ⟨-, known, given⟩ := asked metric there
  have same : entry.1 = joinKey python entry := by
    have follow := follows ⟨entry, member⟩
    rwa [fixed ⟨entry, member⟩] at follow
  exact ⟨metric.domain, by rw [← url, known], given, by rw [domain, ← same]⟩

/-- At most five URLs are asked for. -/
theorem selected_length_of_kept (good : byDomain.Good) {limit : ℤ} {metrics : List CompetitorMetric}
    (short : metrics.length ≤ 5)
    (kept : ∀ entry ∈ byDomain.selected limit, ∃ metric ∈ metrics,
      normalizeDomain python metric.domain = entry.1) :
    (byDomain.selected limit).length ≤ 5 := by
  have within : (byDomain.selected limit).map Prod.fst ⊆
      metrics.map fun metric => normalizeDomain python metric.domain := by
    intro domain member
    obtain ⟨entry, listed, rfl⟩ := List.mem_map.mp member
    obtain ⟨metric, there, same⟩ := kept entry listed
    exact List.mem_map.mpr ⟨metric, there, same⟩
  have count := ((good.selected_nodup limit).subperm within).length_le
  simp only [List.length_map] at count
  omega

end

/-- A task without results is a summary that can be read. -/
theorem answered_empty (python : Python) :
    Answered python fun _ => [("tasks", .arr [.obj []])] := by
  have none_ : finite python .null = true := by
    rw [← toInt_isOk]
    rfl
  intro target
  exact ⟨[], rfl, by simp [countsFit, asDict, Provider.get, none_]⟩

/-- Domains that agree are read, enriched and joined. -/
theorem joined_of_agrees {python : Python} {byDomain : Grouped} (good : byDomain.Good) {limit : ℤ}
    (short : (byDomain.selected limit).length ≤ 5)
    (agrees : ∀ entry ∈ byDomain.selected limit, Agrees python entry) (now : DateTime)
    {post : String → Fields} (answered : Answered python post) :
    ∃ metrics enriched, getCompetitorMetrics python now post
        ((byDomain.selected limit).map fun entry => entry.2.url) = .ok metrics ∧
      enrichAfter python byDomain [] metrics = .ok enriched ∧
      Joined python (byDomain.selected limit) metrics enriched := by
  have all : ((byDomain.selected limit).map fun entry => entry.2.url).take 5 =
      (byDomain.selected limit).map fun entry => entry.2.url :=
    List.take_of_length_le (by rwa [List.length_map])
  have targets : ∀ url ∈ (byDomain.selected limit).map fun entry => entry.2.url,
      ∃ target, targetOf? python url = some target ∧ target ≠ "" ∧ target ∉ ([] : List String) := by
    intro url member
    obtain ⟨entry, listed, rfl⟩ := List.mem_map.mp member
    obtain ⟨target, known, given, -⟩ := agrees entry listed
    exact ⟨target, known, given, List.not_mem_nil⟩
  have distinct : (((byDomain.selected limit).map fun entry => entry.2.url).map
      (targetOf? python)).Nodup := by
    refine List.Nodup.of_map (Option.map (normalizeDomain python)) ?_
    have names : (((byDomain.selected limit).map fun entry => entry.2.url).map (targetOf? python)).map
        (Option.map (normalizeDomain python)) = ((byDomain.selected limit).map Prod.fst).map some := by
      simp only [List.map_map]
      refine List.map_congr_left fun entry member => ?_
      obtain ⟨target, known, -, same⟩ := agrees entry member
      simp [known, same]
    rw [names]
    exact (good.selected_nodup limit).map (Option.some_injective String)
  obtain ⟨metrics, read, each⟩ := competitorsAfter_all now answered targets distinct
  have asked := (competitorsAfter_metrics read).2.2
  have domains := domains_of_agrees agrees
    ((List.forall₂_map_left_iff.mp each).imp fun _ _ known => known.2)
  have named : ∀ c ∈ metrics, c.domain ≠ "" ∧ normalizeDomain python c.domain ≠ "" ∧
      normalizeDomain python c.domain ∉ ([] : List String) := by
    intro metric there
    refine ⟨(asked metric there).2.2, ?_, List.not_mem_nil⟩
    have listed : normalizeDomain python metric.domain ∈ (byDomain.selected limit).map Prod.fst := by
      rw [← domains]
      exact List.mem_map_of_mem (f := fun c : CompetitorMetric => normalizeDomain python c.domain) there
    obtain ⟨entry, member, same⟩ := List.mem_map.mp listed
    obtain ⟨observations, stored, -⟩ := Grouped.mem_selected member
    rw [← same]
    exact good.named _ stored
  refine ⟨metrics, _, ?_, enrichAfter_all named (domains ▸ good.selected_nodup limit),
    joined_of_domains good agrees (fun metric there => (asked metric there).2.1) domains⟩
  rw [getCompetitorMetrics, all]
  exact read

/-- The selected domains all come back exactly when they are at most five and the host of
each chosen URL, in lower case and without a leading `www.`, is its domain. -/
theorem joinsBack_iff (python : Python) (snapshots : List SerpSnapshot) (limit : ℤ) :
    JoinsBack python snapshots limit ↔
      ∀ selected, selectedDomains python snapshots limit = .ok selected →
        selected.length ≤ 5 ∧ ∀ entry ∈ selected, Agrees python entry := by
  unfold JoinsBack
  rw [selectCompetitorUrls_eq]
  unfold selectedDomains enrichCompetitors
  cases found : serpObservationsByDomain python snapshots with
  | error e => simp [Except.map]
  | ok byDomain =>
    have good := serpObservationsByDomain_good found
    simp only [Except.map, Except.ok.injEq, forall_eq', Except.bind]
    constructor
    · intro joins
      obtain ⟨metrics, enriched, read, ran, joined⟩ := joins 0 _ (answered_empty python)
      obtain ⟨short, -, asked⟩ := competitorsAfter_metrics read
      have few : metrics.length ≤ 5 := short.trans (List.length_take_le 5 _)
      refine ⟨selected_length_of_kept good few joined.kept, agrees_of_joined good ?_ ran joined⟩
      intro metric there
      obtain ⟨listed, known⟩ := asked metric there
      obtain ⟨entry, member, url⟩ := List.mem_map.mp (List.mem_of_mem_take listed)
      exact ⟨⟨entry, member, url⟩, known⟩
    · rintro ⟨short, agrees⟩ now post answered
      exact joined_of_agrees good short agrees now answered

/-! ## A host with a port -/

/-- A results page whose only result is served from a port. -/
def portPayload : Fields :=
  [("tasks", .arr [.obj [("result", .arr [.obj [("items", .arr [.obj [
    ("type", .str "organic"), ("rank_absolute", .num 1), ("domain", .str "acme.example"),
    ("url", .str "https://acme.example:8443/roofing"), ("title", .str "Acme Roofing"),
    ("description", .str "Roof repair")]])]])]])]

def portSnapshot : SerpSnapshot where
  query := "roof repair"
  marketId := "miami-fl"
  device := "desktop"
  capturedAt := 0
  featuresPresent := []
  results := [⟨1, "organic", "https://acme.example:8443/roofing", "acme.example", "Acme Roofing",
    "Roof repair"⟩]

def portObservation : Observation := ⟨"roof repair", 1, "https://acme.example:8443/roofing", 0⟩

theorem portSnapshot_built :
    getSerpSnapshot asciiPython "roof repair" miami 0 portPayload = .ok portSnapshot := by
  have rank : Provider.toInt asciiPython.isPrintable (.num 1) = .ok (some 1) := by decide +kernel
  simp [getSerpSnapshot, firstResult, firstTask, portPayload, Provider.get, List.lookup_cons,
    PyJson.truthy, asDict, elements, serpItem, attributes, Provider.either, textOf, str, PyJson.text, rank,
    Except.map, portSnapshot, miami]
  rfl

theorem portSnapshot_selected : selectedDomains asciiPython [portSnapshot] 5 =
    .ok [("acme.example", portObservation)] := by
  have joined : joinDomain asciiPython "acme.example" "https://acme.example:8443/roofing" =
      .ok "acme.example" := by decide +kernel
  simp [selectedDomains, serpObservationsByDomain, portSnapshot, collect, joined, Except.bind,
    Except.map, PyDict.appendTo, PyDict.setItem, sortObservations, Grouped.selected,
    Grouped.representatives, upTo, portObservation]

/-- The summary is of `acme.example:8443`, the observation of `acme.example`. -/
theorem portSnapshot_unjoined :
    getSerpSnapshot asciiPython "roof repair" miami 0 portPayload = .ok portSnapshot ∧
    ¬ JoinsBack asciiPython [portSnapshot] 5 := by
  refine ⟨portSnapshot_built, fun joins => ?_⟩
  obtain ⟨target, known, -, same⟩ := ((joinsBack_iff ..).mp joins _ portSnapshot_selected).2 _
    List.mem_cons_self
  have host : targetOf? asciiPython "https://acme.example:8443/roofing" =
      some "acme.example:8443" := by decide +kernel
  rw [portObservation, host] at known
  cases known
  revert same
  decide +kernel

end RankRent.Evidence
