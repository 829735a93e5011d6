import RankRent.Scoring.Competitors

/-!
# One row a domain, in any order

Rows of one domain merge into one. What the merged row says does not depend on the order
of the rows, when rows at one position say the same and every row stands at its first
observation, or none has any.
-/

namespace RankRent.Scoring
open Evidence (Python Observation)

/-! ## Observations -/

/-- The query and the position of an observation. -/
def seenAt (observation : Observation) : Option String × Option ℤ := (some observation.query, some observation.position)

/-- The dict of `mergeObservations`. -/
theorem mergeObservations_eq (first second : List Observation) :
    mergeObservations first second = Evidence.sortObservations
      ((PyDict.mergedBy (fun _ later => later) Observation.key (first ++ second)).map Prod.snd) := by
  have round (items : List (_ × Observation)) (o : Observation) :
      PyDict.setItem items o.key o = PyDict.mergeTo (fun _ later => later) items o.key o := by
    unfold PyDict.mergeTo
    cases items.lookup o.key <;> rfl
  unfold mergeObservations PyDict.mergedBy
  simp only [round]

theorem keys_mergeObservations (first second : List Observation) :
    ((mergeObservations first second).map Observation.key).Perm
      ((PyDict.mergedBy (fun _ later => later) Observation.key (first ++ second)).map Prod.fst) := by
  rw [mergeObservations_eq, Evidence.sortObservations]
  refine ((List.mergeSort_perm _ _).map _).trans (List.Perm.of_eq ?_)
  rw [List.map_map]
  refine List.map_congr_left fun item member => ?_
  exact PyDict.key_mergedBy (fun _ later => later) (fun _ _ _ => rfl) item member

theorem nodup_mergeObservations (first second : List Observation) :
    ((mergeObservations first second).map Observation.key).Nodup :=
  (keys_mergeObservations first second).nodup_iff.mpr (PyDict.nodup_mergedBy _ _ _)

theorem mem_mergeObservations {first second : List Observation} {key : ℤ ×ₗ String ×ₗ String} :
    key ∈ (mergeObservations first second).map Observation.key ↔
      key ∈ first.map Observation.key ∨ key ∈ second.map Observation.key := by
  rw [(keys_mergeObservations first second).mem_iff, PyDict.mem_keys_mergedBy]
  simp only [List.mem_append, List.mem_map, or_and_right, exists_or]

theorem mergeObservations_sorted (first second : List Observation) :
    (mergeObservations first second).Pairwise fun a b => a.key ≤ b.key := by
  rw [mergeObservations_eq, Evidence.sortObservations]
  have transitive : ∀ a b c : Observation, decide (a.key ≤ b.key) = true → decide (b.key ≤ c.key) = true →
      decide (a.key ≤ c.key) = true := by
    intro a b c one two
    simp only [decide_eq_true_eq] at one two ⊢
    exact one.trans two
  have total : ∀ a b : Observation, (decide (a.key ≤ b.key) || decide (b.key ≤ a.key)) = true := by
    intro a b
    simpa using le_total a.key b.key
  have sorted := List.pairwise_mergeSort transitive total
    ((PyDict.mergedBy (fun _ later => later) Observation.key (first ++ second)).map Prod.snd)
  exact sorted.imp fun below => of_decide_eq_true below

/-! ## Rows -/

/-- Two rows say the same of their competitor. -/
structure Agree (python : Python) (c c' : CompetitorMetric) : Prop where
  links : c.referringDomains = c'.referringDomains
  page : c.pageRelevanceScore = c'.pageRelevanceScore
  near : c.localRelevance = c'.localRelevance
  archetype : c.archetype python = c'.archetype python

/-- A row stands at its first observation, as the enrichment leaves it. -/
def CompetitorMetric.Placed (c : CompetitorMetric) : Prop :=
  ∃ first ∈ c.serpObservations, (∀ o ∈ c.serpObservations, first.key ≤ o.key) ∧
    c.representativeQuery = some first.query ∧ c.serpPosition = some first.position

/-- Two rows at one position say the same. -/
def Tied (python : Python) (c c' : CompetitorMetric) : Prop :=
  c.serpPosition = c'.serpPosition →
    Agree python c c' ∧ (c.serpObservations = [] → c.representativeQuery = c'.representativeQuery)

/-- Two rows of a domain can be merged in any order. -/
structure Compatible (python : Python) (c c' : CompetitorMetric) : Prop where
  seen : (c.serpObservations = [] ∧ c'.serpObservations = []) ∨ (c.Placed ∧ c'.Placed)
  tied : Tied python c c'

/-- What the scorer reads of two rows is the same. -/
structure Twin (python : Python) (r r' : CompetitorMetric) : Prop where
  agree : Agree python r r'
  appearances : r.appearances.Perm r'.appearances
  observed : r.serpObservations = [] ↔ r'.serpObservations = []

/-- A row that the rows of a domain have become. -/
structure Merged (python : Python) (rows : List CompetitorMetric) (r : CompetitorMetric) : Prop where
  chosen : ∃ c ∈ rows, (∀ d ∈ rows, ahead d.serpPosition c.serpPosition = false) ∧ Agree python c r ∧
    r.serpPosition = c.serpPosition ∧ (c.serpObservations = [] → r.representativeQuery = c.representativeQuery)
  keys : ∀ key, key ∈ r.serpObservations.map Observation.key ↔
    ∃ c ∈ rows, key ∈ c.serpObservations.map Observation.key
  distinct : 2 ≤ rows.length → (r.serpObservations.map Observation.key).Nodup
  placed : (∀ c ∈ rows, c.Placed) → r.Placed

section
variable {python : Python}

theorem Agree.refl (c : CompetitorMetric) : Agree python c c := ⟨rfl, rfl, rfl, rfl⟩

theorem Agree.symm {c d : CompetitorMetric} (agree : Agree python c d) : Agree python d c :=
  ⟨agree.links.symm, agree.page.symm, agree.near.symm, agree.archetype.symm⟩

theorem Agree.trans {c d r : CompetitorMetric} (first : Agree python c d) (second : Agree python d r) :
    Agree python c r :=
  ⟨first.links.trans second.links, first.page.trans second.page, first.near.trans second.near,
    first.archetype.trans second.archetype⟩

theorem merged_single (c : CompetitorMetric) : Merged python [c] c where
  chosen := ⟨c, List.mem_singleton_self c, by
    intro d member
    rw [List.mem_singleton.mp member]
    cases c.serpPosition <;> simp [ahead], .refl c, rfl, fun _ => rfl⟩
  keys := by simp
  distinct := by simp
  placed all := all c (List.mem_singleton_self c)

/-! ### Positions -/

theorem not_ahead_trans {p q r : Option ℤ} (first : ahead p q = false) (second : ahead q r = false) :
    ahead p r = false := by
  cases p <;> cases q <;> cases r <;> simp [ahead] at first second ⊢
  omega

theorem not_ahead_of_ahead {p q : Option ℤ} (first : ahead p q = true) : ahead q p = false := by
  cases p <;> cases q <;> simp [ahead] at first ⊢
  omega

theorem not_ahead_self (p : Option ℤ) : ahead p p = false := by
  cases p <;> simp [ahead]

theorem eq_of_not_ahead {p q : Option ℤ} (first : ahead p q = false) (second : ahead q p = false) : p = q := by
  cases p <;> cases q <;> simp [ahead] at first second ⊢
  omega

theorem position_le {a b : Observation} (le : a.key ≤ b.key) : a.position ≤ b.position := by
  rcases Prod.Lex.le_iff.mp le with less | ⟨same, -⟩
  · exact less.le
  · exact same.le

/-- The row that is kept stands ahead of all. -/
theorem chosen_least {rows : List CompetitorMetric} {r c : CompetitorMetric} (merged : Merged python rows r) :
    ∃ x ∈ rows ++ [c], (∀ d ∈ rows ++ [c], ahead d.serpPosition x.serpPosition = false) ∧
      Agree python x (if ahead c.serpPosition r.serpPosition then c else r) ∧
      (if ahead c.serpPosition r.serpPosition then c else r).serpPosition = x.serpPosition ∧
      (x.serpObservations = [] →
        (if ahead c.serpPosition r.serpPosition then c else r).representativeQuery = x.representativeQuery) := by
  obtain ⟨x, member, least, agree, position, query⟩ := merged.chosen
  by_cases first : ahead c.serpPosition r.serpPosition = true
  · simp only [if_pos first]
    refine ⟨c, List.mem_append_right _ (List.mem_singleton_self c), ?_, .refl c, rfl, fun _ => rfl⟩
    intro d there
    rcases List.mem_append.mp there with old | new
    · rw [position] at first
      exact not_ahead_trans (least d old) (not_ahead_of_ahead first)
    · rw [List.mem_singleton.mp new]
      exact not_ahead_self _
  · simp only [if_neg first]
    refine ⟨x, List.mem_append_left _ member, ?_, agree, position, query⟩
    intro d there
    rcases List.mem_append.mp there with old | new
    · exact least d old
    · rw [List.mem_singleton.mp new, ← position]
      simpa using first

theorem merged_step {rows : List CompetitorMetric} {r c : CompetitorMetric}
    (merged : Merged python rows r)
    (seen : (∀ d ∈ rows ++ [c], d.serpObservations = []) ∨ ∀ d ∈ rows ++ [c], d.Placed) :
    Merged python (rows ++ [c]) (mergeRows r c) := by
  obtain ⟨x, member, least, agree, position, query⟩ := chosen_least (c := c) merged
  have keys : ∀ key, key ∈ (mergeRows r c).serpObservations.map Observation.key ↔
      ∃ d ∈ rows ++ [c], key ∈ d.serpObservations.map Observation.key := by
    intro key
    change key ∈ (mergeObservations _ _).map Observation.key ↔ _
    rw [mem_mergeObservations, merged.keys]
    simp only [List.mem_append, List.mem_singleton, or_and_right, exists_or, exists_eq_left]
  have agrees : Agree python x (mergeRows r c) := agree.trans ⟨rfl, rfl, rfl, rfl⟩
  have distinct : 2 ≤ (rows ++ [c]).length → ((mergeRows r c).serpObservations.map Observation.key).Nodup :=
    fun _ => nodup_mergeObservations _ _
  rcases seen with none_ | placed
  · -- Without observations the merged row is the one that is kept.
    have empty : mergeObservations r.serpObservations c.serpObservations = [] := by
      rw [← List.map_eq_nil_iff (f := Observation.key), List.eq_nil_iff_forall_not_mem]
      intro key there
      obtain ⟨d, known, inside⟩ := (keys key).mp there
      rw [none_ d known] at inside
      cases inside
    refine ⟨⟨x, member, least, agrees, ?_, fun unseen => ?_⟩, keys, distinct, fun placed => ?_⟩
    · rw [← position]
      simp [mergeRows, empty]
    · rw [← query unseen]
      simp [mergeRows, empty]
    · obtain ⟨first, there, -⟩ := placed x member
      rw [none_ x member] at there
      cases there
  · obtain ⟨f, inRow, leastRow, -, rowAt⟩ := merged.placed fun d there => placed d (List.mem_append_left _ there)
    obtain ⟨g, inNew, leastNew, -, newAt⟩ := placed c (List.mem_append_right _ (List.mem_singleton_self c))
    have there : f.key ∈ (mergeObservations r.serpObservations c.serpObservations).map Observation.key :=
      mem_mergeObservations.mpr (Or.inl (List.mem_map_of_mem inRow))
    obtain ⟨h, rest, ordered⟩ : ∃ h rest, mergeObservations r.serpObservations c.serpObservations = h :: rest := by
      refine List.exists_cons_of_ne_nil fun empty => ?_
      rw [empty] at there
      cases there
    have sorted := mergeObservations_sorted r.serpObservations c.serpObservations
    rw [ordered] at sorted
    have leastAll : ∀ o ∈ mergeObservations r.serpObservations c.serpObservations, h.key ≤ o.key := by
      intro o there
      rw [ordered] at there
      rcases List.mem_cons.mp there with rfl | later
      · exact le_rfl
      · exact (List.pairwise_cons.mp sorted).1 o later
    have below : ∀ key, key ∈ (mergeObservations r.serpObservations c.serpObservations).map Observation.key →
        h.key ≤ key := by
      intro key there
      obtain ⟨o, inside, rfl⟩ := List.mem_map.mp there
      exact leastAll o inside
    have belowRow := position_le (below f.key there)
    have belowNew := position_le (below g.key (mem_mergeObservations.mpr (Or.inr (List.mem_map_of_mem inNew))))
    have above : f.position ≤ h.position ∨ g.position ≤ h.position := by
      have there : h.key ∈ (mergeObservations r.serpObservations c.serpObservations).map Observation.key := by
        rw [ordered]
        exact List.mem_cons_self
      rcases mem_mergeObservations.mp there with old | new
      · obtain ⟨o, inside, same⟩ := List.mem_map.mp old
        exact Or.inl (position_le (same ▸ leastRow o inside))
      · obtain ⟨o, inside, same⟩ := List.mem_map.mp new
        exact Or.inr (position_le (same ▸ leastNew o inside))
    have at_ : (mergeRows r c).serpPosition = some h.position := by simp [mergeRows, ordered]
    refine ⟨⟨x, member, least, agrees, ?_, fun unseen => ?_⟩, keys, distinct, fun _ => ?_⟩
    · rw [at_, ← position]
      by_cases first : ahead c.serpPosition r.serpPosition = true
      · rw [if_pos first, newAt]
        rw [newAt, rowAt] at first
        have less : g.position < f.position := by simpa [ahead] using first
        congr 1
        omega
      · rw [if_neg first, rowAt]
        rw [newAt, rowAt] at first
        have less : f.position ≤ g.position := by simpa [ahead] using first
        congr 1
        omega
    · obtain ⟨o, there, -⟩ := placed x member
      rw [unseen] at there
      cases there
    · refine ⟨h, ?_, leastAll, by simp [mergeRows, ordered], at_⟩
      change h ∈ mergeObservations _ _
      rw [ordered]
      exact List.mem_cons_self

/-! ### All rows of a domain -/

theorem CompetitorMetric.Placed.observed {c : CompetitorMetric} (placed : c.Placed) : c.serpObservations ≠ [] := by
  obtain ⟨first, there, -⟩ := placed
  exact List.ne_nil_of_mem there

theorem Compatible.symm {c c' : CompetitorMetric} (compatible : Compatible python c c') : Compatible python c' c := by
  rcases compatible.seen with ⟨none_, none'⟩ | ⟨placed, placed'⟩
  · refine ⟨Or.inl ⟨none', none_⟩, fun same => ?_⟩
    obtain ⟨agree, query⟩ := compatible.tied same.symm
    exact ⟨agree.symm, fun _ => (query none_).symm⟩
  · refine ⟨Or.inr ⟨placed', placed⟩, fun same => ?_⟩
    obtain ⟨agree, -⟩ := compatible.tied same.symm
    exact ⟨agree.symm, fun none_ => absurd none_ placed'.observed⟩

instance : Std.Symm (Compatible python) := ⟨fun _ _ => Compatible.symm⟩

/-- Of several rows either all are placed, or none is observed. -/
theorem seen_alike {rows : List CompetitorMetric} (compatible : rows.Pairwise (Compatible python))
    (several : 2 ≤ rows.length) : (∀ d ∈ rows, d.serpObservations = []) ∨ ∀ d ∈ rows, d.Placed := by
  match rows, several with
  | c :: d :: rest, _ =>
    have others := (List.pairwise_cons.mp compatible).1
    rcases (others d List.mem_cons_self).seen with ⟨none_, -⟩ | ⟨placed, -⟩
    · left
      intro x member
      rcases List.mem_cons.mp member with rfl | later
      · exact none_
      · rcases (others x later).seen with ⟨-, same⟩ | ⟨placed, -⟩
        · exact same
        · exact absurd none_ placed.observed
    · right
      intro x member
      rcases List.mem_cons.mp member with rfl | later
      · exact placed
      · rcases (others x later).seen with ⟨none_, -⟩ | ⟨-, same⟩
        · exact absurd none_ placed.observed
        · exact same

theorem merged_reduce {rows : List CompetitorMetric} {r : CompetitorMetric}
    (seen : 2 ≤ rows.length → (∀ d ∈ rows, d.serpObservations = []) ∨ ∀ d ∈ rows, d.Placed)
    (reduced : PyDict.reduce mergeRows rows = some r) : Merged python rows r := by
  induction rows using List.reverseRecOn generalizing r with
  | nil => cases reduced
  | append_singleton rows c ih =>
    rw [PyDict.reduce_snoc] at reduced
    cases found : PyDict.reduce mergeRows rows with
    | none =>
      rw [found] at reduced
      cases reduced
      cases rows with
      | nil => exact merged_single c
      | cons first rest => cases found
    | some old =>
      rw [found] at reduced
      cases reduced
      have several : 2 ≤ (rows ++ [c]).length := by
        cases rows with
        | nil => cases found
        | cons first rest => simp
      have all := seen several
      refine merged_step (ih (fun _ => ?_) found) all
      exact all.imp (fun none_ d there => none_ d (List.mem_append_left _ there))
        fun placed d there => placed d (List.mem_append_left _ there)

theorem Twin.refl (r : CompetitorMetric) : Twin python r r := ⟨.refl r, .refl _, Iff.rfl⟩

theorem appearances_of_observed {r : CompetitorMetric} (observed : r.serpObservations ≠ []) :
    r.appearances = r.serpObservations.map seenAt := by
  unfold CompetitorMetric.appearances
  rw [if_neg (by simpa using observed)]
  rfl

theorem appearances_of_unobserved {r : CompetitorMetric} (none_ : r.serpObservations = []) :
    r.appearances = [(r.representativeQuery, r.serpPosition)] := by
  unfold CompetitorMetric.appearances
  rw [if_pos (by simpa using none_)]

theorem Merged.unobserved {rows : List CompetitorMetric} {r : CompetitorMetric} (merged : Merged python rows r) :
    r.serpObservations = [] ↔ ∀ c ∈ rows, c.serpObservations = [] := by
  constructor
  · intro none_ c member
    rw [← List.map_eq_nil_iff (f := Observation.key), List.eq_nil_iff_forall_not_mem]
    intro key there
    have inside := (merged.keys key).mpr ⟨c, member, there⟩
    rw [none_] at inside
    cases inside
  · intro none_
    rw [← List.map_eq_nil_iff (f := Observation.key), List.eq_nil_iff_forall_not_mem]
    intro key there
    obtain ⟨c, member, inside⟩ := (merged.keys key).mp there
    rw [none_ c member] at inside
    cases inside

/-- A merged row is seen for the queries of its rows. -/
theorem Merged.query {rows : List CompetitorMetric} {r : CompetitorMetric} (merged : Merged python rows r)
    {query : String} {position : Option ℤ} (seen : (some query, position) ∈ r.appearances) :
    ∃ c ∈ rows, ∃ position, (some query, position) ∈ c.appearances := by
  by_cases none_ : r.serpObservations = []
  · obtain ⟨c, member, -, -, -, asked⟩ := merged.chosen
    have unseen := merged.unobserved.mp none_ c member
    rw [appearances_of_unobserved none_, List.mem_singleton, Prod.mk.injEq] at seen
    refine ⟨c, member, c.serpPosition, ?_⟩
    rw [appearances_of_unobserved unseen, ← asked unseen, ← seen.1]
    exact List.mem_singleton_self _
  · rw [appearances_of_observed none_] at seen
    obtain ⟨o, there, same⟩ := List.mem_map.mp seen
    obtain ⟨c, member, inside⟩ := (merged.keys o.key).mp (List.mem_map_of_mem there)
    obtain ⟨o', known, keys⟩ := List.mem_map.mp inside
    have queries : o'.query = o.query := congrArg (fun key => (ofLex (ofLex key).2).1) keys
    simp only [seenAt, Prod.mk.injEq, Option.some.injEq] at same
    refine ⟨c, member, some o'.position, ?_⟩
    rw [appearances_of_observed (List.ne_nil_of_mem known), ← same.1, ← queries]
    exact List.mem_map_of_mem (f := seenAt) known

/-- Rows of a domain, merged in two orders. -/
theorem twin_of_perm {rows other : List CompetitorMetric} (perm : rows.Perm other)
    (compatible : rows.Pairwise (Compatible python)) {r r' : CompetitorMetric}
    (reduced : PyDict.reduce mergeRows rows = some r) (reduced' : PyDict.reduce mergeRows other = some r') :
    Twin python r r' := by
  by_cases several : 2 ≤ rows.length
  · have alike := seen_alike compatible several
    have merged := @merged_reduce python _ _ (fun _ => alike) reduced
    have merged' := @merged_reduce python _ _ (fun _ => alike.imp
      (fun none_ d there => none_ d (perm.symm.subset there))
      (fun placed d there => placed d (perm.symm.subset there))) reduced'
    obtain ⟨c, member, least, agree, position, query⟩ := merged.chosen
    obtain ⟨c', member', least', agree', position', query'⟩ := merged'.chosen
    have there := perm.symm.subset member'
    have same : c.serpPosition = c'.serpPosition :=
      eq_of_not_ahead (least' c (perm.subset member)) (least c' there)
    have tied : Tied python c c' := by
      by_cases is : c = c'
      · subst is
        exact fun _ => ⟨.refl c, fun _ => rfl⟩
      · exact (compatible.forall member there is).tied
    obtain ⟨agreed, asked⟩ := tied same
    have observed : r.serpObservations = [] ↔ r'.serpObservations = [] := by
      rw [merged.unobserved, merged'.unobserved]
      simp only [perm.mem_iff]
    refine ⟨(agree.symm.trans agreed).trans agree', ?_, observed⟩
    by_cases none_ : r.serpObservations = []
    · have unseen := merged.unobserved.mp none_
      rw [appearances_of_unobserved none_, appearances_of_unobserved (observed.mp none_), position, position', same,
        query (unseen c member), query' (unseen c' there), asked (unseen c member)]
    · rw [appearances_of_observed none_, appearances_of_observed fun empty => none_ (observed.mpr empty)]
      have keys : (r.serpObservations.map Observation.key).Perm (r'.serpObservations.map Observation.key) := by
        rw [List.perm_ext_iff_of_nodup (merged.distinct several) (merged'.distinct (perm.length_eq ▸ several))]
        intro key
        rw [merged.keys, merged'.keys]
        simp only [perm.mem_iff]
      have moved := keys.map fun key => (some (ofLex (ofLex key).2).1, some (ofLex key).1)
      rw [List.map_map, List.map_map] at moved
      exact moved
  · match rows, several with
    | [], _ => cases reduced
    | [c], _ =>
      have same := List.singleton_perm.mp perm
      subst same
      rw [reduced] at reduced'
      cases reduced'
      exact .refl r
    | _ :: _ :: _, several => simp at several

end

/-! ## All domains -/

/-- `urlparse` cannot read a URL. -/
def invalidUrl : WorkerError := ⟨.valueError, "Invalid URL"⟩

section
variable (python : Python)

theorem competitorDomain_fails (competitor : CompetitorMetric) :
    Checks.FailsAs invalidUrl (competitorDomain python competitor) := by
  intro other failed
  have parsed := (competitorDomain_error failed).2
  unfold Evidence.parsedNetloc at parsed
  split at parsed
  · cases parsed
  · cases parsed
    rfl

/-- The domain of a competitor that has one. -/
def domainOf (competitor : CompetitorMetric) : String := (competitorDomain python competitor).toOption.getD ""

theorem uniqueDomainCompetitors_ok {competitors : List CompetitorMetric}
    (read : ∀ c ∈ competitors, (competitorDomain python c).isOk = true) :
    uniqueDomainCompetitors python competitors =
      .ok ((PyDict.mergedBy mergeRows (domainOf python) competitors).map Prod.snd) := by
  have loop : ∀ (competitors : List CompetitorMetric) (rows : List (String × CompetitorMetric)),
      (∀ c ∈ competitors, (competitorDomain python c).isOk = true) →
        competitors.foldlM (addCompetitor python) rows = .ok (competitors.foldl (fun rows c =>
          PyDict.mergeTo mergeRows rows (domainOf python c) c) rows) := by
    intro competitors
    induction competitors with
    | nil => exact fun _ _ => rfl
    | cons c rest ih =>
      intro rows read
      obtain ⟨domain, known⟩ := Checks.of_isOk (read c List.mem_cons_self)
      have round : addCompetitor python rows c = .ok (PyDict.mergeTo mergeRows rows (domainOf python c) c) := by
        unfold addCompetitor domainOf PyDict.mergeTo
        rw [known]
        dsimp only [bind, Except.bind, Except.toOption, Option.getD]
        cases rows.lookup domain <;> rfl
      rw [List.foldlM_cons, round]
      exact ih _ fun later member => read later (List.mem_cons_of_mem c member)
  unfold uniqueDomainCompetitors
  rw [loop competitors [] read]
  rfl

theorem uniqueDomainCompetitors_unread {competitors : List CompetitorMetric} {c : CompetitorMetric}
    (member : c ∈ competitors) (unread : ¬(competitorDomain python c).isOk = true) :
    uniqueDomainCompetitors python competitors = .error invalidUrl := by
  have loop : ∀ (competitors : List CompetitorMetric) (rows : List (String × CompetitorMetric)), c ∈ competitors →
      competitors.foldlM (addCompetitor python) rows = .error invalidUrl := by
    intro competitors
    induction competitors with
    | nil =>
      intro rows member
      cases member
    | cons first rest ih =>
      intro rows member
      rw [List.foldlM_cons]
      cases known : competitorDomain python first with
      | error e =>
        rw [competitorDomain_fails python first e known] at known
        rw [addCompetitor, known]
        rfl
      | ok domain =>
        rcases List.mem_cons.mp member with rfl | later
        · rw [known] at unread
          exact absurd rfl unread
        · have round : ∃ next, addCompetitor python rows first = .ok next := by
            unfold addCompetitor
            rw [known]
            dsimp only [bind, Except.bind]
            cases rows.lookup domain <;> exact ⟨_, rfl⟩
          obtain ⟨next, ran⟩ := round
          rw [ran]
          exact ih next later
  unfold uniqueDomainCompetitors
  rw [loop competitors [] member]
  rfl

theorem compatible_group {competitors : List CompetitorMetric}
    (compatible : competitors.Pairwise fun c c' => domainOf python c = domainOf python c' → Compatible python c c')
    (domain : String) :
    (competitors.filter fun c => decide (domainOf python c = domain)).Pairwise (Compatible python) := by
  have kept := compatible.filter fun c => decide (domainOf python c = domain)
  refine List.Pairwise.imp_of_mem (fun first second both => ?_) kept
  have one : domainOf python _ = domain := of_decide_eq_true (List.mem_filter.mp first).2
  have two : domainOf python _ = domain := of_decide_eq_true (List.mem_filter.mp second).2
  exact both (one.trans two.symm)

/-- The rows of the domains do not depend on the order of the competitors, but for their own order
and what is not read. -/
theorem uniqueDomainCompetitors_perm {competitors other : List CompetitorMetric} (perm : competitors.Perm other)
    (compatible : competitors.Pairwise fun c c' => domainOf python c = domainOf python c' → Compatible python c c') :
    Checks.Alike (fun rows rows' => ∃ middle, rows.Perm middle ∧ List.Forall₂ (Twin python) middle rows')
      (uniqueDomainCompetitors python competitors) (uniqueDomainCompetitors python other) := by
  by_cases read : ∀ c ∈ competitors, (competitorDomain python c).isOk = true
  · rw [uniqueDomainCompetitors_ok python read,
      uniqueDomainCompetitors_ok python fun c member => read c (perm.symm.subset member)]
    have values (domain : String) : Option.Rel (Twin python)
        ((PyDict.mergedBy mergeRows (domainOf python) competitors).lookup domain)
        ((PyDict.mergedBy mergeRows (domainOf python) other).lookup domain) := by
      have group := perm.filter fun c => decide (domainOf python c = domain)
      have pairs := compatible_group python compatible domain
      rw [PyDict.lookup_mergedBy, PyDict.lookup_mergedBy]
      have there : (PyDict.reduce mergeRows (competitors.filter fun c => decide (domainOf python c = domain))).isSome =
          (PyDict.reduce mergeRows (other.filter fun c => decide (domainOf python c = domain))).isSome := by
        rw [Bool.eq_iff_iff, PyDict.reduce_isSome, PyDict.reduce_isSome, not_iff_not]
        exact ⟨fun none_ => (none_ ▸ group).nil_eq.symm, fun none_ => (none_ ▸ group).eq_nil⟩
      cases found : PyDict.reduce mergeRows (competitors.filter fun c => decide (domainOf python c = domain)) with
      | none =>
        rw [found] at there
        rw [Option.isNone_iff_eq_none.mp (Option.isSome_eq_false_iff.mp there.symm)]
        exact .none
      | some r =>
        rw [found] at there
        obtain ⟨r', found'⟩ := Option.isSome_iff_exists.mp there.symm
        rw [found']
        exact .some (twin_of_perm group pairs found found')
    obtain ⟨middle, moved, related⟩ := PyDict.perm_related (PyDict.nodup_mergedBy _ _ _)
      (PyDict.nodup_mergedBy _ _ _) values
    exact .ok ⟨middle.map Prod.snd, moved.map _, related.values⟩
  · simp only [not_forall] at read
    obtain ⟨c, member, unread⟩ := read
    rw [uniqueDomainCompetitors_unread python member unread,
      uniqueDomainCompetitors_unread python (perm.subset member) unread]
    exact .error _

/-- Every row is made of rows of one domain. -/
theorem uniqueDomainCompetitors_merged {competitors rows : List CompetitorMetric}
    (compatible : competitors.Pairwise fun c c' => domainOf python c = domainOf python c' → Compatible python c c')
    (ran : uniqueDomainCompetitors python competitors = .ok rows) {r : CompetitorMetric} (member : r ∈ rows) :
    ∃ group, group ⊆ competitors ∧ Merged python group r := by
  have read : ∀ c ∈ competitors, (competitorDomain python c).isOk = true := by
    intro c there
    by_contra unread
    rw [uniqueDomainCompetitors_unread python there unread] at ran
    cases ran
  rw [uniqueDomainCompetitors_ok python read] at ran
  cases ran
  obtain ⟨⟨domain, value⟩, there, rfl⟩ := List.mem_map.mp member
  have found := PyDict.lookup_of_mem (PyDict.nodup_mergedBy _ _ _) there
  rw [PyDict.lookup_mergedBy] at found
  have pairs := compatible_group python compatible domain
  exact ⟨_, List.filter_subset_self _, merged_reduce (fun several => seen_alike pairs several) found⟩

end

end RankRent.Scoring
