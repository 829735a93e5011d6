import RankRent.Evidence.Keywords
import RankRent.Library.PyWords

/-!
# Which candidates are asked for

`plan_keyword_candidates` decides once on every candidate, and what it includes stands
for every canonical form that no negative term occurs in.
-/

namespace RankRent.Evidence

section
variable (python : Python)

/-- The words of a canonical form. -/
def tokens (value : String) : List String := PyString.words (spaced python value)

/-- The words of a term occur in a row in a keyword. -/
def HasPhrase (keyword term : String) : Prop :=
  tokens python term ≠ [] ∧ tokens python term <:+: tokens python keyword

/-- No negative term occurs in a keyword that has a canonical form. -/
def Wanted (negativeTerms : List String) (keyword : String) : Prop :=
  normalizeKeyword python keyword ≠ "" ∧ ∀ term ∈ negativeTerms, ¬ HasPhrase python keyword term

/-- What a plan keeps of its candidates. -/
structure CandidatesPlanned (candidates : List KeywordCandidate) (negativeTerms : List String)
    (plan : KeywordCandidatePlan) : Prop where
  decided : plan.decisions.map KeywordDecision.keyword = candidates.map KeywordCandidate.keyword
  kept : plan.candidates.map KeywordCandidate.keyword = candidates.map KeywordCandidate.keyword
  distinct : (plan.includedKeywords.map (normalizeKeyword python)).Nodup
  wanted : ∀ keyword ∈ plan.includedKeywords, Wanted python negativeTerms keyword
  complete : ∀ candidate ∈ candidates, Wanted python negativeTerms candidate.keyword →
    ∃ keyword ∈ plan.includedKeywords,
      normalizeKeyword python keyword = normalizeKeyword python candidate.keyword

variable {python}

theorem normalizeKeyword_eq (value : String) :
    normalizeKeyword python value = String.intercalate " " (tokens python value) := rfl

theorem tokens_isWord (value : String) : ∀ w ∈ tokens python value, PyString.IsWord w.toList :=
  PyString.words_isWord _

theorem tokens_ne_nil {value : String} (some : normalizeKeyword python value ≠ "") :
    tokens python value ≠ [] := by
  intro empty
  rw [normalizeKeyword_eq, empty] at some
  exact some rfl

theorem normalizeKeyword_ne_empty {value : String} (some : tokens python value ≠ []) :
    normalizeKeyword python value ≠ "" := by
  obtain ⟨w, rest, split_⟩ := List.exists_cons_of_ne_nil some
  have listed : w ∈ tokens python value := by
    rw [split_]
    exact List.mem_cons_self
  have word := tokens_isWord value w listed
  intro empty
  have chars := congrArg String.toList empty
  rw [normalizeKeyword_eq, split_, String.toList_intercalate] at chars
  cases rest with
  | nil => exact word.1 (by simpa using chars)
  | cons v rest => simp at chars

/-- A term of white space has no words. -/
theorem tokens_of_strip {term : String} (blank : PyString.strip term = "") :
    tokens python term = [] := by
  have slug : slugify python term = "" := by
    rw [slugify, blank]
    rfl
  rw [tokens, spaced, slug]
  rfl

theorem matchingNegative_some {canonical negative : String} {negatives : List String}
    (matched : matchingNegative canonical negatives = some negative) :
    negative ∈ negatives ∧
      PyString.contains (" " ++ canonical ++ " ") (" " ++ negative ++ " ") = true := by
  unfold matchingNegative at matched
  have member := List.mem_of_find?_eq_some matched
  rw [List.find?_eq_some_iff_append] at matched
  exact ⟨member, matched.1⟩

/-- A negative term is found exactly when its words occur in the keyword. -/
theorem matchingNegative_none {negativeTerms : List String} {keyword : String}
    (some : normalizeKeyword python keyword ≠ "") :
    (matchingNegative (normalizeKeyword python keyword)
      (normalizedNegatives python negativeTerms)).filter (· ≠ "") = none ↔
    ∀ term ∈ negativeTerms, ¬ HasPhrase python keyword term := by
  have found (term : String) : PyString.contains (" " ++ normalizeKeyword python keyword ++ " ")
      (" " ++ normalizeKeyword python term ++ " ") = true ↔ HasPhrase python keyword term :=
    PyString.contains_padded (tokens_isWord keyword) (tokens_isWord term) (tokens_ne_nil some)
  constructor
  · intro nothing term listed has
    have kept : PyString.strip term ≠ "" := fun blank => has.1 (tokens_of_strip blank)
    have there : normalizeKeyword python term ∈ normalizedNegatives python negativeTerms :=
      List.mem_map_of_mem (List.mem_filter.mpr ⟨listed, by simpa using kept⟩)
    have first : (matchingNegative (normalizeKeyword python keyword)
        (normalizedNegatives python negativeTerms)).isSome = true :=
      List.find?_isSome.mpr ⟨_, there, (found term).mpr has⟩
    obtain ⟨negative, matched⟩ := Option.isSome_iff_exists.mp first
    obtain ⟨from_, inside⟩ := matchingNegative_some matched
    obtain ⟨other, -, rfl⟩ := List.mem_map.mp from_
    have phrase := (found other).mp inside
    rw [matched] at nothing
    simp [Option.filter, normalizeKeyword_ne_empty phrase.1] at nothing
  · intro clean
    have none_ : matchingNegative (normalizeKeyword python keyword)
        (normalizedNegatives python negativeTerms) = none := by
      refine List.find?_eq_none.mpr fun negative member => ?_
      obtain ⟨term, listed, rfl⟩ := List.mem_map.mp member
      rw [found term]
      exact clean term (List.mem_filter.mp listed).1
    rw [none_]
    rfl

/-- A keyword is included when it is wanted and the first of its canonical form. -/
theorem excludedReason_none {negativeTerms seen : List String} {keyword : String} :
    excludedReason (normalizedNegatives python negativeTerms) seen (normalizeKeyword python keyword) =
      none ↔ Wanted python negativeTerms keyword ∧ normalizeKeyword python keyword ∉ seen := by
  unfold excludedReason Wanted
  by_cases empty : normalizeKeyword python keyword = ""
  · simp [empty]
  · rw [if_neg empty, ← matchingNegative_none empty]
    cases (matchingNegative (normalizeKeyword python keyword)
        (normalizedNegatives python negativeTerms)).filter (· ≠ "") with
    | none => by_cases old : normalizeKeyword python keyword ∈ seen <;> simp [old, empty]
    | some negative => simp

/-- The included keywords of a part of the loop. -/
def included (planned : List (KeywordCandidate × KeywordDecision)) : List String :=
  ((planned.map Prod.fst).filter KeywordCandidate.included).map KeywordCandidate.keyword

theorem planOne_keyword (candidate : KeywordCandidate) (canonical : String)
    (excluded : Option (String × String)) :
    (planOne candidate canonical excluded).1.keyword = candidate.keyword ∧
      (planOne candidate canonical excluded).2.keyword = candidate.keyword := by
  cases excluded <;> exact ⟨rfl, rfl⟩

theorem included_cons (candidate : KeywordCandidate) (canonical : String)
    (excluded : Option (String × String)) (planned : List (KeywordCandidate × KeywordDecision)) :
    included (planOne candidate canonical excluded :: planned) =
      if excluded.isNone then candidate.keyword :: included planned else included planned := by
  cases excluded <;> rfl

theorem planAfter_keywords (python : Python) (negatives seen : List String) (candidates : List KeywordCandidate) :
    (planAfter python negatives seen candidates).map (fun entry => entry.1.keyword) =
        candidates.map KeywordCandidate.keyword ∧
      (planAfter python negatives seen candidates).map (fun entry => entry.2.keyword) =
        candidates.map KeywordCandidate.keyword := by
  induction candidates generalizing seen with
  | nil => exact ⟨rfl, rfl⟩
  | cons candidate rest ih =>
    rw [planAfter]
    simp only [List.map_cons, planOne_keyword, ih, and_self]

/-- What a plan includes after the canonical forms in `seen`. -/
structure Includes (python : Python) (negativeTerms seen : List String)
    (candidates : List KeywordCandidate) (keywords : List String) : Prop where
  distinct : (keywords.map (normalizeKeyword python)).Nodup
  wanted : ∀ keyword ∈ keywords, Wanted python negativeTerms keyword ∧
    normalizeKeyword python keyword ∉ seen
  complete : ∀ candidate ∈ candidates, Wanted python negativeTerms candidate.keyword →
    normalizeKeyword python candidate.keyword ∈ seen ∨
    ∃ keyword ∈ keywords, normalizeKeyword python keyword = normalizeKeyword python candidate.keyword

/-- A candidate that is left out: it is not wanted, or its form was seen. -/
theorem Includes.skip {negativeTerms seen : List String} {candidate : KeywordCandidate}
    {rest : List KeywordCandidate} {keywords : List String}
    (includes : Includes python negativeTerms seen rest keywords)
    (left : Wanted python negativeTerms candidate.keyword →
      normalizeKeyword python candidate.keyword ∈ seen) :
    Includes python negativeTerms seen (candidate :: rest) keywords := by
  refine ⟨includes.distinct, includes.wanted, fun other member wants => ?_⟩
  rcases List.mem_cons.mp member with rfl | later
  · exact .inl (left wants)
  · exact includes.complete other later wants

/-- A wanted candidate of a new form. -/
theorem Includes.take {negativeTerms seen : List String} {candidate : KeywordCandidate}
    {rest : List KeywordCandidate} {keywords : List String}
    (includes : Includes python negativeTerms (normalizeKeyword python candidate.keyword :: seen) rest
      keywords)
    (wants : Wanted python negativeTerms candidate.keyword)
    (fresh : normalizeKeyword python candidate.keyword ∉ seen) :
    Includes python negativeTerms seen (candidate :: rest) (candidate.keyword :: keywords) := by
  constructor
  · rw [List.map_cons, List.nodup_cons]
    refine ⟨fun again => ?_, includes.distinct⟩
    obtain ⟨keyword, listed, same⟩ := List.mem_map.mp again
    apply (includes.wanted keyword listed).2
    rw [same]
    exact List.mem_cons_self
  · intro keyword member
    rcases List.mem_cons.mp member with rfl | later
    · exact ⟨wants, fresh⟩
    · obtain ⟨good, new⟩ := includes.wanted keyword later
      exact ⟨good, fun old => new (List.mem_cons_of_mem _ old)⟩
  · intro other member good
    rcases List.mem_cons.mp member with rfl | later
    · exact .inr ⟨other.keyword, List.mem_cons_self, rfl⟩
    · rcases includes.complete other later good with old | ⟨keyword, listed, same⟩
      · rcases List.mem_cons.mp old with same | older
        · exact .inr ⟨candidate.keyword, List.mem_cons_self, same.symm⟩
        · exact .inl older
      · exact .inr ⟨keyword, List.mem_cons_of_mem candidate.keyword listed, same⟩

theorem planAfter_includes (python : Python) (negativeTerms seen : List String) (candidates : List KeywordCandidate) :
    Includes python negativeTerms seen candidates
      (included (planAfter python (normalizedNegatives python negativeTerms) seen candidates)) := by
  induction candidates generalizing seen with
  | nil => exact ⟨List.nodup_nil, by simp [planAfter, included], by simp⟩
  | cons candidate rest ih =>
    rw [planAfter, included_cons]
    by_cases taken : excludedReason (normalizedNegatives python negativeTerms) seen
        (normalizeKeyword python candidate.keyword) = none
    · obtain ⟨wants, fresh⟩ := excludedReason_none.mp taken
      rw [taken]
      exact (ih _).take wants fresh
    · have left : Wanted python negativeTerms candidate.keyword →
          normalizeKeyword python candidate.keyword ∈ seen := by
        intro wants
        by_contra fresh
        exact taken (excludedReason_none.mpr ⟨wants, fresh⟩)
      rw [← Option.isNone_iff_eq_none] at taken
      simp only [taken]
      exact (ih seen).skip left

theorem candidates_planned (candidates : List KeywordCandidate) (negativeTerms : List String) :
    CandidatesPlanned python candidates negativeTerms
      (planKeywordCandidates python candidates negativeTerms) := by
  have keywords := planAfter_keywords python (normalizedNegatives python negativeTerms) [] candidates
  have includes := planAfter_includes python negativeTerms [] candidates
  constructor
  · rw [← keywords.2, planKeywordCandidates, List.map_map]
    rfl
  · rw [← keywords.1, planKeywordCandidates, List.map_map]
    rfl
  · exact includes.distinct
  · exact fun keyword member => (includes.wanted keyword member).1
  · intro candidate member wants
    exact (includes.complete candidate member wants).resolve_left List.not_mem_nil

end

end RankRent.Evidence
