import Mathlib.Data.List.TakeWhile
import RankRent.Library.PyWords

/-!
# Runs

What is left of a list when separators are taken out of it: the lists between them that
are not empty. White space around a text, or a separator more, changes no run.
-/

namespace PyString

section
variable {α : Type} {p : α → Bool}

/-- The lists between separators that are not empty. -/
def runs (p : α → Bool) (items : List α) : List (List α) := (items.splitOnP p).filter fun run => !run.isEmpty

/-- A run is not empty, and has no separator. -/
theorem mem_runs {items run : List α} (member : run ∈ runs p items) : run ≠ [] ∧ ∀ x ∈ run, p x = false := by
  obtain ⟨split_, some⟩ := List.mem_filter.mp member
  exact ⟨by simpa using some, splitOnP_clean items run split_⟩

theorem runs_of_clean {run : List α} (some : run ≠ []) (clean : ∀ x ∈ run, p x = false) : runs p run = [run] := by
  rw [runs, List.splitOnP_eq_singleton clean]
  simpa using some

theorem runs_append_cons (before after : List α) {separator : α} (separates : p separator = true) :
    runs p (before ++ separator :: after) = runs p before ++ runs p after := by
  rw [runs, List.splitOnP_append_cons before after separates, List.filter_append]
  rfl

@[simp] theorem runs_nil : runs p ([] : List α) = [] := rfl

@[simp] theorem runs_cons {separator : α} (separates : p separator = true) (after : List α) :
    runs p (separator :: after) = runs p after :=
  runs_append_cons [] after separates

/-- Separators in front add no run. -/
theorem runs_separators_append {separators : List α} (all : ∀ x ∈ separators, p x = true) (items : List α) :
    runs p (separators ++ items) = runs p items := by
  induction separators with
  | nil => rfl
  | cons separator separators ih =>
    obtain ⟨separates, rest⟩ := List.forall_mem_cons.mp all
    rw [List.cons_append, runs_cons separates, ih rest]

/-- Separators behind add no run. -/
theorem runs_append_separators {separators : List α} (all : ∀ x ∈ separators, p x = true) (items : List α) :
    runs p (items ++ separators) = runs p items := by
  cases separators with
  | nil => rw [List.append_nil]
  | cons separator separators =>
    obtain ⟨separates, rest⟩ := List.forall_mem_cons.mp all
    have none_ : runs p separators = [] := by
      rw [← List.append_nil separators, runs_separators_append rest, runs_nil]
    rw [runs_append_cons items separators separates, none_, List.append_nil]

/-- Runs joined by a separator are read back. -/
theorem runs_intercalate {words : List (List α)} {separator : α} (separates : p separator = true)
    (each : ∀ word ∈ words, word ≠ [] ∧ ∀ x ∈ word, p x = false) :
    runs p (List.intercalate [separator] words) = words := by
  induction words with
  | nil => rfl
  | cons word words ih =>
    obtain ⟨⟨some, clean⟩, rest⟩ := List.forall_mem_cons.mp each
    cases words with
    | nil => simpa using runs_of_clean some clean
    | cons next words =>
      have joined : List.intercalate [separator] (word :: next :: words) =
          word ++ separator :: List.intercalate [separator] (next :: words) := by simp
      rw [joined, runs_append_cons _ _ separates, runs_of_clean some clean, ih rest]
      rfl

/-- Induction from separator to separator. -/
@[elab_as_elim]
theorem runs_induction {motive : List α → Prop} (items : List α)
    (whole : ∀ run, (∀ x ∈ run, p x = false) → motive run)
    (split_ : ∀ before separator after, (∀ x ∈ before, p x = false) → p separator = true → motive after →
      motive (before ++ separator :: after)) : motive items := by
  -- What stands before the next separator is kept aside.
  have behind (before : List α) (none_ : ∀ x ∈ before, p x = false) : motive (before ++ items) := by
    induction items generalizing before with
    | nil => exact whole _ (by simpa using none_)
    | cons x items ih =>
      by_cases separates : p x = true
      · exact split_ before x items none_ separates (ih [] (by simp))
      · have longer : ∀ y ∈ before ++ [x], p y = false := by
          intro y member
          rcases List.mem_append.mp member with old | new
          · exact none_ y old
          · rw [List.mem_singleton.mp new]
            simpa using separates
        simpa using ih (before ++ [x]) longer
  exact behind [] (by simp)

/-- What is no separator is in a run. -/
theorem mem_run {items : List α} {x : α} (member : x ∈ items) (plain : p x = false) :
    ∃ run ∈ runs p items, x ∈ run := by
  have whole (run : List α) (none_ : ∀ y ∈ run, p y = false) (inside : x ∈ run) : ∃ part ∈ runs p run, x ∈ part := by
    rw [runs_of_clean (List.ne_nil_of_mem inside) none_]
    exact ⟨run, List.mem_singleton_self _, inside⟩
  induction items using runs_induction (p := p) with
  | whole run none_ => exact whole run none_ member
  | split_ before separator after none_ separates ih =>
    rw [runs_append_cons _ _ separates]
    rcases List.mem_append.mp member with front | back
    · obtain ⟨part, there, inside⟩ := whole before none_ front
      exact ⟨part, List.mem_append_left _ there, inside⟩
    · rcases List.mem_cons.mp back with rfl | later
      · rw [separates] at plain
        cases plain
      · obtain ⟨part, there, inside⟩ := ih later
        exact ⟨part, List.mem_append_right _ there, inside⟩

/-- A single run stands between separators. -/
theorem runs_eq_singleton {items run : List α} (single : runs p items = [run]) : ∃ before after,
    items = before ++ run ++ after ∧ (∀ x ∈ before, p x = true) ∧ ∀ x ∈ after, p x = true := by
  have separators {others : List α} (none_ : runs p others = []) : ∀ x ∈ others, p x = true := by
    intro x member
    by_contra plain
    obtain ⟨part, there, -⟩ := mem_run member (by simpa using plain)
    rw [none_] at there
    cases there
  induction items using runs_induction (p := p) with
  | whole items none_ =>
    have some : items ≠ [] := by
      rintro rfl
      cases single
    rw [runs_of_clean some none_] at single
    obtain rfl := List.singleton_inj.mp single
    exact ⟨[], [], by simp⟩
  | split_ before separator after none_ separates ih =>
    rw [runs_append_cons _ _ separates] at single
    cases before with
    | nil =>
      obtain ⟨front, back, rfl, all_, rest⟩ := ih single
      exact ⟨separator :: front, back, rfl, List.forall_mem_cons.mpr ⟨separates, all_⟩, rest⟩
    | cons x before =>
      rw [runs_of_clean (by simp) none_, List.singleton_append] at single
      obtain ⟨rfl, empty⟩ := List.cons.inj single
      exact ⟨[], separator :: after, by simp, by simp, List.forall_mem_cons.mpr ⟨separates, separators empty⟩⟩

/-- A map that keeps separators, and makes none, maps the runs. -/
theorem runs_flatMap {f : α → List α} (keeps : ∀ x, p x = true → f x = [x])
    (clean : ∀ x, p x = false → f x ≠ [] ∧ ∀ y ∈ f x, p y = false) (items : List α) :
    runs p (items.flatMap f) = (runs p items).map fun run => run.flatMap f := by
  have whole (run : List α) (none_ : ∀ x ∈ run, p x = false) :
      runs p (run.flatMap f) = (runs p run).map fun run => run.flatMap f := by
    cases run with
    | nil => rfl
    | cons x run =>
      rw [runs_of_clean (by simp) none_, runs_of_clean]
      · rfl
      · simp [(clean x (none_ x (by simp))).1]
      · intro y member
        obtain ⟨z, inside, made⟩ := List.mem_flatMap.mp member
        exact (clean z (none_ z inside)).2 y made
  induction items using runs_induction (p := p) with
  | whole run none_ => exact whole run none_
  | split_ before separator after none_ separates ih =>
    rw [List.flatMap_append, List.flatMap_cons, keeps separator separates, List.singleton_append,
      runs_append_cons _ _ separates, runs_append_cons _ _ separates, whole before none_, ih, List.map_append]

/-- Where a map writes separators over others, the runs are those between the others. -/
theorem runs_map {q : α → Bool} {f : α → α} (reads : ∀ x, p (f x) = q x) (kept : ∀ x, q x = false → f x = x)
    (items : List α) : runs p (items.map f) = runs q items := by
  have whole (run : List α) (none_ : ∀ x ∈ run, q x = false) : runs p (run.map f) = runs q run := by
    rw [List.map_congr_left fun x member => kept x (none_ x member), List.map_id']
    cases run with
    | nil => rfl
    | cons x run =>
      rw [runs_of_clean (by simp) none_, runs_of_clean (by simp)]
      intro y member
      rw [← kept y (none_ y member), reads, none_ y member]
  induction items using runs_induction (p := q) with
  | whole run none_ => exact whole run none_
  | split_ before separator after none_ separates ih =>
    have over_ : p (f separator) = true := by rw [reads, separates]
    rw [List.map_append, List.map_cons, runs_append_cons _ _ over_, runs_append_cons _ _ separates, whole before none_,
      ih]

/-- Runs between more separators are the runs of the runs. -/
theorem runs_runs {q : α → Bool} (more : ∀ x, p x = true → q x = true) (items : List α) :
    runs q items = (runs p items).flatMap (runs q) := by
  have whole (run : List α) (none_ : ∀ x ∈ run, p x = false) : runs q run = (runs p run).flatMap (runs q) := by
    cases run with
    | nil => rfl
    | cons x run =>
      rw [runs_of_clean (by simp) none_]
      simp
  induction items using runs_induction (p := p) with
  | whole run none_ => exact whole run none_
  | split_ before separator after none_ separates ih =>
    rw [runs_append_cons _ _ (more separator separates), runs_append_cons _ _ separates, List.flatMap_append,
      ← whole before none_, ih]

end

/-- Words joined by a blank are read back. -/
theorem runs_join {p : Char → Bool} (blank : p ' ' = true) {parts : List String}
    (each : ∀ part ∈ parts, part.toList ≠ [] ∧ ∀ c ∈ part.toList, p c = false) :
    (runs p (String.intercalate " " parts).toList).map String.ofList = parts := by
  have runs_ : ∀ run ∈ parts.map String.toList, run ≠ [] ∧ ∀ c ∈ run, p c = false := by
    intro run member
    obtain ⟨part, there, rfl⟩ := List.mem_map.mp member
    exact each part there
  rw [String.toList_intercalate, show (" " : String).toList = [' '] from rfl, runs_intercalate blank runs_, List.map_map]
  simp [Function.comp_def]

/-- A text is what `strip` leaves of it, between white space. -/
theorem strip_between (s : String) : ∃ before after, s.toList = before ++ (strip s).toList ++ after ∧
    (∀ c ∈ before, isSpace c = true) ∧ ∀ c ∈ after, isSpace c = true := by
  have trimmed : (strip s).toList = ((s.toList.dropWhile isSpace).reverse.dropWhile isSpace).reverse := by
    rw [strip, String.toList_ofList]
  refine ⟨s.toList.takeWhile isSpace, ((s.toList.dropWhile isSpace).reverse.takeWhile isSpace).reverse, ?_, ?_, ?_⟩
  · rw [trimmed, List.append_assoc, ← List.reverse_append, List.takeWhile_append_dropWhile, List.reverse_reverse,
      List.takeWhile_append_dropWhile]
  · exact fun c => List.mem_takeWhile_imp
  · exact fun c member => List.mem_takeWhile_imp (List.mem_reverse.mp member)

/-- A text of one word is stripped to it. -/
theorem strip_of_word {s : String} {run : List Char} (single : runs isSpace s.toList = [run]) :
    strip s = String.ofList run := by
  obtain ⟨before, after, whole, front, back⟩ := runs_eq_singleton single
  obtain ⟨some, clean⟩ := mem_runs (single ▸ List.mem_singleton_self run)
  have kept {chars : List Char} (some : chars ≠ []) (clean : ∀ c ∈ chars, isSpace c = false) (rest : List Char) :
      (chars ++ rest).dropWhile isSpace = chars ++ rest := by
    cases chars with
    | nil => exact absurd rfl some
    | cons c chars => simp [clean c (by simp)]
  rw [strip, whole, List.append_assoc, List.dropWhile_append_of_pos front, kept some clean, List.reverse_append,
    List.dropWhile_append_of_pos fun c member => back c (List.mem_reverse.mp member), ← List.append_nil run.reverse,
    kept (by simpa using some) fun c member => clean c (List.mem_reverse.mp member), List.append_nil,
    List.reverse_reverse]

/-- Where white space separates, `strip` changes no run. -/
theorem runs_strip {p : Char → Bool} (separates : ∀ c, isSpace c = true → p c = true) (s : String) :
    runs p (strip s).toList = runs p s.toList := by
  obtain ⟨before, after, whole, front, back⟩ := strip_between s
  rw [whole, runs_append_separators fun c member => separates c (back c member),
    runs_separators_append fun c member => separates c (front c member)]

end PyString
