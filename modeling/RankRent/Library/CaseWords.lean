import RankRent.Library.Casefold
import RankRent.Library.PyDict
import RankRent.Library.PyRuns

/-!
# Case folding and words

Folding neither makes nor changes white space, a hyphen or an underscore, so it may be done
before a text is split at them or after.
-/

namespace PyString

/-! ## Marks -/

/-- White space, the hyphen and the underscore. -/
def isMark (c : Char) : Bool := isSpace c || c = '-' || c = '_'

/-- The code points of the marks. -/
def marks : List ℕ :=
  [9, 10, 11, 12, 13, 28, 29, 30, 31, 32, 45, 95, 133, 160, 5760, 8192, 8193, 8194, 8195, 8196, 8197, 8198, 8199, 8200,
   8201, 8202, 8232, 8233, 8239, 8287, 12288]

theorem mem_marks {c : Char} (mark : isMark c = true) : c.toNat ∈ marks := by
  simp only [isMark, isSpace, Bool.or_eq_true, Bool.and_eq_true, decide_eq_true_eq, beq_iff_eq] at mark
  rcases mark with (space | rfl) | rfl
  · simp only [marks, List.mem_cons, List.not_mem_nil, or_false]
    omega
  · decide
  · decide

/-- Neither table folds a mark, or folds anything to one. -/
theorem tables_unmarked :
    (∀ n ∈ marks, foldLong.lookup n = none ∧
      (foldRuns.find? fun (first, last, step, _) => first ≤ n && n ≤ last && (n - first) % step == 0) = none) ∧
    (∀ entry ∈ foldLong, entry.2 ≠ [] ∧ ∀ n ∈ entry.2, isMark (Char.ofNat n) = false) ∧
    ∀ run ∈ foldRuns, ∀ n ∈ marks, (n : ℤ) < run.1 + run.2.2.2 ∨ run.2.1 + run.2.2.2 < (n : ℤ) := by
  decide +kernel

theorem toNat_ofNat (n : ℕ) : (Char.ofNat n).toNat = n ∨ (Char.ofNat n).toNat = 0 := by
  by_cases valid : n.isValidChar
  · have same : Char.ofNat n = Char.ofNatAux n valid := dif_pos valid
    rw [same]
    exact .inl rfl
  · have same : Char.ofNat n = Char.ofNatAux 0 (.inl (by decide)) := dif_neg valid
    rw [same]
    exact .inr rfl

/-- A mark is folded to itself. -/
theorem foldChar_mark {c : Char} (mark : isMark c = true) : foldChar c = [c] := by
  obtain ⟨short, none_⟩ := tables_unmarked.1 c.toNat (mem_marks mark)
  unfold foldChar
  rw [short]
  dsimp only
  rw [none_]

/-- No other character is folded to a mark. -/
theorem mem_foldChar {c d : Char} (member : d ∈ foldChar c) (mark : isMark d = true) : c = d := by
  unfold foldChar at member
  split at member
  next folded long =>
    obtain ⟨n, inside, rfl⟩ := List.mem_map.mp member
    rw [(tables_unmarked.2.1 _ (PyDict.mem_of_lookup long)).2 n inside] at mark
    cases mark
  next =>
    dsimp only at member
    split at member
    next first last step distance listed =>
      rw [List.mem_singleton] at member
      subst member
      have inside := List.mem_of_find?_eq_some listed
      have range := List.find?_some listed
      simp only [Bool.and_eq_true, decide_eq_true_eq] at range
      have known := mem_marks mark
      have apart := tables_unmarked.2.2 _ inside _ known
      have zero : 0 ∉ marks := by decide
      have some : (Char.ofNat (c.toNat + distance).toNat).toNat ≠ 0 := fun none_ => zero (none_ ▸ known)
      have code := (toNat_ofNat (c.toNat + distance).toNat).resolve_right some
      rw [code] at apart some
      dsimp only at apart
      omega
    next => exact (List.mem_singleton.mp member).symm

theorem foldChar_ne_nil (c : Char) : foldChar c ≠ [] := by
  unfold foldChar
  split
  next folded listed =>
    simpa using (tables_unmarked.2.1 _ (PyDict.mem_of_lookup listed)).1
  next =>
    dsimp only
    split <;> simp

/-! ## Words -/

theorem mark_of_space {c : Char} (space : isSpace c = true) : isMark c = true := by
  simp [isMark, space]

theorem toList_casefold (s : String) : (casefold s).toList = s.toList.flatMap foldChar := String.toList_ofList

/-- The runs between marks of one kind are folded one by one. -/
theorem runs_casefold {p : Char → Bool} (marks_ : ∀ c, p c = true → isMark c = true) (s : String) :
    runs p (casefold s).toList = (runs p s.toList).map fun run => run.flatMap foldChar := by
  rw [toList_casefold]
  apply runs_flatMap
  · exact fun c mark => foldChar_mark (marks_ c mark)
  · intro c plain
    constructor
    · exact foldChar_ne_nil c
    · intro d member
      by_contra mark
      rw [Bool.not_eq_false] at mark
      rw [mem_foldChar member (marks_ d mark), mark] at plain
      cases plain

theorem words_eq (s : String) : words s = (runs isSpace s.toList).map String.ofList := rfl

/-- A text without white space is its only word. -/
theorem words_of_clean {s : String} (word : IsWord s.toList) : words s = [s] := by
  rw [words_eq, runs_of_clean word.1 word.2, List.map_singleton, String.ofList_toList]

theorem strip_of_words {s word : String} (single : words s = [word]) : strip s = word := by
  rw [words_eq, List.map_eq_singleton_iff] at single
  obtain ⟨run, runs_, rfl⟩ := single
  exact strip_of_word runs_

theorem words_strip (s : String) : words (strip s) = words s := by
  rw [words_eq, words_eq, runs_strip fun _ space => space]

theorem words_casefold (s : String) : words (casefold s) = (words s).map casefold := by
  rw [words_eq, words_eq, runs_casefold fun _ => mark_of_space, List.map_map, List.map_map]
  apply List.map_congr_left
  intro run _
  rw [Function.comp_apply, Function.comp_apply, casefold, String.toList_ofList]

/-- Words joined by a space are read back. -/
theorem words_intercalate {parts : List String} (each : ∀ w ∈ parts, IsWord w.toList) :
    words (String.intercalate " " parts) = parts := by
  rw [words_eq, runs_join (by decide) each]

end PyString
