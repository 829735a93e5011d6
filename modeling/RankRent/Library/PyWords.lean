import RankRent.Library.PyString

/-!
# Words and lines of a text

`str.split()` gives words without white space, and a phrase stands in a text as whole
words exactly when it occurs in it with a blank on either side. `str.splitlines` reads
back lines that are written with their ends.
-/

namespace PyString

/-- No white space, and not empty. -/
def IsWord (w : List Char) : Prop := w ≠ [] ∧ ∀ c ∈ w, isSpace c = false

theorem splitOnP_clean {α : Type} {p : α → Bool} (chars : List α) :
    ∀ run ∈ chars.splitOnP p, ∀ c ∈ run, p c = false := by
  induction chars with
  | nil => simp
  | cons c chars ih =>
    rw [List.splitOnP_cons_eq_if_modifyHead]
    by_cases space : p c = true
    · simpa [space] using ih
    · simp only [space]
      cases runs : chars.splitOnP p with
      | nil => exact absurd runs (List.splitOnP_ne_nil p chars)
      | cons run rest =>
        rw [runs] at ih
        intro other member
        rcases List.mem_cons.mp member with rfl | later
        · intro d inside
          rcases List.mem_cons.mp inside with rfl | old
          · exact Bool.eq_false_of_not_eq_true space
          · exact ih run List.mem_cons_self d old
        · exact ih other (List.mem_cons_of_mem run later)

theorem words_isWord (s : String) : ∀ w ∈ words s, IsWord w.toList := by
  intro w member
  obtain ⟨run, there, rfl⟩ := List.mem_map.mp member
  obtain ⟨split_, some⟩ := List.mem_filter.mp there
  rw [String.toList_ofList]
  exact ⟨by simpa using some, splitOnP_clean s.toList run split_⟩

/-- Words with a blank on either side of each. -/
def padded (ws : List (List Char)) : List Char := ' ' :: ws.flatMap (· ++ [' '])

theorem word_prefix {t w rest rest' : List Char} (cleanT : ' ' ∉ t) (cleanW : ' ' ∉ w)
    (start : t ++ ' ' :: rest <+: w ++ ' ' :: rest') : t = w ∧ rest <+: rest' := by
  induction t generalizing w with
  | nil =>
    cases w with
    | nil => exact ⟨rfl, (List.cons_prefix_cons.mp start).2⟩
    | cons d w =>
      have same := (List.cons_prefix_cons.mp start).1
      exact absurd (same ▸ List.mem_cons_self) cleanW
  | cons c t ih =>
    cases w with
    | nil =>
      have same := (List.cons_prefix_cons.mp start).1
      exact absurd (same ▸ List.mem_cons_self) cleanT
    | cons d w =>
      obtain ⟨rfl, more⟩ := List.cons_prefix_cons.mp start
      obtain ⟨rfl, after⟩ := ih (fun inside => cleanT (List.mem_cons_of_mem c inside))
        (fun inside => cleanW (List.mem_cons_of_mem c inside)) more
      exact ⟨rfl, after⟩

theorem prefix_words {ts ws : List (List Char)} (cleanT : ∀ t ∈ ts, ' ' ∉ t)
    (cleanW : ∀ w ∈ ws, ' ' ∉ w)
    (start : ts.flatMap (· ++ [' ']) <+: ws.flatMap (· ++ [' '])) : ts <+: ws := by
  induction ts generalizing ws with
  | nil => exact List.nil_prefix
  | cons t ts ih =>
    cases ws with
    | nil => simp at start
    | cons w ws =>
      simp only [List.flatMap_cons, List.append_assoc, List.singleton_append] at start
      obtain ⟨rfl, more⟩ := word_prefix (cleanT t List.mem_cons_self) (cleanW w List.mem_cons_self) start
      exact List.cons_prefix_cons.mpr ⟨rfl, ih (fun u member => cleanT u (List.mem_cons_of_mem t member))
        (fun u member => cleanW u (List.mem_cons_of_mem t member)) more⟩

/-- What begins with a blank is not found inside a word. -/
theorem infix_after_word {w rest after : List Char} (clean : ' ' ∉ w)
    (inside : ' ' :: rest <:+: w ++ after) : ' ' :: rest <:+: after := by
  induction w with
  | nil => exact inside
  | cons c w ih =>
    rw [List.cons_append, List.infix_cons_iff] at inside
    rcases inside with start | later
    · have same := (List.cons_prefix_cons.mp start).1
      exact absurd (same ▸ List.mem_cons_self) clean
    · exact ih (fun there => clean (List.mem_cons_of_mem c there)) later

theorem infix_of_padded {ts ws : List (List Char)} (cleanT : ∀ t ∈ ts, ' ' ∉ t)
    (cleanW : ∀ w ∈ ws, ' ' ∉ w) (inside : padded ts <:+: padded ws) : ts <:+: ws := by
  induction ws with
  | nil =>
    cases ts with
    | nil => exact List.infix_rfl
    | cons t ts =>
      have size := inside.length_le
      simp [padded] at size
  | cons w ws ih =>
    rw [padded, padded, List.infix_cons_iff] at inside
    rcases inside with start | later
    · exact (prefix_words cleanT cleanW (List.cons_prefix_cons.mp start).2).isInfix
    · simp only [List.flatMap_cons, List.append_assoc, List.singleton_append] at later
      have rest := infix_after_word (cleanW w List.mem_cons_self) later
      exact (ih (fun u member => cleanW u (List.mem_cons_of_mem w member)) rest).trans
        (List.suffix_cons w ws).isInfix

theorem padded_of_infix {ts ws : List (List Char)} (inside : ts <:+: ws) : padded ts <:+: padded ws := by
  obtain ⟨before, after, rfl⟩ := inside
  have blank : ∃ start, padded before = start ++ [' '] := by
    rcases List.eq_nil_or_concat before with rfl | ⟨front, last, rfl⟩
    · exact ⟨[], rfl⟩
    · exact ⟨' ' :: front.flatMap (· ++ [' ']) ++ last, by simp [padded]⟩
  obtain ⟨start, ends⟩ := blank
  refine ⟨start, after.flatMap (· ++ [' ']), ?_⟩
  have whole : padded (before ++ ts ++ after) =
      padded before ++ (ts.flatMap (· ++ [' ']) ++ after.flatMap (· ++ [' '])) := by simp [padded]
  rw [whole, ends]
  simp [padded]

theorem toList_padded {ws : List String} (some : ws ≠ []) :
    (" " ++ String.intercalate " " ws ++ " ").toList = padded (ws.map String.toList) := by
  have joined (w : List Char) (rest : List (List Char)) :
      List.intercalate [' '] (w :: rest) ++ [' '] = (w :: rest).flatMap (· ++ [' ']) := by
    induction rest generalizing w with
    | nil => simp
    | cons v rest ih => simpa using ih v
  obtain ⟨w, rest, rfl⟩ := List.exists_cons_of_ne_nil some
  have tail := joined w.toList (rest.map String.toList)
  simp only [padded, String.toList_append, String.toList_intercalate, List.map_cons] at tail ⊢
  rw [← tail]
  rfl

/-- A phrase occurs between blanks exactly where its words do. -/
theorem contains_padded {text phrase : List String} (words : ∀ w ∈ text, IsWord w.toList)
    (terms : ∀ t ∈ phrase, IsWord t.toList) (some : text ≠ []) :
    contains (" " ++ String.intercalate " " text ++ " ") (" " ++ String.intercalate " " phrase ++ " ") =
      true ↔ phrase ≠ [] ∧ phrase <:+: text := by
  have blank {w : List Char} (word : IsWord w) : ' ' ∉ w := by
    intro inside
    exact absurd (word.2 ' ' inside) (by decide)
  have cleanW : ∀ w ∈ text.map String.toList, ' ' ∉ w := by
    intro w member
    obtain ⟨s, there, rfl⟩ := List.mem_map.mp member
    exact blank (words s there)
  rw [contains, decide_eq_true_eq, toList_padded some]
  by_cases empty : phrase = []
  · -- Two blanks in a row would enclose an empty word.
    subst empty
    simp only [ne_eq, not_true_eq_false, false_and, iff_false]
    intro inside
    have twice : (" " ++ String.intercalate " " [] ++ " ").toList = padded [[]] := by decide
    rw [twice] at inside
    have found := (infix_of_padded (by simp) cleanW inside).subset List.mem_cons_self
    obtain ⟨s, there, none_⟩ := List.mem_map.mp found
    exact (words s there).1 none_
  · have cleanT : ∀ t ∈ phrase.map String.toList, ' ' ∉ t := by
      intro t member
      obtain ⟨s, there, rfl⟩ := List.mem_map.mp member
      exact blank (terms s there)
    rw [toList_padded empty]
    constructor
    · intro inside
      refine ⟨empty, ?_⟩
      have found := infix_of_padded cleanT cleanW inside
      have back := found.map String.ofList
      simpa [Function.comp_def] using back
    · rintro ⟨-, inside⟩
      exact padded_of_infix (inside.map String.toList)

/-! ## Lines -/

/-- A character at which a line ends. -/
def lineBreak (c : Char) : Bool := c.toNat ∈ [10, 11, 12, 13, 28, 29, 30, 133, 8232, 8233]

/-- The lines of a text, the first of which began with these characters, last first. -/
def linesFrom : List Char → List Char → List (List Char)
  | current, [] => if current = [] then [] else [current.reverse]
  | current, '\r' :: '\n' :: rest => current.reverse :: linesFrom [] rest
  | current, c :: rest => if lineBreak c then current.reverse :: linesFrom [] rest else linesFrom (c :: current) rest

/-- `str.splitlines`. -/
def splitlines (text : List Char) : List (List Char) := linesFrom [] text

theorem linesFrom_clean {line : List Char} (clean : ∀ c ∈ line, lineBreak c = false) (current rest : List Char) :
    linesFrom current (line ++ rest) = linesFrom (line.reverse ++ current) rest := by
  induction line generalizing current with
  | nil => rfl
  | cons c line ih =>
    have plain : lineBreak c = false := clean c List.mem_cons_self
    have other : c ≠ '\r' := by
      rintro rfl
      cases plain
    have rest_clean : ∀ d ∈ line, lineBreak d = false := fun d member => clean d (List.mem_cons_of_mem c member)
    have step : linesFrom current (c :: (line ++ rest)) = linesFrom (c :: current) (line ++ rest) := by
      rw [linesFrom]
      · rw [plain]
        rfl
      · rintro tail rfl
        exact absurd rfl other
    rw [List.cons_append, step, ih rest_clean, List.reverse_cons, List.append_assoc]
    rfl

/-- Lines that are written with their ends are read back. -/
theorem splitlines_lines {lines : List (List Char)} (clean : ∀ line ∈ lines, ∀ c ∈ line, lineBreak c = false) :
    splitlines (lines.flatMap fun line => line ++ ['\n']) = lines := by
  induction lines with
  | nil => rfl
  | cons line lines ih =>
    have rest := ih fun other member => clean other (List.mem_cons_of_mem line member)
    have ends : ∀ current text : List Char, linesFrom current ('\n' :: text) = current.reverse :: linesFrom [] text := by
      intro current text
      rw [linesFrom]
      · rfl
      · intro tail first
        cases first
    rw [splitlines] at rest ⊢
    rw [List.flatMap_cons, List.append_assoc, linesFrom_clean (clean line List.mem_cons_self), List.append_nil,
      List.singleton_append, ends, List.reverse_reverse, rest]

end PyString
