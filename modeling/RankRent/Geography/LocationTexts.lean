import RankRent.Geography.Index

/-!
# Location texts

What normalization and parsing keep of a text: white space around it does not count, words
that are normal stay, and a state code behind a name is taken off again.
-/

namespace RankRent.Geography

/-! ## Words -/

theorem toLower_of_not_capital {c : Char} (apart : c.toNat < 65 ∨ 90 < c.toNat) : c.toLower = c := by
  have outside : ¬ (c.val ≥ 'A'.val ∧ c.val ≤ 'Z'.val) := by
    rintro ⟨low, high⟩
    have low_ : 65 ≤ c.toNat := UInt32.le_iff_toNat_le.mp low
    have high_ : c.toNat ≤ 90 := UInt32.le_iff_toNat_le.mp high
    omega
  exact dif_neg outside

theorem isSeparator_iff {c : Char} :
    isSeparator c = false ↔ (97 ≤ c.toNat ∧ c.toNat ≤ 122) ∨ 48 ≤ c.toNat ∧ c.toNat ≤ 57 := by
  have le (d e : Char) : d ≤ e ↔ d.toNat ≤ e.toNat := UInt32.le_iff_toNat_le
  simp only [isSeparator, Bool.not_eq_false', Bool.or_eq_true, Bool.and_eq_true, decide_eq_true_eq, le]
  rfl

theorem lowerChar_of_not_capital {c : Char} (apart : c.toNat < 65 ∨ 90 < c.toNat) (low : c.toNat ≠ 8490)
    (dotted : c.toNat ≠ 304) : lowerChar c = [c] := by
  have kelvin : c ≠ '\u212A' := by
    rintro rfl
    exact low rfl
  have capital : c ≠ '\u0130' := by
    rintro rfl
    exact dotted rfl
  rw [lowerChar, if_neg kelvin, if_neg capital, toLower_of_not_capital apart]

/-- What is kept in a word is in lower case. -/
theorem lowerChar_kept {c : Char} (kept : isSeparator c = false) : lowerChar c = [c] := by
  rw [isSeparator_iff] at kept
  exact lowerChar_of_not_capital (by omega) (by omega) (by omega)

theorem lowerChar_space {c : Char} (space : PyString.isSpace c = true) :
    lowerChar c = [c] ∧ isSeparator c = true := by
  simp only [PyString.isSpace, Bool.or_eq_true, Bool.and_eq_true, decide_eq_true_eq, beq_iff_eq] at space
  constructor
  · exact lowerChar_of_not_capital (by omega) (by omega) (by omega)
  · rw [← Bool.not_eq_false, isSeparator_iff]
    omega

/-- The words of a text are runs of small letters and digits. -/
theorem placeWords_kept {value word : String} (member : word ∈ placeWords value) :
    word ≠ "" ∧ ∀ c ∈ word.toList, isSeparator c = false := by
  obtain ⟨run, inside, rfl⟩ := List.mem_map.mp member
  obtain ⟨some, clean⟩ := PyString.mem_runs inside
  rw [String.toList_ofList]
  refine ⟨?_, clean⟩
  intro empty
  have nil := congrArg String.toList empty
  rw [String.toList_ofList] at nil
  exact some nil

theorem flatMap_lowerChar {chars : List Char} (lower : ∀ c ∈ chars, lowerChar c = [c]) :
    chars.flatMap lowerChar = chars := by
  induction chars with
  | nil => rfl
  | cons c chars ih =>
    obtain ⟨first, rest⟩ := List.forall_mem_cons.mp lower
    rw [List.flatMap_cons, first, ih rest]
    rfl

theorem mem_joined {words : List (List Char)} {c : Char} (member : c ∈ List.intercalate [' '] words) :
    c = ' ' ∨ ∃ word ∈ words, c ∈ word := by
  induction words with
  | nil => simp at member
  | cons word words ih =>
    cases words with
    | nil => exact .inr ⟨word, by simp, by simpa using member⟩
    | cons next words =>
      have joined : List.intercalate [' '] (word :: next :: words) =
          word ++ ' ' :: List.intercalate [' '] (next :: words) := by simp
      rw [joined, List.mem_append, List.mem_cons] at member
      rcases member with inside | blank | later
      · exact .inr ⟨word, by simp, inside⟩
      · exact .inl blank
      · rcases ih later with blank | ⟨other, there, inside⟩
        · exact .inl blank
        · exact .inr ⟨other, List.mem_cons_of_mem word there, inside⟩

/-- Such words are read back when they are joined. -/
theorem placeWords_join {words : List String}
    (each : ∀ word ∈ words, word ≠ "" ∧ ∀ c ∈ word.toList, isSeparator c = false) :
    placeWords (String.intercalate " " words) = words := by
  have lower : ∀ c ∈ (String.intercalate " " words).toList, lowerChar c = [c] := by
    intro c member
    rw [String.toList_intercalate] at member
    rcases mem_joined member with rfl | ⟨run, there, inside⟩
    · rfl
    · obtain ⟨word, listed, rfl⟩ := List.mem_map.mp there
      exact lowerChar_kept ((each word listed).2 c inside)
  have runs_ : ∀ word ∈ words, word.toList ≠ [] ∧ ∀ c ∈ word.toList, isSeparator c = false := by
    intro word member
    obtain ⟨some, clean⟩ := each word member
    exact ⟨by simpa using some, clean⟩
  rw [placeWords, flatMap_lowerChar lower, PyString.runs_join (by decide) runs_]

theorem placeWords_normalizeLocation (value : String) :
    placeWords (normalizeLocation value) = placeWords value :=
  placeWords_join fun _ => placeWords_kept

/-- White space around a text does not count. -/
theorem placeWords_strip (value : String) : placeWords (PyString.strip value) = placeWords value := by
  obtain ⟨before, after, whole, front, back⟩ := PyString.strip_between value
  have lower {chars : List Char} (spaces : ∀ c ∈ chars, PyString.isSpace c = true) :
      chars.flatMap lowerChar = chars :=
    flatMap_lowerChar fun c member => (lowerChar_space (spaces c member)).1
  have separate {chars : List Char} (spaces : ∀ c ∈ chars, PyString.isSpace c = true) :
      ∀ c ∈ chars, isSeparator c = true :=
    fun c member => (lowerChar_space (spaces c member)).2
  rw [placeWords, placeWords, whole, List.flatMap_append, List.flatMap_append, lower front, lower back,
    PyString.runs_append_separators (separate back), PyString.runs_separators_append (separate front)]

/-- A text and a state behind a comma have the words of both. -/
theorem placeWords_comma (name state : String) :
    placeWords (name ++ ", " ++ state) = placeWords name ++ placeWords state := by
  have comma : (name ++ ", " ++ state).toList.flatMap lowerChar =
      name.toList.flatMap lowerChar ++ ',' :: ([' '] ++ state.toList.flatMap lowerChar) := by
    have marks : lowerChar ',' = [','] ∧ lowerChar ' ' = [' '] := by decide
    simp [List.flatMap_append, marks]
  rw [placeWords, comma, PyString.runs_append_cons _ _ (by decide),
    PyString.runs_separators_append (List.all_eq_true.mp (by decide)), List.map_append]
  rfl

theorem runs_single (c : Char) :
    PyString.runs isSeparator [c] = if isSeparator c = true then [] else [[c]] := by
  split
  next separates => exact PyString.runs_cons separates []
  next kept => exact PyString.runs_of_clean (by simp) (by simpa using kept)

/-- A character has a word of one letter or none. -/
theorem placeWords_short {value : String} (short : value.length < 2) :
    ∀ words, words <+: placeWords value → (String.intercalate " " words).length < 2 := by
  have one : PyString.runs isSeparator (value.toList.flatMap lowerChar) = [] ∨
      ∃ c, PyString.runs isSeparator (value.toList.flatMap lowerChar) = [[c]] := by
    cases chars : value.toList with
    | nil => exact .inl rfl
    | cons c rest =>
      have alone : rest = [] := by
        have size := congrArg List.length chars
        rw [String.length_toList, List.length_cons] at size
        exact List.eq_nil_of_length_eq_zero (by omega)
      rw [alone, List.flatMap_singleton, lowerChar]
      split_ifs
      · exact .inr ⟨'k', by decide⟩
      · exact .inr ⟨'i', by decide⟩
      · rw [runs_single]
        split
        · exact .inl rfl
        · exact .inr ⟨c.toLower, rfl⟩
  intro words front
  rw [placeWords] at front
  rcases one with none_ | ⟨c, single⟩
  · rw [none_, List.map_nil, List.prefix_nil] at front
    subst front
    decide
  · rw [single, List.map_singleton] at front
    rcases List.prefix_cons_iff.mp front with rfl | ⟨rest, rfl, tail⟩
    · decide
    · rw [List.prefix_nil.mp tail]
      simp

/-! ## Parsing -/

/-- What is left of the words stands in front. -/
theorem parseWords_front (words : List String) : (parseWords words).1 <+: words := by
  have front : words.rdropWhile (· ∈ countryWords) <+: words := List.rdropWhile_prefix _ _
  rw [parseWords]
  dsimp only
  cases words.rdropWhile (· ∈ countryWords) |>.getLast? with
  | none => exact List.nil_prefix
  | some last =>
    dsimp only
    split
    · exact (List.dropLast_prefix _).trans front
    · split
      · exact (List.take_prefix _ _).trans front
      · exact front

theorem normalizeLocation_parsed (value : String) :
    normalizeLocation (parseCityState value).1 = (parseCityState value).1 := by
  have words : placeWords (parseCityState value).1 = (parseWords (placeWords value)).1 :=
    placeWords_join fun word member => placeWords_kept ((parseWords_front _).subset member)
  rw [normalizeLocation, words]
  rfl

theorem parseCityState_strip (value : String) : parseCityState (PyString.strip value) = parseCityState value := by
  rw [parseCityState, parseCityState, placeWords_strip]

theorem parseCityState_short {value : String} (short : (PyString.strip value).length < 2) :
    (parseCityState value).1.length < 2 := by
  have left := placeWords_short short (parseWords (placeWords (PyString.strip value))).1 (parseWords_front _)
  have words : (parseCityState value).1 =
      String.intercalate " " (parseWords (placeWords (PyString.strip value))).1 := by
    rw [parseCityState, placeWords_strip]
  simpa only [words] using left

/-- A state code is a word of its own, no country word, and read as itself. -/
theorem state_word : ∀ state ∈ stateAbbreviations.map Prod.snd, ∃ word, placeWords state = [word] ∧
    word ∉ countryWords ∧ word.toUpper = state ∧ (stateNames.lookup state).isSome := by
  have lowered : ∀ state ∈ stateAbbreviations.map Prod.snd, placeWords state = [state.toLower] ∧
      state.toLower ∉ countryWords ∧ state.toLower.toUpper = state ∧ (stateNames.lookup state).isSome := by
    decide +kernel
  exact fun state known => ⟨state.toLower, lowered state known⟩

theorem parseWords_state {words : List String} {word state : String} (plain : word ∉ countryWords)
    (read : word.toUpper = state) (known : (stateNames.lookup state).isSome) :
    parseWords (words ++ [word]) = (words, some state) := by
  have kept : (words ++ [word]).rdropWhile (· ∈ countryWords) = words ++ [word] := by
    rw [List.rdropWhile_concat_neg _ _ _ (by simpa using plain)]
  rw [parseWords]
  simp only [kept, List.getLast?_concat, read, known, if_true, List.dropLast_concat]

/-- A state behind a name is taken off again. -/
theorem parseCityState_comma {state : String} (known : state ∈ stateAbbreviations.map Prod.snd) (name : String) :
    parseCityState (name ++ ", " ++ state) = (normalizeLocation name, some state) := by
  obtain ⟨word, alone, plain, read, listed⟩ := state_word state known
  rw [parseCityState, placeWords_comma, alone, parseWords_state plain read listed]
  rfl

/-! ## ZIP codes -/

theorem zipCode?_chars {cleaned postalCode : String} (matched : zipCode? cleaned = some postalCode) :
    ∀ c ∈ cleaned.toList, isDecimal c = true ∨ c = '-' := by
  unfold zipCode? at matched
  dsimp only at matched
  split at matched
  next pattern =>
    obtain ⟨-, digits, rest⟩ := pattern
    intro c member
    rw [← List.take_append_drop 5 cleaned.toList, List.mem_append] at member
    rcases member with front | back
    · exact .inl (List.all_eq_true.mp digits c front)
    · rcases rest with empty | ⟨dash, -, more⟩
      · rw [empty] at back
        exact absurd back List.not_mem_nil
      · cases tail : cleaned.toList.drop 5 with
        | nil =>
          rw [tail] at back
          exact absurd back List.not_mem_nil
        | cons d chars =>
          rw [tail] at back dash more
          rcases List.mem_cons.mp back with rfl | inside
          · exact .inr (Option.some.inj dash)
          · exact .inl (List.all_eq_true.mp more c inside)
  next => cases matched

/-- What has a comma is no ZIP code. -/
theorem zipCode?_comma (name state : String) : zipCode? (PyString.strip (name ++ ", " ++ state)) = none := by
  obtain ⟨before, after, whole, front, back⟩ := PyString.strip_between (name ++ ", " ++ state)
  have comma : ',' ∈ (name ++ ", " ++ state).toList := by simp
  have apart {chars : List Char} (spaces : ∀ c ∈ chars, PyString.isSpace c = true) : ',' ∉ chars :=
    fun inside => absurd (spaces ',' inside) (by decide)
  have inside : ',' ∈ (PyString.strip (name ++ ", " ++ state)).toList := by
    rw [whole, List.mem_append, List.mem_append] at comma
    rcases comma with (early | kept) | late
    · exact absurd early (apart front)
    · exact kept
    · exact absurd late (apart back)
  by_contra some
  obtain ⟨postalCode, matched⟩ := Option.ne_none_iff_exists'.mp some
  exact absurd (zipCode?_chars matched ',' inside) (by decide)

end RankRent.Geography
