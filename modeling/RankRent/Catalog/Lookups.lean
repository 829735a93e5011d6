import RankRent.Catalog.Services

/-!
# Lookups

Every index reads a text more finely than the check of the keys does: texts that an index
takes for one have one search text, and a search text has one service.
-/

namespace RankRent.Catalog

/-! ## Texts -/

theorem normalizeServiceText_eq (value : String) : normalizeServiceText value =
    String.intercalate " " ((PyString.words value).map PyString.casefold) := by
  rw [normalizeServiceText, PyString.spaced, PyString.words_casefold, PyString.words_strip]

/-- The words of a normalized text are the folded words of the text. -/
theorem words_normalizeServiceText (value : String) :
    PyString.words (normalizeServiceText value) = (PyString.words value).map PyString.casefold := by
  rw [normalizeServiceText, PyString.spaced, PyString.words_intercalate (PyString.words_isWord _),
    PyString.words_casefold, PyString.words_strip]

theorem normalizeServiceText_empty {value : String} : normalizeServiceText value = "" ↔ PyString.words value = [] := by
  constructor
  · intro empty
    have words := words_normalizeServiceText value
    rw [empty] at words
    exact List.map_eq_nil_iff.mp words.symm
  · intro empty
    rw [normalizeServiceText_eq, empty]
    rfl

theorem searchText_eq (value : String) : searchText value =
    String.intercalate " " ((PyString.runs PyString.isMark (PyString.casefold value).toList).map String.ofList) := by
  have blanks : PyString.runs PyString.isSpace (value.toList.map fun c => if c = '_' ∨ c = '-' then ' ' else c) =
      PyString.runs PyString.isMark value.toList := by
    apply PyString.runs_map
    · intro c
      by_cases mark : c = '_' ∨ c = '-'
      · rcases mark with rfl | rfl <;> decide
      · rw [if_neg mark]
        simp [PyString.isMark, not_or.mp mark]
    · intro c plain
      apply if_neg
      rintro (rfl | rfl) <;> exact absurd plain (by decide)
  rw [searchText, normalizeServiceText_eq, PyString.words_eq, String.toList_ofList, blanks,
    PyString.runs_casefold (fun _ mark => mark), List.map_map, List.map_map]
  congr 1
  apply List.map_congr_left
  intro run _
  rw [Function.comp_apply, Function.comp_apply, PyString.casefold, String.toList_ofList]

/-- Texts with the same words, but for their case, have one search text. -/
theorem searchText_congr {value other : String}
    (same : (PyString.words value).map PyString.casefold = (PyString.words other).map PyString.casefold) :
    searchText value = searchText other := by
  have runs_ : PyString.runs PyString.isSpace (PyString.casefold value).toList =
      PyString.runs PyString.isSpace (PyString.casefold other).toList := by
    rw [← PyString.words_casefold, ← PyString.words_casefold, PyString.words_eq, PyString.words_eq] at same
    exact List.map_injective_iff.mpr (fun _ _ equal => String.ofList_injective equal) same
  rw [searchText_eq, searchText_eq, PyString.runs_runs (fun _ => PyString.mark_of_space), runs_,
    ← PyString.runs_runs (fun _ => PyString.mark_of_space)]

/-! ## Unique keys -/

/-- A round keeps the owners of the keys, and gives the key of its value to the service. -/
theorem checkLookupValue_ok {service : CatalogServiceDefinition} {keys keys' : List (String × String)} {value : String}
    (ran : checkLookupValue service keys value = .ok keys') :
    keys'.lookup (searchText value) = some service.id ∧
      ∀ key owner, keys.lookup key = some owner → keys'.lookup key = some owner := by
  have written : keys' = PyDict.setItem keys (searchText value) service.id ∧
      ∀ owner, keys.lookup (searchText value) = some owner → owner = service.id := by
    unfold checkLookupValue at ran
    dsimp only at ran
    cases known : keys.lookup (searchText value) with
    | none =>
      rw [known] at ran
      exact ⟨(Except.ok.inj ran).symm, by simp⟩
    | some owner =>
      rw [known] at ran
      dsimp only at ran
      split at ran
      · cases ran
      next same =>
        refine ⟨(Except.ok.inj ran).symm, fun other listed => ?_⟩
        rw [← Option.some.inj listed]
        exact not_not.mp same
  obtain ⟨rfl, owned⟩ := written
  generalize searchText value = own at owned ⊢
  constructor
  · rw [PyDict.lookup_setItem]
  · intro key owner listed
    by_cases same : key = own
    · subst same
      rw [PyDict.lookup_setItem, owned owner listed]
    · rw [PyDict.lookup_setItem_of_ne _ _ same, listed]

theorem lookupValues_ok {service : CatalogServiceDefinition} {values : List String} {keys keys' : List (String × String)}
    (ran : values.foldlM (checkLookupValue service) keys = .ok keys') :
    (∀ value ∈ values, keys'.lookup (searchText value) = some service.id) ∧
      ∀ key owner, keys.lookup key = some owner → keys'.lookup key = some owner := by
  induction values generalizing keys with
  | nil =>
    cases ran
    exact ⟨by simp, fun _ _ listed => listed⟩
  | cons value values ih =>
    rw [List.foldlM_cons, Checks.bind_ok] at ran
    obtain ⟨middle, first, rest⟩ := ran
    obtain ⟨own, kept⟩ := checkLookupValue_ok first
    obtain ⟨later, kept'⟩ := ih rest
    constructor
    · intro other member
      rcases List.mem_cons.mp member with rfl | inside
      · exact kept' _ _ own
      · exact later other inside
    · exact fun key owner listed => kept' key owner (kept key owner listed)

/-- What the loop has seen: each service under its id, and under the keys of its values. -/
structure Owned (services : List CatalogServiceDefinition) (seen : Seen) : Prop where
  ids : ∀ service ∈ services, (seen.ids.lookup (PyString.casefold service.id)).isSome = true
  ids_distinct : (services.map fun service => PyString.casefold service.id).Nodup
  keys : ∀ service ∈ services, ∀ value ∈ lookupValues service, seen.lookupKeys.lookup (searchText value) = some service.id

theorem Owned.checkService {services : List CatalogServiceDefinition} {seen seen' : Seen} (owned : Owned services seen)
    {service : CatalogServiceDefinition} (ran : checkService seen service = .ok seen') :
    Owned (services ++ [service]) seen' := by
  unfold Catalog.checkService at ran
  simp only [Checks.bind_ok, Checks.require_ok, Checks.pure_ok] at ran
  obtain ⟨-, fresh, lookupKeys, checked, rfl⟩ := ran
  obtain ⟨own, kept⟩ := lookupValues_ok checked
  constructor
  · intro other member
    by_cases same : PyString.casefold other.id = PyString.casefold service.id
    · rw [same, PyDict.lookup_setItem]
      rfl
    · rw [PyDict.lookup_setItem_of_ne _ _ same]
      rcases List.mem_append.mp member with old | new
      · exact owned.ids other old
      · rw [List.mem_singleton.mp new] at same
        exact absurd rfl same
  · rw [List.map_append, List.map_singleton]
    apply owned.ids_distinct.append (List.nodup_singleton _)
    rw [List.disjoint_singleton]
    intro listed
    obtain ⟨other, inside, same⟩ := List.mem_map.mp listed
    have there := owned.ids other inside
    rw [same] at there
    rw [Option.isNone_iff_eq_none.mp fresh] at there
    cases there
  · intro other member value inside
    rcases List.mem_append.mp member with old | new
    · exact kept _ _ (owned.keys other old value inside)
    · obtain rfl := List.mem_singleton.mp new
      exact own value inside

theorem validateUniqueLookupKeys_ok {services : List CatalogServiceDefinition} {seen : Seen}
    (ran : validateUniqueLookupKeys services = .ok seen) : Owned services seen := by
  have rounds (done rest : List CatalogServiceDefinition) (before : Seen) (owned : Owned done before)
      (ran : rest.foldlM checkService before = .ok seen) : Owned (done ++ rest) seen := by
    induction rest generalizing done before with
    | nil =>
      cases ran
      rwa [List.append_nil]
    | cons service rest ih =>
      rw [List.foldlM_cons, Checks.bind_ok] at ran
      obtain ⟨after, first, later⟩ := ran
      have next := ih (done ++ [service]) after (owned.checkService first) later
      rwa [List.append_assoc] at next
  exact rounds [] services {} ⟨by simp, by simp, by simp⟩ ran

/-- A search text has one service. -/
theorem owner_unique {config : ServiceCatalogConfig} {service other : CatalogServiceDefinition}
    (member : service ∈ config.services) (member' : other ∈ config.services) {value value' : String}
    (own : value ∈ lookupValues service) (own' : value' ∈ lookupValues other)
    (same : searchText value = searchText value') : service = other := by
  obtain ⟨seen, ran⟩ := Checks.of_isOk config.keys_unique
  have owned := validateUniqueLookupKeys_ok ran
  have first := owned.keys service member value own
  have second := owned.keys other member' value' own'
  rw [same, second] at first
  exact (List.inj_on_of_nodup_map owned.ids_distinct member' member (congrArg _ (Option.some.inj first))).symm

/-! ## Indexes -/

theorem lookup_indexBy (entries : List (String × CatalogServiceDefinition)) (key : String) :
    (indexBy entries).lookup key = entries.reverse.lookup key := by
  have updated := PyDict.lookup_update id entries [] key
  rw [indexBy]
  simpa using updated

theorem indexBy_mem {entries : List (String × CatalogServiceDefinition)} {key : String}
    {service : CatalogServiceDefinition} (found : (indexBy entries).lookup key = some service) :
    (key, service) ∈ entries := by
  rw [lookup_indexBy] at found
  exact List.mem_reverse.mp (PyDict.mem_of_lookup found)

theorem indexBy_isSome {entries : List (String × CatalogServiceDefinition)} {key : String}
    {service : CatalogServiceDefinition} (member : (key, service) ∈ entries) :
    ∃ found, (indexBy entries).lookup key = some found := by
  rw [lookup_indexBy, ← Option.isSome_iff_exists, PyDict.lookup_isSome]
  exact List.mem_map_of_mem (List.mem_reverse.mpr member)

/-- An index by a value of the services has them under that value. -/
theorem indexBy_value {services : List CatalogServiceDefinition} {value : CatalogServiceDefinition → String} {key : String}
    {service : CatalogServiceDefinition}
    (found : (indexBy (services.map fun service => (value service, service))).lookup key = some service) :
    service ∈ services ∧ value service = key := by
  obtain ⟨other, member, entry⟩ := List.mem_map.mp (indexBy_mem found)
  obtain ⟨same, rfl⟩ := Prod.mk.inj entry
  exact ⟨member, same⟩

theorem indexBy_value_isSome {services : List CatalogServiceDefinition} (value : CatalogServiceDefinition → String)
    {service : CatalogServiceDefinition} (member : service ∈ services) :
    ∃ found, (indexBy (services.map fun service => (value service, service))).lookup (value service) = some found :=
  indexBy_isSome (List.mem_map.mpr ⟨service, member, rfl⟩)

/-! ## Variants -/

/-- The same words, but for their case. -/
def Variant (value query : String) : Prop :=
  (PyString.words query).map PyString.casefold = (PyString.words value).map PyString.casefold

theorem variant_of_exact {value query : String}
    (same : PyString.casefold (PyString.strip query) = PyString.casefold value) : Variant value query := by
  rw [Variant, ← PyString.words_strip query, ← PyString.words_casefold, same, PyString.words_casefold]

theorem variant_of_normalized {value query : String} (same : normalizeServiceText query = normalizeServiceText value) :
    Variant value query := by
  rw [Variant, ← words_normalizeServiceText, same, words_normalizeServiceText]

theorem normalized_of_variant {value query : String} (variant : Variant value query) :
    normalizeServiceText query = normalizeServiceText value := by
  rw [normalizeServiceText_eq, variant, ← normalizeServiceText_eq]

/-- A variant of a single word is that word, but for its case. -/
theorem exact_of_variant {value query : String} (word : PyString.IsWord value.toList) (variant : Variant value query) :
    PyString.casefold (PyString.strip query) = PyString.casefold value := by
  rw [Variant, PyString.words_of_clean word, List.map_singleton, List.map_eq_singleton_iff] at variant
  obtain ⟨other, single, same⟩ := variant
  rw [PyString.strip_of_words single, same]

theorem isLowerAlnum_iff {c : Char} :
    isLowerAlnum c = true ↔ (97 ≤ c.toNat ∧ c.toNat ≤ 122) ∨ 48 ≤ c.toNat ∧ c.toNat ≤ 57 := by
  have le (d e : Char) : d ≤ e ↔ d.toNat ≤ e.toNat := UInt32.le_iff_toNat_le
  simp only [isLowerAlnum, Bool.or_eq_true, Bool.and_eq_true, decide_eq_true_eq, le]
  rfl

theorem isLowerAlnum_plain {c : Char} (plain : isLowerAlnum c = true) : PyString.isSpace c = false := by
  rw [isLowerAlnum_iff] at plain
  rw [← Bool.not_eq_true]
  intro space
  simp only [PyString.isSpace, Bool.or_eq_true, Bool.and_eq_true, decide_eq_true_eq, beq_iff_eq] at space
  omega

/-- An id is a word. -/
theorem id_isWord (service : CatalogServiceDefinition) : PyString.IsWord service.id.toList := by
  have stable := service.id_stable
  unfold isStableId at stable
  split at stable
  · cases stable
  next first rest chars =>
    simp only [Bool.and_eq_true, decide_eq_true_eq, List.all_eq_true, Bool.or_eq_true] at stable
    obtain ⟨⟨low, high⟩, others⟩ := stable
    rw [chars]
    constructor
    · simp
    · intro c member
      rcases List.mem_cons.mp member with rfl | inside
      · exact isLowerAlnum_plain (by simp [isLowerAlnum, low, high])
      · rcases others c inside with (plain | rfl) | rfl
        · exact isLowerAlnum_plain plain
        · decide
        · decide

/-- A slug is a word. -/
theorem slug_isWord (service : CatalogServiceDefinition) : PyString.IsWord service.slug.toList := by
  have kebab := service.slug_kebab
  simp only [isSlug, List.all_eq_true, Bool.and_eq_true] at kebab
  constructor
  · intro empty
    rw [empty] at kebab
    exact absurd (kebab [] (by simp)).1 (by simp)
  · intro c member
    by_cases hyphen : c = '-'
    · rw [hyphen]
      decide
    · obtain ⟨run, listed, inside⟩ := PyString.mem_run (p := (decide <| · = '-')) member (by simpa using hyphen)
      exact isLowerAlnum_plain ((kebab run (List.mem_of_mem_filter listed)).2 c inside)

section
variable {config : ServiceCatalogConfig} {query : String} {definition : CatalogServiceDefinition}

/-- What an index has for a query is a service with a value that is a variant of it. -/
theorem candidates_sound {matchKind : ServiceMatchKind}
    (member : (some definition, matchKind) ∈ config.candidates query) :
    definition ∈ config.services ∧ ∃ value ∈ lookupValues definition, Variant value query := by
  simp only [ServiceCatalogConfig.candidates, List.mem_cons, Prod.mk.injEq, List.not_mem_nil, or_false] at member
  rcases member with ⟨found, -⟩ | ⟨found, -⟩ | ⟨found, -⟩ | ⟨found, -⟩
  · obtain ⟨there, key⟩ := indexBy_value found.symm
    exact ⟨there, definition.id, by simp [lookupValues], variant_of_exact key.symm⟩
  · obtain ⟨there, key⟩ := indexBy_value found.symm
    exact ⟨there, definition.slug, by simp [lookupValues], variant_of_exact key.symm⟩
  · obtain ⟨there, key⟩ := indexBy_value found.symm
    exact ⟨there, definition.displayName, by simp [lookupValues], variant_of_normalized key.symm⟩
  · obtain ⟨service, there, listed⟩ := List.mem_flatMap.mp (indexBy_mem found.symm)
    obtain ⟨aliasName, inside, entry⟩ := List.mem_map.mp listed
    obtain ⟨key, rfl⟩ := Prod.mk.inj entry
    exact ⟨there, aliasName, by simp [lookupValues, inside], variant_of_normalized key.symm⟩

/-- Each variant of a value of a service is in an index. -/
theorem candidates_complete {service : CatalogServiceDefinition} (member : service ∈ config.services) {value : String}
    (own : value ∈ lookupValues service) (variant : Variant value query) :
    ∃ definition matchKind, (some definition, matchKind) ∈ config.candidates query := by
  simp only [lookupValues, List.mem_cons] at own
  rcases own with rfl | rfl | rfl | inside
  · obtain ⟨found, listed⟩ := indexBy_value_isSome (fun service => PyString.casefold service.id) member
    refine ⟨found, .id, ?_⟩
    rw [ServiceCatalogConfig.candidates, ServiceCatalogConfig.idIndex, exact_of_variant (id_isWord service) variant, listed]
    exact List.mem_cons_self
  · obtain ⟨found, listed⟩ := indexBy_value_isSome (fun service => PyString.casefold service.slug) member
    refine ⟨found, .slug, ?_⟩
    rw [ServiceCatalogConfig.candidates, ServiceCatalogConfig.slugIndex, exact_of_variant (slug_isWord service) variant,
      listed]
    simp
  · obtain ⟨found, listed⟩ := indexBy_value_isSome (fun service => normalizeServiceText service.displayName) member
    refine ⟨found, .displayName, ?_⟩
    rw [ServiceCatalogConfig.candidates, ServiceCatalogConfig.displayIndex, normalized_of_variant variant, listed]
    simp
  · have entry : (normalizeServiceText value, service) ∈ config.services.flatMap fun service =>
        service.aliases.values.map fun aliasName => (normalizeServiceText aliasName, service) :=
      List.mem_flatMap.mpr ⟨service, member, List.mem_map_of_mem inside⟩
    obtain ⟨found, listed⟩ := indexBy_isSome entry
    refine ⟨found, .aliasName, ?_⟩
    rw [ServiceCatalogConfig.candidates, ServiceCatalogConfig.aliasIndex, normalized_of_variant variant, listed]
    simp

/-- What is found for a variant of a value is the service of the value. -/
theorem candidates_unique {service : CatalogServiceDefinition} (member : service ∈ config.services) {value : String}
    (own : value ∈ lookupValues service) (variant : Variant value query) {matchKind : ServiceMatchKind}
    (found : (some definition, matchKind) ∈ config.candidates query) : definition = service := by
  obtain ⟨there, other, listed, variant'⟩ := candidates_sound found
  exact owner_unique there member listed own (searchText_congr (variant'.symm.trans variant))

theorem resolve_variant {service : CatalogServiceDefinition} (member : service ∈ config.services) {value : String}
    (own : value ∈ lookupValues service) (some_ : PyString.words value ≠ []) (variant : Variant value query) :
    ∃ matchKind, config.resolve query = some (config.resolutionOf query service matchKind) := by
  have text : normalizeServiceText query ≠ "" := by
    rw [normalized_of_variant variant, ne_eq, normalizeServiceText_empty]
    exact some_
  rw [ServiceCatalogConfig.resolve, if_neg text]
  let resolved := fun candidate : Option CatalogServiceDefinition × ServiceMatchKind =>
    candidate.1.map fun definition => config.resolutionOf query definition candidate.2
  change ∃ matchKind, (config.candidates query).findSome? resolved = _
  cases first : (config.candidates query).findSome? resolved with
  | none =>
    obtain ⟨found, matchKind, listed⟩ := candidates_complete member own variant
    have nothing := List.findSome?_eq_none_iff.mp first _ listed
    cases nothing
  | some resolution =>
    obtain ⟨⟨found, matchKind⟩, listed, made⟩ := List.exists_of_findSome?_eq_some first
    obtain ⟨definition, rfl, rfl⟩ := Option.map_eq_some_iff.mp made
    rw [candidates_unique member own variant listed]
    exact ⟨matchKind, rfl⟩

end

/-! ## Resolution -/

/-- A query that is a variant of no value resolves to nothing. -/
theorem resolve_none {config : ServiceCatalogConfig} {query : String}
    (apart : ∀ service ∈ config.services, ∀ value ∈ lookupValues service, ¬ Variant value query) :
    config.resolve query = none := by
  rw [ServiceCatalogConfig.resolve]
  split
  · rfl
  · apply List.findSome?_eq_none_iff.mpr
    rintro ⟨found, matchKind⟩ listed
    cases found with
    | none => rfl
    | some definition =>
      obtain ⟨member, value, own, variant⟩ := candidates_sound listed
      exact absurd variant (apart definition member value own)

/-- Each variant of a value of a service is resolved to the service. -/
def Unambiguous (config : ServiceCatalogConfig) : Prop :=
  ∀ service ∈ config.services, ∀ value ∈ lookupValues service, ∀ query, Variant value query →
    ∃ matchKind, config.resolve query = some (config.resolutionOf query service matchKind)

theorem alias_words {service : CatalogServiceDefinition} {value : String} (inside : value ∈ service.aliases.values) :
    PyString.words value ≠ [] := by
  obtain ⟨spaced, some_⟩ := service.aliases.each_spaced value inside
  intro empty
  rw [PyString.spaced, empty] at spaced
  exact some_ spaced.symm

/-- No index is read against another: only a display name of white space alone is lost. -/
theorem unambiguous_iff (config : ServiceCatalogConfig) :
    Unambiguous config ↔ ∀ service ∈ config.services, PyString.words service.displayName ≠ [] := by
  constructor
  · intro resolves service member blank
    obtain ⟨matchKind, found⟩ := resolves service member service.displayName (by simp [lookupValues]) _ rfl
    rw [ServiceCatalogConfig.resolve, if_pos (normalizeServiceText_empty.mpr blank)] at found
    cases found
  · intro named service member value own query variant
    have some_ : PyString.words value ≠ [] := by
      simp only [lookupValues, List.mem_cons] at own
      rcases own with rfl | rfl | rfl | inside
      · simp [PyString.words_of_clean (id_isWord service)]
      · simp [PyString.words_of_clean (slug_isWord service)]
      · exact named service member
      · exact alias_words inside
    exact resolve_variant member own some_ variant

/-- `str.trim` of Rust: the file separators are no white space of Unicode. -/
def unicodeTrim (value : String) : String :=
  let white (c : Char) : Bool := PyString.isSpace c && !(28 ≤ c.toNat && c.toNat ≤ 31)
  String.ofList ((value.toList.dropWhile white).reverse.dropWhile white).reverse

/-- A catalog whose only service has a separator for its display name. -/
def separatorInput : ServiceCatalogInput where
  version := "2026.07.1"
  services := [
    { id := "plumbing"
      slug := "plumbing"
      displayName := "\x1c"
      seedQueries := ["plumber"]
      providerCategories := ["plumber"] }]

/-- It is accepted, and its display name is not resolved. -/
theorem separator_lost : ∃ config, separatorInput.validate unicodeTrim = .ok config ∧ ¬ Unambiguous config := by
  have names : (separatorInput.validate unicodeTrim).map (fun config =>
      config.services.map CatalogServiceDefinition.displayName) = .ok ["\x1c"] := by decide +kernel
  cases accepted : separatorInput.validate unicodeTrim with
  | error e =>
    rw [accepted] at names
    cases names
  | ok config =>
    rw [accepted] at names
    obtain ⟨service, single, blank⟩ := List.map_eq_singleton_iff.mp (Except.ok.inj names)
    refine ⟨config, rfl, fun resolves => ?_⟩
    obtain ⟨matchKind, found⟩ := resolves service (by simp [single]) service.displayName (by simp [lookupValues]) _ rfl
    rw [ServiceCatalogConfig.resolve, blank, if_pos (by decide +kernel)] at found
    cases found

end RankRent.Catalog
