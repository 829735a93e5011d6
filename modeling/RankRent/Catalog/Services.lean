import RankRent.Evidence.Text
import RankRent.Library.CaseWords
import RankRent.Library.Checks

/-!
# The service catalog

`services/service_catalog.py`: what a catalog has to satisfy, the indexes that are built over
it, and what a text resolves to.
-/

namespace RankRent.Catalog
open Evidence (Python slugify)

/-! ## Texts -/

/-- `normalize_service_text`. -/
def normalizeServiceText (value : String) : String :=
  PyString.spaced (PyString.casefold (PyString.strip value))

/-- `_search_text`. -/
def searchText (value : String) : String :=
  normalizeServiceText (String.ofList (value.toList.map fun c => if c = '_' ∨ c = '-' then ' ' else c))

/-- `[a-z0-9]`. -/
def isLowerAlnum (c : Char) : Bool := ('a' ≤ c && c ≤ 'z') || ('0' ≤ c && c ≤ '9')

/-- `STABLE_ID_PATTERN`. -/
def isStableId (value : String) : Bool :=
  match value.toList with
  | [] => false
  | first :: rest => 'a' ≤ first && first ≤ 'z' && rest.all fun c => isLowerAlnum c || c = '_' || c = '-'

/-- `SLUG_PATTERN`. -/
def isSlug (value : String) : Bool :=
  (value.toList.splitOnP (· = '-')).all fun run => !run.isEmpty && run.all isLowerAlnum

/-! ## Services -/

/-- `ServiceFamily`; its slug is given. -/
structure ServiceFamily extends Research.ServiceFamily where
  id : String
  slug : String
  description : String
  regulated : Bool
  enabled : Bool

/-- An error of a model: the field it checks, and its text. -/
structure FieldError where
  field : String
  message : String
  deriving DecidableEq

/-- A list that `_validated_string_list` has returned. -/
structure StringList where
  values : List String
  each_spaced : ∀ value ∈ values, PyString.spaced value = value ∧ value ≠ ""
  distinct : (values.map normalizeServiceText).Nodup

theorem spaced_spaced (value : String) : PyString.spaced (PyString.spaced value) = PyString.spaced value := by
  have words := PyString.words_intercalate (PyString.words_isWord value)
  exact congrArg (String.intercalate " ") words

/-- `_validated_string_list`. -/
def validatedStringList (values : List String) (fieldName : String) : Except FieldError StringList :=
  let normalizedValues := values.map PyString.spaced
  if blank : "" ∈ normalizedValues then .error ⟨fieldName, fieldName ++ " cannot contain blank values."⟩
  else if distinct : (normalizedValues.map normalizeServiceText).Nodup then
    .ok
      { values := normalizedValues
        each_spaced := by
          intro value member
          obtain ⟨raw, -, rfl⟩ := List.mem_map.mp member
          exact ⟨spaced_spaced raw, fun empty => blank (empty ▸ member)⟩
        distinct }
  else .error ⟨fieldName, fieldName ++ " cannot contain duplicate values."⟩

/-- `CatalogServiceDefinition`, once it is validated. -/
structure CatalogServiceDefinition where
  id : String
  slug : String
  displayName : String
  aliases : StringList
  description : String
  seedQueries : StringList
  negativeTerms : StringList
  intentModifiers : StringList
  negativeProductTerms : StringList
  providerCategories : StringList
  regulated : Bool
  enabled : Bool
  id_stable : isStableId id = true
  slug_kebab : isSlug slug = true
  displayName_some : displayName ≠ ""
  seedQueries_some : seedQueries.values ≠ []
  providerCategories_some : providerCategories.values ≠ []

/-- `to_service_family`. -/
def CatalogServiceDefinition.toServiceFamily (service : CatalogServiceDefinition) : ServiceFamily :=
  { id := service.id
    slug := service.slug
    displayName := service.displayName
    description := service.description
    seedQueries := service.seedQueries.values
    negativeTerms := service.negativeTerms.values
    intentModifiers := service.intentModifiers.values
    negativeProductTerms := service.negativeProductTerms.values
    providerCategories := service.providerCategories.values
    regulated := service.regulated
    enabled := service.enabled }

/-- The values a service is looked up by. -/
def lookupValues (service : CatalogServiceDefinition) : List String :=
  service.id :: service.slug :: service.displayName :: service.aliases.values

/-! ## Unique lookup keys -/

/-- `seen_ids` and `seen_lookup_keys`. -/
structure Seen where
  ids : List (String × String) := []
  lookupKeys : List (String × String) := []

/-- A round of the loop over the values of a service. -/
def checkLookupValue (service : CatalogServiceDefinition) (keys : List (String × String)) (value : String) :
    Except String (List (String × String)) :=
  let key := searchText value
  match keys.lookup key with
  | none => .ok (PyDict.setItem keys key service.id)
  | some owner =>
    if owner ≠ service.id then
      .error ("Duplicate service alias or lookup key '" ++ value ++ "' is shared by " ++ owner ++ " and " ++
        service.id ++ ".")
    else .ok (PyDict.setItem keys key service.id)

/-- A round of the loop over the services. -/
def checkService (seen : Seen) (service : CatalogServiceDefinition) : Except String Seen := do
  let normalizedId := PyString.casefold service.id
  Checks.require ((seen.ids.lookup normalizedId).isNone = true) ("Duplicate service id: " ++ service.id ++ ".")
  let lookupKeys ← (lookupValues service).foldlM (checkLookupValue service) seen.lookupKeys
  pure { ids := PyDict.setItem seen.ids normalizedId service.id, lookupKeys }

/-- `validate_unique_lookup_keys`. -/
def validateUniqueLookupKeys (services : List CatalogServiceDefinition) : Except String Seen :=
  services.foldlM checkService {}

/-- `ServiceCatalogConfig`, once it is validated. -/
structure ServiceCatalogConfig where
  version : String
  services : List CatalogServiceDefinition
  version_some : version ≠ ""
  services_some : services ≠ []
  keys_unique : (validateUniqueLookupKeys services).isOk = true

/-! ## Validation -/

/-- The fields of a `CatalogServiceDefinition` as they are given. -/
structure CatalogServiceInput where
  id : String
  slug : String
  displayName : String
  aliases : List String := []
  description : String := ""
  seedQueries : List String
  negativeTerms : List String := []
  intentModifiers : List String := []
  negativeProductTerms : List String := []
  providerCategories : List String
  regulated : Bool := false
  enabled : Bool := true

/-- The fields of a `ServiceCatalogConfig` as they are given. -/
structure ServiceCatalogInput where
  version : String
  services : List CatalogServiceInput

section
variable (trim : String → String)

/-- A text with `min_length=1`, after `str_strip_whitespace`. -/
def requiredText (field value : String) : Except FieldError { text : String // text ≠ "" } :=
  if some : trim value ≠ "" then .ok ⟨trim value, some⟩
  else .error ⟨field, "String should have at least 1 character"⟩

/-- Such a text that matches a pattern. -/
def matching (field : String) (pattern : String → Bool) (message value : String) :
    Except FieldError { text : String // pattern text = true } := do
  let text ← requiredText trim field value
  if fits : pattern text = true then .ok ⟨text, fits⟩ else .error ⟨field, message⟩

def textList (field : String) (values : List String) : Except FieldError StringList :=
  validatedStringList (values.map trim) field

/-- A list with `min_length=1`. -/
def requiredList (field : String) (values : List String) :
    Except FieldError { list : StringList // list.values ≠ [] } := do
  let list ← textList trim field values
  if some : list.values ≠ [] then .ok ⟨list, some⟩
  else .error ⟨field, "List should have at least 1 item after validation, not 0"⟩

/-- `CatalogServiceDefinition.model_validate`. -/
def CatalogServiceInput.validate (input : CatalogServiceInput) : Except FieldError CatalogServiceDefinition := do
  let id ← matching trim "id" isStableId ("id must start with a lowercase letter and contain only lowercase " ++
    "letters, numbers, underscores, or hyphens.") input.id
  let slug ← matching trim "slug" isSlug "slug must be lowercase kebab-case." input.slug
  let displayName ← requiredText trim "display_name" input.displayName
  let aliases ← textList trim "aliases" input.aliases
  let seedQueries ← requiredList trim "seed_queries" input.seedQueries
  let negativeTerms ← textList trim "negative_terms" input.negativeTerms
  let intentModifiers ← textList trim "intent_modifiers" input.intentModifiers
  let negativeProductTerms ← textList trim "negative_product_terms" input.negativeProductTerms
  let providerCategories ← requiredList trim "provider_categories" input.providerCategories
  pure
    { id := id
      slug := slug
      displayName := displayName
      aliases
      description := trim input.description
      seedQueries := seedQueries
      negativeTerms
      intentModifiers
      negativeProductTerms
      providerCategories := providerCategories
      regulated := input.regulated
      enabled := input.enabled
      id_stable := id.2
      slug_kebab := slug.2
      displayName_some := displayName.2
      seedQueries_some := seedQueries.2
      providerCategories_some := providerCategories.2 }

/-- `ServiceCatalogConfig.model_validate`. -/
def ServiceCatalogInput.validate (input : ServiceCatalogInput) : Except FieldError ServiceCatalogConfig := do
  let version ← requiredText trim "version" input.version
  let services ← input.services.mapM (CatalogServiceInput.validate trim)
  if none_ : services = [] then
    .error ⟨"services", "List should have at least 1 item after validation, not 0"⟩
  else
    match checked : validateUniqueLookupKeys services with
    | .error message => .error ⟨"", message⟩
    | .ok _ =>
      .ok
        { version := version
          services
          version_some := version.2
          services_some := none_
          keys_unique := by
            rw [checked]
            rfl }

end

/-! ## Lookups -/

inductive ServiceMatchKind
  | id | slug | displayName | aliasName | draft
  deriving DecidableEq, Repr

/-- `ServiceResolution`. -/
structure ServiceResolution where
  catalogVersion : String
  configured : Bool
  matchKind : ServiceMatchKind
  query : String
  service : ServiceFamily

/-- An index by keys: the last service of a key is kept. -/
def indexBy (entries : List (String × CatalogServiceDefinition)) : List (String × CatalogServiceDefinition) :=
  entries.foldl (fun index entry => PyDict.setItem index entry.1 entry.2) []

namespace ServiceCatalogConfig
variable (config : ServiceCatalogConfig)

/-- `_id_index`. -/
def idIndex : List (String × CatalogServiceDefinition) :=
  indexBy (config.services.map fun service => (PyString.casefold service.id, service))

/-- `_slug_index`. -/
def slugIndex : List (String × CatalogServiceDefinition) :=
  indexBy (config.services.map fun service => (PyString.casefold service.slug, service))

/-- `_display_index`. -/
def displayIndex : List (String × CatalogServiceDefinition) :=
  indexBy (config.services.map fun service => (normalizeServiceText service.displayName, service))

/-- `_alias_index`. -/
def aliasIndex : List (String × CatalogServiceDefinition) :=
  indexBy (config.services.flatMap fun service =>
    service.aliases.values.map fun aliasName => (normalizeServiceText aliasName, service))

/-- What each index has for a query, in the order of the lookups. -/
def candidates (query : String) : List (Option CatalogServiceDefinition × ServiceMatchKind) :=
  [(config.idIndex.lookup (PyString.casefold (PyString.strip query)), .id),
   (config.slugIndex.lookup (PyString.casefold (PyString.strip query)), .slug),
   (config.displayIndex.lookup (normalizeServiceText query), .displayName),
   (config.aliasIndex.lookup (normalizeServiceText query), .aliasName)]

/-- The resolution of a query to a configured service. -/
def resolutionOf (query : String) (definition : CatalogServiceDefinition) (matchKind : ServiceMatchKind) :
    ServiceResolution :=
  { catalogVersion := config.version
    configured := true
    matchKind
    query := PyString.spaced query
    service := definition.toServiceFamily }

/-- `resolve`. -/
def resolve (query : String) : Option ServiceResolution :=
  if normalizeServiceText query = "" then none
  else
    (config.candidates query).findSome? fun (definition, matchKind) =>
      definition.map fun definition => config.resolutionOf query definition matchKind

/-- `create_draft`. -/
def createDraft (python : Python) (serviceText : String) : Except String ServiceResolution :=
  let displayName := PyString.spaced serviceText
  let draftSlug := slugify python displayName
  if displayName = "" ∨ draftSlug = "" then .error "Draft service text must contain letters or numbers."
  else
    .ok
      { catalogVersion := config.version
        configured := false
        matchKind := .draft
        query := displayName
        service :=
          { id := "draft-" ++ draftSlug
            slug := draftSlug
            displayName
            description := ""
            seedQueries := [displayName]
            negativeTerms := []
            intentModifiers := []
            negativeProductTerms := []
            providerCategories := []
            regulated := false
            enabled := true } }

end ServiceCatalogConfig

end RankRent.Catalog
