import RankRent.Catalog.Lookups
import RankRent.Leads.Commits

/-!
# Drafts

A text that resolves to no service becomes a draft, which is stored under its slug
(`repositories.py`, `main.py`). A slug keeps less of a text than the lookups read.
-/

namespace RankRent.Catalog
open Evidence (Python asciiPython slugify)
open Leads (nextId nextId_fresh)

/-! ## Stored services -/

/-- A row of `service_families`. -/
structure ServiceFamilyRow where
  id : Nat
  slug : String
  displayName : String
  description : String := ""
  seedQueries : List String := []
  negativeTerms : List String := []
  intentModifiers : List String := []
  negativeProductTerms : List String := []
  providerCategories : List String := []
  regulated : Bool := false
  enabled : Bool := true
  deriving DecidableEq

/-- The columns an upsert writes. -/
def ServiceFamilyRow.assign (service : ServiceFamily) (row : ServiceFamilyRow) : ServiceFamilyRow :=
  { row with
    displayName := service.displayName
    description := service.description
    seedQueries := service.seedQueries
    negativeTerms := service.negativeTerms
    intentModifiers := service.intentModifiers
    negativeProductTerms := service.negativeProductTerms
    providerCategories := service.providerCategories
    regulated := service.regulated
    enabled := service.enabled }

@[simp] theorem ServiceFamilyRow.assign_id (service : ServiceFamily) (row : ServiceFamilyRow) :
    (row.assign service).id = row.id := rfl

@[simp] theorem ServiceFamilyRow.assign_slug (service : ServiceFamily) (row : ServiceFamilyRow) :
    (row.assign service).slug = row.slug := rfl

/-- `service_families`. -/
structure ServiceTable where
  rows : List ServiceFamilyRow
  ids_unique : (rows.map ServiceFamilyRow.id).Nodup
  slugs_unique : (rows.map ServiceFamilyRow.slug).Nodup

namespace ServiceTable

/-- The row with a slug. -/
def get (table : ServiceTable) (slug : String) : Option ServiceFamilyRow :=
  Table.get ServiceFamilyRow.slug table.rows slug

def empty : ServiceTable := ⟨[], List.nodup_nil, List.nodup_nil⟩

/-- Another slug is a row of its own. -/
def add (table : ServiceTable) (row : ServiceFamilyRow) (id : row.id = nextId ServiceFamilyRow.id table.rows)
    (absent : table.get row.slug = none) : ServiceTable where
  rows := table.rows ++ [row]
  ids_unique := by
    apply Table.keys_snoc table.ids_unique
    intro member
    obtain ⟨other, inside, same⟩ := List.mem_map.mp member
    have less := nextId_fresh ServiceFamilyRow.id table.rows other inside
    omega
  slugs_unique := by
    apply Table.keys_snoc table.slugs_unique
    intro member
    obtain ⟨other, inside, same⟩ := List.mem_map.mp member
    obtain ⟨found, got⟩ := Table.get_isSome ServiceFamilyRow.slug inside
    rw [same] at got
    exact absurd (absent.symm.trans got) (by simp)

/-- The columns of the row with a slug are written. -/
def write (table : ServiceTable) (slug : String) (service : ServiceFamily) : ServiceTable where
  rows := Table.update ServiceFamilyRow.slug table.rows slug (ServiceFamilyRow.assign service)
  ids_unique := by
    rw [Table.map_update _ (ServiceFamilyRow.assign_id service)]
    exact table.ids_unique
  slugs_unique := by
    rw [Table.map_update _ (ServiceFamilyRow.assign_slug service)]
    exact table.slugs_unique

end ServiceTable

/-- `service.slug or service.id`. -/
def storedSlug (service : ServiceFamily) : String := if service.slug = "" then service.id else service.slug

/-- `upsert_service`: the table, and the row that is returned. -/
def upsertService (table : ServiceTable) (service : ServiceFamily) : ServiceTable × ServiceFamilyRow :=
  let slug := storedSlug service
  match found : table.get slug with
  | some row => (table.write slug service, row.assign service)
  | none =>
    let row : ServiceFamilyRow :=
      { id := nextId ServiceFamilyRow.id table.rows
        slug
        displayName := service.displayName }
    (table.add (row.assign service) rfl found, row.assign service)

/-- A row of `opportunities`. -/
structure OpportunityRow where
  id : Nat
  serviceFamilyId : Nat
  marketId : Nat
  status : String
  deriving DecidableEq

/-- `get_or_create_opportunity`: the table, and the row that is returned. -/
def getOrCreateOpportunity (opportunities : List OpportunityRow) (service : ServiceFamilyRow) (marketId : Nat) :
    List OpportunityRow × OpportunityRow :=
  match opportunities.find? fun row => row.serviceFamilyId = service.id && row.marketId = marketId with
  | some row => (opportunities, row)
  | none =>
    let row : OpportunityRow := ⟨nextId OpportunityRow.id opportunities, service.id, marketId, "discovered"⟩
    (opportunities ++ [row], row)

/-! ## Requests -/

/-- `HTTPException`. -/
structure HttpException where
  statusCode : Nat
  detail : String
  deriving DecidableEq

/-- What `_resolve_service` writes into a draft. -/
def tailored (draft : ServiceResolution) : ServiceResolution :=
  { draft with
    service :=
      { draft.service with
        negativeTerms := ["diy", "jobs", "salary"]
        intentModifiers := ["repair", "replacement", "installation", "emergency"]
        negativeProductTerms := ["parts", "kit", "manual", "lowes", "home depot"] } }

/-- `_resolve_service`; a service id that is not given is empty. -/
def resolveService (python : Python) (config : ServiceCatalogConfig) (serviceId serviceText : String)
    (allowDraft : Bool) : Except HttpException ServiceResolution :=
  if serviceId ≠ "" then
    match config.resolve serviceId with
    | none => .error ⟨422, "Unknown configured service id: " ++ serviceId ++ "."⟩
    | some resolution => .ok resolution
  else
    match config.resolve serviceText with
    | some resolution => .ok resolution
    | none =>
      if allowDraft = false then .error ⟨422, "Select a configured service before running a full scan."⟩
      else
        match config.createDraft python serviceText with
        | .error _ => .error ⟨422, "Select a configured service or enter a draft service name."⟩
        | .ok draft => .ok (tailored draft)

/-! ## What an upsert does -/

section
variable (table : ServiceTable) (service : ServiceFamily)

theorem ServiceTable.get_add (row : ServiceFamilyRow) (id : row.id = nextId ServiceFamilyRow.id table.rows)
    (absent : table.get row.slug = none) (slug : String) :
    (table.add row id absent).get slug = if slug = row.slug then some row else table.get slug := by
  rw [ServiceTable.get, Table.get, ServiceTable.add, List.find?_append]
  by_cases same : slug = row.slug
  · subst same
    rw [ServiceTable.get, Table.get] at absent
    simp [absent]
  · have other : ¬ row.slug = slug := fun equal => same equal.symm
    simp [same, other, ServiceTable.get, Table.get]

/-- The row of the slug is the one that is returned, and the others are as they were. -/
theorem get_upsertService (slug : String) : (upsertService table service).1.get slug =
    if slug = storedSlug service then some (upsertService table service).2 else table.get slug := by
  unfold upsertService
  dsimp only
  split
  next row found =>
    rw [ServiceTable.get, ServiceTable.write, Table.get_update (ServiceFamilyRow.assign_slug service)]
    by_cases same : slug = storedSlug service
    · subst same
      rw [ServiceTable.get] at found
      simp [found]
    · simp [same, ServiceTable.get]
  next absent => exact ServiceTable.get_add table _ rfl absent slug

/-- The row that is returned has what the service has. -/
theorem upsertService_assign : ∃ row : ServiceFamilyRow, (upsertService table service).2 = row.assign service := by
  unfold upsertService
  dsimp only
  split
  · exact ⟨_, rfl⟩
  · exact ⟨_, rfl⟩

theorem getOrCreateOpportunity_service (opportunities : List OpportunityRow) (row : ServiceFamilyRow) (marketId : Nat) :
    (getOrCreateOpportunity opportunities row marketId).2.serviceFamilyId = row.id := by
  unfold getOrCreateOpportunity
  split
  next found listed =>
    have same := List.find?_some listed
    simp only [Bool.and_eq_true, decide_eq_true_eq] at same
    exact same.1
  next => rfl

end

/-! ## Configured services -/

theorem storedSlug_configured (configured : CatalogServiceDefinition) :
    storedSlug configured.toServiceFamily = configured.slug := by
  have some_ : configured.slug ≠ "" := by
    intro empty
    have word := (slug_isWord configured).1
    rw [empty] at word
    exact word rfl
  exact if_neg some_

/-- The upsert of a service leaves the row of each configured service as it is, and no
opportunity of its row is one of them. -/
structure Apart (config : ServiceCatalogConfig) (service : ServiceFamily) : Prop where
  rows : ∀ table, ∀ configured ∈ config.services,
    (upsertService table service).1.get configured.slug = table.get configured.slug
  opportunities : ∀ table opportunities marketId, ∀ configured ∈ config.services, ∀ row,
    (upsertService table service).1.get configured.slug = some row →
      (getOrCreateOpportunity opportunities (upsertService table service).2 marketId).2.serviceFamilyId ≠ row.id

/-- A service without categories is apart from the configured ones if its slug is. -/
theorem apart_iff {config : ServiceCatalogConfig} {service : ServiceFamily} (bare : service.providerCategories = []) :
    Apart config service ↔ storedSlug service ∉ config.services.map CatalogServiceDefinition.slug := by
  constructor
  · intro apart listed
    obtain ⟨configured, member, same⟩ := List.mem_map.mp listed
    have kept := apart.rows (upsertService .empty configured.toServiceFamily).1 configured member
    rw [get_upsertService, get_upsertService, storedSlug_configured, if_pos same, if_pos rfl] at kept
    obtain ⟨row, after⟩ := upsertService_assign (upsertService .empty configured.toServiceFamily).1 service
    obtain ⟨old, before⟩ := upsertService_assign .empty configured.toServiceFamily
    rw [after, before] at kept
    have categories := congrArg ServiceFamilyRow.providerCategories (Option.some.inj kept)
    exact configured.providerCategories_some (categories.symm.trans bare)
  · intro absent
    have other (configured : CatalogServiceDefinition) (member : configured ∈ config.services) :
        ¬ configured.slug = storedSlug service := by
      intro same
      exact absent (same ▸ List.mem_map_of_mem member)
    constructor
    · intro table configured member
      rw [get_upsertService, if_neg (other configured member)]
    · intro table opportunities marketId configured member row found same
      rw [getOrCreateOpportunity_service] at same
      have own := get_upsertService table service (storedSlug service)
      rw [if_pos rfl] at own
      have one := Table.get_inj (upsertService table service).1.ids_unique (Table.get_mem own) (Table.get_mem found) same
      have slug := Table.get_key own
      rw [one, Table.get_key found] at slug
      exact other configured member slug

/-! ## Drafts -/

section
variable {python : Python} {config : ServiceCatalogConfig} {serviceText : String} {draft : ServiceResolution}

/-- A draft has the slug of its text, and no categories. -/
theorem createDraft_ok (drafted : config.createDraft python serviceText = .ok draft) :
    storedSlug draft.service = slugify python (PyString.spaced serviceText) ∧
      draft.service.providerCategories = [] := by
  unfold ServiceCatalogConfig.createDraft at drafted
  dsimp only at drafted
  generalize slugify python (PyString.spaced serviceText) = slug at drafted ⊢
  split at drafted
  · cases drafted
  next some_ =>
    cases drafted
    exact ⟨if_neg (not_or.mp some_).2, rfl⟩

/-- What is no configured service is a tailored draft. -/
theorem resolveService_draft {serviceId : String} {allowDraft : Bool} {resolution : ServiceResolution}
    (resolved : resolveService python config serviceId serviceText allowDraft = .ok resolution) :
    (∃ query, config.resolve query = some resolution) ∨
      config.resolve serviceText = none ∧ ∃ draft, config.createDraft python serviceText = .ok draft ∧
        resolution = tailored draft := by
  unfold resolveService at resolved
  split at resolved
  · split at resolved
    · cases resolved
    next found => exact .inl ⟨serviceId, by cases resolved; exact found⟩
  · split at resolved
    next found => exact .inl ⟨serviceText, by cases resolved; exact found⟩
    next absent =>
      split at resolved
      · cases resolved
      · split at resolved
        · cases resolved
        next draft drafted =>
          cases resolved
          exact .inr ⟨absent, draft, drafted, rfl⟩

/-- A draft, as it is made or as a request tailors it, is apart from the configured services
exactly if none of them has its slug. -/
theorem draft_apart_iff (drafted : config.createDraft python serviceText = .ok draft) :
    Apart config draft.service ∧ Apart config (tailored draft).service ↔
      slugify python (PyString.spaced serviceText) ∉ config.services.map CatalogServiceDefinition.slug := by
  obtain ⟨slug, bare⟩ := createDraft_ok drafted
  have bare' : (tailored draft).service.providerCategories = [] := bare
  rw [← slug, apart_iff bare, apart_iff bare']
  exact and_self_iff

end

/-- A catalog with one service. -/
def hvacInput : ServiceCatalogInput where
  version := "2026.07.1"
  services := [
    { id := "hvac"
      slug := "hvac"
      displayName := "HVAC"
      seedQueries := ["hvac"]
      providerCategories := ["hvac"] }]

theorem hvac_accepted : ∃ config, hvacInput.validate unicodeTrim = .ok config ∧
    config.services.map CatalogServiceDefinition.slug = ["hvac"] ∧
    config.resolve "Spa" = none ∧ config.resolve "HVAC!" = none := by
  have outcome : (hvacInput.validate unicodeTrim).map (fun config =>
      (config.services.map CatalogServiceDefinition.slug, config.services.map lookupValues)) =
        .ok (["hvac"], [["hvac", "hvac", "HVAC"]]) := by decide +kernel
  cases accepted : hvacInput.validate unicodeTrim with
  | error e =>
    rw [accepted] at outcome
    cases outcome
  | ok config =>
    rw [accepted] at outcome
    obtain ⟨slugs, values⟩ := Prod.mk.inj (Except.ok.inj outcome)
    have none_ {query : String} (apart : ∀ value ∈ ["hvac", "hvac", "HVAC"],
        (PyString.words query).map PyString.casefold ≠ (PyString.words value).map PyString.casefold) :
        config.resolve query = none := by
      apply resolve_none
      intro service member value own
      have listed : lookupValues service ∈ config.services.map lookupValues := List.mem_map_of_mem member
      rw [values, List.mem_singleton] at listed
      exact apart value (listed ▸ own)
    exact ⟨config, rfl, slugs, none_ (by decide +kernel), none_ (by decide +kernel)⟩

theorem createDraft_returns (python : Python) (serviceText : String) (some_ : PyString.spaced serviceText ≠ "")
    (slug : slugify python (PyString.spaced serviceText) ≠ "") (config : ServiceCatalogConfig) :
    ∃ draft, config.createDraft python serviceText = .ok draft := by
  unfold ServiceCatalogConfig.createDraft
  exact ⟨_, if_neg (not_or.mpr ⟨some_, slug⟩)⟩

theorem spa_apart : ∃ config draft, hvacInput.validate unicodeTrim = .ok config ∧
    config.resolve "Spa" = none ∧ config.createDraft asciiPython "Spa" = .ok draft ∧
    Apart config draft.service ∧ Apart config (tailored draft).service := by
  obtain ⟨config, accepted, slugs, unresolved, -⟩ := hvac_accepted
  obtain ⟨draft, drafted⟩ := createDraft_returns asciiPython "Spa" (by decide +kernel)
    (by decide +kernel) config
  refine ⟨config, draft, accepted, unresolved, drafted, (draft_apart_iff drafted).mpr ?_⟩
  rw [slugs]
  decide +kernel

/-- An exclamation mark is enough: the text resolves to nothing, and its draft has the slug
of the service. -/
theorem hvac_overwritten : ∃ config draft, hvacInput.validate unicodeTrim = .ok config ∧
    config.resolve "HVAC!" = none ∧ config.createDraft asciiPython "HVAC!" = .ok draft ∧
    ¬ Apart config draft.service := by
  obtain ⟨config, accepted, slugs, -, unresolved⟩ := hvac_accepted
  obtain ⟨draft, drafted⟩ := createDraft_returns asciiPython "HVAC!" (by decide +kernel)
    (by decide +kernel) config
  obtain ⟨slug, bare⟩ := createDraft_ok drafted
  refine ⟨config, draft, accepted, unresolved, drafted, fun apart => ?_⟩
  have absent := (apart_iff bare).mp apart
  rw [slug, slugs] at absent
  revert absent
  decide +kernel

end RankRent.Catalog
