import RankRent.Catalog.Drafts
import RankRent.Prefilter.AssessmentBounds
import RankRent.Repositories.Markets
import RankRent.Research.Tasks

/-!
# Services and markets after a round trip

`service_from_orm` gives a stored service its slug for an id. The catalog resolves
either, and a plan reads neither; the profiles are keyed by the id.
-/

namespace RankRent.Repositories
open Catalog (CatalogServiceDefinition ServiceCatalogConfig ServiceFamilyRow ServiceTable lookupValues slug_isWord
  storedSlug_configured upsertService)
open Evidence (Python asciiPython slugify)
open Geography (USGeographyIndex)
open Prefilter (AddressableMarketPrefilter genericLocalService)

/-- `service_from_orm`. -/
def serviceFromOrm (python : Python) (row : ServiceFamilyRow) : Catalog.ServiceFamily :=
  { id := row.slug
    slug := if row.slug = "" then slugify python row.slug else row.slug
    displayName := row.displayName
    description := row.description
    seedQueries := row.seedQueries
    negativeTerms := row.negativeTerms
    intentModifiers := row.intentModifiers
    negativeProductTerms := row.negativeProductTerms
    providerCategories := row.providerCategories
    regulated := row.regulated
    enabled := row.enabled }

/-- The rest of the program treats `stored` as the service. -/
structure ServiceSurvives (config : ServiceCatalogConfig) (prefilter : AddressableMarketPrefilter)
    (service : CatalogServiceDefinition) (stored : Catalog.ServiceFamily) : Prop where
  profile : (prefilter.config.profileForService stored.id).2 = (prefilter.config.profileForService service.id).2
  naics : prefilter.naicsRegistry.forService (prefilter.config.profileForService stored.id).1 =
    prefilter.naicsRegistry.forService (prefilter.config.profileForService service.id).1
  resolved : (config.resolve stored.id).map (·.service) = some service.toServiceFamily
  planned : ∀ python settings validate profile market cache,
    Research.Planner.buildScanPlan python settings validate profile stored.toServiceFamily market cache =
      Research.Planner.buildScanPlan python settings validate profile service.toServiceFamily.toServiceFamily market cache

/-- `restored` is the market, where its slug is its id. -/
structure MarketSurvives (python : Python) (index : USGeographyIndex) (market : Market python)
    (restored : Option (Market python)) : Prop where
  equal : market.slug = market.id → restored = some market
  accepted : market.slug = market.id → (validateMarketAgainstIndex python index market).isOk →
    ∃ again, restored = some again ∧ (validateMarketAgainstIndex python index again).isOk

/-! ## Services -/

section
variable {python : Python} {table : ServiceTable} {service : CatalogServiceDefinition}

/-- Only the id of a stored service is another: it is the slug. -/
theorem serviceFromOrm_upsertService :
    serviceFromOrm python (upsertService table service.toServiceFamily).2 =
      { service.toServiceFamily with id := service.slug } := by
  have some_ : service.slug ≠ "" := by
    intro empty
    exact (slug_isWord service).1 (by rw [empty]; rfl)
  have slug : (upsertService table service.toServiceFamily).2.slug = service.slug := by
    have found := Catalog.get_upsertService table service.toServiceFamily service.slug
    rw [if_pos (storedSlug_configured service).symm] at found
    exact Table.get_key found
  obtain ⟨row, same⟩ := Catalog.upsertService_assign table service.toServiceFamily
  rw [same] at slug ⊢
  rw [Catalog.ServiceFamilyRow.assign_slug] at slug
  simp only [serviceFromOrm, ServiceFamilyRow.assign, slug, if_neg some_]
  rfl

/-- The slug of a service is resolved to it. -/
theorem resolve_slug {config : ServiceCatalogConfig} (member : service ∈ config.services) :
    (config.resolve service.slug).map (·.service) = some service.toServiceFamily := by
  have own : service.slug ∈ lookupValues service := by simp [lookupValues]
  have some_ : PyString.words service.slug ≠ [] := by simp [PyString.words_of_clean (slug_isWord service)]
  obtain ⟨matchKind, found⟩ := Catalog.resolve_variant member own some_ rfl
  rw [found]
  rfl

end

/-! ## Profiles -/

section
variable {config : Prefilter.Config}

/-- A profile that is selected has the name it is selected by. -/
theorem profileForService_named (serviceId : String) :
    (config.profileForService serviceId).1 = (config.profileForService serviceId).2.serviceFamilyId := by
  unfold Prefilter.Config.profileForService
  split
  · rename_i profile found
    exact config.named _ (PyDict.mem_of_lookup found)
  · obtain ⟨profile, found⟩ := Option.isSome_iff_exists.mp config.fallback
    simp only [found, Option.get_some]
    exact config.named _ (PyDict.mem_of_lookup found)

/-- A service without a profile of its own has the fallback. -/
theorem profileForService_generic {serviceId : String}
    (own : serviceId ≠ genericLocalService → config.profiles.lookup serviceId = none) :
    config.profileForService serviceId = config.profileForService genericLocalService := by
  by_cases same : serviceId = genericLocalService
  · rw [same]
  · obtain ⟨profile, found⟩ := Option.isSome_iff_exists.mp config.fallback
    simp [Prefilter.Config.profileForService, own same, found]

/-- Only a service without a profile of its own is given another one. -/
theorem profileForService_own (serviceId : String) (other : (config.profileForService serviceId).1 ≠ serviceId) :
    config.profiles.lookup serviceId = none ∧ (config.profileForService serviceId).1 = genericLocalService := by
  unfold Prefilter.Config.profileForService at other ⊢
  split
  · rename_i profile found
    simp [found] at other
  · rename_i absent
    exact ⟨absent, rfl⟩

/-- Two ids have one profile when they are one, or neither has a profile of its own. -/
theorem same_profile_iff {serviceId other : String} :
    (config.profileForService serviceId).2 = (config.profileForService other).2 ↔ serviceId = other ∨
      ∀ key ∈ [serviceId, other], key ≠ genericLocalService → config.profiles.lookup key = none := by
  constructor
  · intro same
    have names : (config.profileForService serviceId).1 = (config.profileForService other).1 := by
      rw [profileForService_named, profileForService_named, same]
    have generic {key : String} (named : (config.profileForService key).1 = genericLocalService)
        (differs : key ≠ genericLocalService) : config.profiles.lookup key = none :=
      (profileForService_own key (by rw [named]; exact differs.symm)).1
    by_cases fallback : (config.profileForService serviceId).1 = genericLocalService
    · right
      intro key member
      rcases List.mem_pair.mp member with rfl | rfl
      · exact generic fallback
      · exact generic (names ▸ fallback)
    · left
      have first : (config.profileForService serviceId).1 = serviceId :=
        Classical.byContradiction fun differs => fallback (profileForService_own serviceId differs).2
      have second : (config.profileForService other).1 = other :=
        Classical.byContradiction fun differs => fallback (names.trans (profileForService_own other differs).2)
      rw [← first, names, second]
  · rintro (rfl | own)
    · rfl
    · rw [profileForService_generic (own serviceId (by simp)), profileForService_generic (own other (by simp))]

end

/-! ## Both -/

/-- What is stored is treated as before exactly when the profiles do not tell the
service's id from its slug. -/
theorem persistence_iff (config : ServiceCatalogConfig) (prefilter : AddressableMarketPrefilter) (python : Python)
    (index : USGeographyIndex) (service : CatalogServiceDefinition) (member : service ∈ config.services)
    (table : ServiceTable) (market : Market python) (marketId : Nat) (markets : List MarketRow) :
    (ServiceSurvives config prefilter service (serviceFromOrm python (upsertService table service.toServiceFamily).2) ∧
      MarketSurvives python index market (marketFromOrm python (upsertMarket marketId markets market).2)) ↔
    (service.slug = service.id ∨ ∀ key ∈ [service.slug, service.id], key ≠ genericLocalService →
      prefilter.config.profiles.lookup key = none) := by
  rw [serviceFromOrm_upsertService]
  constructor
  · rintro ⟨survives, -⟩
    exact same_profile_iff.mp survives.profile
  · intro condition
    have profile := same_profile_iff.mpr condition
    constructor
    · constructor
      · exact profile
      · have names : (prefilter.config.profileForService service.slug).1 =
            (prefilter.config.profileForService service.id).1 := by
          rw [profileForService_named, profileForService_named, profile]
        exact congrArg prefilter.naicsRegistry.forService names
      · exact resolve_slug member
      · intro python settings validate profile market cache
        rfl
    · constructor
      · exact marketFromOrm_upsertMarket marketId markets market
      · intro same accepted
        exact ⟨market, marketFromOrm_upsertMarket marketId markets market same, accepted⟩

/-! ## A catalog with an underscore -/

def heaterInput : Catalog.ServiceCatalogInput where
  version := "2026.07.1"
  services := [
    { id := "water_heater_services"
      slug := "water-heater-services"
      displayName := "Water heater services"
      seedQueries := ["water heater repair"]
      providerCategories := ["water_heater_installation_service"] }]

theorem heater_accepted : ∃ config service, heaterInput.validate Catalog.unicodeTrim = .ok config ∧
    service ∈ config.services ∧ service.id = "water_heater_services" ∧ service.slug = "water-heater-services" := by
  have names : (heaterInput.validate Catalog.unicodeTrim).map (fun config =>
      config.services.map fun service => (service.id, service.slug)) =
        .ok [("water_heater_services", "water-heater-services")] := by decide +kernel
  cases accepted : heaterInput.validate Catalog.unicodeTrim with
  | error e =>
    rw [accepted] at names
    cases names
  | ok config =>
    rw [accepted] at names
    obtain ⟨service, single, same⟩ := List.map_eq_singleton_iff.mp (Except.ok.inj names)
    obtain ⟨id, slug⟩ := Prod.mk.inj same
    exact ⟨config, service, rfl, by simp [single], id, slug⟩

/-- The fallback profile alone, or with one of the service's own. -/
def heaterPrefilter (own : Bool) : AddressableMarketPrefilter :=
  let shared := Prefilter.fallbackProfile [("population", Prefilter.saturated 1 Prefilter.full_range)] (by decide)
    (by decide +kernel)
  let prefilter := Prefilter.prefilterOf shared rfl
  { prefilter with
    config :=
      { prefilter.config with
        profiles := (genericLocalService, shared) ::
          if own then [("water_heater_services", { shared with serviceFamilyId := "water_heater_services" })] else []
        fallback := rfl
        named := by
          cases own <;> simp [shared, Prefilter.fallbackProfile] } }

def noGeographies : USGeographyIndex := ⟨[], [], by simp, by simp, by simp, by simp⟩

def austin : Market asciiPython :=
  .create asciiPython "austin" "" .city { displayName := "Austin, TX", state := some "TX", cities := ["Austin"] }

/-- Without a profile of its own the service survives. -/
theorem heater_survives : ∃ config service, heaterInput.validate Catalog.unicodeTrim = .ok config ∧
    service ∈ config.services ∧
    ServiceSurvives config (heaterPrefilter false) service
      (serviceFromOrm asciiPython (upsertService .empty service.toServiceFamily).2) ∧
    MarketSurvives asciiPython noGeographies austin (marketFromOrm asciiPython (upsertMarket 1 [] austin).2) := by
  obtain ⟨config, service, accepted, member, id, slug⟩ := heater_accepted
  refine ⟨config, service, accepted, member, ?_⟩
  apply (persistence_iff config (heaterPrefilter false) asciiPython noGeographies service member .empty austin 1 []).mpr
  rw [id, slug]
  decide +kernel

/-- With one, it is given the fallback after the round trip. -/
theorem heater_profile_lost : ∃ config service, heaterInput.validate Catalog.unicodeTrim = .ok config ∧
    service ∈ config.services ∧
    ((heaterPrefilter true).config.profileForService service.id).1 = "water_heater_services" ∧
    ((heaterPrefilter true).config.profileForService
      (serviceFromOrm asciiPython (upsertService .empty service.toServiceFamily).2).id).1 = genericLocalService ∧
    ¬ ServiceSurvives config (heaterPrefilter true) service
      (serviceFromOrm asciiPython (upsertService .empty service.toServiceFamily).2) := by
  obtain ⟨config, service, accepted, member, id, slug⟩ := heater_accepted
  have own : ((heaterPrefilter true).config.profileForService service.id).1 = "water_heater_services" := by
    rw [id]
    decide +kernel
  have fallback : ((heaterPrefilter true).config.profileForService
      (serviceFromOrm asciiPython (upsertService .empty service.toServiceFamily).2).id).1 = genericLocalService := by
    rw [serviceFromOrm_upsertService]
    change ((heaterPrefilter true).config.profileForService service.slug).1 = _
    rw [slug]
    decide +kernel
  refine ⟨config, service, accepted, member, own, fallback, fun survives => ?_⟩
  have names := congrArg Prefilter.Profile.serviceFamilyId survives.profile
  rw [← profileForService_named, ← profileForService_named, own, fallback] at names
  exact absurd names (by decide)

end RankRent.Repositories
