import RankRent.Properties.System

/-!
# The active site configuration

`create_site_config` numbers the configurations of a property; `review_site_config`
approves one and supersedes the one approved before, or sends one back to draft.
Of a property only its pointer matters here: its id and its active version.
-/

namespace RankRent.Properties
open Leads (nextId)
open Checks

/-- Each property with its active version. -/
def pointers (properties : List Property) : List (String × Option Nat) :=
  properties.map fun row => (row.id, row.activeSiteConfigVersion)

/-- The versions of a property's configurations, in order of creation. -/
def configVersions (configs : List SiteConfig) (propertyId : String) : List Nat :=
  (configs.filter fun row => row.propertyId = propertyId).map SiteConfig.version

/-- At most one configuration of a property is approved. -/
def OneApproved (configs : List SiteConfig) : Prop :=
  ∀ a ∈ configs, ∀ b ∈ configs, a.propertyId = b.propertyId → a.status = .approved →
    b.status = .approved → a = b

/-- The versions of every property are 1 up to their number. -/
def Numbered (configs : List SiteConfig) : Prop :=
  ∀ propertyId, configVersions configs propertyId =
    List.range' 1 (configVersions configs propertyId).length

/-- The active version of a property is that of its approved configuration, and
is null where there is none. -/
def ActiveApproved (properties : List (String × Option Nat)) (configs : List SiteConfig) : Prop :=
  ∀ pointer ∈ properties, ∀ version, pointer.2 = some version ↔
    ∃ row ∈ configs, row.propertyId = pointer.1 ∧ row.status = .approved ∧ row.version = version

/-- A configuration that is not approved, be it superseded, rejected or new, is
not the active version. -/
def RetiredInactive (properties : List (String × Option Nat)) (configs : List SiteConfig) : Prop :=
  ∀ pointer ∈ properties, ∀ row ∈ configs, row.propertyId = pointer.1 → row.status ≠ .approved →
    pointer.2 ≠ some row.version

/-- The configuration a request rejects. -/
def Call.rejects (call : Call) : Option Nat :=
  match call.request with
  | .config (.review configId false _) => some configId
  | _ => none

/-- The request does not reject a configuration that is approved. -/
def KeepsApproved (w : World) (call : Call) : Prop :=
  ∀ configId ∈ call.rejects, ∀ row ∈ w.store.configs, row.id = configId → row.status ≠ .approved

instance (w : World) (call : Call) : Decidable (KeepsApproved w call) :=
  inferInstanceAs (Decidable (∀ configId ∈ call.rejects, _))

/-! ## Invariant -/

/-- What every request keeps. -/
structure ConfigsSound (properties : List (String × Option Nat)) (configs : List SiteConfig) : Prop where
  properties_distinct : (properties.map Prod.fst).Nodup
  distinct : (configs.map SiteConfig.id).Nodup
  owned : ∀ row ∈ configs, row.propertyId ∈ properties.map Prod.fst
  oneApproved : OneApproved configs
  numbered : Numbered configs

section Configs
variable {properties : List (String × Option Nat)} {configs : List SiteConfig}

theorem configVersions_map {f : SiteConfig → SiteConfig} (same : ∀ row, (f row).propertyId = row.propertyId)
    (version : ∀ row, (f row).version = row.version) (configs : List SiteConfig) (propertyId : String) :
    configVersions (configs.map f) propertyId = configVersions configs propertyId := by
  induction configs with
  | nil => rfl
  | cons row rest ih =>
    simp only [configVersions, List.map_cons, List.filter_cons, same] at ih ⊢
    split
    · rw [List.map_cons, List.map_cons, ih, version]
    · exact ih

/-- The versions of a property do not repeat. -/
theorem Numbered.version_inj (numbered : Numbered configs) {a b : SiteConfig} (inside : a ∈ configs)
    (among : b ∈ configs) (property : a.propertyId = b.propertyId) (version : a.version = b.version) :
    a = b := by
  have distinct : ((configs.filter fun row => row.propertyId = b.propertyId).map
      SiteConfig.version).Nodup := by
    have := numbered b.propertyId
    rw [configVersions] at this
    rw [this]
    exact List.nodup_range'
  refine List.inj_on_of_nodup_map distinct ?_ ?_ version
  · exact List.mem_filter.mpr ⟨inside, decide_eq_true property⟩
  · exact List.mem_filter.mpr ⟨among, decide_eq_true rfl⟩

theorem ActiveApproved.retired (active : ActiveApproved properties configs) (numbered : Numbered configs) :
    RetiredInactive properties configs := by
  intro pointer member row inside property differs same
  obtain ⟨other, among, owner, approved, version⟩ := (active pointer member _).mp same
  have := numbered.version_inj inside among (property.trans owner.symm) version.symm
  subst this
  exact differs approved

theorem foldl_max_range' (n : Nat) : (List.range' 1 n).foldl max 0 = n := by
  induction n with
  | zero => rfl
  | succ n ih =>
    rw [List.range'_1_concat, List.foldl_append, ih, List.foldl_cons, List.foldl_nil]
    omega

theorem Numbered.latest (numbered : Numbered configs) (propertyId : String) :
    latestConfigVersion configs propertyId = (configVersions configs propertyId).length := by
  have counted := numbered propertyId
  rw [latestConfigVersion, ← configVersions, counted, foldl_max_range', List.length_range']

/-! ### Creation -/

theorem ConfigsSound.newProperty (sound : ConfigsSound properties configs) {propertyId : String}
    (fresh : propertyId ∉ properties.map Prod.fst) :
    ConfigsSound (properties ++ [(propertyId, none)]) configs where
  properties_distinct := Table.keys_snoc sound.properties_distinct fresh
  distinct := sound.distinct
  owned row member := by
    rw [List.map_append]
    exact List.mem_append_left _ (sound.owned row member)
  oneApproved := sound.oneApproved
  numbered := sound.numbered

theorem ActiveApproved.newProperty (active : ActiveApproved properties configs)
    (sound : ConfigsSound properties configs) {propertyId : String}
    (fresh : propertyId ∉ properties.map Prod.fst) :
    ActiveApproved (properties ++ [(propertyId, none)]) configs := by
  intro pointer member version
  rw [List.mem_append, List.mem_singleton] at member
  obtain member | rfl := member
  · exact active pointer member version
  · constructor
    · intro none
      cases none
    · rintro ⟨row, inside, rfl, -⟩
      exact absurd (sound.owned row inside) fresh

theorem ConfigsSound.create (sound : ConfigsSound properties configs) {new : SiteConfig}
    (id : new.id = nextId SiteConfig.id configs) (owner : new.propertyId ∈ properties.map Prod.fst)
    (version : new.version = latestConfigVersion configs new.propertyId + 1)
    (draft : new.status = .draft) : ConfigsSound properties (configs ++ [new]) where
  properties_distinct := sound.properties_distinct
  distinct := Table.keys_snoc sound.distinct (id ▸ nextId_notMem SiteConfig.id configs)
  owned row member := by
    rw [List.mem_append, List.mem_singleton] at member
    obtain member | rfl := member
    · exact sound.owned row member
    · exact owner
  oneApproved := by
    intro a inside b among property first second
    rw [List.mem_append, List.mem_singleton] at inside among
    obtain inside | rfl := inside
    · obtain among | rfl := among
      · exact sound.oneApproved a inside b among property first second
      · rw [draft] at second
        cases second
    · rw [draft] at first
      cases first
  numbered := by
    intro propertyId
    have counted := sound.numbered propertyId
    by_cases same : new.propertyId = propertyId
    · have split : configVersions (configs ++ [new]) propertyId =
          configVersions configs propertyId ++ [new.version] := by
        simp [configVersions, List.filter_append, same]
      rw [split, List.length_append, List.length_singleton, List.range'_1_concat, ← counted, version,
        sound.numbered.latest, same, Nat.add_comm]
    · have split : configVersions (configs ++ [new]) propertyId = configVersions configs propertyId := by
        simp [configVersions, List.filter_append, same]
      rw [split]
      exact counted

theorem ActiveApproved.create (active : ActiveApproved properties configs) {new : SiteConfig}
    (draft : new.status = .draft) : ActiveApproved properties (configs ++ [new]) := by
  intro pointer member version
  rw [active pointer member version]
  constructor
  · rintro ⟨row, inside, found⟩
    exact ⟨row, List.mem_append_left _ inside, found⟩
  · rintro ⟨row, inside, owner, approved, same⟩
    rw [List.mem_append, List.mem_singleton] at inside
    obtain inside | rfl := inside
    · exact ⟨row, inside, owner, approved, same⟩
    · rw [draft] at approved
      cases approved

/-! ### Review -/

variable {row : SiteConfig} {reason : String} {actor : Review.ReviewActor} {now : DateTime}

theorem supersede_id (row prior : SiteConfig) : (supersede row prior).id = prior.id := by
  rw [supersede]
  split <;> rfl

theorem supersede_propertyId (row prior : SiteConfig) :
    (supersede row prior).propertyId = prior.propertyId := by
  rw [supersede]
  split <;> rfl

theorem supersede_version (row prior : SiteConfig) : (supersede row prior).version = prior.version := by
  rw [supersede]
  split <;> rfl

/-- What is superseded was approved, of the same property. -/
theorem supersede_approved {prior : SiteConfig} (approved : (supersede row prior).status = .approved) :
    prior.status = .approved ∧ (prior.propertyId = row.propertyId → prior.id = row.id) := by
  rw [supersede] at approved
  split at approved
  · cases approved
  · rename_i kept
    refine ⟨approved, fun property => ?_⟩
    by_contra differs
    exact kept ⟨property, approved, differs⟩

theorem mem_approved (sound : ConfigsSound properties configs) (there : row ∈ configs) {c : SiteConfig} :
    c ∈ approvedConfigs configs row reason actor now ↔
      c = row.reviewed .approved reason actor now ∨
        ∃ old ∈ configs, old.id ≠ row.id ∧ c = supersede row old := by
  have self : supersede row row = row := by simp [supersede]
  rw [approvedConfigs, Table.mem_update]
  constructor
  · rintro (⟨old, member, same, rfl⟩ | ⟨member, differs⟩)
    · obtain ⟨first, inside, rfl⟩ := List.mem_map.mp member
      rw [supersede_id] at same
      rw [Table.get_inj sound.distinct inside there same, self]
      exact Or.inl rfl
    · obtain ⟨first, inside, rfl⟩ := List.mem_map.mp member
      rw [supersede_id] at differs
      exact Or.inr ⟨first, inside, differs, rfl⟩
  · rintro (rfl | ⟨old, member, differs, rfl⟩)
    · exact Or.inl ⟨row, List.mem_map.mpr ⟨row, there, self⟩, rfl, rfl⟩
    · refine Or.inr ⟨List.mem_map_of_mem member, ?_⟩
      rw [supersede_id]
      exact differs

/-- A pass that keeps ids, owners and versions keeps what is counted. -/
theorem ConfigsSound.pass {properties' : List (String × Option Nat)}
    (sound : ConfigsSound properties configs) (same : properties'.map Prod.fst = properties.map Prod.fst)
    {f : SiteConfig → SiteConfig} (id : ∀ row, (f row).id = row.id)
    (owner : ∀ row, (f row).propertyId = row.propertyId) (version : ∀ row, (f row).version = row.version)
    (one : OneApproved (configs.map f)) : ConfigsSound properties' (configs.map f) where
  properties_distinct := by
    rw [same]
    exact sound.properties_distinct
  distinct := by
    rw [Table.keys_map id]
    exact sound.distinct
  owned row member := by
    obtain ⟨old, inside, rfl⟩ := List.mem_map.mp member
    rw [same, owner]
    exact sound.owned old inside
  oneApproved := one
  numbered propertyId := by
    rw [configVersions_map owner version]
    exact sound.numbered propertyId

theorem ConfigsSound.reject (sound : ConfigsSound properties configs) (there : row ∈ configs) :
    ConfigsSound properties
      (Table.update SiteConfig.id configs row.id (.reviewed .draft reason actor now)) := by
  refine sound.pass rfl (fun c => ?_) (fun c => ?_) (fun c => ?_) ?_
  · split <;> rfl
  · split <;> rfl
  · split <;> rfl
  · intro a inside b among property first second
    obtain rfl | ⟨inside, -⟩ := (Table.mem_update_row sound.distinct there).mp inside
    · cases first
    · obtain rfl | ⟨among, -⟩ := (Table.mem_update_row sound.distinct there).mp among
      · cases second
      · exact sound.oneApproved a inside b among property first second

theorem ActiveApproved.reject (active : ActiveApproved properties configs)
    (sound : ConfigsSound properties configs) (there : row ∈ configs) (open_ : row.status ≠ .approved) :
    ActiveApproved properties
      (Table.update SiteConfig.id configs row.id (.reviewed .draft reason actor now)) := by
  intro pointer member version
  rw [active pointer member version]
  constructor
  · rintro ⟨other, inside, owner, approved, same⟩
    refine ⟨other, (Table.mem_update_row sound.distinct there).mpr (Or.inr ⟨inside, fun one => ?_⟩), owner, approved, same⟩
    have := Table.get_inj sound.distinct inside there one
    subst this
    exact open_ approved
  · rintro ⟨other, inside, owner, approved, same⟩
    obtain rfl | ⟨inside, -⟩ := (Table.mem_update_row sound.distinct there).mp inside
    · cases approved
    · exact ⟨other, inside, owner, approved, same⟩

theorem oneApproved_approved (sound : ConfigsSound properties configs) (there : row ∈ configs) :
    OneApproved (approvedConfigs configs row reason actor now) := by
  intro a inside b among property first second
  obtain rfl | ⟨a, before, differs, rfl⟩ := (mem_approved sound there).mp inside
  · obtain rfl | ⟨b, -, differs, rfl⟩ := (mem_approved sound there).mp among
    · rfl
    · rw [supersede_propertyId] at property
      exact absurd ((supersede_approved second).2 property.symm) differs
  · obtain rfl | ⟨b, earlier, -, rfl⟩ := (mem_approved sound there).mp among
    · rw [supersede_propertyId] at property
      exact absurd ((supersede_approved first).2 property) differs
    · rw [supersede_propertyId, supersede_propertyId] at property
      rw [sound.oneApproved a before b earlier property (supersede_approved first).1
        (supersede_approved second).1]

/-- The pointers after an approval. -/
def pointed (properties : List (String × Option Nat)) (row : SiteConfig) : List (String × Option Nat) :=
  Table.update Prod.fst properties row.propertyId fun pointer => (pointer.1, some row.version)

theorem ConfigsSound.approve (sound : ConfigsSound properties configs) (there : row ∈ configs) :
    ConfigsSound (pointed properties row) (approvedConfigs configs row reason actor now) := by
  have one : OneApproved (approvedConfigs configs row reason actor now) := oneApproved_approved sound there
  rw [approvedConfigs, Table.update, List.map_map] at one ⊢
  refine sound.pass ?_ (fun c => ?_) (fun c => ?_) (fun c => ?_) one
  · rw [pointed, Table.map_update]
    exact fun _ => rfl
  · simp only [Function.comp_apply]
    split <;> exact supersede_id row c
  · simp only [Function.comp_apply]
    split <;> exact supersede_propertyId row c
  · simp only [Function.comp_apply]
    split <;> exact supersede_version row c

theorem ActiveApproved.approve (active : ActiveApproved properties configs)
    (sound : ConfigsSound properties configs) (there : row ∈ configs) :
    ActiveApproved (pointed properties row) (approvedConfigs configs row reason actor now) := by
  intro pointer member version
  obtain ⟨old, -, same, rfl⟩ | ⟨member, differs⟩ := Table.mem_update.mp member
  · constructor
    · intro now
      cases now
      exact ⟨_, (mem_approved sound there).mpr (Or.inl rfl), same.symm, rfl, rfl⟩
    · rintro ⟨other, inside, owner, approved, rfl⟩
      obtain rfl | ⟨other, inside, differs, rfl⟩ := (mem_approved sound there).mp inside
      · rfl
      · rw [supersede_propertyId, same] at owner
        exact absurd ((supersede_approved approved).2 owner) differs
  · rw [active pointer member version]
    constructor
    · rintro ⟨other, inside, owner, approved, version⟩
      have apart : other.id ≠ row.id := by
        intro one
        have := Table.get_inj sound.distinct inside there one
        subst this
        exact differs owner.symm
      refine ⟨supersede row other, (mem_approved sound there).mpr (Or.inr ⟨other, inside, apart, rfl⟩),
        ?_, ?_, ?_⟩
      · rw [supersede_propertyId]
        exact owner
      · rw [supersede, if_neg (fun holds => differs (owner ▸ holds.1))]
        exact approved
      · rw [supersede_version]
        exact version
    · rintro ⟨other, inside, owner, approved, version⟩
      obtain rfl | ⟨other, before, -, rfl⟩ := (mem_approved sound there).mp inside
      · exact absurd owner.symm differs
      · rw [supersede_propertyId] at owner
        rw [supersede_version] at version
        exact ⟨other, before, owner, (supersede_approved approved).1, version⟩

end Configs

/-! ## Runs -/

theorem pointers_revise {s : Store} {prop : Property} {change : Property → Property}
    {actor : Review.ReviewActor} {reason : String} (id : ∀ row, (change row).id = row.id)
    (active : ∀ row, (change row).activeSiteConfigVersion = row.activeSiteConfigVersion) :
    pointers (s.revise prop change actor reason).properties = pointers s.properties := by
  refine Table.map_update _ fun row => ?_
  simp only [Property.revised, id, active]

theorem pointers_configured (properties : List Property) (propertyId : String) (version : Nat) :
    pointers (Table.update Property.id properties propertyId (.configured version)) =
      Table.update Prod.fst (pointers properties) propertyId fun pointer => (pointer.1, some version) := by
  simp only [pointers, Table.update, List.map_map]
  refine List.map_congr_left fun row _ => ?_
  by_cases same : row.id = propertyId <;> simp [same, Property.configured]

/-- What a request does to the pointers and the configurations. -/
inductive ConfigTurn (properties : List (String × Option Nat)) (configs : List SiteConfig)
    (call : Call) : List (String × Option Nat) → List SiteConfig → Prop
  | same : ConfigTurn properties configs call properties configs
  | newProperty {propertyId : String} (fresh : propertyId ∉ properties.map Prod.fst) :
      ConfigTurn properties configs call (properties ++ [(propertyId, none)]) configs
  | create {new : SiteConfig} (id : new.id = nextId SiteConfig.id configs)
      (owner : new.propertyId ∈ properties.map Prod.fst)
      (version : new.version = latestConfigVersion configs new.propertyId + 1)
      (draft : new.status = .draft) : ConfigTurn properties configs call properties (configs ++ [new])
  | approve {row : SiteConfig} {reason : String} (there : row ∈ configs) :
      ConfigTurn properties configs call (pointed properties row)
        (approvedConfigs configs row reason call.actor call.now)
  | reject {row : SiteConfig} {reason : String} (there : row ∈ configs)
      (asked : call.request = .config (.review row.id false reason)) :
      ConfigTurn properties configs call properties
        (Table.update SiteConfig.id configs row.id (.reviewed .draft reason call.actor call.now))

section Turns
variable {w w' : World} {call : Call}

theorem config_turn (done : w.handle call.actor call.now call.request = .ok w') :
    ConfigTurn (pointers w.store.properties) w.store.configs call (pointers w'.store.properties)
      w'.store.configs := by
  have unmoved : pointers w'.store.properties = pointers w.store.properties →
      w'.store.configs = w.store.configs → ConfigTurn (pointers w.store.properties) w.store.configs call
        (pointers w'.store.properties) w'.store.configs := by
    intro properties configs
    rw [properties, configs]
    exact .same
  obtain ⟨request, actor, now⟩ := call
  cases request with
  | property request =>
    have configs : w'.store.configs = w.store.configs := by rw [PropertyRequest.frame done]
    cases request with
    | create opportunityId request =>
      obtain ⟨store, ok, rfl⟩ := World.keeping_ok done
      obtain ⟨row, initial, fresh, properties, -⟩ := createProperty_ok ok
      have grown : pointers store.properties = pointers w.store.properties ++ [(row.id, none)] := by
        rw [properties, pointers, List.map_append, List.map_cons, List.map_nil, initial.active]
        rfl
      rw [configs, grown]
      refine .newProperty ?_
      rw [pointers, List.map_map]
      exact fresh
    | update propertyId request =>
      obtain ⟨store, ok, rfl⟩ := World.keeping_ok done
      obtain ⟨row, -, properties, -⟩ := updateProperty_ok ok
      exact unmoved (by rw [properties]; exact pointers_revise (fun _ => rfl) fun _ => rfl) configs
  | domain request =>
    have configs : w'.store.configs = w.store.configs := by rw [DomainRequest.frame done]
    have others : (∀ id r, request ≠ .verify id r) → _ := DomainRequest.frame_unverified done
    cases request with
    | verify registrationId request =>
      obtain ⟨store, ok, rfl⟩ := World.keeping_ok done
      obtain ⟨registration, prop, -, verifies⟩ := verifyDns_ok ok
      refine unmoved ?_ configs
      rw [verifies.properties]
      exact pointers_revise (fun _ => rfl) fun _ => rfl
    | generate | decide | check | approvePurchase | record =>
      exact unmoved (by rw [others (by simp)]) configs
  | asset request => exact unmoved (by rw [AssetRequest.frame done]) (by rw [AssetRequest.frame done])
  | provider request =>
    exact unmoved (by rw [ProviderRequest.frame done]) (by rw [ProviderRequest.frame done])
  | build request => exact unmoved (by rw [BuildRequest.frame done]) (by rw [BuildRequest.frame done])
  | config request =>
    cases request with
    | create propertyId request =>
      obtain ⟨store, ok, rfl⟩ := World.keeping_ok done
      obtain ⟨prop, new, creates⟩ := createSiteConfig_ok ok
      obtain ⟨reason, properties, -⟩ := creates.revised
      have same : pointers store.properties = pointers w.store.properties := by
        rw [properties]
        exact pointers_revise (fun _ => rfl) fun _ => rfl
      have owner : new.propertyId ∈ (pointers w.store.properties).map Prod.fst := by
        rw [pointers, List.map_map, creates.owner]
        exact List.mem_map.mpr ⟨prop, Table.get_mem creates.property_found, rfl⟩
      simp only [same, creates.configs]
      exact .create creates.new_id owner creates.version creates.draft
    | review configId approved reason =>
      obtain ⟨store, ok, rfl⟩ := World.keeping_ok done
      obtain ⟨row, rfl, there, ⟨rfl, rfl⟩ | ⟨rfl, rfl⟩⟩ := reviewSiteConfig_ok ok
      · simp only [pointers_configured]
        exact .approve (Table.get_mem there)
      · exact .reject (Table.get_mem there) rfl
  | release request =>
    refine unmoved ?_ (by rw [serveRelease_frame done])
    obtain ⟨release, -, -, rfl⟩ := serveRelease_ok done
    simp only [Release.commit]
    split
    · exact Table.map_update _ fun _ => rfl
    · rfl

theorem ConfigTurn.sound {properties properties' : List (String × Option Nat)}
    {configs configs' : List SiteConfig} (turn : ConfigTurn properties configs call properties' configs')
    (sound : ConfigsSound properties configs) : ConfigsSound properties' configs' := by
  cases turn with
  | same => exact sound
  | newProperty fresh => exact sound.newProperty fresh
  | create id owner version draft => exact sound.create id owner version draft
  | approve there => exact sound.approve there
  | reject there => exact sound.reject there

theorem ConfigTurn.active {properties' : List (String × Option Nat)} {configs' : List SiteConfig}
    (turn : ConfigTurn (pointers w.store.properties) w.store.configs call properties' configs')
    (sound : ConfigsSound (pointers w.store.properties) w.store.configs) (keeps : KeepsApproved w call)
    (active : ActiveApproved (pointers w.store.properties) w.store.configs) :
    ActiveApproved properties' configs' := by
  cases turn with
  | same => exact active
  | newProperty fresh => exact active.newProperty sound fresh
  | create _ _ _ draft => exact active.create draft
  | approve there => exact active.approve sound there
  | @reject row reason there asked =>
    exact active.reject sound there (keeps row.id (by rw [Call.rejects, asked]; rfl) row there rfl)

end Turns

theorem World.Fresh.configs_sound {w : World} (fresh : w.Fresh) :
    ConfigsSound (pointers w.store.properties) w.store.configs := by
  rw [fresh.properties, fresh.configs]
  constructor <;> simp [pointers, OneApproved, Numbered, configVersions]

/-- In every run one configuration of a property is approved at most and the
versions are 1 up to their number. The active version is that of the approved
configuration, null without one, and never that of another, as long as no
request rejects a configuration that is approved. -/
theorem active_config_tracks_approval {w : World} (fresh : w.Fresh) :
    (∀ w', RunsUnder (fun _ _ => True) w w' → OneApproved w'.store.configs ∧ Numbered w'.store.configs) ∧
    ∀ w', RunsUnder KeepsApproved w w' →
      ActiveApproved (pointers w'.store.properties) w'.store.configs ∧
      RetiredInactive (pointers w'.store.properties) w'.store.configs := by
  constructor
  · intro w' run
    have sound := run.invariant (I := fun w => ConfigsSound (pointers w.store.properties) w.store.configs)
      (fun w call w' sound _ done => (config_turn done).sound sound) fresh.configs_sound
    exact ⟨sound.oneApproved, sound.numbered⟩
  · intro w' run
    have start : ActiveApproved (pointers w.store.properties) w.store.configs := by
      rw [fresh.properties]
      intro pointer member
      cases member
    obtain ⟨sound, active⟩ := run.invariant
      (I := fun w => ConfigsSound (pointers w.store.properties) w.store.configs ∧
        ActiveApproved (pointers w.store.properties) w.store.configs)
      (fun w call w' holds keeps done => ⟨(config_turn done).sound holds.1,
        (config_turn done).active holds.1 keeps holds.2⟩) ⟨fresh.configs_sound, start⟩
    exact ⟨active, active.retired sound.numbered⟩

/-! ## A rejected configuration that stays active -/

def rejectedLater : List Call :=
  property ++ configured 1 2 ++ [ask (.config (.review 1 false "claims not supported")) 3]

theorem rejected_config_active :
    RunsUnder (fun _ _ => True) untouched (rejectedLater.foldl World.serve untouched) ∧
      ¬ ActiveApproved (pointers (rejectedLater.foldl World.serve untouched).store.properties)
        (rejectedLater.foldl World.serve untouched).store.configs := by
  constructor
  · exact Runs.Allowed.reaches (by simp [rejectedLater, property, configured, Runs.Allowed])
  · intro active
    have pointer : ("austin-plumbing", some 1) ∈
        pointers (rejectedLater.foldl World.serve untouched).store.properties := by decide +kernel
    have drafts : ∀ row ∈ (rejectedLater.foldl World.serve untouched).store.configs,
        row.status ≠ .approved := by decide +kernel
    obtain ⟨row, member, -, approved, -⟩ := (active _ pointer 1).mp rfl
    exact drafts row member approved

/-- The second configuration takes over from the first. -/
def approvedInTurn : List Call := property ++ configured 1 2 ++ configured 2 3

theorem approved_in_turn_tracked :
    ActiveApproved (pointers (approvedInTurn.foldl World.serve untouched).store.properties)
        (approvedInTurn.foldl World.serve untouched).store.configs ∧
      OneApproved (approvedInTurn.foldl World.serve untouched).store.configs := by
  have tracked := active_config_tracks_approval untouched_fresh
  have run : RunsUnder KeepsApproved untouched (approvedInTurn.foldl World.serve untouched) :=
    Runs.Allowed.reaches (by decide +kernel)
  exact ⟨(tracked.2 _ run).1, (tracked.1 _ run.any).1⟩

end RankRent.Properties
