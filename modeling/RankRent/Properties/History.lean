import RankRent.Properties.System

/-!
# Versions of a property

Three operations change a property, count its version and take a snapshot;
an approved configuration and a deployment change a column without.
-/

namespace RankRent.Properties
open Leads (nextId)
open Checks

/-- The versions of a property, in order. -/
def versionsOf (versions : List PropertyVersion) (propertyId : String) : List PropertyVersion :=
  versions.filter fun row => row.propertyId = propertyId

/-- The versions of every property are 1 up to its current one. -/
def VersionsNumbered (properties : List Property) (versions : List PropertyVersion) : Prop :=
  ∀ row ∈ properties, (versionsOf versions row.id).map PropertyVersion.version =
    List.range' 1 row.currentVersion

/-- Each hash is that of its snapshot. -/
def SnapshotsHashed (versions : List PropertyVersion) : Prop :=
  ∀ row ∈ versions, row.snapshotSha256 = jsonHash row.snapshot

/-- The snapshot of the latest version is the property as it stands. -/
def SnapshotsCurrent (properties : List Property) (versions : List PropertyVersion) : Prop :=
  ∀ row ∈ properties, (versionsOf versions row.id).getLast?.map PropertyVersion.snapshot =
    some row.payload

/-- The configuration a request approves. -/
def Call.approves (call : Call) : Option Nat :=
  match call.request with
  | .config (.review configId true _) => some configId
  | _ => none

/-- The build a request deploys where a deployment gives the property a status. -/
def Call.deploys (call : Call) : Option (Nat × PropertyStatus) :=
  match call.request with
  | .release (.deploy buildId request) => match request.environment with
    | .preview => none
    | .staging => some (buildId, .staging)
    | .production => some (buildId, .production)
  | _ => none

/-- The request approves no configuration but the active one, and deploys into
no environment but the one the property's status names. -/
def KeepsSnapshot (w : World) (call : Call) : Prop :=
  (∀ configId ∈ call.approves, ∀ config ∈ w.store.configs, config.id = configId →
    ∀ row ∈ w.store.properties, row.id = config.propertyId →
      row.activeSiteConfigVersion = some config.version) ∧
  ∀ deployed ∈ call.deploys, ∀ build ∈ w.store.builds, build.id = deployed.1 →
    ∀ row ∈ w.store.properties, row.id = build.propertyId → row.status = deployed.2

instance (w : World) (call : Call) : Decidable (KeepsSnapshot w call) :=
  inferInstanceAs (Decidable ((∀ configId ∈ call.approves, _) ∧ ∀ deployed ∈ call.deploys, _))

/-! ## Invariant -/

/-- What every request keeps. -/
structure HistorySound (properties : List Property) (versions : List PropertyVersion) : Prop where
  distinct : (properties.map Property.id).Nodup
  owned : ∀ row ∈ versions, row.propertyId ∈ properties.map Property.id
  numbered : VersionsNumbered properties versions
  hashed : SnapshotsHashed versions

/-- What a request does to the properties and their versions. -/
inductive HistoryTurn (w : World) (call : Call) (properties : List Property)
    (versions : List PropertyVersion) : List Property → List PropertyVersion → Prop
  | same : HistoryTurn w call properties versions properties versions
  | create {row : Property} {reason : String} (initial : row.Initial)
      (fresh : row.id ∉ properties.map Property.id) :
      HistoryTurn w call properties versions (properties ++ [row])
        (snapshot versions row call.actor reason)
  | revise {row : Property} {change : Property → Property} {reason : String}
      (there : Table.get Property.id properties row.id = some row) (id : ∀ row, (change row).id = row.id)
      (version : ∀ row, (change row).currentVersion = row.currentVersion) :
      HistoryTurn w call properties versions
        (Table.update Property.id properties row.id (.revised change))
        (snapshot versions (row.revised change) call.actor reason)
  | touch {propertyId : String} {change : Property → Property} (id : ∀ row, (change row).id = row.id)
      (version : ∀ row, (change row).currentVersion = row.currentVersion)
      (kept : KeepsSnapshot w call → ∀ row ∈ properties, row.id = propertyId → change row = row) :
      HistoryTurn w call properties versions
        (Table.update Property.id properties propertyId change) versions

section Turns
variable {w w' : World} {call : Call} {properties properties' : List Property}
  {versions versions' : List PropertyVersion}

theorem versionsOf_snapshot (row : Property) (actor : Review.ReviewActor) (reason propertyId : String) :
    versionsOf (snapshot versions row actor reason) propertyId =
      if row.id = propertyId then
        versionsOf versions propertyId ++ [{ id := nextId PropertyVersion.id versions
                                             propertyId := row.id
                                             version := row.currentVersion
                                             snapshot := row.payload
                                             snapshotSha256 := jsonHash row.payload
                                             changedBy := actor.actorId
                                             changeReason := reason }]
      else versionsOf versions propertyId := by
  rw [versionsOf, snapshot, List.filter_append]
  by_cases same : row.id = propertyId <;> simp [same, versionsOf]

theorem HistorySound.none_of_fresh (sound : HistorySound properties versions) {propertyId : String}
    (fresh : propertyId ∉ properties.map Property.id) : versionsOf versions propertyId = [] := by
  refine List.filter_eq_nil_iff.mpr fun row member same => fresh ?_
  rw [decide_eq_true_eq] at same
  exact same ▸ sound.owned row member

theorem snapshot_owned (sound : HistorySound properties versions) {row : Property}
    {actor : Review.ReviewActor} {reason : String}
    (known : ∀ id ∈ properties.map Property.id, id ∈ properties'.map Property.id)
    (there : row.id ∈ properties'.map Property.id) :
    ∀ version ∈ snapshot versions row actor reason, version.propertyId ∈ properties'.map Property.id := by
  intro version member
  rw [snapshot, List.mem_append, List.mem_singleton] at member
  obtain member | rfl := member
  · exact known _ (sound.owned version member)
  · exact there

theorem snapshot_hashed (hashed : SnapshotsHashed versions) {row : Property}
    {actor : Review.ReviewActor} {reason : String} :
    SnapshotsHashed (snapshot versions row actor reason) := by
  intro version member
  rw [snapshot, List.mem_append, List.mem_singleton] at member
  obtain member | rfl := member
  · exact hashed version member
  · rfl

theorem HistoryTurn.sound (turn : HistoryTurn w call properties versions properties' versions')
    (sound : HistorySound properties versions) : HistorySound properties' versions' := by
  cases turn with
  | same => exact sound
  | @create row reason initial fresh =>
    refine ⟨Table.keys_snoc sound.distinct fresh, snapshot_owned sound ?_ ?_, ?_,
      snapshot_hashed sound.hashed⟩
    · intro id member
      rw [List.map_append]
      exact List.mem_append_left _ member
    · rw [List.map_append]
      exact List.mem_append_right _ (List.mem_singleton.mpr rfl)
    · intro other member
      rw [versionsOf_snapshot]
      rw [List.mem_append, List.mem_singleton] at member
      obtain member | rfl := member
      · have differs : row.id ≠ other.id := fun same => fresh (same.symm ▸ List.mem_map_of_mem member)
        rw [if_neg differs]
        exact sound.numbered other member
      · rw [if_pos rfl, sound.none_of_fresh fresh, initial.version]
        simp
  | @revise row change reason there id version =>
    have ids : (Table.update Property.id properties row.id (.revised change)).map Property.id =
        properties.map Property.id := Table.map_update _ (by exact fun other => id other)
    have self : (row.revised change).id = row.id := id row
    refine ⟨by rw [ids]; exact sound.distinct, snapshot_owned sound ?_ ?_, ?_, snapshot_hashed sound.hashed⟩
    · rw [ids]
      exact fun _ member => member
    · rw [ids, self]
      exact List.mem_map_of_mem (Table.get_mem there)
    · intro other member
      rw [versionsOf_snapshot, self]
      obtain ⟨old, inside, same, rfl⟩ | ⟨inside, differs⟩ := Table.mem_update.mp member
      · have := Table.get_inj sound.distinct inside (Table.get_mem there) same
        subst this
        rw [self, if_pos rfl, List.map_append, sound.numbered old inside]
        simp only [Property.revised, version, List.range'_1_concat, List.map_cons, List.map_nil,
          Nat.add_comm 1]
      · rw [if_neg (Ne.symm differs)]
        exact sound.numbered other inside
  | @touch propertyId change id version kept =>
    have ids : (Table.update Property.id properties propertyId change).map Property.id =
        properties.map Property.id := Table.map_update _ id
    refine ⟨by rw [ids]; exact sound.distinct, by rw [ids]; exact sound.owned, ?_, sound.hashed⟩
    intro other member
    obtain ⟨old, inside, -, rfl⟩ | ⟨inside, -⟩ := Table.mem_update.mp member
    · rw [id, version]
      exact sound.numbered old inside
    · exact sound.numbered other inside

theorem HistoryTurn.current (turn : HistoryTurn w call properties versions properties' versions')
    (sound : HistorySound properties versions) (keeps : KeepsSnapshot w call)
    (current : SnapshotsCurrent properties versions) : SnapshotsCurrent properties' versions' := by
  cases turn with
  | same => exact current
  | @create row reason initial fresh =>
    intro other member
    rw [versionsOf_snapshot]
    rw [List.mem_append, List.mem_singleton] at member
    obtain member | rfl := member
    · have differs : row.id ≠ other.id := fun same => fresh (same.symm ▸ List.mem_map_of_mem member)
      rw [if_neg differs]
      exact current other member
    · rw [if_pos rfl, List.getLast?_concat]
      rfl
  | @revise row change reason there id version =>
    have self : (row.revised change).id = row.id := id row
    intro other member
    rw [versionsOf_snapshot, self]
    obtain ⟨old, inside, same, rfl⟩ | ⟨inside, differs⟩ := Table.mem_update.mp member
    · have := Table.get_inj sound.distinct inside (Table.get_mem there) same
      subst this
      rw [self, if_pos rfl, List.getLast?_concat]
      rfl
    · rw [if_neg (Ne.symm differs)]
      exact current other inside
  | @touch propertyId change id version kept =>
    intro other member
    obtain ⟨old, inside, same, rfl⟩ | ⟨inside, -⟩ := Table.mem_update.mp member
    · rw [kept keeps old inside same]
      exact current old inside
    · exact current other inside

theorem history_turn (done : w.handle call.actor call.now call.request = .ok w') :
    HistoryTurn w call w.store.properties w.store.versions w'.store.properties w'.store.versions := by
  have unmoved : w'.store.properties = w.store.properties → w'.store.versions = w.store.versions →
      HistoryTurn w call w.store.properties w.store.versions w'.store.properties w'.store.versions := by
    intro properties versions
    rw [properties, versions]
    exact .same
  obtain ⟨request, actor, now⟩ := call
  cases request with
  | property request =>
    cases request with
    | create opportunityId request =>
      obtain ⟨store, ok, rfl⟩ := World.keeping_ok done
      obtain ⟨row, initial, fresh, properties, versions⟩ := createProperty_ok ok
      simp only [properties, versions]
      exact .create initial fresh
    | update propertyId request =>
      obtain ⟨store, ok, rfl⟩ := World.keeping_ok done
      obtain ⟨row, there, properties, versions⟩ := updateProperty_ok ok
      simp only [properties, versions]
      exact .revise there (fun _ => rfl) fun _ => rfl
  | domain request =>
    have others : (∀ id r, request ≠ .verify id r) → _ := DomainRequest.frame_unverified done
    cases request with
    | verify registrationId request =>
      obtain ⟨store, ok, rfl⟩ := World.keeping_ok done
      obtain ⟨registration, prop, -, verifies⟩ := verifyDns_ok ok
      simp only [verifies.properties, verifies.versions]
      exact .revise verifies.property_found (fun _ => rfl) fun _ => rfl
    | generate | decide | check | approvePurchase | record =>
      exact unmoved (by rw [others (by simp)]) (by rw [others (by simp)])
  | asset request => exact unmoved (by rw [AssetRequest.frame done]) (by rw [AssetRequest.frame done])
  | provider request =>
    exact unmoved (by rw [ProviderRequest.frame done]) (by rw [ProviderRequest.frame done])
  | build request => exact unmoved (by rw [BuildRequest.frame done]) (by rw [BuildRequest.frame done])
  | config request =>
    cases request with
    | create propertyId request =>
      obtain ⟨store, ok, rfl⟩ := World.keeping_ok done
      obtain ⟨prop, new, creates⟩ := createSiteConfig_ok ok
      obtain ⟨reason, properties, versions⟩ := creates.revised
      simp only [properties, versions]
      exact .revise creates.property_found (fun _ => rfl) fun _ => rfl
    | review configId approved reason =>
      obtain ⟨store, ok, rfl⟩ := World.keeping_ok done
      obtain ⟨config, rfl, there, ⟨rfl, rfl⟩ | ⟨rfl, rfl⟩⟩ := reviewSiteConfig_ok ok
      · refine .touch (fun _ => rfl) (fun _ => rfl) fun keeps row member same => ?_
        have active := keeps.1 config.id rfl config (Table.get_mem there) rfl row member same
        rw [Property.configured, ← active]
      · exact .same
  | release request =>
    obtain ⟨release, started, -, rfl⟩ := serveRelease_ok done
    obtain ⟨buildId, asked, opened, rfl, rfl, checked⟩ | ⟨propertyId, asked, opened, rfl, rfl, -⟩ :=
      start_ok started
    · obtain rfl := checked.request_eq
      obtain rfl := checked.build_id
      have touched : ∀ status, Call.deploys ⟨.release (.deploy opened.build.id opened.request), actor, now⟩ =
          some (opened.build.id, status) →
          HistoryTurn w ⟨.release (.deploy opened.build.id opened.request), actor, now⟩ w.store.properties
            w.store.versions (Table.update Property.id w.store.properties opened.prop.id fun row =>
              { row with status }) w.store.versions := by
        intro status deploys
        refine .touch (fun _ => rfl) (fun _ => rfl) fun keeps row member same => ?_
        have unchanged : row.status = status := keeps.2 _ deploys opened.build (Table.get_mem checked.build_found) rfl row
          member (same.trans checked.owner)
        rw [← unchanged]
      simp only [Release.commit, Release.propertyStatus]
      cases environment : opened.request.environment with
      | preview => exact .same
      | staging => exact touched .staging (by simp [Call.deploys, environment])
      | production => exact touched .production (by simp [Call.deploys, environment])
    · exact .same

end Turns

theorem World.Fresh.history_sound {w : World} (fresh : w.Fresh) :
    HistorySound w.store.properties w.store.versions := by
  rw [fresh.properties, fresh.versions]
  constructor <;> simp [VersionsNumbered, SnapshotsHashed]

/-- In every run the versions of a property are 1 up to its current one, each
with the hash of its snapshot. The latest snapshot is the property as it stands
as long as no request approves another configuration than the active one or
deploys into another environment than the status names. -/
theorem property_history_complete {w : World} (fresh : w.Fresh) :
    (∀ w', RunsUnder (fun _ _ => True) w w' →
      VersionsNumbered w'.store.properties w'.store.versions ∧ SnapshotsHashed w'.store.versions) ∧
    ∀ w', RunsUnder KeepsSnapshot w w' → SnapshotsCurrent w'.store.properties w'.store.versions := by
  constructor
  · intro w' run
    have sound := run.invariant (I := fun w => HistorySound w.store.properties w.store.versions)
      (fun w call w' sound _ done => (history_turn done).sound sound) fresh.history_sound
    exact ⟨sound.numbered, sound.hashed⟩
  · intro w' run
    have start : SnapshotsCurrent w.store.properties w.store.versions := by
      rw [fresh.properties]
      intro row member
      cases member
    exact (run.invariant
      (I := fun w => HistorySound w.store.properties w.store.versions ∧
        SnapshotsCurrent w.store.properties w.store.versions)
      (fun w call w' holds keeps done => ⟨(history_turn done).sound holds.1,
        (history_turn done).current holds.1 keeps holds.2⟩) ⟨fresh.history_sound, start⟩).2

/-! ## Changes without a version -/

/-- A snapshot names no active configuration. -/
def namesNone (snapshot : PyJson) : Bool :=
  match snapshot with
  | .obj fields => match fields.lookup "active_site_config_version" with
    | some .null => true
    | _ => false
  | _ => false

theorem approval_unversioned :
    RunsUnder (fun _ _ => True) untouched ((property ++ configured 1 2).foldl World.serve untouched) ∧
      ¬ SnapshotsCurrent ((property ++ configured 1 2).foldl World.serve untouched).store.properties
        ((property ++ configured 1 2).foldl World.serve untouched).store.versions := by
  constructor
  · exact Runs.Allowed.reaches (by simp [property, configured, Runs.Allowed])
  · intro current
    obtain ⟨row, member⟩ : ∃ row, row ∈
        ((property ++ configured 1 2).foldl World.serve untouched).store.properties :=
      List.exists_mem_of_length_pos (by decide +kernel)
    have names : ∀ row ∈ ((property ++ configured 1 2).foldl World.serve untouched).store.properties,
        namesNone row.payload = false := by decide +kernel
    have last : ∀ row ∈ ((property ++ configured 1 2).foldl World.serve untouched).store.properties,
        ∀ version ∈ (versionsOf ((property ++ configured 1 2).foldl World.serve untouched).store.versions
          row.id).getLast?, namesNone version.snapshot = true := by decide +kernel
    obtain ⟨version, latest, same⟩ := Option.map_eq_some_iff.mp (current row member)
    have none := last row member version latest
    rw [same, names row member] at none
    cases none

/-- A domain is verified and a first configuration drafted. -/
def drafted : List Call :=
  property ++ registered 1 "austinplumbing.com" 2 ++
    [dnsSeen 1 3, ask (.config (.create "austin-plumbing" siteInput)) 4]

theorem drafted_history_complete :
    VersionsNumbered (drafted.foldl World.serve untouched).store.properties
        (drafted.foldl World.serve untouched).store.versions ∧
      SnapshotsCurrent (drafted.foldl World.serve untouched).store.properties
        (drafted.foldl World.serve untouched).store.versions := by
  have complete := property_history_complete untouched_fresh
  have run : RunsUnder KeepsSnapshot untouched (drafted.foldl World.serve untouched) :=
    Runs.Allowed.reaches (by decide +kernel)
  exact ⟨(complete.1 _ run.any).1, complete.2 _ run⟩

end RankRent.Properties
