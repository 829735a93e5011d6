import RankRent.Properties.Domains
import RankRent.Properties.Deployments

/-!
# The production gate

`deploy` checks its gates where it deploys; `rollback` goes back to a deployment
that passed them once. What cannot be withdrawn since, by any request of the
workflow, still holds then: the approval of the opportunity, the validation of
the build and an approving review of it.
-/

namespace RankRent.Properties
open Checks

/-- Each property with its opportunity. -/
def owners (properties : List Property) : List (String × Nat) :=
  properties.map fun row => (row.id, row.opportunityId)

def OpportunityApproved (s : Store) (propertyId : String) : Prop :=
  ∃ opportunity ∈ s.opportunities, (propertyId, opportunity.id) ∈ owners s.properties ∧
    opportunity.status = "approved_for_property"

def BuildPassed (s : Store) (buildId : Nat) : Prop :=
  ∃ build ∈ s.builds, build.id = buildId ∧ build.status = "passed" ∧
    build.validationReport.passed = true

/-- The build has an approving compliance review on record. -/
def ReviewApproved (s : Store) (buildId : Nat) : Prop :=
  ∃ review ∈ s.reviews, review.siteBuildId = buildId ∧ review.status = .approved

/-- What holds of a production deployment for good. -/
structure Cleared (s : Store) (propertyId : String) (buildId : Nat) : Prop where
  opportunity : OpportunityApproved s propertyId
  build : BuildPassed s buildId
  review : ReviewApproved s buildId

/-- What only a deployment asks for. -/
structure Released (s : Store) (propertyId : String) (buildId : Nat) (request : DeploymentRequest) :
    Prop where
  config : ∃ build ∈ s.builds, build.id = buildId ∧
    ∃ config ∈ s.configs, config.id = build.siteConfigId ∧ config.status = .approved
  domain : ∃ place ∈ places s.properties, place.1 = propertyId ∧
    HasVerifiedDomain s.registrations place
  provider : (∃ row ∈ s.assignments, row.propertyId = propertyId ∧ row.status = .active ∧
      row.claimsReviewedAt.isSome) ∨
    request.neutralPilot = true ∧ request.confirmed = true

/-- What only a rollback asks for: the operator's confirmation and an earlier
production deployment of the build, other than the current one. -/
structure RolledBack (s : Store) (propertyId : String) (buildId : Nat) (request : RollbackRequest) :
    Prop where
  confirmed : request.operatorConfirmation = true
  target : ∃ target ∈ s.deployments, target.id = request.targetDeploymentId ∧
    target.propertyId = propertyId ∧ target.environment = .production ∧ target.siteBuildId = buildId ∧
    ∀ current ∈ currentDeployment s.deployments propertyId .production, current.id ≠ target.id

/-! ## What the requests leave on record -/

/-- Rows that no request of the workflow takes away. -/
structure Store.Grows (s s' : Store) : Prop where
  opportunities : s'.opportunities = s.opportunities
  owners : owners s.properties ⊆ owners s'.properties
  builds : s.builds ⊆ s'.builds
  reviews : s.reviews ⊆ s'.reviews

section Grows
variable {s s' : Store}

theorem Store.Grows.of_same (opportunities : s'.opportunities = s.opportunities)
    (same : Properties.owners s'.properties = Properties.owners s.properties) (builds : s'.builds = s.builds)
    (reviews : s'.reviews = s.reviews) : s.Grows s' :=
  ⟨opportunities, by rw [same]; exact List.Subset.refl _, by rw [builds]; exact List.Subset.refl _,
    by rw [reviews]; exact List.Subset.refl _⟩

theorem Cleared.mono {propertyId : String} {buildId : Nat} (grows : s.Grows s')
    (cleared : Cleared s propertyId buildId) : Cleared s' propertyId buildId := by
  obtain ⟨opportunity, member, owner, approved⟩ := cleared.opportunity
  obtain ⟨build, built, passed⟩ := cleared.build
  obtain ⟨review, reviewed, found⟩ := cleared.review
  exact ⟨⟨opportunity, grows.opportunities ▸ member, grows.owners owner, approved⟩,
    ⟨build, grows.builds built, passed⟩, ⟨review, grows.reviews reviewed, found⟩⟩

theorem owners_kept {change : Property → Property} {propertyId : String} {properties : List Property}
    (id : ∀ row, (change row).id = row.id)
    (opportunity : ∀ row, (change row).opportunityId = row.opportunityId) :
    owners (Table.update Property.id properties propertyId change) = owners properties :=
  Table.map_update _ fun row => by rw [id, opportunity]

end Grows

section Steps
variable {w w' : World} {actor : Review.ReviewActor} {now : DateTime}

theorem owners_grow {request : Request} (done : w.handle actor now request = .ok w') :
    owners w.store.properties ⊆ owners w'.store.properties := by
  have same : owners w'.store.properties = owners w.store.properties →
      owners w.store.properties ⊆ owners w'.store.properties := by
    intro same
    rw [same]
    exact List.Subset.refl _
  cases request with
  | property request =>
    cases request with
    | create opportunityId request =>
      obtain ⟨store, ok, rfl⟩ := World.keeping_ok done
      obtain ⟨row, -, -, properties, -⟩ := createProperty_ok ok
      simp only [properties, owners, List.map_append]
      exact List.subset_append_left _ _
    | update propertyId request =>
      obtain ⟨store, ok, rfl⟩ := World.keeping_ok done
      obtain ⟨row, -, properties, -⟩ := updateProperty_ok ok
      exact same (by rw [properties]; exact owners_kept (fun _ => rfl) fun _ => rfl)
  | domain request =>
    have others : (∀ id r, request ≠ .verify id r) → _ := DomainRequest.frame_unverified done
    cases request with
    | verify registrationId request =>
      obtain ⟨store, ok, rfl⟩ := World.keeping_ok done
      obtain ⟨row, prop, -, verifies⟩ := verifyDns_ok ok
      exact same (by rw [verifies.properties]; exact owners_kept (fun _ => rfl) fun _ => rfl)
    | generate | decide | check | approvePurchase | record => exact same (by rw [others (by simp)])
  | asset request => exact same (by rw [AssetRequest.frame done])
  | provider request => exact same (by rw [ProviderRequest.frame done])
  | build request => exact same (by rw [BuildRequest.frame done])
  | config request =>
    cases request with
    | create propertyId request =>
      obtain ⟨store, ok, rfl⟩ := World.keeping_ok done
      obtain ⟨prop, new, creates⟩ := createSiteConfig_ok ok
      obtain ⟨reason, properties, -⟩ := creates.revised
      exact same (by rw [properties]; exact owners_kept (fun _ => rfl) fun _ => rfl)
    | review configId approved reason =>
      obtain ⟨store, ok, rfl⟩ := World.keeping_ok done
      obtain ⟨row, -, -, ⟨-, rfl⟩ | ⟨-, rfl⟩⟩ := reviewSiteConfig_ok ok
      · exact same (owners_kept (fun _ => rfl) fun _ => rfl)
      · exact same rfl
  | release request =>
    obtain ⟨release, -, -, rfl⟩ := serveRelease_ok done
    refine same ?_
    simp only [Release.commit]
    split
    · exact owners_kept (fun _ => rfl) fun _ => rfl
    · rfl

theorem builds_grow {configId : Nat} {environment : BuildEnvironment} {artifact : BuildArtifact}
    (done : buildSite w configId environment artifact = .ok w') :
    w.store.builds ⊆ w'.store.builds ∧ w'.store.reviews = w.store.reviews := by
  simp only [buildSite, bind_ok] at done
  obtain ⟨config, -, prop, -, -, -, -, -, -, -, done⟩ := done
  split at done
  · cases done
    exact ⟨List.Subset.refl _, rfl⟩
  · cases done
    exact ⟨List.subset_append_left _ _, rfl⟩

theorem grows {request : Request} (done : w.handle actor now request = .ok w') :
    w.store.Grows w'.store := by
  have owners := owners_grow done
  cases request with
  | property request =>
    refine ⟨?_, owners, ?_, ?_⟩ <;> rw [PropertyRequest.frame done]
    exacts [List.Subset.refl _, List.Subset.refl _]
  | domain request =>
    refine ⟨?_, owners, ?_, ?_⟩ <;> rw [DomainRequest.frame done]
    exacts [List.Subset.refl _, List.Subset.refl _]
  | asset request =>
    refine ⟨?_, owners, ?_, ?_⟩ <;> rw [AssetRequest.frame done]
    exacts [List.Subset.refl _, List.Subset.refl _]
  | provider request =>
    refine ⟨?_, owners, ?_, ?_⟩ <;> rw [ProviderRequest.frame done]
    exacts [List.Subset.refl _, List.Subset.refl _]
  | config request =>
    refine ⟨?_, owners, ?_, ?_⟩ <;> rw [ConfigRequest.frame done]
    exacts [List.Subset.refl _, List.Subset.refl _]
  | release request =>
    refine ⟨?_, owners, ?_, ?_⟩ <;> rw [serveRelease_frame done]
    exacts [List.Subset.refl _, List.Subset.refl _]
  | build request =>
    have opportunities : w'.store.opportunities = w.store.opportunities := by rw [BuildRequest.frame done]
    cases request with
    | build configId environment artifact =>
      obtain ⟨builds, reviews⟩ := builds_grow done
      exact ⟨opportunities, owners, builds, by rw [reviews]; exact List.Subset.refl _⟩
    | review buildId request =>
      obtain ⟨store, ok, rfl⟩ := World.keeping_ok done
      simp only [reviewCompliance, bind_ok, pure_ok] at ok
      obtain ⟨-, -, build, -, -, -, -, -, rfl⟩ := ok
      exact ⟨rfl, owners, List.Subset.refl _, List.subset_append_left _ _⟩

/-! ## Opening a release -/

/-- What the gates of a production deployment say of the database. -/
theorem OpenDeployment.Checked.cleared {s : Store} {buildId : Nat} {request : DeploymentRequest}
    {opened : OpenDeployment} (checked : opened.Checked s buildId request actor)
    (production : request.environment = .production) :
    Cleared s opened.prop.id opened.build.id ∧ Released s opened.prop.id opened.build.id request := by
  have passed := checked.passed production
  have gates := checked.gates
  simp only [deploymentGates, bind_ok, config_ok, pure_ok] at gates
  obtain ⟨config, found, profile, -, listed⟩ := gates
  rw [← listed] at passed
  simp only [List.forall_mem_cons, decide_eq_true_eq, Bool.and_eq_true, Bool.or_eq_true] at passed
  obtain ⟨opportunity, approved, built, active, reviewed, compliance, domain, -, -, confirmed, -⟩ := passed
  have owner : opened.prop ∈ s.properties := Table.get_mem checked.prop_found
  have inside : opened.build ∈ s.builds := Table.get_mem checked.build_found
  refine ⟨⟨?_, ⟨opened.build, inside, rfl, built⟩, ?_⟩,
    ⟨⟨opened.build, inside, rfl, config, Table.get_mem found, Table.get_key found, approved⟩,
      ⟨_, mem_places owner, rfl, hasVerifiedDomain_of_gate domain⟩, ?_⟩⟩
  · obtain ⟨row, there, status⟩ := Option.map_eq_some_iff.mp opportunity
    refine ⟨row, Table.get_mem there, List.mem_map.mpr ⟨opened.prop, owner, ?_⟩, status⟩
    rw [Table.get_key there]
  · obtain ⟨review, there⟩ := Option.isSome_iff_exists.mp compliance
    obtain ⟨member, holds, -⟩ := latest_some there
    simp only [Bool.and_eq_true, decide_eq_true_eq] at holds
    exact ⟨review, member, holds⟩
  · obtain pilot | active := reviewed
    · exact Or.inr ⟨pilot, confirmed⟩
    · obtain ⟨reviewedAt, known⟩ := Option.isSome_iff_exists.mp active
      obtain ⟨row, there, reviewedAt_eq⟩ := Option.bind_eq_some_iff.mp known
      have holds := List.find?_some there
      simp only [Bool.and_eq_true, decide_eq_true_eq] at holds
      exact Or.inl ⟨row, List.mem_of_find?_eq_some there, holds.1, holds.2, by rw [reviewedAt_eq]; rfl⟩

/-- Every production deployment on record is cleared. -/
structure ProductionCleared (s : Store) : Prop where
  distinct : (s.deployments.map Deployment.id).Nodup
  cleared : ∀ d ∈ s.deployments, d.environment = .production → Cleared s d.propertyId d.siteBuildId

/-- What makes a build the current one of a property's production site. -/
def GoesLive (s s' : Store) (propertyId : String) (d : Deployment) : Request → Prop
  | .release (.deploy _ request) => Released s' propertyId d.siteBuildId request
  | .release (.rollback _ request) => RolledBack s propertyId d.siteBuildId request
  | _ => False

/-- A release to production is cleared, and its row is what goes live. -/
theorem start_cleared {s : Store} {request : ReleaseRequest} {release : Release}
    (sound : ProductionCleared s) (started : request.start s actor = .ok release)
    (production : release.environment = .production) :
    Cleared s release.propertyId release.build.id := by
  obtain ⟨buildId, asked, opened, rfl, rfl, checked⟩ | ⟨propertyId, asked, opened, rfl, rfl, checked⟩ :=
    start_ok started
  · rw [Release.environment, checked.request_eq] at production
    exact (checked.cleared production).1
  · have cleared := sound.cleared opened.target (Table.get_mem checked.target_found)
      checked.target_production
    rw [checked.target_property, ← checked.property_eq, ← checked.build_eq] at cleared
    exact cleared

theorem ProductionCleared.release {s : Store} {request : ReleaseRequest} {release : Release}
    (sound : ProductionCleared s) (started : request.start s actor = .ok release)
    (grows : s.Grows (release.commit s now)) : ProductionCleared (release.commit s now) := by
  constructor
  · exact Release.deployments_distinct sound.distinct
  · intro d member production
    obtain rfl | ⟨prior, -, old, inside, -, rfl⟩ | ⟨inside, -⟩ := Release.mem_deployments.mp member
    · rw [Release.row_environment] at production
      rw [Release.row_propertyId, Release.row_siteBuildId]
      exact (start_cleared sound started production).mono grows
    · exact (sound.cleared old inside production).mono grows
    · exact (sound.cleared d inside production).mono grows

theorem ProductionCleared.handle {request : Request} (sound : ProductionCleared w.store)
    (done : w.handle actor now request = .ok w') : ProductionCleared w'.store := by
  have grown := grows done
  by_cases asks : ∃ asked, request = .release asked
  · obtain ⟨asked, rfl⟩ := asks
    obtain ⟨release, started, -, rfl⟩ := serveRelease_ok done
    exact sound.release started grown
  · have kept := deployments_kept done fun asked same => asks ⟨asked, same⟩
    constructor
    · rw [kept]
      exact sound.distinct
    · rw [kept]
      exact fun d member production => (sound.cleared d member production).mono grown

theorem World.Fresh.production_cleared (fresh : w.Fresh) : ProductionCleared w.store := by
  constructor <;> simp [fresh.deployments]

theorem commit_places {release : Release} {s : Store} :
    places (release.commit s now).properties = places s.properties := by
  simp only [Release.commit]
  split
  · exact places_kept (fun _ => rfl) fun _ => rfl
  · rfl

/-- What a release to production puts live is what it was asked for. -/
theorem goesLive_row {s : Store} {request : ReleaseRequest} {release : Release}
    (started : request.start s actor = .ok release) (production : release.environment = .production) :
    GoesLive s (release.commit s now) release.propertyId (release.row s now) (.release request) := by
  obtain ⟨buildId, asked, opened, rfl, rfl, checked⟩ | ⟨propertyId, asked, opened, rfl, rfl, checked⟩ :=
    start_ok started
  · rw [Release.environment, checked.request_eq] at production
    obtain ⟨-, config, domain, provider⟩ := checked.cleared production
    refine ⟨?_, ?_, provider⟩
    · rw [Release.row_siteBuildId]
      exact config
    · rw [commit_places]
      exact domain
  · have target := checked.build_eq
    refine ⟨checked.confirmed, opened.target, Table.get_mem checked.target_found, checked.target_id,
      checked.target_property.trans checked.property_eq.symm, checked.target_production, ?_, ?_⟩
    · rw [Release.row_siteBuildId]
      exact target.symm
    · intro current found
      rw [Release.propertyId, checked.property_eq, checked.current_found] at found
      cases found
      exact checked.apart

end Steps

/-- Whatever goes live in production has an approved opportunity, passed its
validation and an approving review. A deployment also has an approved
configuration, the verified domain and a reviewed provider or a confirmed
neutral pilot; a rollback has the operator's confirmation and an earlier
production deployment of the build. -/
theorem production_gate {w v : World} (fresh : w.Fresh) (run : RunsUnder (fun _ _ => True) w v)
    {call : Call} {propertyId : String} {d : Deployment}
    (live : currentDeployment (v.serve call).store.deployments propertyId .production = some d)
    (new : currentDeployment v.store.deployments propertyId .production ≠ some d) :
    Cleared (v.serve call).store propertyId d.siteBuildId ∧
      GoesLive v.store (v.serve call).store propertyId d call.request := by
  have sound : ProductionCleared v.store := run.invariant (I := fun w => ProductionCleared w.store)
    (fun _ _ _ sound _ done => sound.handle done) fresh.production_cleared
  cases handled : v.handle call.actor call.now call.request with
  | error e =>
    rw [World.serve, handled] at live
    exact absurd live new
  | ok v' =>
    have served : v.serve call = v' := by rw [World.serve, handled]
    rw [served] at live ⊢
    by_cases asks : ∃ asked, call.request = .release asked
    · obtain ⟨asked, asks⟩ := asks
      have grown := grows handled
      rw [asks] at handled ⊢
      obtain ⟨release, started, -, rfl⟩ := serveRelease_ok handled
      by_cases one : release.propertyId = propertyId ∧ release.environment = .production
      · obtain ⟨rfl, production⟩ := one
        rw [← production] at live
        cases current_released.symm.trans live
        refine ⟨?_, goesLive_row started production⟩
        rw [Release.row_siteBuildId]
        exact (start_cleared sound started production).mono grown
      · exact absurd ((current_other sound.distinct (started_prior started) one).symm.trans live) new
    · have kept := deployments_kept handled fun asked same => asks ⟨asked, same⟩
      rw [kept] at live
      exact absurd live new

/-! ## Back to a superseded configuration -/

/-- A second configuration goes live. -/
def republished : List Call :=
  released ++ configured 2 11 ++
    [built 2 .production "two" 12, judged 2 true 13, deployed 2 .production 14]

def secondLive : World := republished.foldl World.serve untouched

/-- The first build is live again. -/
def firstAgain : World := secondLive.serve (rolledBack 1 15)

theorem secondLive_runs : RunsUnder (fun _ _ => True) untouched secondLive :=
  Runs.Allowed.reaches
    (by simp [republished, released, property, configured, registered, Runs.Allowed])

/-- A rollback makes a build live whose configuration is no longer approved. -/
theorem superseded_goes_live :
    RunsUnder (fun _ _ => True) untouched secondLive ∧
    ∃ d, currentDeployment firstAgain.store.deployments "austin-plumbing" .production = some d ∧
      currentDeployment secondLive.store.deployments "austin-plumbing" .production ≠ some d ∧
      ∀ build ∈ firstAgain.store.builds, build.id = d.siteBuildId →
        ∀ config ∈ firstAgain.store.configs, config.id = build.siteConfigId →
          config.status ≠ .approved := by
  refine ⟨secondLive_runs, ?_⟩
  have all : ∀ d ∈ currentDeployment firstAgain.store.deployments "austin-plumbing" .production,
      currentDeployment secondLive.store.deployments "austin-plumbing" .production ≠ some d ∧
      ∀ build ∈ firstAgain.store.builds, build.id = d.siteBuildId →
        ∀ config ∈ firstAgain.store.configs, config.id = build.siteConfigId →
          config.status ≠ .approved := by decide +kernel
  obtain ⟨d, found⟩ : ∃ d, currentDeployment firstAgain.store.deployments "austin-plumbing"
      .production = some d := Option.isSome_iff_exists.mp (by decide +kernel)
  exact ⟨d, found, all d found⟩

theorem production_gate_rollback : ∃ d,
    Cleared firstAgain.store "austin-plumbing" d.siteBuildId ∧
      GoesLive secondLive.store firstAgain.store "austin-plumbing" d (rolledBack 1 15).request := by
  obtain ⟨d, found⟩ : ∃ d, currentDeployment firstAgain.store.deployments "austin-plumbing"
      .production = some d := Option.isSome_iff_exists.mp (by decide +kernel)
  have new : ∀ d ∈ currentDeployment firstAgain.store.deployments "austin-plumbing" .production,
      currentDeployment secondLive.store.deployments "austin-plumbing" .production ≠ some d := by
    decide +kernel
  have differs := new d found
  rw [firstAgain] at found ⊢
  exact ⟨d, production_gate untouched_fresh secondLive_runs found differs⟩

end RankRent.Properties
