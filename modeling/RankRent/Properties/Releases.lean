import RankRent.Properties.Workflow

/-!
# Property workflow: builds, live sites and their providers

The operations of `property_workflow/services.py` that write files: builds, and
what is deployed of them with the provider configuration next to it. A
deployment is a request in three parts, as its coroutine runs: what it reads and
checks first, the files the local adapter writes, and the rows it commits.
-/

namespace RankRent.Properties
open Leads (ProviderAssignmentStatus nextId)
open Review (ReviewActor ReviewRole)
open Checks

/-! ## Builds -/

/-- The files of a static site, as `build_static_site` writes them. -/
def siteFiles : List Files.Path :=
  [["assets", "site.css"], ["assets", "provider.js"], ["index.html"], ["services.html"], ["faq.html"],
   ["contact.html"], ["privacy.html"], ["terms.html"], ["sitemap.xml"], ["robots.txt"],
   ["asset-provenance.json"]]

/-- What `build_static_site` wrote and reports: its output directory is named
by a key, and the files are given relative to it. -/
structure BuildArtifact where
  key : String
  files : Files.Tree
  names : files.map Prod.fst = siteFiles
  checksum : String
  validation : ValidationReport
  totalBytes : Nat

/-- The manifest of the files. -/
def BuildArtifact.manifest (artifact : BuildArtifact) : List (Files.Path × String) :=
  artifact.files.map fun file => (file.1, Sha256.hexdigest file.2)

/-- `build_root / prop.id / environment / key`. -/
def outputPath (propertyId : String) (environment : BuildEnvironment) (key : String) : Files.Path :=
  ["builds", propertyId, environment.value, key]

/-- The output directory is removed and written anew. -/
def BuildArtifact.ops (artifact : BuildArtifact) (output : Files.Path) (tree : Files.Tree) :
    List Files.Op :=
  Files.removeTree output tree ++
    artifact.files.flatMap fun file => Files.writeText (output ++ file.1) file.2

/-- `build_site`. -/
def buildSite (w : World) (configId : Nat) (environment : BuildEnvironment) (artifact : BuildArtifact) :
    Except WorkflowError World := do
  let config ← w.store.config configId
  let prop ← w.store.property config.propertyId
  require (environment = .production → config.status = .approved)
    ⟨"production_build_requires_approved_config", .null⟩
  require (environment = .production → prop.domain.isSome)
    ⟨"production_build_requires_verified_domain", .null⟩
  requireAssets w.store config.propertyId "site_config_requires_approved_assets"
    "site_config_requires_approved_assets" config.configPayload.assetIds
  let output := outputPath prop.id environment artifact.key
  let files := Files.runAll w.files (artifact.ops output w.files)
  if w.store.builds.any fun row => row.siteConfigId = config.id && row.environment = environment &&
      row.buildSha256 = artifact.checksum then .ok { w with files }
  else return {
    store := { w.store with
      builds := w.store.builds ++
        [{ id := nextId SiteBuild.id w.store.builds
           propertyId := prop.id
           siteConfigId := config.id
           environment
           builderVersion := "deterministic-static-v1"
           buildSha256 := artifact.checksum
           outputPath := output
           status := if artifact.validation.passed then "passed" else "failed"
           fileCount := artifact.manifest.length
           totalBytes := artifact.totalBytes
           validationReport := artifact.validation
           manifest := artifact.manifest }] }
    files }

/-- `REQUIRED_COMPLIANCE_CHECKS`, sorted. -/
def requiredComplianceChecks : List String :=
  ["accessibility", "content_accuracy", "privacy", "provider_claims", "referral_disclosure",
   "structured_data"]

structure ComplianceReviewRequest where
  approved : Bool
  checklist : List (String × Bool)
  notes : String

/-- `review_compliance`. -/
def reviewCompliance (s : Store) (buildId : Nat) (request : ComplianceReviewRequest)
    (actor : ReviewActor) (now : DateTime) : Except WorkflowError Store := do
  reviewer actor
  let build ← s.build buildId
  let missing := requiredComplianceChecks.filter fun key => (request.checklist.lookup key).isNone
  let failed := requiredComplianceChecks.filter fun key => request.checklist.lookup key ≠ some true
  require (request.approved → missing = [] ∧ failed = [])
    ⟨"compliance_checklist_incomplete",
      .obj [("missing", .arr (missing.map .str)), ("failed", .arr (failed.map .str))]⟩
  require (request.approved → build.validationReport.passed)
    ⟨"failed_build_cannot_pass_compliance", .null⟩
  return { s with
    reviews := s.reviews ++
      [{ id := nextId ComplianceReview.id s.reviews
         propertyId := build.propertyId
         siteConfigId := build.siteConfigId
         siteBuildId := build.id
         status := if request.approved then .approved else .rejected
         checklist := request.checklist
         validationSnapshot := build.validationReport
         reviewerUserId := actor.actorId
         notes := request.notes
         reviewedAt := now }] }

/-! ## The provider configuration of a live site -/

/-- The text `_write_provider_runtime_file` writes. -/
def providerConfig (assignment : Option ProviderAssignment) : String :=
  PyJson.dumps (.obj (match assignment with
    | none => []
    | some row =>
      [("assignment_id", .num row.id), ("public_business_name", .str row.publicBusinessName),
       ("hours", row.hours), ("service_radius", row.serviceRadius),
       ("approved_claims", row.approvedClaims), ("credentials", row.credentials),
       ("license_numbers", row.licenseNumbers),
       ("logo_asset_id", optionJson (fun id : Nat => .num id) row.logoAssetId),
       ("provider_photos", .arr (row.providerPhotos.map fun id => .num id)),
       ("claims_reviewed_at", optionJson (fun t => .str (PyTime.isoformat t)) row.claimsReviewedAt)]))

/-- The configuration file in a deployed directory. -/
def configPath (directory : Files.Path) : Files.Path := directory ++ ["provider-config.json"]

/-- `_write_provider_runtime_file`. -/
def writeProviderRuntimeFile (directory : Files.Path) (assignment : Option ProviderAssignment) :
    List Files.Op :=
  Files.writeText (configPath directory) (providerConfig assignment)

/-- The directory a deployment's URL points into. -/
def Deployment.directory (deployment : Deployment) : Files.Path := deployment.url.dropLast

/-- A live site of a property: a local deployment that is deployed. -/
def Deployment.live (propertyId : String) (deployment : Deployment) : Bool :=
  deployment.propertyId = propertyId && deployment.status = .deployed && deployment.localOnly

/-- `_update_provider_runtime_configuration`. -/
def updateProviderRuntimeConfiguration (s : Store) (propertyId : String)
    (assignment : Option ProviderAssignment) : List Files.Op :=
  (s.deployments.filter (Deployment.live propertyId)).flatMap fun deployment =>
    writeProviderRuntimeFile deployment.directory assignment

/-- `active.activation_approved_by` and `activation_reason`. -/
def ProviderAssignment.activated (reason : String) (actor : ReviewActor) (row : ProviderAssignment) :
    ProviderAssignment :=
  { row with activationApprovedBy := some actor.actorId, activationReason := some reason }

/-- `active.replacement_approved_by`, with the activation. -/
def ProviderAssignment.replacing (reason : String) (actor : ReviewActor) (row : ProviderAssignment) :
    ProviderAssignment :=
  { row.activated reason actor with replacementApprovedBy := some actor.actorId }

/-- The files of a world follow the assignment that is now active. -/
def World.advertise (w : World) (propertyId : String) (assignmentId : Nat)
    (assignments : List ProviderAssignment) : World :=
  { store := { w.store with assignments }
    files := Files.runAll w.files (updateProviderRuntimeConfiguration w.store propertyId
      (Table.get ProviderAssignment.id assignments assignmentId)) }

/-- `activate_provider`. -/
def activateProvider (w : World) (assignmentId : Nat) (reason : String) (actor : ReviewActor)
    (now : DateTime) : Except WorkflowError World := do
  operator actor
  let row ← w.store.assignment assignmentId
  require row.claimsReviewedAt.isSome ⟨"provider_claims_require_review", .null⟩
  let rows ← assignmentError (activate w.store.assignments row.id now)
  return w.advertise row.propertyId row.id
    (Table.update ProviderAssignment.id rows row.id (.activated reason actor))

/-- `replace_provider`. -/
def replaceProvider (w : World) (propertyId : String) (replacementAssignmentId : Nat) (reason : String)
    (actor : ReviewActor) (now : DateTime) : Except WorkflowError World := do
  operator actor
  let current ← found (activeAssignment w.store.assignments propertyId)
    ⟨"active_provider_assignment_not_found", .null⟩
  let replacement ← w.store.assignment replacementAssignmentId
  require replacement.claimsReviewedAt.isSome ⟨"replacement_claims_require_review", .null⟩
  let rows ← assignmentError (replaceAssignment w.store.assignments current.id replacement.id reason now)
  return w.advertise propertyId replacement.id
    (Table.update ProviderAssignment.id rows replacement.id (.replacing reason actor))

/-! ## Deployments -/

structure DeploymentRequest where
  environment : BuildEnvironment
  operatorConfirmation : Bool := false
  confirmationReason : String := ""
  neutralPilotMode : Bool := false
  neutralPilotReason : String := ""

/-- A neutral pilot counts with its reason. -/
def DeploymentRequest.neutralPilot (request : DeploymentRequest) : Bool :=
  request.neutralPilotMode && PyString.strip request.neutralPilotReason ≠ ""

/-- The operator's confirmation counts with its reason. -/
def DeploymentRequest.confirmed (request : DeploymentRequest) : Bool :=
  request.operatorConfirmation && PyString.strip request.confirmationReason ≠ ""

/-- `prop.analytics_config.get("verified") is True`. -/
def Property.analyticsVerified (prop : Property) : Bool :=
  match prop.analyticsConfig with
  | .obj fields => match fields.lookup "verified" with
    | some (.bool true) => true
    | _ => false
  | _ => false

/-- The gate `domain_and_dns_verified`. -/
def domainAndDnsVerified (s : Store) (prop : Property) : Bool :=
  match s.verifiedRegistration prop.id with
  | some registration => prop.domain = some registration.domain
  | none => false

/-- `_deployment_gates`. -/
def deploymentGates (s : Store) (prop : Property) (build : SiteBuild) (request : DeploymentRequest) :
    Except WorkflowError (List (String × Bool)) := do
  let config ← s.config build.siteConfigId
  let profile ← s.routingProfile prop.id
  let active := activeAssignment s.assignments prop.id
  return [
    ("approved_opportunity", ((Table.get Opportunity.id s.opportunities prop.opportunityId).map
      Opportunity.status) = some "approved_for_property"),
    ("approved_site_config", config.status = .approved),
    ("passing_build", build.status = "passed" && build.validationReport.passed),
    ("active_provider_or_neutral_pilot", active.isSome || request.neutralPilot),
    ("provider_claims_reviewed", request.neutralPilot ||
      (active.bind ProviderAssignment.claimsReviewedAt).isSome),
    ("compliance_approved", (s.approvedCompliance build.id).isSome),
    ("domain_and_dns_verified", domainAndDnsVerified s prop),
    ("routing_healthy", profile.routingHealthStatus ∈ [some "healthy", some "active", some "ok"]),
    ("analytics_verified", prop.analyticsVerified),
    ("operator_confirmation", request.confirmed),
    ("local_fail_closed_adapter", true)]

/-- What `deploy` knows when it calls its adapter. -/
structure OpenDeployment where
  prop : Property
  build : SiteBuild
  request : DeploymentRequest
  actor : ReviewActor
  gates : List (String × Bool)
  prior : Option Deployment

structure RollbackRequest where
  targetDeploymentId : Nat
  operatorConfirmation : Bool
  reason : String

/-- What `rollback` knows when it calls its adapter. -/
structure OpenRollback where
  propertyId : String
  target : Deployment
  current : Deployment
  build : SiteBuild
  request : RollbackRequest
  actor : ReviewActor

/-- A request between its reads and its commit. -/
inductive Release
  | deploy (opened : OpenDeployment)
  | rollback (opened : OpenRollback)

inductive ReleaseRequest
  | deploy (buildId : Nat) (request : DeploymentRequest)
  | rollback (propertyId : String) (request : RollbackRequest)

/-- `deploy`, up to its adapter. -/
def openDeploy (s : Store) (buildId : Nat) (request : DeploymentRequest) (actor : ReviewActor) :
    Except WorkflowError OpenDeployment := do
  operator actor
  let build ← s.build buildId
  require (build.environment = request.environment) ⟨"deployment_environment_build_mismatch", .null⟩
  let prop ← s.property build.propertyId
  let gates ← deploymentGates s prop build request
  let failed := gates.filter fun gate => !gate.2
  require (request.environment = .production → failed = [])
    ⟨"production_deployment_gates_failed",
      .obj [("failed_gates", .arr ((PyJson.sortKeys failed).map fun gate => .str gate.1))]⟩
  return { prop, build, request, actor, gates,
           prior := currentDeployment s.deployments prop.id request.environment }

/-- `rollback`, up to its adapter. -/
def openRollback (s : Store) (propertyId : String) (request : RollbackRequest) (actor : ReviewActor) :
    Except WorkflowError OpenRollback := do
  operator actor
  require (request.operatorConfirmation = true) ⟨"rollback_operator_confirmation_required", .null⟩
  let target ← found (Table.get Deployment.id s.deployments request.targetDeploymentId)
    ⟨"rollback_target_not_found", .null⟩
  require (target.propertyId = propertyId) ⟨"rollback_target_not_found", .null⟩
  require (target.environment = .production) ⟨"rollback_target_must_be_production", .null⟩
  let current ← found (currentDeployment s.deployments propertyId .production)
    ⟨"rollback_requires_different_active_deployment", .null⟩
  require (current.id ≠ target.id) ⟨"rollback_requires_different_active_deployment", .null⟩
  let build ← s.build target.siteBuildId
  return { propertyId, target, current, build, request, actor }

def ReleaseRequest.start (s : Store) (actor : ReviewActor) : ReleaseRequest → Except WorkflowError Release
  | .deploy buildId request => do
    let opened ← openDeploy s buildId request actor
    return .deploy opened
  | .rollback propertyId request => do
    let opened ← openRollback s propertyId request actor
    return .rollback opened

namespace Release

def propertyId : Release → String
  | .deploy opened => opened.prop.id
  | .rollback opened => opened.propertyId

def environment : Release → BuildEnvironment
  | .deploy opened => opened.request.environment
  | .rollback _ => .production

def build : Release → SiteBuild
  | .deploy opened => opened.build
  | .rollback opened => opened.build

/-- The deployment that was current when the request read it. -/
def prior : Release → Option Deployment
  | .deploy opened => opened.prior
  | .rollback opened => some opened.current

/-- `deployment_root / property / environment / build_sha256`. -/
def destination (release : Release) : Files.Path :=
  ["deployments", release.propertyId, release.environment.value, release.build.buildSha256]

/-- `LocalFilesystemDeploymentAdapter.deploy` on these files, up to its result. -/
def copyOps (release : Release) (tree : Files.Tree) : List Files.Op :=
  let removed := Files.removeTree release.destination tree
  removed ++
    Files.copyTree release.build.outputPath release.destination (Files.runAll tree removed)

/-- Everything the request does to the files. -/
def ops (release : Release) (tree : Files.Tree) (active : Option ProviderAssignment) : List Files.Op :=
  release.copyOps tree ++ writeProviderRuntimeFile release.destination active

/-- The new row, from the database as the request finds it after the adapter. -/
def row (release : Release) (s : Store) (now : DateTime) : Deployment :=
  let active := activeAssignment s.assignments release.propertyId
  match release with
  | .deploy opened =>
    { id := nextId Deployment.id s.deployments
      propertyId := opened.prop.id
      siteBuildId := opened.build.id
      domainRegistrationId := (s.verifiedRegistration opened.prop.id).map DomainRegistration.id
      providerAssignmentId := active.map ProviderAssignment.id
      complianceReviewId := (s.approvedCompliance opened.build.id).map ComplianceReview.id
      previousDeploymentId := opened.prior.map Deployment.id
      environment := opened.request.environment
      adapterName := "local-filesystem-v1"
      status := .deployed
      url := release.destination ++ ["index.html"]
      localOnly := true
      operatorUserId := opened.actor.actorId
      operatorConfirmation := opened.request.operatorConfirmation
      confirmationReason := opened.request.confirmationReason
      neutralPilotMode := opened.request.neutralPilotMode
      gateSnapshot := opened.gates
      deployedAt := now }
  | .rollback opened =>
    { id := nextId Deployment.id s.deployments
      propertyId := opened.propertyId
      siteBuildId := opened.build.id
      domainRegistrationId := opened.target.domainRegistrationId
      providerAssignmentId := active.map ProviderAssignment.id
      complianceReviewId := opened.target.complianceReviewId
      previousDeploymentId := some opened.current.id
      rollbackOfDeploymentId := some opened.current.id
      environment := .production
      adapterName := "local-filesystem-v1"
      status := .deployed
      url := release.destination ++ ["index.html"]
      localOnly := true
      operatorUserId := opened.actor.actorId
      operatorConfirmation := true
      confirmationReason := opened.request.reason
      neutralPilotMode := opened.target.neutralPilotMode
      gateSnapshot := [("rollback_target_verified", true), ("operator_confirmation", true)]
      deployedAt := now }

/-- `prior.status = DeploymentStatus.rolled_back`. -/
def superseded (deployment : Deployment) : Deployment := { deployment with status := .rolledBack }

/-- The deployments after the commit. -/
def deployments (release : Release) (s : Store) (now : DateTime) : List Deployment :=
  (match release.prior with
    | some prior => Table.update Deployment.id s.deployments prior.id superseded
    | none => s.deployments) ++ [release.row s now]

/-- The status a deployment gives its property. -/
def propertyStatus : Release → Option PropertyStatus
  | .deploy opened => match opened.request.environment with
    | .preview => none
    | .staging => some .staging
    | .production => some .production
  | .rollback _ => none

/-- The rows of the request, in the database as it finds it after the adapter. -/
def commit (release : Release) (s : Store) (now : DateTime) : Store :=
  { s with
    deployments := release.deployments s now
    properties := match release.propertyStatus with
      | some status => Table.update Property.id s.properties release.propertyId fun row =>
          { row with status }
      | none => s.properties }

/-- The adapter finds the page of the build. -/
def Indexed (release : Release) (tree : Files.Tree) : Prop :=
  (Files.read tree (release.build.outputPath ++ ["index.html"])).isSome

instance (release : Release) (tree : Files.Tree) : Decidable (release.Indexed tree) :=
  inferInstanceAs (Decidable ((Files.read tree (release.build.outputPath ++ ["index.html"])).isSome = true))

end Release

/-- `deploy` and `rollback`, undisturbed. -/
def serveRelease (w : World) (request : ReleaseRequest) (actor : ReviewActor) (now : DateTime) :
    Except WorkflowError World := do
  let release ← request.start w.store actor
  require (release.Indexed w.files) ⟨"site_build_missing_index", .null⟩
  return {
    store := release.commit w.store now
    files := Files.runAll w.files
      (release.ops w.files (activeAssignment w.store.assignments release.propertyId)) }

/-! ## What a request knows when it calls its adapter -/

/-- What the checks of `deploy` establish. -/
structure OpenDeployment.Checked (s : Store) (buildId : Nat) (request : DeploymentRequest)
    (actor : ReviewActor) (opened : OpenDeployment) : Prop where
  request_eq : opened.request = request
  actor_eq : opened.actor = actor
  build_id : opened.build.id = buildId
  build_found : Table.get SiteBuild.id s.builds opened.build.id = some opened.build
  environment : opened.build.environment = request.environment
  prop_found : Table.get Property.id s.properties opened.prop.id = some opened.prop
  owner : opened.prop.id = opened.build.propertyId
  gates : deploymentGates s opened.prop opened.build request = .ok opened.gates
  passed : request.environment = .production → ∀ gate ∈ opened.gates, gate.2 = true
  prior : opened.prior = currentDeployment s.deployments opened.prop.id request.environment

theorem openDeploy_ok {s : Store} {buildId : Nat} {request : DeploymentRequest} {actor : ReviewActor}
    {opened : OpenDeployment} (done : openDeploy s buildId request actor = .ok opened) :
    opened.Checked s buildId request actor := by
  simp only [openDeploy, bind_ok, build_ok, property_ok, require_ok, pure_ok] at done
  obtain ⟨-, -, build, there, -, environment, prop, owner, gates, computed, -, passed, rfl⟩ := done
  obtain rfl := Table.get_key there
  have same := Table.get_key owner
  refine ⟨rfl, rfl, rfl, there, environment, same ▸ owner, same, computed, fun live gate member => ?_, rfl⟩
  have none := List.filter_eq_nil_iff.mp (passed live) gate member
  simpa using none

/-- What the checks of `rollback` establish. -/
structure OpenRollback.Checked (s : Store) (propertyId : String) (request : RollbackRequest)
    (actor : ReviewActor) (opened : OpenRollback) : Prop where
  property_eq : opened.propertyId = propertyId
  request_eq : opened.request = request
  actor_eq : opened.actor = actor
  confirmed : request.operatorConfirmation = true
  target_found : Table.get Deployment.id s.deployments opened.target.id = some opened.target
  target_id : opened.target.id = request.targetDeploymentId
  target_property : opened.target.propertyId = propertyId
  target_production : opened.target.environment = .production
  current_found : currentDeployment s.deployments propertyId .production = some opened.current
  apart : opened.current.id ≠ opened.target.id
  build_found : Table.get SiteBuild.id s.builds opened.build.id = some opened.build
  build_eq : opened.build.id = opened.target.siteBuildId

theorem openRollback_ok {s : Store} {propertyId : String} {request : RollbackRequest}
    {actor : ReviewActor} {opened : OpenRollback}
    (done : openRollback s propertyId request actor = .ok opened) :
    opened.Checked s propertyId request actor := by
  simp only [openRollback, bind_ok, found_ok, build_ok, require_ok, pure_ok] at done
  obtain ⟨-, -, -, confirmed, target, there, -, owner, -, production, current, found, -, apart, build,
    built, rfl⟩ := done
  have same := Table.get_key there
  have id := Table.get_key built
  exact ⟨rfl, rfl, rfl, confirmed, same ▸ there, same, owner, production, found, apart, id ▸ built, id⟩

theorem start_ok {s : Store} {request : ReleaseRequest} {actor : ReviewActor} {release : Release}
    (done : request.start s actor = .ok release) :
    (∃ buildId asked opened, request = .deploy buildId asked ∧ release = .deploy opened ∧
        opened.Checked s buildId asked actor) ∨
      ∃ propertyId asked opened, request = .rollback propertyId asked ∧ release = .rollback opened ∧
        opened.Checked s propertyId asked actor := by
  cases request with
  | deploy buildId asked =>
    simp only [ReleaseRequest.start, bind_ok, pure_ok] at done
    obtain ⟨opened, ok, rfl⟩ := done
    exact Or.inl ⟨buildId, asked, opened, rfl, rfl, openDeploy_ok ok⟩
  | rollback propertyId asked =>
    simp only [ReleaseRequest.start, bind_ok, pure_ok] at done
    obtain ⟨opened, ok, rfl⟩ := done
    exact Or.inr ⟨propertyId, asked, opened, rfl, rfl, openRollback_ok ok⟩

end RankRent.Properties
