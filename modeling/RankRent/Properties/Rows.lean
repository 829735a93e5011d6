import Mathlib.Data.List.MinMax
import RankRent.Leads.Rows
import RankRent.Library.Checks
import RankRent.Library.Files
import RankRent.Library.PyString
import RankRent.Library.Sha256
import RankRent.Review.Decisions

/-!
# Rows of the property workflow

The tables of `property_workflow/orm.py` and what it reads of other tables.
Status columns, strings in the database, are enumerations, but for the status
of an opportunity, which may be one of an older vocabulary. JSON columns are
JSON values; those the code looks into are read as the type it expects.
-/

namespace RankRent.Properties
open Leads (ProviderAssignmentStatus nextId)
open Review (ReviewActor ReviewRole)

inductive PropertyStatus
  | draft | staging | production | archived
  deriving DecidableEq, Repr

inductive DomainCandidateStatus
  | generated | shortlisted | rejected
  deriving DecidableEq, Repr

inductive DomainAvailability
  | unchecked | available | unavailable | unknown
  deriving DecidableEq, Repr

inductive DomainRegistrationStatus
  | purchaseApproved | manuallyRegistered | dnsVerified
  deriving DecidableEq, Repr

inductive SiteConfigStatus
  | draft | approved | superseded
  deriving DecidableEq, Repr

inductive BuildEnvironment
  | preview | staging | production
  deriving DecidableEq, Repr

inductive DeploymentStatus
  | deployed | rolledBack | failed
  deriving DecidableEq, Repr

inductive ComplianceStatus
  | approved | rejected
  deriving DecidableEq, Repr

/-- `PropertyStatus.value`. -/
def PropertyStatus.value : PropertyStatus → String
  | .draft => "draft"
  | .staging => "staging"
  | .production => "production"
  | .archived => "archived"

/-- `BuildEnvironment.value`. -/
def BuildEnvironment.value : BuildEnvironment → String
  | .preview => "preview"
  | .staging => "staging"
  | .production => "production"

structure Opportunity where
  id : Nat
  status : String
  serviceFamilyId : Nat
  marketId : Nat
  deriving DecidableEq

structure Property where
  id : String
  opportunityId : Nat
  neutralBrand : String
  domain : Option String := none
  serviceFamilyId : Nat
  marketId : Nat
  publicTrackingNumber : Option String
  publicContactEmail : Option String
  status : PropertyStatus := .draft
  activeSiteConfigVersion : Option Nat := none
  analyticsConfig : PyJson
  currentVersion : Nat := 1

structure PropertyVersion where
  id : Nat
  propertyId : String
  version : Nat
  snapshot : PyJson
  snapshotSha256 : String
  changedBy : String
  changeReason : String

structure RoutingProfile where
  id : Nat
  propertyId : String
  opportunityId : Nat
  publicTrackingNumber : Option String
  publicContactEmail : Option String
  callAdapterName : Option String := none
  callProviderRouteId : Option String := none
  routingHealthStatus : Option String := none
  routingHealthCheckedAt : Option DateTime := none
  deriving DecidableEq

structure DomainCandidate where
  id : Nat
  propertyId : String
  domain : String
  status : DomainCandidateStatus := .generated
  availabilityStatus : DomainAvailability := .unchecked
  availabilityCheckedAt : Option DateTime := none
  availabilityEvidence : PyJson := .obj []
  decisionBy : Option String := none
  decisionReason : Option String := none
  decidedAt : Option DateTime := none

structure DomainRegistration where
  id : Nat
  propertyId : String
  domainCandidateId : Nat
  domain : String
  registrarName : String := "manual"
  status : DomainRegistrationStatus
  purchaseApproved : Bool
  purchaseApprovedBy : String
  purchaseApprovalReason : String
  purchaseApprovedAt : DateTime
  externalReference : Option String := none
  registeredAt : Option DateTime := none
  expectedDnsRecords : List (String × String) := []
  observedDnsRecords : List (String × String) := []
  dnsEvidenceReference : Option String := none
  dnsVerifiedAt : Option DateTime := none
  dnsVerifiedBy : Option String := none
  deriving DecidableEq

/-- What `AssetCreateRequest` says of an asset. -/
structure AssetCreateRequest where
  assetType : String
  localPath : Option String
  sourceProvider : String
  sourceUrl : Option String
  attribution : Option String
  licenseMetadata : PyJson
  altText : String
  contentSha256 : Option String

structure Asset extends AssetCreateRequest where
  id : Nat
  propertyId : String
  approved : Bool := false
  approvedBy : Option String := none
  approvalReason : Option String := none
  approvedAt : Option DateTime := none

structure ProviderAssignment where
  id : Nat
  propertyId : String
  providerCandidateId : Option Nat
  status : ProviderAssignmentStatus := .candidate
  publicBusinessName : String
  destinationPhone : Option String
  destinationEmail : Option String
  coverage : PyJson
  responseExpectationMinutes : Option Nat := none
  leadAcceptanceRequired : Bool := true
  agreementStartedAt : Option DateTime := none
  agreementEndedAt : Option DateTime := none
  activeFrom : Option DateTime := none
  activeUntil : Option DateTime := none
  terminationReason : Option String := none
  replacedAssignmentId : Option Nat := none
  logoAssetId : Option Nat := none
  hours : PyJson := .obj []
  serviceRadius : PyJson := .obj []
  credentials : PyJson := .arr []
  licenseNumbers : PyJson := .arr []
  approvedClaims : PyJson := .arr []
  attributedTestimonials : PyJson := .arr []
  providerPhotos : List Nat := []
  claimsReviewedBy : Option String := none
  claimsReviewedAt : Option DateTime := none
  claimsReviewReason : Option String := none
  activationApprovedBy : Option String := none
  activationReason : Option String := none
  replacementApprovedBy : Option String := none

/-- What `SiteConfigInput.model_dump` keeps of a request, with the two of its
fields that the workflow reads. -/
structure SiteConfigPayload where
  fields : List (String × PyJson)
  assetIds : List Nat
  providerDetails : List (String × PyJson)

structure SiteConfig where
  id : Nat
  propertyId : String
  version : Nat
  status : SiteConfigStatus
  configPayload : SiteConfigPayload
  configSha256 : String
  createdBy : String
  changeReason : String
  approvedBy : Option String := none
  approvalReason : Option String := none
  approvedAt : Option DateTime := none

/-- `validate_build`: whether it passed, and the rest of the report. -/
structure ValidationReport where
  passed : Bool
  details : PyJson

structure SiteBuild where
  id : Nat
  propertyId : String
  siteConfigId : Nat
  environment : BuildEnvironment
  builderVersion : String
  buildSha256 : String
  outputPath : Files.Path
  /-- `"passed"` or `"failed"`. -/
  status : String
  fileCount : Nat
  totalBytes : Nat
  validationReport : ValidationReport
  /-- Relative paths and content checksums. -/
  manifest : List (Files.Path × String)

structure ComplianceReview where
  id : Nat
  propertyId : String
  siteConfigId : Nat
  siteBuildId : Nat
  status : ComplianceStatus
  checklist : List (String × Bool)
  validationSnapshot : ValidationReport
  reviewerUserId : String
  notes : String
  reviewedAt : DateTime

structure Deployment where
  id : Nat
  propertyId : String
  siteBuildId : Nat
  domainRegistrationId : Option Nat
  providerAssignmentId : Option Nat
  complianceReviewId : Option Nat
  previousDeploymentId : Option Nat
  rollbackOfDeploymentId : Option Nat := none
  environment : BuildEnvironment
  adapterName : String
  status : DeploymentStatus
  /-- The path of the `file:` URL. -/
  url : Files.Path
  localOnly : Bool
  operatorUserId : String
  operatorConfirmation : Bool
  confirmationReason : String
  neutralPilotMode : Bool
  gateSnapshot : List (String × Bool)
  deployedAt : DateTime
  deriving DecidableEq

structure Store where
  opportunities : List Opportunity := []
  properties : List Property := []
  versions : List PropertyVersion := []
  profiles : List RoutingProfile := []
  candidates : List DomainCandidate := []
  registrations : List DomainRegistration := []
  assets : List Asset := []
  /-- The ids of `provider_candidates`. -/
  providerCandidates : List Nat := []
  assignments : List ProviderAssignment := []
  configs : List SiteConfig := []
  builds : List SiteBuild := []
  reviews : List ComplianceReview := []
  deployments : List Deployment := []

/-- The database and the files under the runtime directory. -/
structure World where
  store : Store := {}
  files : Files.Tree := []

/-- `PropertyWorkflowError`, and the errors of the database and the file system
that reach the request as they are. -/
structure WorkflowError where
  code : String
  detail : PyJson := .null

/-! ## Lookups -/

section Lookups
variable (s : Store)

/-- `_property`. -/
def Store.property (propertyId : String) : Except WorkflowError Property :=
  Checks.found (Table.get Property.id s.properties propertyId) ⟨"property_not_found", .null⟩

/-- `_candidate`. -/
def Store.candidate (candidateId : Nat) : Except WorkflowError DomainCandidate :=
  Checks.found (Table.get DomainCandidate.id s.candidates candidateId)
    ⟨"domain_candidate_not_found", .null⟩

/-- `_registration`. -/
def Store.registration (registrationId : Nat) : Except WorkflowError DomainRegistration :=
  Checks.found (Table.get DomainRegistration.id s.registrations registrationId)
    ⟨"domain_registration_not_found", .null⟩

/-- `_assignment`. -/
def Store.assignment (assignmentId : Nat) : Except WorkflowError ProviderAssignment :=
  Checks.found (Table.get ProviderAssignment.id s.assignments assignmentId)
    ⟨"provider_assignment_not_found", .null⟩

/-- `_config`. -/
def Store.config (configId : Nat) : Except WorkflowError SiteConfig :=
  Checks.found (Table.get SiteConfig.id s.configs configId) ⟨"site_config_not_found", .null⟩

/-- `_build`. -/
def Store.build (buildId : Nat) : Except WorkflowError SiteBuild :=
  Checks.found (Table.get SiteBuild.id s.builds buildId) ⟨"site_build_not_found", .null⟩

/-- `_routing_profile`. -/
def Store.routingProfile (propertyId : String) : Except WorkflowError RoutingProfile :=
  Checks.found (s.profiles.find? fun profile => profile.propertyId = propertyId)
    ⟨"routing_profile_not_found", .null⟩

/-- The first row in descending order of ids. -/
def latest {α : Type} (id : α → Nat) (holds : α → Bool) (rows : List α) : Option α :=
  (rows.filter holds).argmax id

theorem latest_some {α : Type} {id : α → Nat} {holds : α → Bool} {rows : List α} {row : α}
    (found : latest id holds rows = some row) :
    row ∈ rows ∧ holds row = true ∧ ∀ other ∈ rows, holds other = true → id other ≤ id row := by
  obtain ⟨member, held⟩ := List.mem_filter.mp (List.argmax_mem found)
  refine ⟨member, held, fun other inside holds => ?_⟩
  exact List.le_of_mem_argmax (List.mem_filter.mpr ⟨inside, holds⟩) found

theorem latest_isSome {α : Type} {id : α → Nat} {holds : α → Bool} {rows : List α} {row : α}
    (member : row ∈ rows) (held : holds row = true) : ∃ last, latest id holds rows = some last := by
  refine Option.ne_none_iff_exists'.mp fun none => ?_
  have empty := List.argmax_eq_none.mp none
  exact List.not_mem_nil (empty ▸ List.mem_filter.mpr ⟨member, held⟩)

/-- `_active_assignment`. -/
def activeAssignment (assignments : List ProviderAssignment) (propertyId : String) :
    Option ProviderAssignment :=
  assignments.find? fun row => row.propertyId = propertyId && row.status = .active

/-- `_verified_registration`. -/
def Store.verifiedRegistration (propertyId : String) : Option DomainRegistration :=
  latest DomainRegistration.id
    (fun row => row.propertyId = propertyId && row.status = .dnsVerified) s.registrations

/-- `_approved_compliance`. -/
def Store.approvedCompliance (buildId : Nat) : Option ComplianceReview :=
  latest ComplianceReview.id (fun row => row.siteBuildId = buildId && row.status = .approved) s.reviews

/-- The deployment a request finds current. -/
def currentDeployment (deployments : List Deployment) (propertyId : String)
    (environment : BuildEnvironment) : Option Deployment :=
  latest Deployment.id
    (fun row => row.propertyId = propertyId && row.environment = environment &&
      row.status = .deployed) deployments

end Lookups

/-! ## Roles -/

/-- `_human`. -/
def human (actor : ReviewActor) : Except WorkflowError Unit :=
  Checks.require (actor.role ≠ .system) ⟨"human_operator_required", .null⟩

/-- `_reviewer`. -/
def reviewer (actor : ReviewActor) : Except WorkflowError Unit :=
  Checks.require (actor.role = .reviewer ∨ actor.role = .admin) ⟨"reviewer_role_required", .null⟩

/-- `_operator`. -/
def operator (actor : ReviewActor) : Except WorkflowError Unit :=
  Checks.require (actor.role = .operator ∨ actor.role = .admin) ⟨"operator_role_required", .null⟩

end RankRent.Properties
