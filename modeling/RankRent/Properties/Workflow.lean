import RankRent.Properties.Providers

/-!
# Property workflow: rows

The operations of `property_workflow/services.py` that only read and write the
database. Requests are validated before they get here; a brand and an e-mail
address stand as their validators leave them. An operation gives the tables
where it succeeds; where it raises, the request is rolled back.
-/

namespace RankRent.Properties
open Leads (ProviderAssignmentStatus nextId)
open Review (ReviewActor ReviewRole)
open Checks

/-- `_json_hash`. -/
def jsonHash (value : PyJson) : String := Sha256.hexdigest value.dumps

def optionJson {α : Type} (json : α → PyJson) : Option α → PyJson
  | some a => json a
  | none => .null

/-- What the unique indexes of the database refuse. -/
def integrityError : WorkflowError := ⟨"integrity_error", .null⟩

/-! ## Properties and their versions -/

/-- `canonical_state`, with `LEGACY_STATE_MAP`. -/
def canonicalState (value : String) : Except WorkflowError OpportunityState :=
  match value with
  | "approved" | "approved_for_property" => .ok .approvedForProperty
  | "evidence_rejected" | "scan_failed" | "partial_review" | "unusable_review"
  | "needs_more_evidence" => .ok .needsMoreEvidence
  | "discovered" => .ok .discovered
  | "prefilter_review" => .ok .prefilterReview
  | "testing_planned" => .ok .testingPlanned
  | "testing_running" => .ok .testingRunning
  | "preliminary_review" => .ok .preliminaryReview
  | "full_scan_approved" => .ok .fullScanApproved
  | "full_running" => .ok .fullRunning
  | "full_review" => .ok .fullReview
  | "rejected" => .ok .rejected
  | "archived" => .ok .archived
  | _ => .error ⟨"unknown_opportunity_state", .obj [("state", .str value)]⟩

/-- `require_property_approval`. -/
def requirePropertyApproval (s : Store) (opportunityId : Nat) : Except WorkflowError Opportunity := do
  let opportunity ← found (Table.get Opportunity.id s.opportunities opportunityId)
    ⟨"opportunity_not_found", .null⟩
  let state ← canonicalState opportunity.status
  require (state = .approvedForProperty)
    ⟨"property_action_requires_approved_opportunity", .obj
      [("opportunity_id", .num opportunityId), ("current_state", .str opportunity.status),
       ("required_state", .str "approved_for_property")]⟩
  return opportunity

/-- `_property_payload`. -/
def Property.payload (row : Property) : PyJson := .obj
  [("id", .str row.id), ("opportunity_id", .num row.opportunityId),
   ("neutral_brand", .str row.neutralBrand), ("domain", optionJson .str row.domain),
   ("service_family_id", .num row.serviceFamilyId), ("market_id", .num row.marketId),
   ("public_tracking_number", optionJson .str row.publicTrackingNumber),
   ("public_contact_email", optionJson .str row.publicContactEmail),
   ("status", .str row.status.value),
   ("active_site_config_version", optionJson (fun version : Nat => .num version) row.activeSiteConfigVersion),
   ("analytics_config", row.analyticsConfig), ("current_version", .num row.currentVersion)]

/-- `_snapshot`. -/
def snapshot (versions : List PropertyVersion) (prop : Property) (actor : ReviewActor) (reason : String) :
    List PropertyVersion :=
  versions ++ [{ id := nextId PropertyVersion.id versions
                 propertyId := prop.id
                 version := prop.currentVersion
                 snapshot := prop.payload
                 snapshotSha256 := jsonHash prop.payload
                 changedBy := actor.actorId
                 changeReason := reason }]

/-- `current_version += 1` after other columns are written. -/
def Property.revised (change : Property → Property) (row : Property) : Property :=
  { change row with currentVersion := (change row).currentVersion + 1 }

/-- Change a property, count its version and take a snapshot. -/
def Store.revise (s : Store) (prop : Property) (change : Property → Property) (actor : ReviewActor)
    (reason : String) : Store :=
  { s with
    properties := Table.update Property.id s.properties prop.id (Property.revised change)
    versions := snapshot s.versions (prop.revised change) actor reason }

structure PropertyCreateRequest where
  /-- The id asked for, or else the one made of the opportunity and the brand. -/
  propertyId : String
  neutralBrand : String
  publicTrackingNumber : Option String := none
  publicContactEmail : Option String := none
  analyticsConfig : PyJson := .obj []

/-- `create_routing_profile`, after the approval of the opportunity was checked. -/
def createRoutingProfile (profiles : List RoutingProfile) (propertyId : String) (opportunityId : Nat)
    (publicTrackingNumber publicContactEmail : Option String) :
    Except WorkflowError (List RoutingProfile) :=
  match profiles.find? fun profile => profile.propertyId = propertyId with
  | some existing => do
    require (existing.opportunityId = opportunityId) ⟨"property_opportunity_is_immutable", .null⟩
    return profiles
  | none => .ok (profiles ++ [{ id := nextId RoutingProfile.id profiles
                                propertyId := propertyId
                                opportunityId := opportunityId
                                publicTrackingNumber := publicTrackingNumber
                                publicContactEmail := publicContactEmail }])

/-- `create_property`. -/
def createProperty (s : Store) (opportunityId : Nat) (request : PropertyCreateRequest)
    (actor : ReviewActor) : Except WorkflowError Store := do
  human actor
  let opportunity ← requirePropertyApproval s opportunityId
  require (∀ existing ∈ s.properties, existing.opportunityId ≠ opportunityId)
    ⟨"opportunity_already_has_property", .null⟩
  let row : Property :=
    { id := request.propertyId
      opportunityId := opportunity.id
      neutralBrand := request.neutralBrand
      serviceFamilyId := opportunity.serviceFamilyId
      marketId := opportunity.marketId
      publicTrackingNumber := request.publicTrackingNumber
      publicContactEmail := request.publicContactEmail
      analyticsConfig := request.analyticsConfig }
  require (∀ existing ∈ s.properties, existing.id ≠ row.id) ⟨"property_identifier_conflict", .null⟩
  let profiles ← createRoutingProfile s.profiles row.id opportunity.id row.publicTrackingNumber
    row.publicContactEmail
  return { s with
    properties := s.properties ++ [row]
    profiles
    versions := snapshot s.versions row actor "Initial approved-opportunity property configuration." }

/-- A column that is `none` was not among the fields of the request. -/
structure PropertyUpdateRequest where
  neutralBrand : Option String := none
  publicTrackingNumber : Option (Option String) := none
  publicContactEmail : Option (Option String) := none
  analyticsConfig : Option PyJson := none
  reason : String

def PropertyUpdateRequest.apply (request : PropertyUpdateRequest) (row : Property) : Property :=
  { row with
    neutralBrand := request.neutralBrand.getD row.neutralBrand
    publicTrackingNumber := request.publicTrackingNumber.getD row.publicTrackingNumber
    publicContactEmail := request.publicContactEmail.getD row.publicContactEmail
    analyticsConfig := request.analyticsConfig.getD row.analyticsConfig }

/-- `update_property`. -/
def updateProperty (s : Store) (propertyId : String) (request : PropertyUpdateRequest)
    (actor : ReviewActor) : Except WorkflowError Store := do
  human actor
  let row ← s.property propertyId
  let profile ← s.routingProfile propertyId
  return { s.revise row request.apply actor request.reason with
    profiles := Table.update RoutingProfile.id s.profiles profile.id fun profile =>
      { profile with
        publicTrackingNumber := (request.apply row).publicTrackingNumber
        publicContactEmail := (request.apply row).publicContactEmail } }

/-! ## Domains -/

/-- `generate_domain_candidates`; `domains` are the names its stems and TLDs
give, up to the limit. -/
def generateDomainCandidates (s : Store) (propertyId : String) (domains : List String) :
    Except WorkflowError Store := do
  let _ ← s.property propertyId
  let missing := domains.filter fun domain =>
    !s.candidates.any fun row => row.propertyId = propertyId && row.domain = domain
  require missing.Nodup integrityError
  return { s with
    candidates := missing.foldl (fun rows domain =>
      rows ++ [{ id := nextId DomainCandidate.id rows, propertyId, domain }]) s.candidates }

/-- `decide_domain_candidate`. -/
def decideDomainCandidate (s : Store) (candidateId : Nat) (shortlist : Bool) (reason : String)
    (actor : ReviewActor) (now : DateTime) : Except WorkflowError Store := do
  human actor
  let candidate ← s.candidate candidateId
  return { s with
    candidates := Table.update DomainCandidate.id s.candidates candidate.id fun row =>
      { row with
        status := if shortlist then .shortlisted else .rejected
        decisionBy := some actor.actorId
        decisionReason := some reason
        decidedAt := some now } }

/-- `check_domain_availability`; `status` and `evidence` are the adapter's answer. -/
def checkDomainAvailability (s : Store) (candidateId : Nat) (status : DomainAvailability)
    (evidence : PyJson) (now : DateTime) : Except WorkflowError Store := do
  let candidate ← s.candidate candidateId
  return { s with
    candidates := Table.update DomainCandidate.id s.candidates candidate.id fun row =>
      { row with
        availabilityStatus := status
        availabilityCheckedAt := some now
        availabilityEvidence := evidence } }

/-- `approve_domain_purchase`, with the manual registrar. -/
def approveDomainPurchase (s : Store) (candidateId : Nat) (explicitPurchaseApproval : Bool)
    (reason : String) (actor : ReviewActor) (now : DateTime) : Except WorkflowError Store := do
  operator actor
  let candidate ← s.candidate candidateId
  require (candidate.status = .shortlisted) ⟨"domain_must_be_shortlisted", .null⟩
  require (candidate.availabilityStatus = .available) ⟨"domain_must_have_available_evidence", .null⟩
  require (explicitPurchaseApproval = true) ⟨"explicit_domain_purchase_approval_required", .null⟩
  if s.registrations.any fun row => row.domainCandidateId = candidate.id then .ok s
  else do
    require (∀ row ∈ s.registrations, row.domain ≠ candidate.domain) integrityError
    return { s with
      registrations := s.registrations ++
        [{ id := nextId DomainRegistration.id s.registrations
           propertyId := candidate.propertyId
           domainCandidateId := candidate.id
           domain := candidate.domain
           status := .purchaseApproved
           purchaseApproved := true
           purchaseApprovedBy := actor.actorId
           purchaseApprovalReason := reason
           purchaseApprovedAt := now }] }

structure ManualRegistrationRequest where
  externalReference : String
  registrarName : String := "manual"
  expectedDnsRecords : List (String × String) := []

/-- What `record_manual_registration` writes. -/
def DomainRegistration.recorded (request : ManualRegistrationRequest) (now : DateTime)
    (row : DomainRegistration) : DomainRegistration :=
  { row with
    externalReference := some request.externalReference
    registrarName := request.registrarName
    expectedDnsRecords := request.expectedDnsRecords
    registeredAt := some now
    status := .manuallyRegistered }

/-- `record_manual_registration`. -/
def recordManualRegistration (s : Store) (registrationId : Nat) (request : ManualRegistrationRequest)
    (actor : ReviewActor) (now : DateTime) : Except WorkflowError Store := do
  operator actor
  let registration ← s.registration registrationId
  require (registration.purchaseApproved = true) ⟨"domain_purchase_was_not_approved", .null⟩
  return { s with
    registrations := Table.update DomainRegistration.id s.registrations registration.id
      (.recorded request now) }

structure DNSVerificationRequest where
  observedRecords : List (String × String) := []
  evidenceReference : String

/-- What `verify_dns` writes in the registration. -/
def DomainRegistration.verified (request : DNSVerificationRequest) (actor : ReviewActor)
    (now : DateTime) (row : DomainRegistration) : DomainRegistration :=
  { row with
    observedDnsRecords := request.observedRecords
    dnsEvidenceReference := some request.evidenceReference
    dnsVerifiedAt := some now
    dnsVerifiedBy := some actor.actorId
    status := .dnsVerified }

/-- `prop.domain = row.domain`. -/
def Property.named (domain : String) (row : Property) : Property := { row with domain := some domain }

/-- `verify_dns`. -/
def verifyDns (s : Store) (registrationId : Nat) (request : DNSVerificationRequest)
    (actor : ReviewActor) (now : DateTime) : Except WorkflowError Store := do
  operator actor
  let registration ← s.registration registrationId
  require (registration.status = .manuallyRegistered)
    ⟨"dns_verification_requires_manual_registration", .null⟩
  require (registration.expectedDnsRecords ≠ []) ⟨"expected_dns_records_required", .null⟩
  let mismatch := registration.expectedDnsRecords.filter fun record =>
    request.observedRecords.lookup record.1 ≠ some record.2
  require (mismatch = []) ⟨"dns_records_do_not_match",
    .obj [("mismatch", .obj (mismatch.map fun record => (record.1, .str record.2)))]⟩
  let prop ← s.property registration.propertyId
  require (∀ other ∈ s.properties, other.id ≠ prop.id → other.domain ≠ some registration.domain)
    integrityError
  return { s.revise prop (.named registration.domain) actor
      "Verified manually registered domain and DNS records." with
    registrations := Table.update DomainRegistration.id s.registrations registration.id
      (.verified request actor now) }

/-! ## Assets -/

/-- `create_asset`. -/
def createAsset (s : Store) (propertyId : String) (request : AssetCreateRequest) :
    Except WorkflowError Store := do
  let _ ← s.property propertyId
  return { s with
    assets := s.assets ++ [{ request with id := nextId Asset.id s.assets, propertyId }] }

/-- `review_asset`. -/
def reviewAsset (s : Store) (assetId : Nat) (approved : Bool) (reason : String) (actor : ReviewActor)
    (now : DateTime) : Except WorkflowError Store := do
  reviewer actor
  let asset ← found (Table.get Asset.id s.assets assetId) ⟨"asset_not_found", .null⟩
  return { s with
    assets := Table.update Asset.id s.assets asset.id fun row =>
      { row with
        approved
        approvedBy := some actor.actorId
        approvalReason := some reason
        approvedAt := some now } }

/-- Each asset belongs to the property and is approved; the first that does not
or is not names the failure. -/
def requireAssets (s : Store) (propertyId : String) (missing unapproved : String) :
    List Nat → Except WorkflowError Unit
  | [] => .ok ()
  | assetId :: rest => do
    let detail : PyJson := .obj [("asset_id", .num assetId)]
    let asset ← found (Table.get Asset.id s.assets assetId) ⟨missing, detail⟩
    require (asset.propertyId = propertyId) ⟨missing, detail⟩
    require (asset.approved = true) ⟨unapproved, detail⟩
    requireAssets s propertyId missing unapproved rest

/-! ## Site configurations -/

structure SiteConfigInput where
  payload : SiteConfigPayload
  changeReason : String

/-- `_validate_provider_content`. -/
def validateProviderContent (s : Store) (propertyId : String) (details : List (String × PyJson)) :
    Except WorkflowError Unit :=
  if details.isEmpty then .ok ()
  else
    let assignment : Option ProviderAssignment := match details.lookup "assignment_id" with
      | some (.num id) => s.assignments.find? fun row => (row.id : ℤ) = id
      | _ => none
    require (∃ row ∈ assignment, row.propertyId = propertyId ∧ row.claimsReviewedAt.isSome)
      ⟨"provider_details_require_reviewed_assignment", .null⟩

/-- The highest version of a property's configurations, or 0. -/
def latestConfigVersion (configs : List SiteConfig) (propertyId : String) : Nat :=
  ((configs.filter fun row => row.propertyId = propertyId).map SiteConfig.version).foldl max 0

/-- `create_site_config`. -/
def createSiteConfig (s : Store) (propertyId : String) (request : SiteConfigInput)
    (actor : ReviewActor) : Except WorkflowError Store := do
  human actor
  let prop ← s.property propertyId
  requireAssets s propertyId "asset_not_found" "site_config_requires_approved_assets"
    request.payload.assetIds
  validateProviderContent s propertyId request.payload.providerDetails
  let version := latestConfigVersion s.configs propertyId + 1
  return { s.revise prop id actor ("Created SiteConfig version " ++ toString version ++ ".") with
    configs := s.configs ++
      [{ id := nextId SiteConfig.id s.configs
         propertyId
         version
         status := .draft
         configPayload := request.payload
         configSha256 := jsonHash (.obj request.payload.fields)
         createdBy := actor.actorId
         changeReason := request.changeReason }] }

/-- `prop.active_site_config_version = row.version`. -/
def Property.configured (version : Nat) (row : Property) : Property :=
  { row with activeSiteConfigVersion := some version }

/-- What a review writes in the reviewed row. -/
def SiteConfig.reviewed (status : SiteConfigStatus) (reason : String) (actor : ReviewActor)
    (now : DateTime) (row : SiteConfig) : SiteConfig :=
  { row with
    status
    approvedBy := some actor.actorId
    approvalReason := some reason
    approvedAt := some now }

/-- The approved configurations of the property but one are superseded. -/
def supersede (row : SiteConfig) (prior : SiteConfig) : SiteConfig :=
  if prior.propertyId = row.propertyId ∧ prior.status = .approved ∧ prior.id ≠ row.id then
    { prior with status := .superseded } else prior

/-- `review_site_config`. -/
def reviewSiteConfig (s : Store) (configId : Nat) (approved : Bool) (reason : String)
    (actor : ReviewActor) (now : DateTime) : Except WorkflowError Store := do
  reviewer actor
  let row ← s.config configId
  if approved then do
    let prop ← s.property row.propertyId
    return { s with
      configs := Table.update SiteConfig.id (s.configs.map (supersede row)) row.id
        (.reviewed .approved reason actor now)
      properties := Table.update Property.id s.properties prop.id (.configured row.version) }
  else
    return { s with
      configs := Table.update SiteConfig.id s.configs row.id (.reviewed .draft reason actor now) }

/-! ## Providers -/

structure ProviderAssignmentInput where
  providerCandidateId : Option Nat := none
  publicBusinessName : String
  destinationPhone : Option String := none
  destinationEmail : Option String := none
  logoAssetId : Option Nat := none
  hours : PyJson := .obj []
  serviceRadius : PyJson := .obj []
  credentials : PyJson := .arr []
  licenseNumbers : PyJson := .arr []
  approvedClaims : PyJson := .arr []
  attributedTestimonials : PyJson := .arr []
  providerPhotos : List Nat := []
  claimsReviewReason : String

/-- What `create_provider_assignment` adds to the row of `create_assignment`. -/
def ProviderAssignmentInput.fill (request : ProviderAssignmentInput) (actor : ReviewActor)
    (now : DateTime) (row : ProviderAssignment) : ProviderAssignment :=
  { row with
    logoAssetId := request.logoAssetId
    hours := request.hours
    serviceRadius := request.serviceRadius
    credentials := request.credentials
    licenseNumbers := request.licenseNumbers
    approvedClaims := request.approvedClaims
    attributedTestimonials := request.attributedTestimonials
    providerPhotos := request.providerPhotos
    claimsReviewedBy := some actor.actorId
    claimsReviewedAt := some now
    claimsReviewReason := some request.claimsReviewReason }

/-- `except ProviderAssignmentError`. -/
def assignmentError {α : Type} (x : Except String α) : Except WorkflowError α :=
  x.mapError fun message => ⟨message, .null⟩

/-- `create_provider_assignment`. -/
def createProviderAssignment (s : Store) (propertyId : String) (request : ProviderAssignmentInput)
    (actor : ReviewActor) (now : DateTime) : Except WorkflowError Store := do
  reviewer actor
  let _ ← s.property propertyId
  require (∀ candidate ∈ request.providerCandidateId, candidate ∈ s.providerCandidates)
    ⟨"provider_candidate_not_found", .null⟩
  requireAssets s propertyId "provider_asset_must_be_approved" "provider_asset_must_be_approved"
    (request.providerPhotos ++ request.logoAssetId.toList)
  let rows ← assignmentError (createAssignment s.profiles s.assignments
    { propertyId
      publicBusinessName := request.publicBusinessName
      providerCandidateId := request.providerCandidateId
      destinationPhone := request.destinationPhone
      destinationEmail := request.destinationEmail
      coverage := some request.serviceRadius })
  return { s with
    assignments := Table.update ProviderAssignment.id rows (nextId ProviderAssignment.id s.assignments)
      (request.fill actor now) }

/-- `configure_call_routing`; the route is the adapter's answer. -/
def configureCallRouting (s : Store) (propertyId adapterName routeId status : String) (now : DateTime) :
    Except WorkflowError Store := do
  let profile ← found (s.profiles.find? fun profile => profile.propertyId = propertyId)
    ⟨"active_route_not_found", .null⟩
  let assignment ← found (activeAssignment s.assignments propertyId) ⟨"active_route_not_found", .null⟩
  require (profile.publicTrackingNumber.isSome ∧ assignment.destinationPhone.isSome)
    ⟨"phone_route_not_configured", .null⟩
  return { s with
    profiles := Table.update RoutingProfile.id s.profiles profile.id fun profile =>
      { profile with
        callAdapterName := some adapterName
        callProviderRouteId := some routeId
        routingHealthStatus := some status
        routingHealthCheckedAt := some now } }

/-- `check_call_routing_health`. -/
def checkCallRoutingHealth (s : Store) (propertyId status : String) (checkedAt : DateTime) :
    Except WorkflowError Store := do
  let profile ← s.routingProfile propertyId
  return { s with
    profiles := Table.update RoutingProfile.id s.profiles profile.id fun profile =>
      { profile with routingHealthStatus := some status, routingHealthCheckedAt := some checkedAt } }

/-! ## What the operations do -/

section Effects
variable {s s' : Store} {actor : ReviewActor} {now : DateTime}

@[simp] theorem property_ok {propertyId : String} {prop : Property} :
    s.property propertyId = .ok prop ↔ Table.get Property.id s.properties propertyId = some prop :=
  found_ok

@[simp] theorem registration_ok {id : Nat} {registration : DomainRegistration} :
    s.registration id = .ok registration ↔
      Table.get DomainRegistration.id s.registrations id = some registration :=
  found_ok

@[simp] theorem config_ok {id : Nat} {config : SiteConfig} :
    s.config id = .ok config ↔ Table.get SiteConfig.id s.configs id = some config :=
  found_ok

@[simp] theorem build_ok {id : Nat} {build : SiteBuild} :
    s.build id = .ok build ↔ Table.get SiteBuild.id s.builds id = some build :=
  found_ok

@[simp] theorem assignment_ok {id : Nat} {assignment : ProviderAssignment} :
    s.assignment id = .ok assignment ↔
      Table.get ProviderAssignment.id s.assignments id = some assignment :=
  found_ok

/-- The row of a property as it is created. -/
structure Property.Initial (row : Property) : Prop where
  domain : row.domain = none
  active : row.activeSiteConfigVersion = none
  status : row.status = .draft
  version : row.currentVersion = 1

theorem createProperty_ok {opportunityId : Nat} {request : PropertyCreateRequest}
    (done : createProperty s opportunityId request actor = .ok s') :
    ∃ row, row.Initial ∧ row.id ∉ s.properties.map Property.id ∧
      s'.properties = s.properties ++ [row] ∧
      s'.versions = snapshot s.versions row actor "Initial approved-opportunity property configuration." := by
  simp only [createProperty, bind_ok, require_ok, pure_ok] at done
  obtain ⟨-, -, opportunity, -, -, -, -, fresh, profiles, -, rfl⟩ := done
  refine ⟨_, ⟨rfl, rfl, rfl, rfl⟩, fun member => ?_, rfl, rfl⟩
  obtain ⟨existing, inside, same⟩ := List.mem_map.mp member
  exact fresh existing inside same

theorem updateProperty_ok {propertyId : String} {request : PropertyUpdateRequest}
    (done : updateProperty s propertyId request actor = .ok s') :
    ∃ row, Table.get Property.id s.properties row.id = some row ∧
      s'.properties = (s.revise row request.apply actor request.reason).properties ∧
      s'.versions = (s.revise row request.apply actor request.reason).versions := by
  simp only [updateProperty, bind_ok, property_ok, pure_ok] at done
  obtain ⟨-, -, row, there, profile, -, rfl⟩ := done
  obtain rfl := Table.get_key there
  exact ⟨row, there, rfl, rfl⟩

/-- What a successful `verify_dns` found and wrote. -/
structure Verifies (s : Store) (request : DNSVerificationRequest) (actor : ReviewActor) (now : DateTime)
    (registration : DomainRegistration) (prop : Property) (s' : Store) : Prop where
  registration_found : Table.get DomainRegistration.id s.registrations registration.id = some registration
  property_found : Table.get Property.id s.properties prop.id = some prop
  owner : prop.id = registration.propertyId
  recorded : registration.status = .manuallyRegistered
  free : ∀ other ∈ s.properties, other.id ≠ prop.id → other.domain ≠ some registration.domain
  properties : s'.properties = (s.revise prop (.named registration.domain) actor
    "Verified manually registered domain and DNS records.").properties
  versions : s'.versions = (s.revise prop (.named registration.domain) actor
    "Verified manually registered domain and DNS records.").versions
  registrations : s'.registrations = Table.update DomainRegistration.id s.registrations registration.id
    (.verified request actor now)

theorem verifyDns_ok {registrationId : Nat} {request : DNSVerificationRequest}
    (done : verifyDns s registrationId request actor now = .ok s') :
    ∃ registration prop, registration.id = registrationId ∧
      Verifies s request actor now registration prop s' := by
  simp only [verifyDns, bind_ok, registration_ok, property_ok, require_ok, pure_ok] at done
  obtain ⟨-, -, registration, there, -, recorded, -, -, -, -, prop, owner, -, free, rfl⟩ := done
  obtain rfl := Table.get_key there
  have same := Table.get_key owner
  exact ⟨registration, prop, rfl, there, same ▸ owner, same, recorded, free, rfl, rfl, rfl⟩

theorem recordManualRegistration_ok {registrationId : Nat} {request : ManualRegistrationRequest}
    (done : recordManualRegistration s registrationId request actor now = .ok s') :
    ∃ registration, registration.id = registrationId ∧
      Table.get DomainRegistration.id s.registrations registration.id = some registration ∧
      s' = { s with registrations :=
        Table.update DomainRegistration.id s.registrations registration.id (.recorded request now) } := by
  simp only [recordManualRegistration, bind_ok, registration_ok, require_ok, pure_ok] at done
  obtain ⟨-, -, registration, there, -, -, rfl⟩ := done
  obtain rfl := Table.get_key there
  exact ⟨registration, rfl, there, rfl⟩

theorem approveDomainPurchase_ok {candidateId : Nat} {explicit : Bool} {reason : String}
    (done : approveDomainPurchase s candidateId explicit reason actor now = .ok s') :
    s' = s ∨ ∃ new : DomainRegistration, new.id = nextId DomainRegistration.id s.registrations ∧
      new.status = .purchaseApproved ∧ (∀ row ∈ s.registrations, row.domain ≠ new.domain) ∧
      s' = { s with registrations := s.registrations ++ [new] } := by
  simp only [approveDomainPurchase, bind_ok] at done
  obtain ⟨-, -, candidate, -, -, -, -, -, -, -, done⟩ := done
  split at done
  · cases done
    exact Or.inl rfl
  · simp only [bind_ok, require_ok, pure_ok] at done
    obtain ⟨-, free, rfl⟩ := done
    exact Or.inr ⟨_, rfl, rfl, free, rfl⟩

/-- What a successful `create_site_config` found and wrote. -/
structure CreatesConfig (s : Store) (actor : ReviewActor) (prop : Property) (new : SiteConfig)
    (s' : Store) : Prop where
  property_found : Table.get Property.id s.properties prop.id = some prop
  new_id : new.id = nextId SiteConfig.id s.configs
  owner : new.propertyId = prop.id
  version : new.version = latestConfigVersion s.configs new.propertyId + 1
  draft : new.status = .draft
  configs : s'.configs = s.configs ++ [new]
  revised : ∃ reason, s'.properties = (s.revise prop id actor reason).properties ∧
    s'.versions = (s.revise prop id actor reason).versions

theorem createSiteConfig_ok {propertyId : String} {request : SiteConfigInput}
    (done : createSiteConfig s propertyId request actor = .ok s') :
    ∃ prop new, CreatesConfig s actor prop new s' := by
  simp only [createSiteConfig, bind_ok, property_ok, pure_ok] at done
  obtain ⟨-, -, prop, there, -, -, -, -, rfl⟩ := done
  obtain rfl := Table.get_key there
  exact ⟨prop, _, there, rfl, rfl, rfl, rfl, rfl, _, rfl, rfl⟩

/-- The configurations after an approval. -/
def approvedConfigs (configs : List SiteConfig) (row : SiteConfig) (reason : String)
    (actor : ReviewActor) (now : DateTime) : List SiteConfig :=
  Table.update SiteConfig.id (configs.map (supersede row)) row.id (.reviewed .approved reason actor now)

theorem reviewSiteConfig_ok {configId : Nat} {approved : Bool} {reason : String}
    (done : reviewSiteConfig s configId approved reason actor now = .ok s') :
    ∃ row, row.id = configId ∧ Table.get SiteConfig.id s.configs row.id = some row ∧
      (approved = true ∧ s' = { s with
          configs := approvedConfigs s.configs row reason actor now
          properties := Table.update Property.id s.properties row.propertyId (.configured row.version) } ∨
        approved = false ∧ s' = { s with
          configs := Table.update SiteConfig.id s.configs row.id (.reviewed .draft reason actor now) }) := by
  simp only [reviewSiteConfig, bind_ok, config_ok] at done
  obtain ⟨-, -, row, there, done⟩ := done
  obtain rfl := Table.get_key there
  refine ⟨row, rfl, there, ?_⟩
  split at done
  · rename_i approved
    simp only [bind_ok, property_ok, pure_ok] at done
    obtain ⟨prop, owner, rfl⟩ := done
    rw [Table.get_key owner]
    exact Or.inl ⟨approved, rfl⟩
  · rename_i rejected
    cases done
    exact Or.inr ⟨by simpa using rejected, rfl⟩

end Effects

end RankRent.Properties
