import RankRent.Properties.Releases
import RankRent.Library.Runs

/-!
# Runs of the property workflow

Every request of the property API, and the lead router's operations on provider
assignments and call routes, on one world. Requests come one after the other; a
request that raises is rolled back.
-/

namespace RankRent.Properties
open Leads (ProviderAssignmentStatus)
open Review (ReviewActor)
open Checks

inductive PropertyRequest
  | create (opportunityId : Nat) (request : PropertyCreateRequest)
  | update (propertyId : String) (request : PropertyUpdateRequest)

inductive DomainRequest
  | generate (propertyId : String) (domains : List String)
  | decide (candidateId : Nat) (shortlist : Bool) (reason : String)
  | check (candidateId : Nat) (status : DomainAvailability) (evidence : PyJson)
  | approvePurchase (candidateId : Nat) (explicitPurchaseApproval : Bool) (reason : String)
  | record (registrationId : Nat) (request : ManualRegistrationRequest)
  | verify (registrationId : Nat) (request : DNSVerificationRequest)

inductive AssetRequest
  | create (propertyId : String) (request : AssetCreateRequest)
  | review (assetId : Nat) (approved : Bool) (reason : String)

inductive ProviderRequest
  | create (propertyId : String) (request : ProviderAssignmentInput)
  | activate (assignmentId : Nat) (reason : String)
  | replace (propertyId : String) (replacementAssignmentId : Nat) (reason : String)
  | move (assignmentId : Nat) (target : ProviderAssignmentStatus) (reason : Option String)
  | route (propertyId adapterName routeId status : String)
  | health (propertyId status : String)

inductive ConfigRequest
  | create (propertyId : String) (request : SiteConfigInput)
  | review (configId : Nat) (approved : Bool) (reason : String)

inductive BuildRequest
  | build (configId : Nat) (environment : BuildEnvironment) (artifact : BuildArtifact)
  | review (buildId : Nat) (request : ComplianceReviewRequest)

inductive Request
  | property (request : PropertyRequest)
  | domain (request : DomainRequest)
  | asset (request : AssetRequest)
  | provider (request : ProviderRequest)
  | config (request : ConfigRequest)
  | build (request : BuildRequest)
  | release (request : ReleaseRequest)

/-- A request with the actor and the time it comes at. -/
structure Call where
  request : Request
  actor : ReviewActor
  now : DateTime

section Handle
variable (w : World) (actor : ReviewActor) (now : DateTime)

/-- An operation that writes no files. -/
def World.keeping (result : Except WorkflowError Store) : Except WorkflowError World := do
  let store ← result
  return { w with store }

def PropertyRequest.handle : PropertyRequest → Except WorkflowError World
  | .create opportunityId request => w.keeping (createProperty w.store opportunityId request actor)
  | .update propertyId request => w.keeping (updateProperty w.store propertyId request actor)

def DomainRequest.handle : DomainRequest → Except WorkflowError World
  | .generate propertyId domains => w.keeping (generateDomainCandidates w.store propertyId domains)
  | .decide candidateId shortlist reason =>
    w.keeping (decideDomainCandidate w.store candidateId shortlist reason actor now)
  | .check candidateId status evidence =>
    w.keeping (checkDomainAvailability w.store candidateId status evidence now)
  | .approvePurchase candidateId explicitPurchaseApproval reason =>
    w.keeping (approveDomainPurchase w.store candidateId explicitPurchaseApproval reason actor now)
  | .record registrationId request =>
    w.keeping (recordManualRegistration w.store registrationId request actor now)
  | .verify registrationId request => w.keeping (verifyDns w.store registrationId request actor now)

def AssetRequest.handle : AssetRequest → Except WorkflowError World
  | .create propertyId request => w.keeping (createAsset w.store propertyId request)
  | .review assetId approved reason => w.keeping (reviewAsset w.store assetId approved reason actor now)

def ProviderRequest.handle : ProviderRequest → Except WorkflowError World
  | .create propertyId request => w.keeping (createProviderAssignment w.store propertyId request actor now)
  | .activate assignmentId reason => activateProvider w assignmentId reason actor now
  | .replace propertyId replacementAssignmentId reason =>
    replaceProvider w propertyId replacementAssignmentId reason actor now
  | .move assignmentId target reason => w.keeping do
    let assignments ← assignmentError (transition w.store.assignments assignmentId target reason now)
    return { w.store with assignments }
  | .route propertyId adapterName routeId status =>
    w.keeping (configureCallRouting w.store propertyId adapterName routeId status now)
  | .health propertyId status =>
    w.keeping (checkCallRoutingHealth w.store propertyId status now)

def ConfigRequest.handle : ConfigRequest → Except WorkflowError World
  | .create propertyId request => w.keeping (createSiteConfig w.store propertyId request actor)
  | .review configId approved reason =>
    w.keeping (reviewSiteConfig w.store configId approved reason actor now)

def BuildRequest.handle : BuildRequest → Except WorkflowError World
  | .build configId environment artifact => buildSite w configId environment artifact
  | .review buildId request => w.keeping (reviewCompliance w.store buildId request actor now)

def World.handle : Request → Except WorkflowError World
  | .property request => request.handle w actor
  | .domain request => request.handle w actor now
  | .asset request => request.handle w actor now
  | .provider request => request.handle w actor now
  | .config request => request.handle w actor now
  | .build request => request.handle w actor now
  | .release request => serveRelease w request actor now

end Handle

/-- A request and its rollback where it fails. -/
def World.serve (w : World) (call : Call) : World :=
  match w.handle call.actor call.now call.request with
  | .ok w' => w'
  | .error _ => w

/-- A world before the first property: opportunities and provider candidates
come from elsewhere. -/
structure World.Fresh (w : World) : Prop where
  properties : w.store.properties = []
  versions : w.store.versions = []
  profiles : w.store.profiles = []
  candidates : w.store.candidates = []
  registrations : w.store.registrations = []
  assets : w.store.assets = []
  assignments : w.store.assignments = []
  configs : w.store.configs = []
  builds : w.store.builds = []
  reviews : w.store.reviews = []
  deployments : w.store.deployments = []
  files : w.files = []

/-- The request succeeds. -/
def World.Accepts (w : World) (call : Call) : Prop :=
  (w.handle call.actor call.now call.request).isOk = true

instance (w : World) (call : Call) : Decidable (w.Accepts call) :=
  inferInstanceAs (Decidable (_ = true))

/-- Runs whose requests, where they succeed, all meet a condition. -/
abbrev RunsUnder (allowed : World → Call → Prop) : World → World → Prop :=
  Runs.Reaches (fun w call => w.Accepts call → allowed w call) fun w call w' => w' = w.serve call

/-- An invariant of the requests that succeed is one of every run. -/
theorem RunsUnder.invariant {allowed : World → Call → Prop} {I : World → Prop}
    (kept : ∀ w call w', I w → allowed w call → w.handle call.actor call.now call.request = .ok w' → I w')
    {w w' : World} (run : RunsUnder allowed w w') (start : I w) : I w' := by
  refine Runs.Reaches.invariant ?_ run start
  rintro u call v holds allowed rfl
  rw [World.serve]
  split
  · rename_i handled
    exact kept u call _ holds (allowed (by rw [World.Accepts, handled]; rfl)) handled
  · exact holds

theorem RunsUnder.any {allowed : World → Call → Prop} {w w' : World} (run : RunsUnder allowed w w') :
    RunsUnder (fun _ _ => True) w w' :=
  Runs.Reaches.mono (fun _ _ _ => fun _ => trivial) run

/-! ## What each group of requests leaves alone -/

section Frames
variable {w w' : World} {actor : ReviewActor} {now : DateTime}

theorem World.keeping_ok {result : Except WorkflowError Store} (done : w.keeping result = .ok w') :
    ∃ store, result = .ok store ∧ w' = { w with store } := by
  simp only [World.keeping, bind_ok, pure_ok] at done
  obtain ⟨store, ok, rfl⟩ := done
  exact ⟨store, ok, rfl⟩

theorem assignmentError_ok {α : Type} {x : Except String α} {a : α} :
    assignmentError x = .ok a ↔ x = .ok a := by
  cases x <;> simp [assignmentError, Except.mapError]

theorem PropertyRequest.frame {request : PropertyRequest} (done : request.handle w actor = .ok w') :
    w' = { w with store := { w.store with
      properties := w'.store.properties
      versions := w'.store.versions
      profiles := w'.store.profiles } } := by
  cases request with
  | create opportunityId request =>
    obtain ⟨store, ok, rfl⟩ := World.keeping_ok done
    simp only [createProperty, bind_ok, pure_ok] at ok
    obtain ⟨-, -, -, -, -, -, -, -, -, -, rfl⟩ := ok
    rfl
  | update propertyId request =>
    obtain ⟨store, ok, rfl⟩ := World.keeping_ok done
    simp only [updateProperty, bind_ok, pure_ok] at ok
    obtain ⟨-, -, -, -, -, -, rfl⟩ := ok
    rfl

/-- Of the requests on domains only a verification touches the property. -/
theorem DomainRequest.frame_unverified {request : DomainRequest}
    (done : request.handle w actor now = .ok w') (other : ∀ id r, request ≠ .verify id r) :
    w' = { w with store := { w.store with
      candidates := w'.store.candidates
      registrations := w'.store.registrations } } := by
  cases request with
  | generate propertyId domains =>
    obtain ⟨store, ok, rfl⟩ := World.keeping_ok done
    simp only [generateDomainCandidates, bind_ok, pure_ok] at ok
    obtain ⟨-, -, -, -, rfl⟩ := ok
    rfl
  | decide candidateId shortlist reason =>
    obtain ⟨store, ok, rfl⟩ := World.keeping_ok done
    simp only [decideDomainCandidate, bind_ok, pure_ok] at ok
    obtain ⟨-, -, -, -, rfl⟩ := ok
    rfl
  | check candidateId status evidence =>
    obtain ⟨store, ok, rfl⟩ := World.keeping_ok done
    simp only [checkDomainAvailability, bind_ok, pure_ok] at ok
    obtain ⟨-, -, rfl⟩ := ok
    rfl
  | approvePurchase candidateId explicitPurchaseApproval reason =>
    obtain ⟨store, ok, rfl⟩ := World.keeping_ok done
    simp only [approveDomainPurchase, bind_ok] at ok
    obtain ⟨-, -, candidate, -, -, -, -, -, -, -, ok⟩ := ok
    split at ok
    · cases ok
      rfl
    · simp only [bind_ok, pure_ok] at ok
      obtain ⟨-, -, rfl⟩ := ok
      rfl
  | record registrationId request =>
    obtain ⟨store, ok, rfl⟩ := World.keeping_ok done
    simp only [recordManualRegistration, bind_ok, pure_ok] at ok
    obtain ⟨-, -, -, -, -, -, rfl⟩ := ok
    rfl
  | verify registrationId request => exact absurd rfl (other registrationId request)

theorem DomainRequest.frame {request : DomainRequest} (done : request.handle w actor now = .ok w') :
    w' = { w with store := { w.store with
      properties := w'.store.properties
      versions := w'.store.versions
      candidates := w'.store.candidates
      registrations := w'.store.registrations } } := by
  cases request with
  | verify registrationId request =>
    obtain ⟨store, ok, rfl⟩ := World.keeping_ok done
    simp only [verifyDns, bind_ok, pure_ok] at ok
    obtain ⟨-, -, -, -, -, -, -, -, -, -, -, -, -, -, rfl⟩ := ok
    rfl
  | generate | decide | check | approvePurchase | record =>
    rw [DomainRequest.frame_unverified done (by simp)]

theorem AssetRequest.frame {request : AssetRequest} (done : request.handle w actor now = .ok w') :
    w' = { w with store := { w.store with assets := w'.store.assets } } := by
  cases request with
  | create propertyId request =>
    obtain ⟨store, ok, rfl⟩ := World.keeping_ok done
    simp only [createAsset, bind_ok, pure_ok] at ok
    obtain ⟨-, -, rfl⟩ := ok
    rfl
  | review assetId approved reason =>
    obtain ⟨store, ok, rfl⟩ := World.keeping_ok done
    simp only [reviewAsset, bind_ok, pure_ok] at ok
    obtain ⟨-, -, -, -, rfl⟩ := ok
    rfl

theorem ProviderRequest.frame {request : ProviderRequest} (done : request.handle w actor now = .ok w') :
    w' = { store := { w.store with
             assignments := w'.store.assignments
             profiles := w'.store.profiles }
           files := w'.files } := by
  cases request with
  | create propertyId request =>
    obtain ⟨store, ok, rfl⟩ := World.keeping_ok done
    simp only [createProviderAssignment, bind_ok, pure_ok] at ok
    obtain ⟨-, -, -, -, -, -, -, -, -, -, rfl⟩ := ok
    rfl
  | activate assignmentId reason =>
    simp only [ProviderRequest.handle, activateProvider, bind_ok, pure_ok] at done
    obtain ⟨-, -, -, -, -, -, -, -, rfl⟩ := done
    rfl
  | replace propertyId replacementAssignmentId reason =>
    simp only [ProviderRequest.handle, replaceProvider, bind_ok, pure_ok] at done
    obtain ⟨-, -, -, -, -, -, -, -, -, -, rfl⟩ := done
    rfl
  | move assignmentId target reason =>
    obtain ⟨store, ok, rfl⟩ := World.keeping_ok done
    simp only [bind_ok, pure_ok] at ok
    obtain ⟨-, -, rfl⟩ := ok
    rfl
  | route propertyId adapterName routeId status =>
    obtain ⟨store, ok, rfl⟩ := World.keeping_ok done
    simp only [configureCallRouting, bind_ok, pure_ok] at ok
    obtain ⟨-, -, -, -, -, -, rfl⟩ := ok
    rfl
  | health propertyId status =>
    obtain ⟨store, ok, rfl⟩ := World.keeping_ok done
    simp only [checkCallRoutingHealth, bind_ok, pure_ok] at ok
    obtain ⟨-, -, rfl⟩ := ok
    rfl

theorem ConfigRequest.frame {request : ConfigRequest} (done : request.handle w actor now = .ok w') :
    w' = { w with store := { w.store with
      properties := w'.store.properties
      versions := w'.store.versions
      configs := w'.store.configs } } := by
  cases request with
  | create propertyId request =>
    obtain ⟨store, ok, rfl⟩ := World.keeping_ok done
    simp only [createSiteConfig, bind_ok, pure_ok] at ok
    obtain ⟨-, -, -, -, -, -, -, -, rfl⟩ := ok
    rfl
  | review configId approved reason =>
    obtain ⟨store, ok, rfl⟩ := World.keeping_ok done
    simp only [reviewSiteConfig, bind_ok] at ok
    obtain ⟨-, -, row, -, ok⟩ := ok
    split at ok
    · simp only [bind_ok, pure_ok] at ok
      obtain ⟨-, -, rfl⟩ := ok
      rfl
    · cases ok
      rfl

theorem BuildRequest.frame {request : BuildRequest} (done : request.handle w actor now = .ok w') :
    w' = { store := { w.store with builds := w'.store.builds, reviews := w'.store.reviews }
           files := w'.files } := by
  cases request with
  | build configId environment artifact =>
    simp only [BuildRequest.handle, buildSite, bind_ok] at done
    obtain ⟨config, -, prop, -, -, -, -, -, -, -, done⟩ := done
    split at done
    · cases done
      rfl
    · cases done
      rfl
  | review buildId request =>
    obtain ⟨store, ok, rfl⟩ := World.keeping_ok done
    simp only [reviewCompliance, bind_ok, pure_ok] at ok
    obtain ⟨-, -, -, -, -, -, -, -, rfl⟩ := ok
    rfl

/-- What a release request that succeeds opened and committed. -/
theorem serveRelease_ok {request : ReleaseRequest} (done : serveRelease w request actor now = .ok w') :
    ∃ release, request.start w.store actor = .ok release ∧ release.Indexed w.files ∧
      w' = {
        store := release.commit w.store now
        files := Files.runAll w.files
          (release.ops w.files (activeAssignment w.store.assignments release.propertyId)) } := by
  simp only [serveRelease, bind_ok, require_ok, pure_ok] at done
  obtain ⟨release, started, -, indexed, rfl⟩ := done
  exact ⟨release, started, indexed, rfl⟩

theorem serveRelease_frame {request : ReleaseRequest} (done : serveRelease w request actor now = .ok w') :
    w' = { store := { w.store with
             deployments := w'.store.deployments
             properties := w'.store.properties }
           files := w'.files } := by
  simp only [serveRelease, bind_ok, pure_ok] at done
  obtain ⟨-, -, -, -, rfl⟩ := done
  rfl

end Frames

/-! ## One property on its way to production -/

/-- One approved opportunity, and nothing else yet. -/
def untouched : World := { store := { opportunities := [⟨7, "approved_for_property", 1, 2⟩] } }

theorem untouched_fresh : untouched.Fresh := by constructor <;> rfl

/-- An administrator asks, at some time. -/
def ask (request : Request) (now : DateTime) : Call := ⟨request, ⟨"admin-1", .admin⟩, now⟩

def property : List Call :=
  [ask (.property (.create 7
    { propertyId := "austin-plumbing"
      neutralBrand := "Austin Plumbing Guide"
      publicTrackingNumber := some "+15125550100"
      analyticsConfig := .obj [("verified", .bool true)] })) 1]

def siteInput : SiteConfigInput where
  payload :=
    { fields :=
        [("brand", .obj [("name", .str "Austin Plumbing Guide")]),
         ("service", .obj [("name", .str "Plumbing")]),
         ("market", .obj [("name", .str "Austin")]),
         ("pricing_guidance", .obj []),
         ("service_process", .arr [.obj [("title", .str "Request")]]),
         ("faqs", .arr [.obj [("question", .str "Who answers?"), ("answer", .str "A provider.")]]),
         ("local_considerations", .arr []),
         ("provider_details", .obj []),
         ("referral_disclosure", .str "This is an independent referral site, not a contractor."),
         ("calls_to_action", .arr [.obj [("label", .str "Request help")]]),
         ("asset_ids", .arr []),
         ("metadata", .obj [("title", .str "Plumbing"), ("description", .str "Plumbing in Austin")]),
         ("analytics", .obj []),
         ("form_routing", .obj [])]
      assetIds := []
      providerDetails := [] }
  changeReason := "first draft"

/-- The next configuration is created and approved. -/
def configured (id : Nat) (now : DateTime) : List Call :=
  [ask (.config (.create "austin-plumbing" siteInput)) now,
   ask (.config (.review id true "reviewed in full")) now]

/-- The next domain is found, bought and entered as registered. -/
def registered (id : Nat) (domain : String) (now : DateTime) : List Call :=
  [ask (.domain (.generate "austin-plumbing" [domain])) now,
   ask (.domain (.decide id true "short and clear")) now,
   ask (.domain (.check id .available (.obj []))) now,
   ask (.domain (.approvePurchase id true "within budget")) now,
   ask (.domain (.record id ⟨"receipt-1", "manual", [("A", "192.0.2.1")]⟩)) now]

/-- The DNS records of a registration are verified. -/
def dnsSeen (id : Nat) (now : DateTime) : Call :=
  ask (.domain (.verify id ⟨[("A", "192.0.2.1")], "dig-1"⟩)) now

def provider (name : String) (now : DateTime) : Call :=
  ask (.provider (.create "austin-plumbing"
    { publicBusinessName := name
      destinationPhone := some "+15125550199"
      claimsReviewReason := "license checked" })) now

def activated (id : Nat) (now : DateTime) : Call :=
  ask (.provider (.activate id "agreement signed")) now

def routed (now : DateTime) : Call :=
  ask (.provider (.route "austin-plumbing" "tracker" "route-1" "healthy")) now

/-- A build that passes its validation. -/
def artifact (name : String) : BuildArtifact where
  key := "key-" ++ name
  files := siteFiles.map fun path => (path, name)
  names := by rw [List.map_map]; exact List.map_id _
  checksum := "sha-" ++ name
  validation := ⟨true, .obj []⟩
  totalBytes := 1

def built (configId : Nat) (environment : BuildEnvironment) (name : String) (now : DateTime) : Call :=
  ask (.build (.build configId environment (artifact name))) now

def judged (buildId : Nat) (approved : Bool) (now : DateTime) : Call :=
  ask (.build (.review buildId
    { approved
      checklist := requiredComplianceChecks.map fun key => (key, true)
      notes := "read page by page" })) now

def deployed (buildId : Nat) (environment : BuildEnvironment) (now : DateTime) : Call :=
  ask (.release (.deploy buildId
    { environment, operatorConfirmation := true, confirmationReason := "go live" })) now

def rolledBack (target : Nat) (now : DateTime) : Call :=
  ask (.release (.rollback "austin-plumbing" ⟨target, true, "broken page"⟩)) now

/-- Every gate of a production deployment is passed. -/
def released : List Call :=
  property ++ configured 1 2 ++ registered 1 "austinplumbing.com" 3 ++
    [dnsSeen 1 4, provider "Lone Star" 5, activated 1 6, routed 7, built 1 .production "one" 8,
     judged 1 true 9, deployed 1 .production 10]

/-- All but the deployment. -/
def siteReady : World := released.dropLast.foldl World.serve untouched

def siteLive : World := released.foldl World.serve untouched

theorem siteLive_eq : siteLive = siteReady.serve (deployed 1 .production 10) := by
  have last : released = released.dropLast ++ [deployed 1 .production 10] := rfl
  rw [siteLive, last, List.foldl_append, siteReady, List.foldl_cons, List.foldl_nil]

end RankRent.Properties
