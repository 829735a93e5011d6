import RankRent.Store.Reviews
import RankRent.Store.Session

/-!
# Review decisions

`transition`, `transition_system` and `assign_owner` of
`opportunity_review/services.py` on the opportunity a session has loaded. A
stored status is its `canonical_state`; requests are validated before they get
here, except the one `transition_system` builds itself.
-/

namespace RankRent.Review

inductive ReviewRole
  | operator | reviewer | admin | system
  deriving DecidableEq, Repr

structure ReviewActor where
  actorId : String
  role : ReviewRole
  deriving DecidableEq

/-- The review columns of a row of `opportunities`. -/
structure Opportunity where
  status : OpportunityState
  ownerUserId : Option String
  reviewVersion : Nat
  approvedAt : Option DateTime
  deriving DecidableEq

/-- A row of `opportunity_reviews`. -/
structure OpportunityReview where
  priorState : OpportunityState
  reviewState : OpportunityState
  ownerUserId : Option String
  reviewerUserId : String
  reviewerRole : ReviewRole
  decision : String
  decisionReason : String
  notes : String
  tags : List String
  reviewVersion : Nat
  approvedAt : Option DateTime
  rejectedAt : Option DateTime
  deriving DecidableEq

structure ReviewTransitionRequest where
  targetState : OpportunityState
  decision : String
  decisionReason : String
  notes : String := ""
  tags : List String := []
  ownerUserId : Option String := none
  expectedReviewVersion : Option Nat := none
  deriving DecidableEq

structure OwnershipRequest where
  ownerUserId : String
  reason : String
  expectedReviewVersion : Option Nat
  deriving DecidableEq

inductive DecisionError
  | versionConflict (expected actual : Nat)
  | invalidTransition (current requested : OpportunityState)
  | invalidSystemTransition (current requested : OpportunityState)
  | humanReviewerRequired
  | approvalEvidenceIncomplete
  | invalidReason
  deriving DecidableEq

/-- `_check_version`. -/
def checkVersion (opportunity : Opportunity) : Option Nat → Except DecisionError Unit
  | none => .ok ()
  | some expected =>
    if opportunity.reviewVersion ≠ expected then
      .error (.versionConflict expected opportunity.reviewVersion)
    else .ok ()

/-- The opportunity and the row of an accepted transition. -/
def accept (opportunity : Opportunity) (request : ReviewTransitionRequest) (actor : ReviewActor)
    (now : DateTime) : Opportunity × OpportunityReview :=
  let owner := request.ownerUserId.or opportunity.ownerUserId
  let approved := request.targetState = .approvedForProperty
  ({ status := request.targetState
     ownerUserId := owner
     reviewVersion := opportunity.reviewVersion + 1
     approvedAt := if approved then some now
       else if opportunity.status = .approvedForProperty then none
       else opportunity.approvedAt },
   { priorState := opportunity.status
     reviewState := request.targetState
     ownerUserId := owner
     reviewerUserId := actor.actorId
     reviewerRole := actor.role
     decision := request.decision
     decisionReason := request.decisionReason
     notes := request.notes
     tags := request.tags
     reviewVersion := opportunity.reviewVersion + 1
     approvedAt := if approved then some now else none
     rejectedAt := if request.targetState = .rejected then some now else none })

/-- `transition`; `complete` is what `approval_completeness` reports. -/
def transition (opportunity : Opportunity) (request : ReviewTransitionRequest) (actor : ReviewActor)
    (complete : Bool) (now : DateTime) : Except DecisionError (Opportunity × OpportunityReview) :=
  match checkVersion opportunity request.expectedReviewVersion with
  | .error e => .error e
  | .ok () =>
    if request.targetState ∉ opportunity.status.allowed then
      .error (.invalidTransition opportunity.status request.targetState)
    else if (request.targetState = .approvedForProperty ∨ request.targetState = .rejected) ∧
        actor.role = .system then
      .error .humanReviewerRequired
    else if request.targetState = .approvedForProperty ∧ !complete then
      .error .approvalEvidenceIncomplete
    else .ok (accept opportunity request actor now)

/-- The actor of the scan pipeline. -/
def scanPipeline : ReviewActor := ⟨"system:scan-pipeline", .system⟩

/-- `transition_system`; no row when the state is reached already. -/
def transitionSystem (opportunity : Opportunity) (target : OpportunityState)
    (decision reason : String) (complete : Bool) (now : DateTime) :
    Except DecisionError (Opportunity × Option OpportunityReview) :=
  if opportunity.status = target then .ok (opportunity, none)
  else if target ∉ opportunity.status.allowed then
    .error (.invalidSystemTransition opportunity.status target)
  else if reason.length < 5 ∨ 2000 < reason.length then .error .invalidReason
  else
    match transition opportunity ⟨target, decision, reason, "", [], opportunity.ownerUserId, none⟩
        scanPipeline complete now with
    | .error e => .error e
    | .ok (opportunity, row) => .ok (opportunity, some row)

/-- `assign_owner`. -/
def assignOwner (opportunity : Opportunity) (request : OwnershipRequest) (actor : ReviewActor) :
    Except DecisionError (Opportunity × OpportunityReview) :=
  match checkVersion opportunity request.expectedReviewVersion with
  | .error e => .error e
  | .ok () => .ok
    ({ opportunity with
       ownerUserId := some request.ownerUserId
       reviewVersion := opportunity.reviewVersion + 1 },
     { priorState := opportunity.status
       reviewState := opportunity.status
       ownerUserId := some request.ownerUserId
       reviewerUserId := actor.actorId
       reviewerRole := actor.role
       decision := "owner_assigned"
       decisionReason := request.reason
       notes := ""
       tags := ["ownership"]
       reviewVersion := opportunity.reviewVersion + 1
       approvedAt := none
       rejectedAt := none })

/-! ## What a decision writes -/

/-- A row written on a loaded opportunity is its next version. -/
structure Versioned (loaded : Opportunity) (expected : Option Nat) (new : Opportunity)
    (row : OpportunityReview) : Prop where
  row : row.reviewVersion = loaded.reviewVersion + 1
  opportunity : new.reviewVersion = loaded.reviewVersion + 1
  expected : ∀ e ∈ expected, e = loaded.reviewVersion

theorem checkVersion_ok {opportunity : Opportunity} {expected : Option Nat}
    (passed : checkVersion opportunity expected = .ok ()) :
    ∀ e ∈ expected, e = opportunity.reviewVersion := by
  cases expected with
  | none => simp
  | some e =>
    simp only [checkVersion] at passed
    split at passed
    · cases passed
    · rename_i same
      simpa [eq_comm] using same

theorem transition_ok {loaded new : Opportunity} {request : ReviewTransitionRequest}
    {actor : ReviewActor} {complete : Bool} {now : DateTime} {row : OpportunityReview}
    (accepted : transition loaded request actor complete now = .ok (new, row)) :
    Versioned loaded request.expectedReviewVersion new row ∧ new.status = request.targetState ∧
      request.targetState ∈ loaded.status.allowed := by
  unfold transition at accepted
  split at accepted
  · cases accepted
  · rename_i passed
    split at accepted
    · cases accepted
    · rename_i legal
      split at accepted
      · cases accepted
      · split at accepted
        · cases accepted
        · cases accepted
          exact ⟨⟨rfl, rfl, checkVersion_ok passed⟩, rfl, by simpa using legal⟩

theorem assignOwner_ok {loaded new : Opportunity} {request : OwnershipRequest} {actor : ReviewActor}
    {row : OpportunityReview} (accepted : assignOwner loaded request actor = .ok (new, row)) :
    Versioned loaded request.expectedReviewVersion new row ∧ new.status = loaded.status := by
  unfold assignOwner at accepted
  split at accepted
  · cases accepted
  · rename_i passed
    cases accepted
    exact ⟨⟨rfl, rfl, checkVersion_ok passed⟩, rfl⟩

theorem transitionSystem_some {loaded new : Opportunity} {target : OpportunityState}
    {decision reason : String} {complete : Bool} {now : DateTime} {row : OpportunityReview}
    (accepted : transitionSystem loaded target decision reason complete now = .ok (new, some row)) :
    Versioned loaded none new row := by
  unfold transitionSystem at accepted
  split at accepted
  · cases accepted
  · split at accepted
    · cases accepted
    · split at accepted
      · cases accepted
      · split at accepted
        · cases accepted
        · rename_i passed
          cases accepted
          exact (transition_ok passed).1

/-- The state part of `transition_system` is the one the scan pipeline's model
uses. -/
theorem transitionSystem_status (loaded : Opportunity) (target : OpportunityState)
    (decision reason : String) (complete : Bool) (now : DateTime) :
    (transitionSystem loaded target decision reason complete now).toOption.map
        (fun result => result.1.status) =
      (RankRent.transitionSystem loaded.status target reason).toOption := by
  unfold transitionSystem RankRent.transitionSystem
  split
  · rfl
  · split
    · rfl
    · rename_i legal
      split
      · rfl
      · simp only [transition, checkVersion, legal, scanPipeline, ↓reduceIte]
        by_cases human : target = .approvedForProperty ∨ target = .rejected
        · simp [human, Except.toOption]
        · obtain ⟨approve, reject⟩ := not_or.mp human
          simp [approve, reject, accept, Except.toOption]

end RankRent.Review
