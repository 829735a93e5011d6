import RankRent.Store.Schema

/-!
# Opportunity review states

`opportunity_review/services.py`: the state machine of an opportunity, as far
as the scan pipeline and the worker drive it (`transition_system`).
-/

namespace RankRent

inductive OpportunityState
  | discovered | prefilterReview | testingPlanned | testingRunning | preliminaryReview
  | fullScanApproved | fullRunning | fullReview | needsMoreEvidence | approvedForProperty
  | rejected | archived
  deriving DecidableEq, Repr

/-- `ALLOWED_TRANSITIONS`. -/
def OpportunityState.allowed : OpportunityState → List OpportunityState
  | .discovered => [.prefilterReview, .testingPlanned, .testingRunning, .preliminaryReview,
      .fullRunning, .fullReview, .needsMoreEvidence, .rejected, .archived]
  | .prefilterReview => [.testingPlanned, .testingRunning, .fullRunning, .needsMoreEvidence,
      .rejected, .archived]
  | .testingPlanned => [.testingRunning, .needsMoreEvidence, .rejected, .archived]
  | .testingRunning => [.preliminaryReview, .needsMoreEvidence, .testingPlanned]
  | .preliminaryReview => [.testingPlanned, .fullScanApproved, .needsMoreEvidence, .rejected,
      .archived]
  | .fullScanApproved => [.fullRunning, .preliminaryReview, .needsMoreEvidence, .rejected]
  | .fullRunning => [.fullReview, .needsMoreEvidence, .fullScanApproved]
  | .fullReview => [.approvedForProperty, .fullScanApproved, .needsMoreEvidence, .rejected,
      .archived]
  | .needsMoreEvidence => [.testingPlanned, .testingRunning, .preliminaryReview, .fullScanApproved,
      .fullRunning, .fullReview, .rejected, .archived]
  | .approvedForProperty => [.fullRunning, .fullReview, .needsMoreEvidence, .archived]
  | .rejected => [.prefilterReview, .preliminaryReview, .fullReview, .archived]
  | .archived => []

/-- What `transition_system` raises. -/
inductive ReviewError
  | invalidSystemOpportunityTransition
  | humanReviewerRequired
  | invalidReason
  deriving DecidableEq

/-- `transition_system` on the state the session loaded: nothing to do in the
target state, else the move must be allowed, its reason must validate (5 to
2000 characters), and approval and rejection are left to people. -/
def transitionSystem (current target : OpportunityState) (reason : String) :
    Except ReviewError OpportunityState :=
  if current = target then .ok current
  else if target ∉ current.allowed then .error .invalidSystemOpportunityTransition
  else if reason.length < 5 ∨ 2000 < reason.length then .error .invalidReason
  else if target = .approvedForProperty ∨ target = .rejected then .error .humanReviewerRequired
  else .ok target

theorem transitionSystem_ok {current target next : OpportunityState} {reason : String}
    (h : transitionSystem current target reason = .ok next) : next = target := by
  unfold transitionSystem at h
  split at h
  · rename_i same
    cases h
    exact same
  · split at h
    · cases h
    · split at h
      · cases h
      · split at h
        · cases h
        · cases h
          rfl

end RankRent
