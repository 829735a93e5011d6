import RankRent.CostControls.LedgerSteps
import RankRent.Provider.Requests

/-!
# Late finishers

A recovery pass reconciles an attempt to an unknown outcome while the worker
that submitted it is still waiting; the worker then runs its completion, failure
or cancellation path on the copy of the row it still holds.
-/

namespace RankRent.Provider

open CostControls

/-- The path the worker runs. -/
inductive LatePath
  | completed (c : CallCompletion)
  | failed (f : CallFailure)
  | cancelled (now : DateTime)

def LatePath.record (seen : ApiCall) : LatePath → CallRecord
  | .completed c => c.record
  | .failed f => f.record seen true
  | .cancelled now => cancelRecord seen now

def LatePath.request (settings : Settings) (seen : ApiCall) : LatePath → FinishRequest
  | .completed c => c.request settings
  | .failed f => f.request seen true
  | .cancelled now => cancelRequest seen now

/-- The worker's transaction. -/
def LatePath.run (settings : Settings) (db : Database) (i : Nat) (seen : ApiCall)
    (r : UsageReservation) : LatePath → Database
  | .completed c => completeCall settings db i seen r c
  | .failed f => failCall db i seen (some r) f
  | .cancelled now => cancelCall db i seen (some r) now

theorem LatePath.run_eq (settings : Settings) (db : Database) (i : Nat) (seen : ApiCall)
    (r : UsageReservation) (path : LatePath) :
    path.run settings db i seen r =
      closeCall db i seen (some r) (path.record seen) (path.request settings seen) := by
  cases path <;> rfl

/-- A submitted attempt, with its reservation in both its buckets. -/
structure InFlight (db : Database) (i : Nat) (row : ApiCall) (r : UsageReservation) : Prop where
  stored : db.calls[i]? = some row
  state : row.attemptState = .inFlight
  target : r.apiCallId = some i
  owns : Owns row r
  named : r.endpoint ≠ ""
  estimate : 0 ≤ r.estimatedCost
  covered : ∀ key, UsageKey.Touched r.usageDate r.usageClass r.provider r.endpoint key →
    r.estimatedCost ≤ (lockedBucket db.usage key).reservedSpend

/-- What a bucket counts as spent or still open. -/
def counted (b : ProviderDailyUsage) : Usd := b.spend + b.unreconciledSpend

/-- Over the recovery of an attempt (`before` to `recovered`) and the late path
of its worker (`current` to `finished`), its estimate leaves the reserved spend
once and is counted once, in each of its buckets. -/
def CountedOnce (r : UsageReservation) (before recovered current finished : Database) : Prop :=
  ∀ key, UsageKey.Touched r.usageDate r.usageClass r.provider r.endpoint key →
    ((lockedBucket before.usage key).reservedSpend - (lockedBucket recovered.usage key).reservedSpend) +
        ((lockedBucket current.usage key).reservedSpend -
          (lockedBucket finished.usage key).reservedSpend) = r.estimatedCost ∧
      (counted (lockedBucket recovered.usage key) - counted (lockedBucket before.usage key)) +
        (counted (lockedBucket finished.usage key) - counted (lockedBucket current.usage key)) =
          r.estimatedCost

section Late
variable {db : Database} {i : Nat} {row stored : ApiCall} {r : UsageReservation}

/-- Recovery takes a submitted attempt out of the reserved spend and counts it as
unreconciled. -/
theorem InFlight.recovered (flying : InFlight db i row r) (now : DateTime) {key : UsageKey}
    (touched : UsageKey.Touched r.usageDate r.usageClass r.provider r.endpoint key) :
    (lockedBucket (reconcileAttempt now db i).usage key).reservedSpend =
        (lockedBucket db.usage key).reservedSpend - r.estimatedCost ∧
      counted (lockedBucket (reconcileAttempt now db i).usage key) =
        counted (lockedBucket db.usage key) + r.estimatedCost := by
  have sent : row.maybeSent = true := by simp [ApiCall.maybeSent, flying.state]
  obtain ⟨day, -, date, posted⟩ | ⟨undated, -⟩ := reconcileAttempt_cases flying.stored now
  · rw [flying.owns.day] at date
    cases date
    rw [posted]
    simp only [Database.putCall_usage, postUsage_usage, flying.owns.cls, Option.getD_some,
      flying.owns.provider, flying.owns.endpoint, flying.owns.cost, sent]
    rw [lockedBucket_postBuckets (keepsKey_release _ _) flying.named, if_pos touched]
    have covered := flying.covered key touched
    constructor
    · simp only [releaseUsage]
      exact max_eq_right (by linarith)
    · simp only [releaseUsage, counted, ↓reduceIte]
      ring
  · have none := undated flying.owns.state
    rw [flying.owns.day] at none
    cases none

/-- The late path posts the reservation once more. -/
theorem LatePath.posted (settings : Settings) (owns : Owns row r) (target : r.apiCallId = some i)
    (there : db.calls[i]? = some stored) (path : LatePath) :
    path.run settings db i row r =
      { postUsage db r.usageDate r.usageClass r.provider r.endpoint
          (finishUsage r.estimatedCost (path.request settings row)) with
        calls := db.calls.set i (closedRow row stored (path.record row)
          (path.request settings row)) } := by
  rw [path.run_eq]
  exact closeCall_open there target (by rw [owns.state]; rfl) _ _

/-- The outcome that is posted is the one that is recorded. -/
theorem LatePath.agree (settings : Settings) (seen : ApiCall) (path : LatePath)
    (unknown : (path.request settings seen).providerOutcomeUnknown = true) :
    (path.record seen).status = .providerOutcomeUnknown := by
  cases path with
  | completed c => cases unknown
  | failed f =>
    have ambiguous : f.ambiguous seen true = true := unknown
    simp [LatePath.record, CallFailure.record, CallFailure.status, ambiguous]
  | cancelled now =>
    have started : seen.networkStartedAt.isSome = true := unknown
    simp [LatePath.record, cancelRecord, started]

end Late

/-- The provider answers the late request with an error of its own. -/
def refused : LatePath :=
  .failed ⟨"DataForSEOError", "HTTP 400", false, false, false, true, none, 101⟩

end RankRent.Provider
