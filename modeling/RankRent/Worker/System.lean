import RankRent.Library.Runs
import RankRent.Pipeline.Rows

/-!
# Workers over the scan queue

Any number of workers claiming, running, recovering and finishing scans, each
commit one step. An execution is one claim: from `claim_next_scan` to the final
block of `run_scan_by_id`, with what its pipeline's session holds.
-/

namespace RankRent.Worker

/-- The instances a pipeline's session holds. -/
structure Held where
  opportunity : Nat
  loaded : ScanRun
  review : OpportunityState
  deriving DecidableEq

inductive Phase
  /-- Claimed; the pipeline has not loaded the row. -/
  | claimed
  /-- `_prepare_scan_run` loaded the row; nothing is committed yet. -/
  | preparing (held : Held)
  /-- Inside the `try`, after a stage was committed. -/
  | staged (held : Held)
  /-- The pipeline is over; `error` is what the final block will classify. -/
  | ended (error : Option WorkerError)
  | closed
  deriving DecidableEq

structure Execution where
  lease : ScanExecutionLease
  phase : Phase
  deriving DecidableEq

structure State where
  scans : List ScanRun
  reviews : List OpportunityState
  runs : List Execution

/-- One commit, or one event of an execution that commits nothing. The number
names the execution. -/
inductive Op
  | requestCancel (i : Nat) (now : DateTime)
  | cancelQueued (i : Nat) (now : DateTime)
  | claim (i : Nat) (worker token : String) (now : DateTime) (leaseSeconds : ℚ)
  | noteClaim (e : Nat) (now : DateTime)
  | heartbeat (e : Nat) (now : DateTime) (leaseSeconds : ℚ)
  | recover (staleAfter : ℚ) (now : DateTime) (jitter : Nat → ℚ)
  | failMissing (e : Nat) (now : DateTime)
  | load (e opportunity : Nat)
  | start (e : Nat) (profile : ScanProfile) (preliminary : Bool) (source : ScanSource)
      (now : DateTime)
  | refresh (e : Nat)
  | stage (e : Nat) (stage : ScanStage) (now : DateTime)
  | complete (e : Nat) (target : OpportunityState) (reason : String) (cost : Usd) (now : DateTime)
  | cancelRun (e : Nat) (cost : Usd) (now : DateTime)
  | fail (e : Nat) (error : WorkerError) (cost : Usd) (now : DateTime)
  | interrupt (e : Nat) (error : Option WorkerError)
  | final (e : Nat) (now : DateTime) (jitter : ℚ)
  | crash (e : Nat)

/-- `OpportunityReviewError` and the validation error of a transition request. -/
def reviewError : ReviewError → WorkerError
  | .invalidSystemOpportunityTransition =>
    ⟨.opportunityReview, "invalid_system_opportunity_transition"⟩
  | .humanReviewerRequired => ⟨.opportunityReview, "human_reviewer_required"⟩
  | .invalidReason => ⟨.valueError, "decision_reason"⟩

/-- What an execution's event leaves: its row and review if it commits them,
and its phase. -/
structure Effect where
  row : Option ScanRun
  review : Option (Nat × OpportunityState)
  phase : Phase

/-- Nothing is committed. -/
def Effect.only (phase : Phase) : Effect := ⟨none, none, phase⟩

/-- The state a starting scan moves its opportunity to; a preliminary assessment
is a live scan under the testing profile. -/
def startTarget (preliminary : Bool) : OpportunityState :=
  if preliminary then .testingRunning else .fullRunning

def startReason : ScanProfile → String
  | .testing => "Testing scan execution started."
  | .full => "Full scan execution started."

/-- The first commit of `run`: the review transition and `_prepare_scan_run`
are flushed, the row is refreshed, and either it was cancelled, or the first
`_set_stage` compares and commits. -/
def startEffect (lease : ScanExecutionLease) (held : Held) (stored : ScanRun)
    (profile : ScanProfile) (preliminary : Bool) (source : ScanSource) (now : DateTime) : Effect :=
  match transitionSystem held.review (startTarget preliminary) (startReason profile) with
  | .error e => .only (.ended (some (reviewError e)))
  | .ok review =>
    let flushed := ScanRun.flush held.loaded
      (held.loaded.prepareRun held.opportunity source now) stored
    if flushed.leaseCurrent lease now then
      if flushed.cancelRequested then
        match transitionSystem review .needsMoreEvidence cancelReason with
        | .error e => .only (.ended (some (reviewError e)))
        | .ok review =>
          ⟨some (flushed.cancelRun 0 now), some (held.opportunity, review), .ended none⟩
      else
        let row := flushed.enterStage flushed .discoveringKeywords
        ⟨some row, some (held.opportunity, review), .staged ⟨held.opportunity, row, review⟩⟩
    else .only (.ended none)

/-- `_set_stage`. -/
def stageEffect (lease : ScanExecutionLease) (held : Held) (stored : ScanRun) (stage : ScanStage)
    (now : DateTime) : Effect :=
  if stored.leaseCurrent lease now then
    let row := stored.enterStage held.loaded stage
    ⟨some row, none, .staged { held with loaded := row }⟩
  else .only (.ended none)

/-- The last commit of `run`: the completed row is flushed before the lease is
checked on it. -/
def completeEffect (lease : ScanExecutionLease) (held : Held) (stored : ScanRun)
    (target : OpportunityState) (reason : String) (cost : Usd) (now : DateTime) : Effect :=
  match transitionSystem held.review target reason with
  | .error _ => .only (.staged held)
  | .ok review =>
    let flushed := ScanRun.flush held.loaded (held.loaded.completeRun cost now) stored
    if flushed.leaseCurrent lease now then
      ⟨some flushed, some (held.opportunity, review), .ended none⟩
    else .only (.ended none)

/-- The `except ScanCancelled` branch. -/
def cancelEffect (held : Held) (stored : ScanRun) (cost : Usd) (now : DateTime) : Effect :=
  if held.loaded.cancelRequested then
    match transitionSystem held.review .needsMoreEvidence cancelReason with
    | .error e => .only (.ended (some (reviewError e)))
    | .ok review =>
      ⟨some (ScanRun.flush held.loaded (held.loaded.cancelRun cost now) stored),
        some (held.opportunity, review), .ended none⟩
  else .only (.staged held)

/-- The `except Exception` branch. -/
def failEffect (held : Held) (stored : ScanRun) (error : WorkerError) (cost : Usd)
    (now : DateTime) : Effect :=
  match transitionSystem held.review .needsMoreEvidence
      (failReason held.loaded.progressStage error) with
  | .error e => .only (.ended (some (reviewError e)))
  | .ok review =>
    ⟨some (ScanRun.flush held.loaded (held.loaded.failRun error cost now) stored),
      some (held.opportunity, review), .ended (some error)⟩

/-- `_fail_without_retry`, with its `_owns` check. -/
def failMissingEffect (lease : ScanExecutionLease) (stored : ScanRun)
    (review : Option OpportunityState) (now : DateTime) : Effect :=
  let summary := "Queued scan is missing structured service or market metadata."
  if stored.owns lease then
    match stored.opportunityId, review with
    | some opportunity, some current =>
      match transitionSystem current .needsMoreEvidence summary with
      | .error _ => .only .closed
      | .ok next =>
        ⟨some (stored.failWithoutRetry summary now), some (opportunity, next), .closed⟩
    | _, _ => ⟨some (stored.failWithoutRetry summary now), none, .closed⟩
  else .only .closed

/-- What an event of an execution does, given its stored row. -/
def effect (settings : Settings) (reviews : List OpportunityState) (run : Execution)
    (stored : ScanRun) : Op → Effect
  | .noteClaim _ now => ⟨some (stored.noteClaim run.lease.workerId run.lease.leaseToken now), none,
      run.phase⟩
  | .heartbeat _ now leaseSeconds =>
    if stored.owns run.lease then ⟨some (stored.heartbeat now leaseSeconds), none, run.phase⟩
    else .only run.phase
  | .failMissing _ now =>
    match run.phase with
    | .claimed =>
      failMissingEffect run.lease stored (stored.opportunityId.bind fun o => reviews[o]?) now
    | phase => .only phase
  | .load _ opportunity =>
    match run.phase, reviews[opportunity]? with
    | .claimed, some review => .only (.preparing ⟨opportunity, stored, review⟩)
    | phase, _ => .only phase
  | .start _ profile preliminary source now =>
    match run.phase with
    | .preparing held => startEffect run.lease held stored profile preliminary source now
    | phase => .only phase
  | .refresh _ =>
    match run.phase with
    | .staged held => .only (.staged { held with loaded := stored })
    | phase => .only phase
  | .stage _ stage now =>
    match run.phase with
    | .staged held => stageEffect run.lease held stored stage now
    | phase => .only phase
  | .complete _ target reason cost now =>
    match run.phase with
    | .staged held => completeEffect run.lease held stored target reason cost now
    | phase => .only phase
  | .cancelRun _ cost now =>
    match run.phase with
    | .staged held => cancelEffect held stored cost now
    | phase => .only phase
  | .fail _ error cost now =>
    match run.phase with
    | .staged held => failEffect held stored error cost now
    | phase => .only phase
  | .interrupt _ error =>
    match run.phase with
    | .claimed | .preparing _ | .staged _ => .only (.ended error)
    | phase => .only phase
  | .final _ now jitter =>
    match run.phase with
    | .ended error =>
      if stored.leaseMatches run.lease then
        ⟨some (stored.finalBlock settings error now jitter), none, .closed⟩
      else .only .closed
    | phase => .only phase
  | .crash _ => .only .closed
  | _ => .only run.phase

/-- Commit what an event left. -/
def State.commit (s : State) (e : Nat) (run : Execution) (left : Effect) : State where
  scans := match left.row with
    | none => s.scans
    | some row => s.scans.set run.lease.scanId row
  reviews := match left.review with
    | none => s.reviews
    | some (opportunity, review) => s.reviews.set opportunity review
  runs := s.runs.set e { run with phase := left.phase }

/-- `api_cancel_scan`, as far as the scan row goes. -/
def requestedCancel (scan : ScanRun) (now : DateTime) : ScanRun :=
  match scan.status with
  | .completed | .failed | .cancelled => scan
  | .queued => { scan.cancelQueued now with cancelRequested := true }
  | .pending | .running | .quarantined => { scan with cancelRequested := true }

/-- The execution an event belongs to. -/
def Op.execution : Op → Option Nat
  | .requestCancel .. | .cancelQueued .. | .claim .. | .recover .. => none
  | .noteClaim e _ | .heartbeat e _ _ | .failMissing e _ | .load e _ | .start e _ _ _ _ | .refresh e
  | .stage e _ _ | .complete e _ _ _ _ | .cancelRun e _ _ | .fail e _ _ _ | .interrupt e _
  | .final e _ _ | .crash e => some e

/-- The rows after the recovery transaction. -/
def recoveredScans (settings : Settings) (staleAfter : ℚ) (now : DateTime) (jitter : Nat → ℚ)
    (scans : List ScanRun) : List ScanRun :=
  scans.mapIdx fun i scan =>
    if staleScan now (now - staleAfter) scan then recoveredScan settings now (jitter i) scan else scan

theorem reconcileAttempt_scans (now : DateTime) (db : Database) (i : Nat) :
    (CostControls.reconcileAttempt now db i).scans = db.scans := by
  unfold CostControls.reconcileAttempt CostControls.reconcileAttemptReservation
  split
  · rfl
  · simp only [Database.putCall_scans]
    split <;> rfl

theorem reconcileStaleApiCallAttempts_scans (db : Database) (staleBefore : DateTime)
    (scan : Option Nat) (now : DateTime) :
    (CostControls.reconcileStaleApiCallAttempts db staleBefore scan now).scans = db.scans := by
  unfold CostControls.reconcileStaleApiCallAttempts
  generalize CostControls.staleAttempts db staleBefore scan = ids
  induction ids generalizing db with
  | nil => rfl
  | cons i rest ih => rw [List.foldl_cons, ih, reconcileAttempt_scans]

theorem recoverScan_scans (settings : Settings) (now : DateTime) (jitter : Nat → ℚ) (db : Database)
    (i : Nat) :
    (recoverScan settings now jitter db i).scans =
      db.scans.modify i (recoveredScan settings now (jitter i)) := by
  unfold recoverScan
  cases found : db.scans[i]? with
  | none =>
    have short : db.scans.length ≤ i := List.getElem?_eq_none_iff.mp found
    rw [List.modify_eq_self short]
  | some scan =>
    obtain ⟨bound, rfl⟩ := List.getElem?_eq_some_iff.mp found
    simp only [reconcileStaleApiCallAttempts_scans, List.modify_eq_set_getElem?, found,
      Option.map_eq_map, Option.map_some, Option.getD_some]

/-- The scan rows after `recover_stale_scans`' second transaction. -/
theorem recoverScans_scans (settings : Settings) (staleAfter : ℚ) (now : DateTime)
    (jitter : Nat → ℚ) (db : Database) :
    (recoverScans settings staleAfter now jitter db).scans =
      recoveredScans settings staleAfter now jitter db.scans := by
  have selected (j : Nat) (scan : ScanRun) (found : db.scans[j]? = some scan) :
      j ∈ staleScans db now (now - staleAfter) ↔ staleScan now (now - staleAfter) scan = true := by
    obtain ⟨bound, rfl⟩ := List.getElem?_eq_some_iff.mp found
    simp [staleScans, bound]
  have distinct : (staleScans db now (now - staleAfter)).Nodup := List.nodup_range.filter _
  have pass (ids : List Nat) (db : Database) :
      (ids.foldl (recoverScan settings now jitter) db).scans =
        ids.foldl (fun rows i => rows.modify i (recoveredScan settings now (jitter i))) db.scans := by
    induction ids generalizing db with
    | nil => rfl
    | cons i rest ih => rw [List.foldl_cons, List.foldl_cons, ih, recoverScan_scans]
  unfold recoverScans recoveredScans
  refine List.ext_getElem? fun j => ?_
  rw [pass, Table.foldl_modify (fun i => recoveredScan settings now (jitter i)) distinct,
    List.getElem?_mapIdx]
  cases found : db.scans[j]? with
  | none => rfl
  | some scan => simp only [Option.map_some, selected j scan found]

def State.apply (settings : Settings) (s : State) (op : Op) : State :=
  match op with
  | .requestCancel i now =>
    match s.scans[i]? with
    | none => s
    | some scan => { s with scans := s.scans.set i (requestedCancel scan now) }
  | .cancelQueued i now => { s with scans := (cancelQueuedScan s.scans i now).getD s.scans }
  | .claim i worker token now leaseSeconds =>
    match claimQueuedScan s.scans i worker token now leaseSeconds with
    | none => s
    | some scans => { s with scans := scans, runs := s.runs ++ [⟨⟨i, worker, token⟩, .claimed⟩] }
  | .recover staleAfter now jitter =>
    { s with scans := recoveredScans settings staleAfter now jitter s.scans }
  | op =>
    match op.execution.bind fun e => s.runs[e]?.map fun run => (e, run) with
    | none => s
    | some (e, run) =>
      match s.scans[run.lease.scanId]? with
      | none => s
      | some stored => s.commit e run (effect settings s.reviews run stored op)

end RankRent.Worker
