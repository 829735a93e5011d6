import RankRent.CostControls.Operations

/-!
# The durable scan queue

`services/scan_worker.py`: claiming, heartbeats, recovery of stale scans and
the final block of `run_scan_by_id`. Every function here is one transaction on
current rows; the value of `random.random()` is a parameter.
-/

namespace RankRent

/-! ## Errors -/

/-- The classes `is_retryable_error` and the pipeline tell apart. -/
inductive ErrorClass
  | circuitOpen | configuration | valueError | opportunityReview | runtime | scanLeaseLost
  | scanCancelled | timeout | httpxTimeout | operational
  | dataForSEOAuthentication | dataForSEOPlan | dataForSEOSchema | dataForSEORateLimit | dataForSEO
  | other
  deriving DecidableEq

/-- An exception: its class and `str(error)`. -/
structure WorkerError where
  cls : ErrorClass
  message : String
  deriving DecidableEq

/-- `is_retryable_error`. -/
def isRetryableError (error : WorkerError) : Bool :=
  match error.cls with
  | .circuitOpen | .configuration | .dataForSEOAuthentication | .dataForSEOPlan | .dataForSEOSchema
  | .valueError => false
  | .timeout | .httpxTimeout | .operational | .dataForSEORateLimit => true
  | .dataForSEO =>
    ["transient", "timeout", "rate limit", "temporar", "http 5"].any
      (PyString.contains error.message.toLower)
  | .opportunityReview | .runtime | .scanLeaseLost | .scanCancelled | .other => false

/-! ## Columns of a scan row -/

/-- `WORKER_SCAN_SOURCES`. -/
def ScanSource.worker : ScanSource → Bool
  | .manualAsync | .promotionAsync | .batchReviewAsync => true
  | .manual | .fixture => false

/-- `TERMINAL_SCAN_STATUSES`. -/
def ScanStatus.terminal : ScanStatus → Bool
  | .completed | .failed | .cancelled | .quarantined => true
  | .pending | .queued | .running => false

/-- The row `_queue_scan` adds. -/
def ScanRun.enqueue (opportunityId : Nat) (source : ScanSource) (retryCount maxAttempts : Nat) :
    ScanRun where
  opportunityId := some opportunityId
  source := source
  status := .queued
  progressStage := .queued
  partialOutputs := []
  actualCost := 0
  startedAt := none
  completedAt := none
  errorSummary := none
  retryCount := retryCount
  maxAttempts := maxAttempts
  nextAttemptAt := none
  cancelRequested := false
  workerId := none
  leaseToken := none
  claimedAt := none
  heartbeatAt := none
  leaseExpiresAt := none
  quarantinedAt := none
  quarantineReason := none

/-- `_lease_matches`. -/
def ScanRun.leaseMatches (scan : ScanRun) (lease : ScanExecutionLease) : Bool :=
  scan.workerId = some lease.workerId && scan.leaseToken = some lease.leaseToken

/-- `_owns`. -/
def ScanRun.owns (scan : ScanRun) (lease : ScanExecutionLease) : Bool :=
  scan.status = .running && scan.leaseMatches lease

/-- `_clear_lease`. -/
def ScanRun.clearLease (scan : ScanRun) : ScanRun :=
  { scan with
    workerId := none
    leaseToken := none
    claimedAt := none
    heartbeatAt := none
    leaseExpiresAt := none }

/-- `scan.max_attempts or settings.scan_worker_max_attempts`. -/
def ScanRun.attemptLimit (settings : Settings) (scan : ScanRun) : Nat :=
  if scan.maxAttempts = 0 then settings.scanWorkerMaxAttempts else scan.maxAttempts

/-- `retry_delay_seconds`. -/
def retryDelaySeconds (retryCount : Nat) (base maximum jitter : ℚ) : ℚ :=
  min maximum (base * 2 ^ (retryCount - 1)) * (1 / 2 + jitter * (1 / 2))

/-- `_retry_or_quarantine`. -/
def ScanRun.retryOrQuarantine (settings : Settings) (scan : ScanRun) (errorSummary : String)
    (now : DateTime) (failedStage : OutputValue) (jitter : ℚ) : ScanRun :=
  let retryCount := scan.retryCount + 1
  if scan.attemptLimit settings ≤ retryCount then
    { scan with
      retryCount := retryCount
      errorSummary := some errorSummary
      status := .quarantined
      progressStage := .quarantined
      completedAt := some now
      quarantinedAt := some now
      quarantineReason := some errorSummary
      partialOutputs := ((scan.partialOutputs.put "poison_job" (.flag true)).put
        "failed_stage" failedStage).put "attempts" (.count retryCount) }
  else
    let delay := retryDelaySeconds retryCount settings.scanWorkerRetryBaseSeconds
      settings.scanWorkerRetryMaxSeconds jitter
    { scan with
      retryCount := retryCount
      errorSummary := some errorSummary
      status := .queued
      progressStage := .queued
      startedAt := none
      completedAt := none
      nextAttemptAt := some (now + delay)
      partialOutputs := ((((scan.partialOutputs.put "retry_classification" (.text "retryable")).put
        "failed_stage" failedStage).put "retry_count" (.count retryCount)).put
        "retry_delay_seconds" (.seconds delay)).put "next_attempt_at" (.at (now + delay)) }

/-- `_cancel_scan`. -/
def ScanRun.cancel (scan : ScanRun) (now : DateTime) (timedOut : Bool) : ScanRun :=
  { scan with
    status := .cancelled
    progressStage := .cancelled
    completedAt := some now
    partialOutputs := ((scan.partialOutputs.put "cancelled" (.flag true)).put
      "cancelled_after_worker_timeout" (.flag timedOut)).put "cancelled_at" (.at now) }

/-- The `UPDATE` of `claim_next_scan` for a queued scan that was cancelled. -/
def ScanRun.cancelQueued (scan : ScanRun) (now : DateTime) : ScanRun :=
  { scan with
    status := .cancelled
    progressStage := .cancelled
    completedAt := some now
    workerId := none
    heartbeatAt := none
    leaseToken := none
    leaseExpiresAt := none }

/-- The `UPDATE` that claims a queued scan. -/
def ScanRun.claim (scan : ScanRun) (worker token : String) (now : DateTime) (leaseSeconds : ℚ) :
    ScanRun :=
  { scan with
    status := .running
    progressStage := .planning
    startedAt := some now
    completedAt := none
    errorSummary := none
    workerId := some worker
    leaseToken := some token
    claimedAt := some now
    heartbeatAt := some now
    leaseExpiresAt := some (now + leaseSeconds)
    nextAttemptAt := none }

/-- What `claim_next_scan` notes in `partial_outputs` after its claim. -/
def ScanRun.noteClaim (scan : ScanRun) (worker token : String) (now : DateTime) : ScanRun :=
  { scan with
    partialOutputs := ((scan.partialOutputs.put "claimed_by" (.text worker)).put "claimed_at"
      (.at now)).put "lease_token" (.text token) }

/-- The `UPDATE` of `_heartbeat_scan`. -/
def ScanRun.heartbeat (scan : ScanRun) (now : DateTime) (leaseSeconds : ℚ) : ScanRun :=
  { scan with heartbeatAt := some now, leaseExpiresAt := some (now + leaseSeconds) }

/-- What the final block makes of a failed row. -/
def ScanRun.classifyFailure (settings : Settings) (scan : ScanRun) (error : WorkerError)
    (now : DateTime) (jitter : ℚ) : ScanRun :=
  if isRetryableError error then
    scan.retryOrQuarantine settings error.message now
      ((scan.partialOutputs.get "failed_stage").getD (.text "unknown")) jitter
  else
    { scan with partialOutputs :=
        scan.partialOutputs.put "retry_classification" (.text "non_retryable") }

/-- The final block of `run_scan_by_id`, on a row whose lease matches. -/
def ScanRun.finalBlock (settings : Settings) (scan : ScanRun) (error : Option WorkerError)
    (now : DateTime) (jitter : ℚ) : ScanRun :=
  let classified := match error with
    | some error =>
      if scan.status = .failed then scan.classifyFailure settings error now jitter else scan
    | none => scan
  if classified.status.terminal || classified.status = .queued then classified.clearLease
  else classified

/-- The row part of `_fail_without_retry`. -/
def ScanRun.failWithoutRetry (scan : ScanRun) (errorSummary : String) (now : DateTime) : ScanRun :=
  ScanRun.clearLease
    { scan with
      status := .failed
      progressStage := .failed
      errorSummary := some errorSummary
      completedAt := some now
      partialOutputs := ((scan.partialOutputs.put "worker_error" (.text errorSummary)).put
        "retry_classification" (.text "non_retryable")).put "failed_at" (.at now) }

/-! ## Transactions -/

namespace Worker

/-- The row the candidate query of `claim_next_scan` returns. -/
def claimable (now : DateTime) (scan : ScanRun) : Bool :=
  scan.source.worker && scan.status = .queued &&
    match scan.nextAttemptAt with
    | none => true
    | some due => due ≤ now

/-- The ids of the candidate query. -/
def queuedIds (scans : List ScanRun) (now : DateTime) : List Nat :=
  ((List.range scans.length).filter fun i =>
    match scans[i]? with
    | none => false
    | some scan => claimable now scan).take 10

/-- The compare-and-set that cancels; `none` when it matched no row. -/
def cancelQueuedScan (scans : List ScanRun) (i : Nat) (now : DateTime) : Option (List ScanRun) :=
  match scans[i]? with
  | none => none
  | some scan =>
    if scan.status = .queued ∧ scan.cancelRequested then some (scans.set i (scan.cancelQueued now))
    else none

/-- The compare-and-set that claims; `none` when it matched no row. -/
def claimQueuedScan (scans : List ScanRun) (i : Nat) (worker token : String) (now : DateTime)
    (leaseSeconds : ℚ) : Option (List ScanRun) :=
  match scans[i]? with
  | none => none
  | some scan =>
    if scan.status = .queued ∧ !scan.cancelRequested ∧ (∀ due ∈ scan.nextAttemptAt, due ≤ now) then
      some (scans.set i (scan.claim worker token now leaseSeconds))
    else none

/-- The note after a claim. -/
def noteClaimedScan (scans : List ScanRun) (i : Nat) (worker token : String) (now : DateTime) :
    List ScanRun :=
  match scans[i]? with
  | none => scans
  | some scan => scans.set i (scan.noteClaim worker token now)

/-- The loop of `claim_next_scan` over its candidates; `token` is
`uuid.uuid4().hex` of each round. -/
def claimFirst (worker : String) (token : Nat → String) (now : DateTime) (leaseSeconds : ℚ) :
    List Nat → List ScanRun → List ScanRun × Option ScanExecutionLease
  | [], scans => (scans, none)
  | i :: rest, scans =>
    match cancelQueuedScan scans i now with
    | some scans => claimFirst worker token now leaseSeconds rest scans
    | none =>
      match claimQueuedScan scans i worker (token i) now leaseSeconds with
      | some scans => (noteClaimedScan scans i worker (token i) now, some ⟨i, worker, token i⟩)
      | none => claimFirst worker token now leaseSeconds rest scans

/-- `claim_next_scan`. -/
def claimNextScan (scans : List ScanRun) (worker : String) (token : Nat → String)
    (leaseSeconds : ℚ) (now : DateTime) : List ScanRun × Option ScanExecutionLease :=
  claimFirst worker token now leaseSeconds (queuedIds scans now) scans

/-- The compare-and-set of `_heartbeat_scan`; `none` sets `lease_lost_event`. -/
def heartbeatScan (scans : List ScanRun) (lease : ScanExecutionLease) (now : DateTime)
    (leaseSeconds : ℚ) : Option (List ScanRun) :=
  match scans[lease.scanId]? with
  | none => none
  | some scan =>
    if scan.owns lease then some (scans.set lease.scanId (scan.heartbeat now leaseSeconds))
    else none

/-- The `WHERE` of `recover_stale_scans`. -/
def staleScan (now cutoff : DateTime) (scan : ScanRun) : Bool :=
  scan.source.worker && scan.status = .running && scan.completedAt = none &&
    ((match scan.leaseExpiresAt with
        | none => true
        | some expires => expires < now) ||
      match scan.heartbeatAt with
        | none => true
        | some beat => beat < cutoff)

/-- What recovery makes of a stale scan. -/
def recoveredScan (settings : Settings) (now : DateTime) (jitter : ℚ) (scan : ScanRun) : ScanRun :=
  ScanRun.clearLease <|
    if scan.cancelRequested then scan.cancel now true
    else scan.retryOrQuarantine settings "Worker lease expired before completion." now
      (.stage scan.progressStage) jitter

/-- One scan of the recovery loop, its provider attempts first. -/
def recoverScan (settings : Settings) (now : DateTime) (jitter : Nat → ℚ) (db : Database) (i : Nat) :
    Database :=
  match db.scans[i]? with
  | none => db
  | some scan =>
    let db := CostControls.reconcileStaleApiCallAttempts db (now + 1 / 1000000) (some i) now
    { db with scans := db.scans.set i (recoveredScan settings now (jitter i) scan) }

/-- The scans the recovery query returns, in id order. -/
def staleScans (db : Database) (now cutoff : DateTime) : List Nat :=
  (List.range db.scans.length).filter fun i =>
    match db.scans[i]? with
    | none => false
    | some scan => staleScan now cutoff scan

/-- The second transaction of `recover_stale_scans`. -/
def recoverScans (settings : Settings) (staleAfter : ℚ) (now : DateTime) (jitter : Nat → ℚ)
    (db : Database) : Database :=
  (staleScans db now (now - staleAfter)).foldl (recoverScan settings now jitter) db

/-- `recover_stale_scans`. -/
def recoverStaleScans (settings : Settings) (staleAfter : ℚ) (now : DateTime) (jitter : Nat → ℚ)
    (db : Database) : Database :=
  recoverScans settings staleAfter now jitter
    (CostControls.reconcileStaleApiCallAttempts db (now - staleAfter) none now)

/-- The final block of `run_scan_by_id`. -/
def finishRun (settings : Settings) (scans : List ScanRun) (lease : ScanExecutionLease)
    (error : Option WorkerError) (now : DateTime) (jitter : ℚ) : List ScanRun :=
  match scans[lease.scanId]? with
  | none => scans
  | some scan =>
    if scan.leaseMatches lease then
      scans.set lease.scanId (scan.finalBlock settings error now jitter)
    else scans

end Worker

end RankRent
