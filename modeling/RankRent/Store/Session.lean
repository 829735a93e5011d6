import RankRent.Store.Schema

/-!
# ORM sessions

Sessions are made with `autoflush=False, expire_on_commit=False`
(`db/base.py`), so an instance a session still holds keeps the attributes it
loaded. `session.get(.., with_for_update=True)` locks the row and returns that
instance as it is, and a flush updates by primary key exactly the columns whose
attribute was changed since the load. A session that holds no instance of the
row reads the stored one.
-/

namespace RankRent

/-- One column of a flush: an attribute set to its loaded value is not written. -/
def written {α : Type} [DecidableEq α] (loaded new stored : α) : α :=
  if new = loaded then stored else new

@[simp] theorem written_self {α : Type} [DecidableEq α] (stored new : α) :
    written stored new stored = new := by
  unfold written
  split <;> simp_all

@[simp] theorem written_unchanged {α : Type} [DecidableEq α] (loaded stored : α) :
    written loaded loaded stored = stored := by simp [written]

/-- The stored row after a session that loaded `loaded` flushes `new`. -/
def ApiCall.flush (loaded new stored : ApiCall) : ApiCall where
  scanRunId := written loaded.scanRunId new.scanRunId stored.scanRunId
  plannedRequestId := written loaded.plannedRequestId new.plannedRequestId stored.plannedRequestId
  rawApiResponseId := written loaded.rawApiResponseId new.rawApiResponseId stored.rawApiResponseId
  provider := written loaded.provider new.provider stored.provider
  endpoint := written loaded.endpoint new.endpoint stored.endpoint
  cacheKey := written loaded.cacheKey new.cacheKey stored.cacheKey
  cacheHit := written loaded.cacheHit new.cacheHit stored.cacheHit
  forceRefresh := written loaded.forceRefresh new.forceRefresh stored.forceRefresh
  estimatedCost := written loaded.estimatedCost new.estimatedCost stored.estimatedCost
  actualCost := written loaded.actualCost new.actualCost stored.actualCost
  status := written loaded.status new.status stored.status
  errorType := written loaded.errorType new.errorType stored.errorType
  errorSummary := written loaded.errorSummary new.errorSummary stored.errorSummary
  startedAt := written loaded.startedAt new.startedAt stored.startedAt
  completedAt := written loaded.completedAt new.completedAt stored.completedAt
  providerTaskId := written loaded.providerTaskId new.providerTaskId stored.providerTaskId
  providerRequestId := written loaded.providerRequestId new.providerRequestId stored.providerRequestId
  attemptToken := written loaded.attemptToken new.attemptToken stored.attemptToken
  attemptState := written loaded.attemptState new.attemptState stored.attemptState
  providerOutcome := written loaded.providerOutcome new.providerOutcome stored.providerOutcome
  reservationState := written loaded.reservationState new.reservationState stored.reservationState
  reservationUsageDate := written loaded.reservationUsageDate new.reservationUsageDate stored.reservationUsageDate
  reservationUsageClass := written loaded.reservationUsageClass new.reservationUsageClass stored.reservationUsageClass
  reservationEstimatedCost := written loaded.reservationEstimatedCost new.reservationEstimatedCost stored.reservationEstimatedCost
  networkStartedAt := written loaded.networkStartedAt new.networkStartedAt stored.networkStartedAt
  reconciledAt := written loaded.reconciledAt new.reconciledAt stored.reconciledAt
  executionWorkerId := written loaded.executionWorkerId new.executionWorkerId stored.executionWorkerId
  executionLeaseToken := written loaded.executionLeaseToken new.executionLeaseToken stored.executionLeaseToken

@[inherit_doc ApiCall.flush]
def ScanRun.flush (loaded new stored : ScanRun) : ScanRun where
  opportunityId := written loaded.opportunityId new.opportunityId stored.opportunityId
  source := written loaded.source new.source stored.source
  status := written loaded.status new.status stored.status
  progressStage := written loaded.progressStage new.progressStage stored.progressStage
  partialOutputs := written loaded.partialOutputs new.partialOutputs stored.partialOutputs
  actualCost := written loaded.actualCost new.actualCost stored.actualCost
  startedAt := written loaded.startedAt new.startedAt stored.startedAt
  completedAt := written loaded.completedAt new.completedAt stored.completedAt
  errorSummary := written loaded.errorSummary new.errorSummary stored.errorSummary
  retryCount := written loaded.retryCount new.retryCount stored.retryCount
  maxAttempts := written loaded.maxAttempts new.maxAttempts stored.maxAttempts
  nextAttemptAt := written loaded.nextAttemptAt new.nextAttemptAt stored.nextAttemptAt
  cancelRequested := written loaded.cancelRequested new.cancelRequested stored.cancelRequested
  workerId := written loaded.workerId new.workerId stored.workerId
  leaseToken := written loaded.leaseToken new.leaseToken stored.leaseToken
  claimedAt := written loaded.claimedAt new.claimedAt stored.claimedAt
  heartbeatAt := written loaded.heartbeatAt new.heartbeatAt stored.heartbeatAt
  leaseExpiresAt := written loaded.leaseExpiresAt new.leaseExpiresAt stored.leaseExpiresAt
  quarantinedAt := written loaded.quarantinedAt new.quarantinedAt stored.quarantinedAt
  quarantineReason := written loaded.quarantineReason new.quarantineReason stored.quarantineReason

/-- A session whose loaded copy is the stored row writes its whole copy. -/
@[simp] theorem ApiCall.flush_self (stored new : ApiCall) :
    ApiCall.flush stored new stored = new := by simp [ApiCall.flush]

@[simp] theorem ScanRun.flush_self (stored new : ScanRun) :
    ScanRun.flush stored new stored = new := by simp [ScanRun.flush]

/-- Nothing changed, nothing written. -/
@[simp] theorem ScanRun.flush_unchanged (loaded stored : ScanRun) :
    ScanRun.flush loaded loaded stored = stored := by simp [ScanRun.flush]

/-- `session.get(ApiCallORM, i, with_for_update=True)` in a session holding
`seen`, if it holds an instance of the row. -/
def Database.getCall (db : Database) (seen : Option ApiCall) (i : Nat) : Option ApiCall :=
  db.calls[i]?.map fun stored => seen.getD stored

/-- Flush `new`, the changed state of what `getCall` returned. -/
def Database.putCall (db : Database) (seen : Option ApiCall) (i : Nat) (new : ApiCall) : Database :=
  match db.calls[i]? with
  | none => db
  | some stored => { db with calls := db.calls.set i (ApiCall.flush (seen.getD stored) new stored) }

@[simp] theorem Database.getCall_none (db : Database) (i : Nat) :
    db.getCall none i = db.calls[i]? := by simp [Database.getCall]

theorem Database.putCall_of_get {db : Database} {i : Nat} {stored : ApiCall}
    (h : db.calls[i]? = some stored) (seen : Option ApiCall) (new : ApiCall) :
    db.putCall seen i new =
      { db with calls := db.calls.set i (ApiCall.flush (seen.getD stored) new stored) } := by
  simp [Database.putCall, h]

@[simp] theorem Database.putCall_usage (db : Database) (seen : Option ApiCall) (i : Nat)
    (new : ApiCall) : (db.putCall seen i new).usage = db.usage := by
  unfold Database.putCall; split <;> rfl

@[simp] theorem Database.putCall_scans (db : Database) (seen : Option ApiCall) (i : Nat)
    (new : ApiCall) : (db.putCall seen i new).scans = db.scans := by
  unfold Database.putCall; split <;> rfl

/-- Reading current rows, a flush replaces the row. -/
theorem Database.putCall_none {db : Database} {i : Nat} {stored : ApiCall}
    (h : db.calls[i]? = some stored) (new : ApiCall) :
    db.putCall none i new = { db with calls := db.calls.set i new } := by
  rw [putCall_of_get h]
  simp

end RankRent

/-!
## Scan execution leases

`services/scan_leases.py`: the check a worker makes before it spends money or
leaves a stage.
-/

namespace RankRent

/-- `ScanLeaseLost`. -/
structure ScanLeaseLost where
  message : String
  deriving DecidableEq

/-- The scan is running under this lease and the lease has not expired. -/
def ScanRun.leaseCurrent (scan : ScanRun) (lease : ScanExecutionLease) (now : DateTime) : Bool :=
  scan.status = .running && scan.workerId = some lease.workerId &&
    scan.leaseToken = some lease.leaseToken &&
    match scan.leaseExpiresAt with
    | none => false
    | some expires => now < expires

/-- `assert_current_scan_lease`. -/
def assertCurrentScanLease (scans : List ScanRun) (lease : ScanExecutionLease) (now : DateTime) :
    Except ScanLeaseLost Unit :=
  match scans[lease.scanId]? with
  | none => .error ⟨s!"Scan {lease.scanId} no longer exists."⟩
  | some scan =>
    if scan.leaseCurrent lease now then .ok ()
    else .error ⟨s!"Worker {lease.workerId} no longer owns the active lease for scan {lease.scanId}."⟩

theorem assertCurrentScanLease_ok {scans : List ScanRun} {lease : ScanExecutionLease}
    {now : DateTime} :
    assertCurrentScanLease scans lease now = .ok () ↔
      ∃ scan, scans[lease.scanId]? = some scan ∧ scan.leaseCurrent lease now = true := by
  unfold assertCurrentScanLease
  cases found : scans[lease.scanId]? with
  | none => simp
  | some scan => by_cases current : scan.leaseCurrent lease now <;> simp [current]

theorem ScanRun.leaseCurrent_iff {scan : ScanRun} {lease : ScanExecutionLease} {now : DateTime} :
    scan.leaseCurrent lease now = true ↔
      scan.status = .running ∧ scan.workerId = some lease.workerId ∧
      scan.leaseToken = some lease.leaseToken ∧
      ∃ expires, scan.leaseExpiresAt = some expires ∧ now < expires := by
  unfold ScanRun.leaseCurrent
  cases scan.leaseExpiresAt <;> simp [and_assoc]

end RankRent
