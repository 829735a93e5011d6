import RankRent.Store.Session

/-!
# Call rows as the provider writes them

The row updates of `integrations/dataforseo/live.py`: a new row, the reset of a
failed row for another attempt, and `_finish_api_call`.
-/

namespace RankRent

/-- `{"failed", "failed_before_network", "blocked"}`: the statuses that leave a
planned request unused. -/
def CallStatus.retryable : CallStatus → Bool
  | .failed | .failedBeforeNetwork | .blocked => true
  | _ => false

/-- What `_reserve_api_call` uses of a cached response. -/
structure CachedResponse where
  id : Nat
  cacheKey : String
  providerTaskId : Option String
  providerRequestId : Option String
  deriving DecidableEq

/-- What `_reserve_api_call` writes on a row, besides the plan it is for. -/
structure Preparation where
  cacheHit : Bool
  forceRefresh : Bool
  attemptToken : String
  lease : Option ScanExecutionLease
  response : Option CachedResponse
  now : DateTime
  deriving DecidableEq

/-- `status` of `_start_api_call` and `_record_cache_hit`. -/
def Preparation.status (p : Preparation) : CallStatus := if p.cacheHit then .cacheHit else .prepared

def Preparation.attemptState (p : Preparation) : AttemptState :=
  if p.cacheHit then .cacheHit else .prepared

/-- The row `_reserve_api_call` adds for a planned request. -/
def ApiCall.new (scanRunId : Option Nat) (plannedRequestId : Option String)
    (provider endpoint cacheKey : String) (estimatedCost : Usd) (p : Preparation) : ApiCall where
  scanRunId := scanRunId
  plannedRequestId := plannedRequestId
  rawApiResponseId := p.response.map CachedResponse.id
  provider := provider
  endpoint := endpoint
  cacheKey := (p.response.map CachedResponse.cacheKey).getD cacheKey
  cacheHit := p.cacheHit
  forceRefresh := p.forceRefresh
  estimatedCost := estimatedCost
  actualCost := 0
  status := p.status
  errorType := none
  errorSummary := none
  startedAt := some p.now
  completedAt := if p.cacheHit then some p.now else none
  providerTaskId := p.response.bind CachedResponse.providerTaskId
  providerRequestId := p.response.bind CachedResponse.providerRequestId
  attemptToken := some p.attemptToken
  attemptState := p.attemptState
  providerOutcome := .notSent
  reservationState := .none
  reservationUsageDate := none
  reservationUsageClass := none
  reservationEstimatedCost := 0
  networkStartedAt := none
  reconciledAt := none
  executionWorkerId := p.lease.map ScanExecutionLease.workerId
  executionLeaseToken := p.lease.map ScanExecutionLease.leaseToken

/-- The reset of a failed row (`retry_row`). The cache key stays. -/
def ApiCall.retry (row : ApiCall) (p : Preparation) : ApiCall :=
  { row with
    status := p.status
    attemptState := p.attemptState
    providerOutcome := .notSent
    reservationState := .none
    reservationUsageDate := none
    reservationUsageClass := none
    reservationEstimatedCost := 0
    networkStartedAt := none
    reconciledAt := none
    attemptToken := some p.attemptToken
    executionWorkerId := p.lease.map ScanExecutionLease.workerId
    executionLeaseToken := p.lease.map ScanExecutionLease.leaseToken
    startedAt := some p.now
    completedAt := if p.cacheHit then some p.now else none
    errorType := none
    errorSummary := none
    cacheHit := p.cacheHit
    forceRefresh := p.forceRefresh
    rawApiResponseId := match p.response with
      | some response => some response.id
      | none => row.rawApiResponseId
    providerTaskId := match p.response with
      | some response => response.providerTaskId
      | none => row.providerTaskId
    providerRequestId := match p.response with
      | some response => response.providerRequestId
      | none => row.providerRequestId }

/-- What `_finish_api_call` takes from a parsed response; the cost of a sandbox
response is zero. -/
structure CallPayload where
  cost : Usd
  taskId : Option String
  requestId : Option String
  deriving DecidableEq

/-- The arguments of `_finish_api_call`. -/
structure CallRecord where
  status : CallStatus
  payload : Option CallPayload
  rawResponseId : Option Nat
  cacheKey : Option String
  error : Option (String × String)
  now : DateTime
  deriving DecidableEq

/-- The `if`/`elif` chain on the recorded status. -/
def CallStatus.attempt : CallStatus → Option (AttemptState × ProviderOutcome)
  | .completed => some (.completed, .completed)
  | .cacheHit => some (.cacheHit, .notSent)
  | .providerOutcomeUnknown => some (.providerOutcomeUnknown, .unknown)
  | .failedBeforeNetwork => some (.failedBeforeNetwork, .notSent)
  | .blocked => some (.blocked, .notSent)
  | .failed => some (.failed, .failed)
  | _ => none

/-- `_finish_api_call`: an unknown outcome is only overwritten by another. -/
def ApiCall.finish (row : ApiCall) (r : CallRecord) : ApiCall :=
  if row.status = .providerOutcomeUnknown ∧ r.status ≠ .providerOutcomeUnknown then row
  else
    { row with
      status := r.status
      completedAt := some r.now
      cacheKey := r.cacheKey.getD row.cacheKey
      rawApiResponseId := r.rawResponseId.or row.rawApiResponseId
      actualCost := match r.payload with
        | some payload => payload.cost
        | none => row.actualCost
      providerTaskId := match r.payload with
        | some payload => payload.taskId
        | none => row.providerTaskId
      providerRequestId := match r.payload with
        | some payload => payload.requestId
        | none => row.providerRequestId
      errorType := match r.error with
        | some error => some error.1
        | none => row.errorType
      errorSummary := match r.error with
        | some error => some error.2
        | none => row.errorSummary
      attemptState := match r.status.attempt with
        | some outcome => outcome.1
        | none => row.attemptState
      providerOutcome := match r.status.attempt with
        | some outcome => outcome.2
        | none => row.providerOutcome }

end RankRent
