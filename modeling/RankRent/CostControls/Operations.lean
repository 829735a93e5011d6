import RankRent.Library.PyString
import RankRent.Library.Table
import RankRent.Store.Session

/-!
# Paid-call policy

`services/cost_controls.py`. Every operation takes the instance of the call row
its session already holds (`seen`, `none` when it holds none) and is one
database transaction; an operation that raises after it locked the daily
buckets leaves those rows behind, empty.
-/

namespace RankRent

/-! ## Columns of a call row -/

/-- What `reserve_provider_call` sets. -/
def ApiCall.reserve (row : ApiCall) (day : Date) (cls : UsageClass) (estimate : Usd) : ApiCall :=
  { row with
    reservationState := .reserved
    reservationUsageDate := some day
    reservationUsageClass := some cls
    reservationEstimatedCost := estimate
    attemptState := .reserved }

/-- What `mark_provider_call_submitted` sets. -/
def ApiCall.submit (row : ApiCall) (now : DateTime) : ApiCall :=
  { row with
    attemptState := .inFlight
    providerOutcome := .submitted
    networkStartedAt := some now
    status := .inFlight }

/-- What `finish_provider_call` sets. -/
def ApiCall.settle (row : ApiCall) (unknown : Bool) (now : DateTime) : ApiCall :=
  if unknown then
    { row with
      reservationState := .reconciledUnknown
      reconciledAt := some now
      attemptState := .providerOutcomeUnknown
      providerOutcome := .unknown
      status := .providerOutcomeUnknown }
  else { row with reservationState := .finalized, reconciledAt := some now }

/-- What `_reconcile_attempt_reservation` sets. -/
def ApiCall.reconcileReservation (row : ApiCall) (unknown : Bool) (now : DateTime) : ApiCall :=
  { row with
    reservationState := if unknown then .reconciledUnknown else .released
    reconciledAt := some now }

/-- What the loop of `reconcile_stale_api_call_attempts` sets after it. -/
def ApiCall.abandon (row : ApiCall) (unknown : Bool) (now : DateTime) : ApiCall :=
  if unknown then
    { row with
      status := .providerOutcomeUnknown
      attemptState := .providerOutcomeUnknown
      providerOutcome := .unknown
      errorType := some "StaleProviderAttempt"
      errorSummary := some ("Worker stopped after provider submission; outcome requires billing " ++
        "or provider-side reconciliation and will not be retried automatically.")
      completedAt := some now
      reconciledAt := some now }
  else
    { row with
      status := .failedBeforeNetwork
      attemptState := .failedBeforeNetwork
      providerOutcome := .notSent
      errorType := some "StaleProviderAttempt"
      errorSummary := some "Worker stopped before provider submission; reservation released."
      completedAt := some now
      reconciledAt := some now }

/-- The states in which `finish_provider_call` returns at once. -/
def ReservationState.closed : ReservationState → Bool
  | .finalized | .released | .reconciledUnknown => true
  | .none | .reserved => false

/-- The network may have been reached. -/
def ApiCall.maybeSent (row : ApiCall) : Bool :=
  row.networkStartedAt.isSome || row.attemptState = .inFlight

/-- The outcomes `resolve_unknown_provider_call` accepts. -/
inductive ResolvedOutcome
  | billed | notBilled
  deriving DecidableEq

/-- What a resolution sets. -/
def ApiCall.resolve (row : ApiCall) (outcome : ResolvedOutcome) (actual : Usd) (note : String)
    (now : DateTime) : ApiCall :=
  { row with
    actualCost := actual
    attemptState := .reconciled
    providerOutcome := match outcome with
      | .billed => .billed
      | .notBilled => .notBilled
    reservationState := .finalized
    status := match outcome with
      | .billed => .completed
      | .notBilled => .providerConfirmedNotBilled
    reconciledAt := some now
    completedAt := some now
    errorSummary := some (PyString.strip (row.errorSummary.getD "" ++ "\nResolution: " ++ note)) }

/-- The row an operator may still resolve. -/
def ApiCall.awaitsOutcome (row : ApiCall) : Bool :=
  row.attemptState = .providerOutcomeUnknown &&
    (row.reservationState = .none || row.reservationState = .reconciledUnknown)

namespace CostControls

/-- The exceptions these functions raise. -/
inductive PaidCallError
  | circuitOpen (message : String)
  | scanLeaseLost (message : String)
  | valueError (message : String)
  deriving DecidableEq

/-- Checks made in order; the first that holds raises. -/
def raiseFirst (checks : List (Bool × PaidCallError)) : Except PaidCallError Unit :=
  match checks.find? Prod.fst with
  | some (_, error) => .error error
  | none => .ok ()

theorem raiseFirst_ok {checks : List (Bool × PaidCallError)} :
    raiseFirst checks = .ok () ↔ ∀ check ∈ checks, check.1 = false := by
  unfold raiseFirst
  cases found : checks.find? Prod.fst with
  | none =>
    simp only [true_iff]
    intro check member
    simpa using List.find?_eq_none.mp found check member
  | some check =>
    simp only [reduceCtorEq, false_iff]
    intro none_raised
    have raised := List.find?_some found
    rw [none_raised check (List.mem_of_find?_eq_some found)] at raised
    cases raised

/-! ## Daily buckets -/

/-- `_locked_bucket`: the row under a key, created with zero counters. -/
def lockedBucket (usage : List ProviderDailyUsage) (key : UsageKey) : ProviderDailyUsage :=
  Table.lookup ProviderDailyUsage.toUsageKey ProviderDailyUsage.empty usage key

/-- Change the row `_locked_bucket` returns. -/
def updateBucket (key : UsageKey) (change : ProviderDailyUsage → ProviderDailyUsage) :
    List ProviderDailyUsage → List ProviderDailyUsage :=
  Table.upsert ProviderDailyUsage.toUsageKey ProviderDailyUsage.empty key change

/-- `for endpoint in ("", endpoint)`: change the summary bucket, then the
endpoint's own. -/
def postBuckets (day : Date) (cls : UsageClass) (provider endpoint : String)
    (change : ProviderDailyUsage → ProviderDailyUsage) (usage : List ProviderDailyUsage) :
    List ProviderDailyUsage :=
  updateBucket ⟨day, cls, provider, endpoint⟩ change
    (updateBucket ⟨day, cls, provider, ""⟩ change usage)

def postUsage (db : Database) (day : Date) (cls : UsageClass) (provider endpoint : String)
    (change : ProviderDailyUsage → ProviderDailyUsage) : Database :=
  { db with usage := postBuckets day cls provider endpoint change db.usage }

/-! ## Breakers -/

/-- `_assert_switches`. -/
def assertSwitches (settings : Settings) (environment : ApiEnvironment) (profile : ScanProfile) :
    List (Bool × PaidCallError) :=
  [(!settings.allowLiveApiCalls, .circuitOpen "ALLOW_LIVE_API_CALLS is false."),
   (settings.paidCallKillSwitch, .circuitOpen "PAID_CALL_KILL_SWITCH is active."),
   (environment = .production && !settings.allowProductionDataforseo,
     .circuitOpen "ALLOW_PRODUCTION_DATAFORSEO is false."),
   (profile = .full && !settings.allowFullScans, .circuitOpen "ALLOW_FULL_SCANS is false.")]

/-- The first row under `order_by(time.desc(), id.desc())`. -/
def latestBy {α : Type} (time : α → DateTime) (rows : List α) : Option α :=
  rows.foldl (fun best row => match best with
    | none => some row
    | some b => if time b ≤ time row then some row else some b) none

/-- `current_qualification`. -/
def currentQualification (db : Database) (provider : String) (environment : ApiEnvironment)
    (adapterVersion : String) (now : DateTime) : Option ProviderQualification :=
  let runs := db.qualifications.filter fun q => q.provider = provider ∧
    q.environment = environment ∧ q.adapterVersion = adapterVersion ∧ q.executableRunner
  match latestBy ProviderQualification.qualifiedAt runs with
  | none => none
  | some latest =>
    if !latest.passed ∨ !latest.gateEligible ∨ latest.expiresAt ≤ now then none else some latest

/-- The completion times behind `func.min(ApiCallORM.completed_at)`. -/
def paidCompletions (db : Database) (provider : String) : List DateTime :=
  db.calls.filterMap fun call =>
    if call.provider = provider ∧ call.status = .completed ∧ 0 < call.actualCost then
      call.completedAt
    else none

/-- The billing part of `_assert_durable_breakers`. -/
def billingReconciled (settings : Settings) (db : Database) (provider : String)
    (environment : ApiEnvironment) (now : DateTime) : Bool :=
  let cutoff := now - settings.billingReconciliationMaxAgeHours * 3600
  let runs := db.reconciliations.filter fun r => r.provider = provider ∧ r.environment = environment
  match latestBy BillingReconciliation.reconciledAt runs with
  | some latest => latest.clean && decide (cutoff ≤ latest.reconciledAt)
  | none => (paidCompletions db provider).all fun completed => decide (cutoff ≤ completed)

/-- The arguments of `reserve_provider_call`. -/
structure ReserveRequest where
  provider : String
  environment : ApiEnvironment
  adapterVersion : String
  endpoint : String
  estimatedCost : Usd
  scanProfile : ScanProfile
  cacheMiss : Bool
  requireCurrentQualification : Bool
  apiCallId : Option Nat
  executionLease : Option ScanExecutionLease
  now : DateTime

/-- `_assert_durable_breakers`, on the locked summary bucket. -/
def assertDurableBreakers (settings : Settings) (db : Database) (summary : ProviderDailyUsage)
    (q : ReserveRequest) : List (Bool × PaidCallError) :=
  let production : Bool := usageClass q.environment = .production
  let projected := summary.committed + q.estimatedCost
  let requests : ℚ := max 1 summary.requestCount
  let rated : Bool := settings.circuitBreakerMinimumRequests ≤ summary.requestCount
  [(production && settings.productionDailyRequestLimit ≤ summary.requestCount,
     .circuitOpen "Production daily request limit reached."),
   (production && settings.productionDailySpend < projected,
     .circuitOpen "Production daily spend limit reached."),
   (!production && settings.testingDailySpend < projected,
     .circuitOpen "Testing daily spend limit reached."),
   (settings.unexpectedCallBreakerThreshold ≤ summary.unexpectedCallCount,
     .circuitOpen "Repeated unexpected calls opened the circuit breaker."),
   (rated && settings.providerFailureRateThreshold < summary.providerFailureCount / requests,
     .circuitOpen "Provider failure-rate threshold exceeded."),
   (rated && settings.schemaDriftRateThreshold < summary.schemaDriftCount / requests,
     .circuitOpen "Provider schema-drift threshold exceeded."),
   (production && q.requireCurrentQualification &&
       (currentQualification db q.provider q.environment q.adapterVersion q.now).isNone,
     .circuitOpen ("Production qualification is missing, stale, failing, or for another " ++
       "adapter version.")),
   (production && !billingReconciled settings db q.provider q.environment q.now,
     .circuitOpen "Provider billing is not currently reconciled.")]

/-! ## Reservation and submission -/

/-- The lease part of a reservation or submission. -/
def leaseChecks (db : Database) (lease : Option ScanExecutionLease) (now : DateTime) :
    List (Bool × PaidCallError) :=
  match lease with
  | none => []
  | some lease =>
    match assertCurrentScanLease db.scans lease now with
    | .ok () => []
    | .error lost => [(true, .scanLeaseLost lost.message)]

/-- The row part of a reservation. -/
def eligibilityChecks (db : Database) (seen : Option ApiCall) (apiCallId : Option Nat) :
    List (Bool × PaidCallError) :=
  match apiCallId with
  | none => []
  | some i =>
    match db.getCall seen i with
    | none => [(true, .circuitOpen s!"API call attempt {i} no longer exists.")]
    | some row =>
      [(row.reservationState ≠ .none || row.attemptState ≠ .prepared,
        .circuitOpen s!"API call attempt {i} is not eligible for a new reservation.")]

/-- The abnormal-cost check of a reservation. -/
def abnormalCostCheck (settings : Settings) (estimate : Usd) : Bool × PaidCallError :=
  (settings.singleCallAbnormalCost < estimate,
    .circuitOpen ("Estimated endpoint cost $" ++ PyString.fixed4 estimate ++
      " exceeds the abnormal-call limit $" ++
      PyString.fixed4 settings.singleCallAbnormalCost ++ "."))

/-- What a reservation adds to each of its buckets. -/
def reserveUsage (estimate : Usd) (cacheMiss : Bool) (b : ProviderDailyUsage) :
    ProviderDailyUsage :=
  { b with
    requestCount := b.requestCount + 1
    reservedSpend := b.reservedSpend + estimate
    cacheMissCount := if cacheMiss then b.cacheMissCount + 1 else b.cacheMissCount }

/-- The row columns a reservation sets, when it was made for a row. -/
def reserveRow (db : Database) (seen : Option ApiCall) (q : ReserveRequest) : Database :=
  match q.apiCallId with
  | none => db
  | some i =>
    match db.getCall seen i with
    | none => db
    | some row =>
      db.putCall seen i (row.reserve (date q.now) (usageClass q.environment) q.estimatedCost)

/-- `reserve_provider_call`. -/
def reserveProviderCall (settings : Settings) (db : Database) (seen : Option ApiCall)
    (q : ReserveRequest) : Except PaidCallError UsageReservation × Database :=
  let day := date q.now
  let cls := usageClass q.environment
  match raiseFirst (leaseChecks db q.executionLease q.now ++
      assertSwitches settings q.environment q.scanProfile ++
      [abnormalCostCheck settings q.estimatedCost] ++
      eligibilityChecks db seen q.apiCallId) with
  | .error e => (.error e, db)
  | .ok () =>
    let locked := postUsage db day cls q.provider q.endpoint id
    match raiseFirst (assertDurableBreakers settings locked
        (lockedBucket locked.usage ⟨day, cls, q.provider, ""⟩) q) with
    | .error e => (.error e, locked)
    | .ok () =>
      let posted := postUsage locked day cls q.provider q.endpoint
        (reserveUsage q.estimatedCost q.cacheMiss)
      (.ok ⟨day, cls, q.provider, q.endpoint, q.estimatedCost, q.apiCallId⟩,
        reserveRow posted seen q)

/-- `mark_provider_call_submitted`. -/
def markProviderCallSubmitted (db : Database) (seen : Option ApiCall)
    (reservation : UsageReservation) (lease : Option ScanExecutionLease) (now : DateTime) :
    Except PaidCallError Database :=
  match raiseFirst (leaseChecks db lease now) with
  | .error e => .error e
  | .ok () =>
    match reservation.apiCallId with
    | none => .ok db
    | some i =>
      match db.getCall seen i with
      | none => .error (.circuitOpen "Provider call attempt is not reserved for submission.")
      | some row =>
        if row.reservationState ≠ .reserved ∨ row.attemptState ≠ .reserved then
          .error (.circuitOpen "Provider call attempt is not reserved for submission.")
        else .ok (db.putCall seen i (row.submit now))

/-! ## Completion -/

/-- The arguments of `finish_provider_call` besides the reservation. -/
structure FinishRequest where
  actualCost : Usd
  failed : Bool
  schemaDrift : Bool
  abnormalCost : Bool
  providerOutcomeUnknown : Bool
  now : DateTime

/-- What a completion does to each of its buckets. -/
def finishUsage (estimate : Usd) (q : FinishRequest) (b : ProviderDailyUsage) :
    ProviderDailyUsage :=
  { b with
    reservedSpend := max 0 (b.reservedSpend - estimate)
    unreconciledSpend :=
      if q.providerOutcomeUnknown then b.unreconciledSpend + estimate else b.unreconciledSpend
    spend := if q.providerOutcomeUnknown then b.spend else b.spend + max 0 q.actualCost
    providerFailureCount :=
      if q.failed then b.providerFailureCount + 1 else b.providerFailureCount
    schemaDriftCount := if q.schemaDrift then b.schemaDriftCount + 1 else b.schemaDriftCount
    abnormalCostCount := if q.abnormalCost then b.abnormalCostCount + 1 else b.abnormalCostCount }

/-- `finish_provider_call`. It returns without a commit when the reservation
was closed before. -/
def finishProviderCall (db : Database) (seen : Option ApiCall) (reservation : UsageReservation)
    (q : FinishRequest) : Database :=
  let post (db : Database) := postUsage db reservation.usageDate reservation.usageClass
    reservation.provider reservation.endpoint (finishUsage reservation.estimatedCost q)
  match reservation.apiCallId with
  | none => post db
  | some i =>
    match db.getCall seen i with
    | none => post db
    | some row =>
      if row.reservationState.closed then db
      else (post db).putCall seen i (row.settle q.providerOutcomeUnknown q.now)

/-! ## Recovery -/

/-- What a released or unknown reservation does to each of its buckets. -/
def releaseUsage (estimate : Usd) (unknown : Bool) (b : ProviderDailyUsage) : ProviderDailyUsage :=
  { b with
    reservedSpend := max 0 (b.reservedSpend - estimate)
    unreconciledSpend :=
      if unknown then b.unreconciledSpend + estimate else b.unreconciledSpend }

/-- `_reconcile_attempt_reservation`: the buckets, and the row as it leaves it. -/
def reconcileAttemptReservation (db : Database) (row : ApiCall) (unknown : Bool) (now : DateTime) :
    Database × ApiCall :=
  match row.reservationState, row.reservationUsageDate with
  | .reserved, some day =>
    (postUsage db day (row.reservationUsageClass.getD .testing) row.provider row.endpoint
      (releaseUsage row.reservationEstimatedCost unknown), row.reconcileReservation unknown now)
  | _, _ => (db, row)

/-- The `WHERE` of `reconcile_stale_api_call_attempts`. -/
def staleAttempt (staleBefore : DateTime) (scanRunId : Option Nat) (row : ApiCall) : Bool :=
  (row.attemptState = .prepared || row.attemptState = .reserved || row.attemptState = .inFlight) &&
  (match row.startedAt with
    | none => false
    | some started => started < staleBefore) &&
  (match scanRunId with
    | none => true
    | some scan => row.scanRunId = some scan)

/-- One row of the loop. -/
def reconcileAttempt (now : DateTime) (db : Database) (i : Nat) : Database :=
  match db.calls[i]? with
  | none => db
  | some row =>
    let unknown := row.maybeSent
    let (db, row) := reconcileAttemptReservation db row unknown now
    db.putCall none i (row.abandon unknown now)

/-- The rows the `SELECT` returns, in id order. -/
def staleAttempts (db : Database) (staleBefore : DateTime) (scanRunId : Option Nat) : List Nat :=
  (List.range db.calls.length).filter fun i =>
    match db.calls[i]? with
    | none => false
    | some row => staleAttempt staleBefore scanRunId row

/-- `reconcile_stale_api_call_attempts`. -/
def reconcileStaleApiCallAttempts (db : Database) (staleBefore : DateTime)
    (scanRunId : Option Nat) (now : DateTime) : Database :=
  (staleAttempts db staleBefore scanRunId).foldl (reconcileAttempt now) db

/-! ## Operator resolution -/

/-- What a resolution does to each of its buckets. -/
def resolveUsage (estimate actual : Usd) (b : ProviderDailyUsage) : ProviderDailyUsage :=
  { b with
    unreconciledSpend := max 0 (b.unreconciledSpend - estimate)
    spend := b.spend + actual }

/-- `resolve_unknown_provider_call`. -/
def resolveUnknownProviderCall (db : Database) (i : Nat) (outcome : ResolvedOutcome)
    (actual : Usd) (note : String) (now : DateTime) : Except PaidCallError Database :=
  match raiseFirst
      [(actual < 0, .valueError "actual_cost_usd cannot be negative."),
       (PyString.strip note = "", .valueError "An auditable resolution note is required.")] with
  | .error e => .error e
  | .ok () =>
    match db.calls[i]? with
    | none => .error (.valueError "API call is not awaiting provider-outcome reconciliation.")
    | some row =>
      if row.awaitsOutcome then
        let posted := match row.reservationUsageDate with
          | none => db
          | some day => postUsage db day (row.reservationUsageClass.getD .testing) row.provider
              row.endpoint (resolveUsage row.reservationEstimatedCost actual)
        .ok (posted.putCall none i (row.resolve outcome actual note now))
      else .error (.valueError "API call is not awaiting provider-outcome reconciliation.")

/-- `record_unexpected_call`. -/
def recordUnexpectedCall (db : Database) (provider : String) (environment : ApiEnvironment)
    (endpoint : String) (now : DateTime) : Database :=
  postUsage db (date now) (usageClass environment) provider endpoint
    fun b => { b with unexpectedCallCount := b.unexpectedCallCount + 1 }

end CostControls

end RankRent
