import Mathlib.Data.Rat.Floor

/-!
# Rows of the scan store

The tables of `db/orm.py` that scans, provider calls and daily spend live in,
with the columns the modelled functions read or write. Status columns, strings
in the database, are enumerations here. Money is exact and times are seconds.
-/

namespace RankRent

abbrev DateTime := ℚ
abbrev Date := ℤ
abbrev Usd := ℚ

/-- `datetime.date()` in UTC. -/
def date (t : DateTime) : Date := ⌊t / 86400⌋

/-! ## Provider calls -/

inductive CallStatus
  | planned | prepared | inFlight | completed | cacheHit | failed | failedBeforeNetwork | blocked
  | providerOutcomeUnknown | providerConfirmedNotBilled
  deriving DecidableEq, Repr

inductive AttemptState
  | prepared | reserved | inFlight | completed | cacheHit | failed | failedBeforeNetwork | blocked
  | providerOutcomeUnknown | reconciled
  deriving DecidableEq, Repr

inductive ProviderOutcome
  | notSent | submitted | completed | failed | unknown | billed | notBilled
  deriving DecidableEq, Repr

inductive ReservationState
  | none | reserved | finalized | released | reconciledUnknown
  deriving DecidableEq, Repr

inductive UsageClass
  | production | testing
  deriving DecidableEq, Repr

/-- `normalize_dataforseo_environment` maps every setting to one of these. -/
inductive ApiEnvironment
  | sandbox | production
  deriving DecidableEq, Repr

/-- `_usage_class`. -/
def usageClass : ApiEnvironment → UsageClass
  | .production => .production
  | .sandbox => .testing

/-- A row of `api_calls`. Its primary key is its position in the table. -/
structure ApiCall where
  scanRunId : Option Nat
  plannedRequestId : Option String
  rawApiResponseId : Option Nat
  provider : String
  endpoint : String
  cacheKey : String
  cacheHit : Bool
  forceRefresh : Bool
  estimatedCost : Usd
  actualCost : Usd
  status : CallStatus
  errorType : Option String
  errorSummary : Option String
  startedAt : Option DateTime
  completedAt : Option DateTime
  providerTaskId : Option String
  providerRequestId : Option String
  attemptToken : Option String
  attemptState : AttemptState
  providerOutcome : ProviderOutcome
  reservationState : ReservationState
  reservationUsageDate : Option Date
  reservationUsageClass : Option UsageClass
  reservationEstimatedCost : Usd
  networkStartedAt : Option DateTime
  reconciledAt : Option DateTime
  executionWorkerId : Option String
  executionLeaseToken : Option String
  deriving DecidableEq

/-- The unique key of a `provider_daily_usage` row; the endpoint of a summary
row is empty. -/
structure UsageKey where
  usageDate : Date
  usageClass : UsageClass
  provider : String
  endpoint : String
  deriving DecidableEq

/-- A row of `provider_daily_usage`. -/
structure ProviderDailyUsage extends UsageKey where
  requestCount : Nat
  spend : Usd
  reservedSpend : Usd
  unreconciledSpend : Usd
  cacheMissCount : Nat
  unexpectedCallCount : Nat
  abnormalCostCount : Nat
  providerFailureCount : Nat
  schemaDriftCount : Nat
  deriving DecidableEq

/-- The row `_locked_bucket` inserts: every counter at its column default. -/
def ProviderDailyUsage.empty (key : UsageKey) : ProviderDailyUsage where
  toUsageKey := key
  requestCount := 0
  spend := 0
  reservedSpend := 0
  unreconciledSpend := 0
  cacheMissCount := 0
  unexpectedCallCount := 0
  abnormalCostCount := 0
  providerFailureCount := 0
  schemaDriftCount := 0

/-- The spend a bucket has taken or promised. -/
def ProviderDailyUsage.committed (b : ProviderDailyUsage) : Usd :=
  b.spend + b.reservedSpend + b.unreconciledSpend

/-- What `current_qualification` reads of a `provider_qualifications` row. -/
structure ProviderQualification where
  provider : String
  environment : ApiEnvironment
  adapterVersion : String
  executableRunner : Bool
  passed : Bool
  gateEligible : Bool
  qualifiedAt : DateTime
  expiresAt : DateTime
  deriving DecidableEq

/-- What the spend breakers read of a `billing_reconciliations` row. -/
structure BillingReconciliation where
  provider : String
  environment : ApiEnvironment
  reconciledAt : DateTime
  clean : Bool
  deriving DecidableEq

/-! ## Scans -/

inductive ScanStatus
  | pending | queued | running | completed | failed | cancelled | quarantined
  deriving DecidableEq, Repr

inductive ScanSource
  | manual | fixture | manualAsync | promotionAsync | batchReviewAsync
  deriving DecidableEq, Repr

inductive ScanStage
  | queued | planning | discoveringKeywords | fetchingMetrics | fetchingSerps
  | fetchingCompetitors | fetchingProviders | scoring | persistingResults
  | completed | failed | cancelled | quarantined
  deriving DecidableEq, Repr

/-- A value under a key of `partial_outputs`. -/
inductive OutputValue
  | flag (b : Bool)
  | count (n : Nat)
  | seconds (q : ℚ)
  | at (t : DateTime)
  | text (s : String)
  | stage (s : ScanStage)
  deriving DecidableEq

/-- `partial_outputs`, a JSON object. -/
abbrev PartialOutputs := List (String × OutputValue)

/-- `{**outputs, key: value}`. -/
def PartialOutputs.put (outputs : PartialOutputs) (key : String) (value : OutputValue) :
    PartialOutputs :=
  outputs.filter (fun entry => entry.1 ≠ key) ++ [(key, value)]

def PartialOutputs.get (outputs : PartialOutputs) (key : String) : Option OutputValue :=
  (outputs.find? (fun entry => entry.1 = key)).map Prod.snd

/-- A row of `scan_runs`. Its primary key is its position in the table. -/
structure ScanRun where
  opportunityId : Option Nat
  source : ScanSource
  status : ScanStatus
  progressStage : ScanStage
  partialOutputs : PartialOutputs
  actualCost : Usd
  startedAt : Option DateTime
  completedAt : Option DateTime
  errorSummary : Option String
  retryCount : Nat
  maxAttempts : Nat
  nextAttemptAt : Option DateTime
  cancelRequested : Bool
  workerId : Option String
  leaseToken : Option String
  claimedAt : Option DateTime
  heartbeatAt : Option DateTime
  leaseExpiresAt : Option DateTime
  quarantinedAt : Option DateTime
  quarantineReason : Option String
  deriving DecidableEq

/-- `ScanExecutionLease`. -/
structure ScanExecutionLease where
  scanId : Nat
  workerId : String
  leaseToken : String
  deriving DecidableEq

/-- `UsageReservation`. -/
structure UsageReservation where
  usageDate : Date
  usageClass : UsageClass
  provider : String
  endpoint : String
  estimatedCost : Usd
  apiCallId : Option Nat
  deriving DecidableEq

/-! ## Settings -/

inductive ScanProfile
  | testing | full
  deriving DecidableEq, Repr

/-- The settings the paid-call policy and the worker read, with the bounds the
model fields of `Settings` validate. -/
structure Settings where
  allowLiveApiCalls : Bool
  paidCallKillSwitch : Bool
  allowProductionDataforseo : Bool
  allowFullScans : Bool
  singleCallAbnormalCost : Usd
  productionDailyRequestLimit : Nat
  productionDailySpend : Usd
  testingDailySpend : Usd
  unexpectedCallBreakerThreshold : Nat
  circuitBreakerMinimumRequests : Nat
  providerFailureRateThreshold : ℚ
  schemaDriftRateThreshold : ℚ
  billingReconciliationMaxAgeHours : Nat
  scanWorkerMaxAttempts : Nat
  scanWorkerRetryBaseSeconds : ℚ
  scanWorkerRetryMaxSeconds : ℚ
  productionDailySpend_nonneg : 0 ≤ productionDailySpend
  testingDailySpend_nonneg : 0 ≤ testingDailySpend
  scanWorkerMaxAttempts_pos : 1 ≤ scanWorkerMaxAttempts

/-- The defaults of `settings.py`, with live calls and full scans switched on. -/
def Settings.live : Settings where
  allowLiveApiCalls := true
  paidCallKillSwitch := false
  allowProductionDataforseo := true
  allowFullScans := true
  singleCallAbnormalCost := 1
  productionDailyRequestLimit := 100
  productionDailySpend := 25
  testingDailySpend := 2
  unexpectedCallBreakerThreshold := 3
  circuitBreakerMinimumRequests := 5
  providerFailureRateThreshold := 1 / 2
  schemaDriftRateThreshold := 1 / 10
  billingReconciliationMaxAgeHours := 48
  scanWorkerMaxAttempts := 4
  scanWorkerRetryBaseSeconds := 2
  scanWorkerRetryMaxSeconds := 300
  productionDailySpend_nonneg := by decide
  testingDailySpend_nonneg := by decide
  scanWorkerMaxAttempts_pos := by decide

/-- The committed rows. -/
structure Database where
  scans : List ScanRun
  calls : List ApiCall
  usage : List ProviderDailyUsage
  qualifications : List ProviderQualification
  reconciliations : List BillingReconciliation

end RankRent
