import RankRent.Provider.Requests
import RankRent.Provider.Slots
import RankRent.Worker.Commits

/-!
# Workers and their provider requests

The executions of `Worker.State` with the requests their sessions make: any
number of workers, recovery passes and operators over one store, each commit one
step. A session makes one request at a time and keeps the instance of the row it
took for it (`seen`), whatever is committed to the row in the meantime.
-/

namespace RankRent.Provider

open CostControls

/-- A request that has its row: `api_call` and `reservation` of `_request`, and
whether an exception is on its way to the handler. -/
structure Attempt where
  site : CallSite
  row : Nat
  seen : ApiCall
  reservation : Option UsageReservation
  raised : Bool

inductive RequestState
  | idle
  /-- The queries of `_reserve_api_call` are done. -/
  | selected (site : CallSite) (hit : Bool) (selection : Selection)
  | taken (a : Attempt)

structure Fleet where
  queue : Worker.State
  calls : List ApiCall
  usage : List ProviderDailyUsage
  qualifications : List ProviderQualification
  reconciliations : List BillingReconciliation
  plan : List ScanPlanCall
  /-- The request of each execution's session. -/
  requests : Nat → RequestState

/-- The committed rows. -/
def Fleet.db (s : Fleet) : Database :=
  ⟨s.queue.scans, s.calls, s.usage, s.qualifications, s.reconciliations⟩

/-- Commit call rows and buckets. -/
def Fleet.store (s : Fleet) (db : Database) : Fleet := { s with calls := db.calls, usage := db.usage }

/-- One event of a request. -/
inductive RequestOp
  | select (provider endpoint key : String) (hit : Bool) (environment : ApiEnvironment)
      (now : DateTime)
  | prepare (attemptToken : String) (forceRefresh : Bool) (response : Option CachedResponse)
      (now : DateTime)
  | reserve (environment : ApiEnvironment) (adapterVersion : String) (profile : ScanProfile)
      (now : DateTime)
  | submit (now : DateTime)
  | complete (c : CallCompletion)
  | fail (f : CallFailure)
  | cancel (now : DateTime)

/-- The call of `reserve_provider_call` in `_request`. -/
def Attempt.reserveRequest (a : Attempt) (lease : ScanExecutionLease) (environment : ApiEnvironment)
    (adapterVersion : String) (profile : ScanProfile) (now : DateTime) : ReserveRequest where
  provider := a.site.provider
  environment := environment
  adapterVersion := adapterVersion
  endpoint := a.site.endpoint
  estimatedCost := a.seen.estimatedCost
  scanProfile := profile
  cacheMiss := true
  requireCurrentQualification := true
  apiCallId := some a.row
  executionLease := some lease
  now := now

/-- What `_start_api_call` and `_record_cache_hit` pass to `_reserve_api_call`. -/
def preparation (lease : ScanExecutionLease) (hit : Bool) (attemptToken : String)
    (forceRefresh : Bool) (response : Option CachedResponse) (now : DateTime) : Preparation where
  cacheHit := hit
  forceRefresh := !hit && forceRefresh
  attemptToken := attemptToken
  lease := some lease
  response := if hit then response else none
  now := now

/-- `_request`, event by event: the rows and the request after it. -/
def RequestOp.run (settings : Settings) (plan : List ScanPlanCall) (lease : ScanExecutionLease)
    (db : Database) : RequestState → RequestOp → Database × RequestState
  | .idle, .select provider endpoint key hit environment now =>
    let site : CallSite := ⟨lease.scanId, provider, endpoint, key⟩
    match selectCall plan db.calls site hit with
    | none => (recordUnexpectedCall db provider environment endpoint now, .idle)
    | some selection => (db, .selected site hit selection)
  | .selected site hit selection, .prepare attemptToken forceRefresh response now =>
    match commitCall db.calls site (preparation lease hit attemptToken forceRefresh response now)
        selection with
    | none => (db, .idle)
    | some (calls, i, row) =>
      ({ db with calls := calls }, if hit then .idle else .taken ⟨site, i, row, none, false⟩)
  | .taken a, .reserve environment adapterVersion profile now =>
    if a.raised ∨ a.reservation.isSome then (db, .taken a)
    else
      match reserveProviderCall settings db (some a.seen)
          (a.reserveRequest lease environment adapterVersion profile now) with
      | (.ok r, db) =>
        (db, .taken { a with
          seen := a.seen.reserve r.usageDate r.usageClass r.estimatedCost
          reservation := some r })
      | (.error _, db) => (db, .taken { a with raised := true })
  | .taken a, .submit now =>
    match a.raised, a.reservation, a.seen.networkStartedAt with
    | false, some r, none =>
      match markProviderCallSubmitted db (some a.seen) r (some lease) now with
      | .ok db => (db, .taken { a with seen := a.seen.submit now })
      | .error _ => (db, .taken { a with raised := true })
    | _, _, _ => (db, .taken a)
  | .taken a, .complete c =>
    match a.raised, a.reservation, a.seen.networkStartedAt with
    | false, some r, some _ => (completeCall settings db a.row a.seen r c, .idle)
    | _, _, _ => (db, .taken a)
  | .taken a, .fail f => (failCall db a.row a.seen a.reservation f, .idle)
  | .taken a, .cancel now =>
    match a.raised, a.seen.networkStartedAt with
    | false, some _ => (cancelCall db a.row a.seen a.reservation now, .idle)
    | _, _ => (db, .taken a)
  | state, _ => (db, state)

/-- One commit, or one event of an execution. -/
inductive FleetOp
  | work (op : Worker.Op)
  /-- The first transaction of `recover_stale_scans`. -/
  | reconcile (staleBefore now : DateTime)
  | resolve (i : Nat) (outcome : ResolvedOutcome) (actual : Usd) (note : String) (now : DateTime)
  | request (e : Nat) (op : RequestOp)

/-- The lease of an execution whose pipeline is at work. -/
def Fleet.lease (s : Fleet) (e : Nat) : Option ScanExecutionLease :=
  match s.queue.runs[e]? with
  | some ⟨lease, .staged _⟩ => some lease
  | _ => none

/-- The provider attempts of the scans a recovery takes back. -/
def Fleet.recovered (settings : Settings) (s : Fleet) : Worker.Op → Database
  | .recover staleAfter now jitter => Worker.recoverScans settings staleAfter now jitter s.db
  | _ => s.db

def Fleet.apply (settings : Settings) (s : Fleet) : FleetOp → Fleet
  | .work op => { s.store (s.recovered settings op) with queue := s.queue.apply settings op }
  | .reconcile staleBefore now => s.store (reconcileStaleApiCallAttempts s.db staleBefore none now)
  | .resolve i outcome actual note now =>
    match resolveUnknownProviderCall s.db i outcome actual note now with
    | .ok db => s.store db
    | .error _ => s
  | .request e op =>
    match s.lease e with
    | none => s
    | some lease =>
      let (db, state) := op.run settings s.plan lease s.db (s.requests e)
      { s.store db with requests := Function.update s.requests e state }

def Fleet.Step (settings : Settings) (s : Fleet) (op : FleetOp) (t : Fleet) : Prop :=
  t = s.apply settings op

end RankRent.Provider
