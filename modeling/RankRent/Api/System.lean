import RankRent.Review.Decisions
import RankRent.Worker.Commits

/-!
# Requests over the scan queue

The endpoints of `main.py` and `opportunity_review/services.py` that queue,
cancel and approve scans, each one transaction, beside the workers. What a
request reads outside the queue (the plan `build_scan_plan` returns, the
completeness of an approval, the resolved service and market) is an argument.
-/

namespace RankRent.Api
open Worker (Held Effect)

inductive DataMode
  | fixture | live | replay
  deriving DecidableEq, Repr

/-- The columns of a scan row that are set when it is created and keep their
values. -/
structure Job where
  opportunity : Nat
  dataMode : DataMode
  scanProfile : ScanProfile
  sourceScanRunId : Option Nat
  deriving DecidableEq

/-- `is_preliminary_assessment`. -/
def Job.preliminary (job : Job) : Bool := job.dataMode = .live && job.scanProfile = .testing

/-- The state `ScanPipeline.run` moves the opportunity to when the scan starts. -/
def Job.startTarget (job : Job) : OpportunityState := Worker.startTarget job.preliminary

/-- What the endpoints read of a `ScanPlan`. -/
structure PlanSummary where
  blocked : Bool
  uncachedCost : Usd
  deriving DecidableEq

inductive BatchStatus
  | planned | confirmed | queued
  deriving DecidableEq, Repr

structure BatchItem where
  opportunity : Nat
  estimatedCost : Usd
  deriving DecidableEq

/-- A row of `batch_scan_plans` with its items. -/
structure Batch where
  scanProfile : ScanProfile
  dataMode : DataMode
  status : BatchStatus
  aggregateBudget : Usd
  aggregateEstimatedCost : Usd
  approvedMaxCost : Option Usd
  items : List BatchItem
  deriving DecidableEq

/-- A pipeline run inside a web request, without a lease; `none` when it is over. -/
structure Manual where
  scan : Nat
  held : Option Held
  deriving DecidableEq

structure State where
  worker : Worker.State
  jobs : List Job
  batches : List Batch
  manuals : List Manual

/-- `status in {"queued", "running"}`. -/
def active (scan : ScanRun) : Bool := scan.status = .queued || scan.status = .running

/-- The scan belongs to the opportunity and is active. -/
def activeFor (scan : ScanRun) (o : Nat) : Bool := scan.opportunityId = some o && active scan

/-- Some scan of the opportunity is active. -/
def State.busy (s : State) (o : Nat) : Bool := s.worker.scans.any fun scan => activeFor scan o

def State.review (s : State) (o : Nat) : Option OpportunityState := s.worker.reviews[o]?

def State.setReview (s : State) (o : Nat) (review : OpportunityState) : State :=
  { s with worker := { s.worker with reviews := s.worker.reviews.set o review } }

/-! ## Reviews -/

/-- The state part of `transition`; `current` is the outcome of
`_check_version`. -/
def reviewTransition (state target : OpportunityState) (role : Review.ReviewRole)
    (current complete : Bool) : Option OpportunityState :=
  if current ∧ target ∈ state.allowed ∧
      ¬((target = .approvedForProperty ∨ target = .rejected) ∧ role = .system) ∧
      ¬(target = .approvedForProperty ∧ !complete) then some target
  else none

theorem transition_status (loaded : Review.Opportunity) (request : Review.ReviewTransitionRequest)
    (actor : Review.ReviewActor) (complete : Bool) (now : DateTime) :
    (Review.transition loaded request actor complete now).toOption.map
        (fun result => result.1.status) =
      reviewTransition loaded.status request.targetState actor.role
        (Review.checkVersion loaded request.expectedReviewVersion).isOk complete := by
  unfold Review.transition reviewTransition
  cases Review.checkVersion loaded request.expectedReviewVersion with
  | error e => simp [Except.isOk, Except.toBool, Except.toOption]
  | ok _ =>
    simp only [Except.isOk, Except.toBool]
    by_cases legal : request.targetState ∈ loaded.status.allowed
    · rw [if_neg (not_not.mpr legal)]
      by_cases human : (request.targetState = .approvedForProperty ∨
          request.targetState = .rejected) ∧ actor.role = .system
      · rw [if_pos human, if_neg fun all => all.2.2.1 human]
        rfl
      · rw [if_neg human]
        by_cases evidence : request.targetState = .approvedForProperty ∧ (!complete) = true
        · rw [if_pos evidence, if_neg fun all => all.2.2.2 evidence]
          rfl
        · rw [if_neg evidence, if_pos ⟨trivial, legal, human, evidence⟩]
          rfl
    · rw [if_pos legal, if_neg fun all => legal all.2.1]
      rfl

/-- The endpoint for review transitions. -/
def State.transition (s : State) (o : Nat) (target : OpportunityState) (role : Review.ReviewRole)
    (current complete : Bool) : Option State :=
  match s.review o with
  | none => none
  | some state =>
    (reviewTransition state target role current complete).map fun next => s.setReview o next

/-! ## Queueing -/

/-- `get_or_create_opportunity` on the opportunity the service and market
resolve to: an existing one, or the next. -/
def State.resolve (s : State) (o : Nat) : Nat × State :=
  if o < s.worker.reviews.length then (o, s)
  else (s.worker.reviews.length,
    { s with worker := { s.worker with reviews := s.worker.reviews ++ [.discovered] } })

def State.addScan (s : State) (job : Job) (source : ScanSource) (retryCount maxAttempts : Nat) :
    State :=
  { s with
    worker := { s.worker with scans := s.worker.scans ++
      [.enqueue job.opportunity source retryCount maxAttempts] }
    jobs := s.jobs ++ [job] }

/-- `_queue_scan`; `none` when its review transition raises. -/
def State.queueScan (settings : Settings) (s : State) (o : Nat) (mode : DataMode)
    (profile : ScanProfile) (sourceScan : Option Nat) (retryCount : Nat) (source : ScanSource) :
    Option State :=
  let (o, s) := s.resolve o
  let add (s : State) :=
    s.addScan ⟨o, mode, profile, sourceScan⟩ source retryCount settings.scanWorkerMaxAttempts
  match profile with
  | .full => some (add s)
  | .testing =>
    match s.review o with
    | none => none
    | some state =>
      match transitionSystem state .testingPlanned "Testing scan was explicitly queued." with
      | .error _ => none
      | .ok next => some (add (s.setReview o next))

/-- `_scan_profile`. -/
def scanProfile (text : String) : Option ScanProfile :=
  let profile := PyString.strip text.toLower
  if profile = "testing" then some .testing else if profile = "full" then some .full else none

/-- `api_scan` with `async_run`; `profile` is `payload.scan_profile or
settings.live_scan_depth`. -/
def State.apiScan (settings : Settings) (s : State) (o : Nat) (mode : DataMode) (profile : String)
    (plan : PlanSummary) (confirmLiveCost : Bool) : Option State :=
  let (o', resolved) := s.resolve o
  if mode = .live ∧ profile = "full" ∧ resolved.review o' ≠ some .fullScanApproved then none
  else
    match scanProfile profile with
    | none => none
    | some scanProfile =>
      if plan.blocked then none
      else if mode = .live ∧ 0 < plan.uncachedCost ∧ !confirmLiveCost then none
      else s.queueScan settings o mode scanProfile none 0 .manualAsync

/-- `active_retry_for_scan` finds one. -/
def State.activeRetry (s : State) (i : Nat) : Bool :=
  (List.range s.worker.scans.length).any fun j =>
    match s.worker.scans[j]?, s.jobs[j]? with
    | some scan, some job => (j = i || job.sourceScanRunId = some i) && active scan
    | _, _ => false

/-- `api_retry_scan`. -/
def State.apiRetryScan (settings : Settings) (s : State) (i : Nat) (plan : PlanSummary) :
    Option State :=
  match s.worker.scans[i]?, s.jobs[i]? with
  | some scan, some job =>
    if active scan then none
    else if s.activeRetry i then none
    else if plan.blocked then none
    else s.queueScan settings job.opportunity job.dataMode job.scanProfile (some i)
      (scan.retryCount + 1) .manualAsync
  | _, _ => none

/-- The latest completed testing scan of an opportunity. -/
def State.completedTesting (s : State) (o : Nat) : Option (Nat × Job) :=
  ((List.range s.worker.scans.length).filterMap fun i =>
    match s.worker.scans[i]?, s.jobs[i]? with
    | some scan, some job =>
      if scan.opportunityId = some o ∧ scan.status = .completed ∧ job.scanProfile = .testing then
        some (i, job)
      else none
    | _, _ => none).getLast?

/-- `api_opportunity_promote` without `dry_run`. The service is resolved anew in
the catalog, so the full scan is queued on the opportunity `target`;
`evidenceFailed` is the quality noted on the source scan. -/
def State.apiPromote (settings : Settings) (s : State) (o target : Nat) (plan : PlanSummary)
    (confirmLiveCost evidenceFailed : Bool) (role : Review.ReviewRole) : Option State :=
  if o < s.worker.reviews.length then
    if s.busy o then none
    else
      match s.completedTesting o with
      | none => none
      | some (source, job) =>
        if evidenceFailed then none
        else if job.dataMode ≠ .live then none
        else if plan.blocked then none
        else if 0 < plan.uncachedCost ∧ !confirmLiveCost then none
        else
          match s.transition o .fullScanApproved role true true with
          | none => none
          | some s => s.queueScan settings target .live .full (some source) 0 .promotionAsync
  else none

/-- `api_cancel_scan`; `none` when its review transition raises. -/
def State.apiCancelScan (s : State) (i : Nat) (now : DateTime) : Option State :=
  match s.worker.scans[i]? with
  | none => none
  | some scan =>
    let cancelled := { s with worker :=
      { s.worker with scans := s.worker.scans.set i (Worker.requestedCancel scan now) } }
    match scan.status, scan.opportunityId with
    | .queued, some o =>
      match s.review o with
      | none => none
      | some state =>
        match transitionSystem state .needsMoreEvidence
            ("Queued scan " ++ toString i ++ " was cancelled before execution.") with
        | .error _ => none
        | .ok next => some (cancelled.setReview o next)
    | _, _ => some cancelled

/-! ## Batches -/

/-- The states in which `create_batch_plan` takes an opportunity. -/
def batchEligible : ScanProfile → OpportunityState → Bool
  | .testing, .discovered | .testing, .prefilterReview | .testing, .preliminaryReview
  | .testing, .needsMoreEvidence => true
  | .full, .preliminaryReview | .full, .needsMoreEvidence => true
  | _, _ => false

/-- Move each opportunity of a list; `none` when one of the moves is refused. -/
def State.moveAll (s : State) (move : OpportunityState → Option OpportunityState) :
    List Nat → Option State
  | [] => some s
  | o :: rest =>
    match (s.review o).bind move with
    | none => none
    | some next => (s.setReview o next).moveAll move rest

/-- `create_batch_plan` with the plan of each opportunity; `templateFits` is the
outcome of the template checks. -/
def State.createBatchPlan (s : State) (profile : ScanProfile) (mode : DataMode) (budget : Usd)
    (templateFits : Bool) (plans : List (Nat × PlanSummary)) : Option State :=
  let total := (plans.map fun entry => entry.2.uncachedCost).sum
  if ¬ templateFits then none
  else if ¬ (plans.map Prod.fst).Nodup then none
  else if ¬ plans.all fun entry =>
      match s.review entry.1 with
      | none => false
      | some state => batchEligible profile state && !entry.2.blocked then none
  else if budget < total then none
  else
    let batch : Batch := ⟨profile, mode, .planned, budget, total, none,
      plans.map fun entry => ⟨entry.1, entry.2.uncachedCost⟩⟩
    let planned := { s with batches := s.batches ++ [batch] }
    match profile with
    | .full => some planned
    | .testing => planned.moveAll (fun state =>
        (transitionSystem state .testingPlanned
          ("Included in bounded testing batch " ++ toString s.batches.length ++ ".")).toOption)
        (plans.map Prod.fst)

/-- `confirm_batch`. -/
def State.confirmBatch (s : State) (b : Nat) (approvedMax : Usd) (role : Review.ReviewRole) :
    Option State :=
  match s.batches[b]? with
  | none => none
  | some batch =>
    if batch.status ≠ .planned then none
    else if approvedMax < batch.aggregateEstimatedCost then none
    else if batch.aggregateBudget < approvedMax then none
    else
      let approved := { batch with status := .confirmed, approvedMaxCost := some approvedMax }
      let confirmed := { s with batches := s.batches.set b approved }
      match batch.scanProfile with
      | .testing => some confirmed
      | .full => confirmed.moveAll (fun state =>
          reviewTransition state .fullScanApproved role true true)
          (batch.items.map BatchItem.opportunity)

/-- `queue_batch`. -/
def State.queueBatch (s : State) (b : Nat) : Option State :=
  match s.batches[b]? with
  | none => none
  | some batch =>
    match batch.status, batch.approvedMaxCost with
    | .confirmed, some approved =>
      if approved < (batch.items.map BatchItem.estimatedCost).sum then none
      else if batch.items.any fun item => s.busy item.opportunity then none
      else
        let started := { batch with status := .queued }
        let queued := { s with batches := s.batches.set b started }
        some (batch.items.foldl (fun s item =>
          s.addScan ⟨item.opportunity, batch.dataMode, batch.scanProfile, none⟩ .batchReviewAsync 0 4)
          queued)
    | _, _ => none

/-! ## Runs inside a request -/

/-- The start of `ScanPipeline.run` in `api_scan`: the row is new, and is first
committed by the first `_set_stage`. -/
def State.startManual (s : State) (o : Nat) (mode : DataMode) (profile : ScanProfile)
    (now : DateTime) : Option State :=
  let (o, s) := s.resolve o
  let job : Job := ⟨o, mode, profile, none⟩
  match s.review o with
  | none => none
  | some state =>
    match transitionSystem state job.startTarget (Worker.startReason profile) with
    | .error _ => none
    | .ok next =>
      let prepared := (ScanRun.enqueue o .manual 0 4).prepareRun o .manual now
      let row := prepared.enterStage prepared .discoveringKeywords
      let s := s.setReview o next
      some { s with
        worker := { s.worker with scans := s.worker.scans ++ [row] }
        jobs := s.jobs ++ [job]
        manuals := s.manuals ++ [⟨s.worker.scans.length, some ⟨o, row, next⟩⟩] }

/-- What a running manual pipeline does next. -/
inductive ManualStep
  | refresh
  | stage (stage : ScanStage)
  | complete (target : OpportunityState) (reason : String) (cost : Usd)
  | cancel (cost : Usd)
  | fail (error : WorkerError) (cost : Usd)
  | stop

/-- The last commit of `run` without a lease. -/
def manualComplete (held : Held) (stored : ScanRun) (target : OpportunityState) (reason : String)
    (cost : Usd) (now : DateTime) : Effect :=
  match transitionSystem held.review target reason with
  | .error _ => .only (.staged held)
  | .ok review =>
    ⟨some (ScanRun.flush held.loaded (held.loaded.completeRun cost now) stored),
      some (held.opportunity, review), .ended none⟩

def manualEffect (held : Held) (stored : ScanRun) (now : DateTime) : ManualStep → Effect
  | .refresh => .only (.staged { held with loaded := stored })
  | .stage stage =>
    let row := ScanRun.flush held.loaded (held.loaded.enterStage held.loaded stage) stored
    ⟨some row, none, .staged { held with loaded := row }⟩
  | .complete target reason cost => manualComplete held stored target reason cost now
  | .cancel cost => Worker.cancelEffect held stored cost now
  | .fail error cost => Worker.failEffect held stored error cost now
  | .stop => .only .closed

/-- The instances a phase of a pipeline holds. -/
def heldIn : Worker.Phase → Option Held
  | .preparing held | .staged held => some held
  | .claimed | .ended _ | .closed => none

def State.manual (s : State) (k : Nat) (step : ManualStep) (now : DateTime) : State :=
  match s.manuals[k]? with
  | none => s
  | some run =>
    match run.held, s.worker.scans[run.scan]? with
    | some held, some stored =>
      let left := manualEffect held stored now step
      { s with
        worker := { s.worker with
          scans := match left.row with
            | none => s.worker.scans
            | some row => s.worker.scans.set run.scan row
          reviews := match left.review with
            | none => s.worker.reviews
            | some (o, review) => s.worker.reviews.set o review }
        manuals := s.manuals.set k { run with held := heldIn left.phase } }
    | _, _ => s

/-! ## Steps -/

inductive Op
  | worker (op : Worker.Op)
  | scan (o : Nat) (mode : DataMode) (profile : String) (plan : PlanSummary) (confirm : Bool)
  | retry (i : Nat) (plan : PlanSummary)
  | promote (o target : Nat) (plan : PlanSummary) (confirm evidenceFailed : Bool)
      (role : Review.ReviewRole)
  | cancel (i : Nat) (now : DateTime)
  | transition (o : Nat) (target : OpportunityState) (role : Review.ReviewRole)
      (current complete : Bool)
  | createBatch (profile : ScanProfile) (mode : DataMode) (budget : Usd) (templateFits : Bool)
      (plans : List (Nat × PlanSummary))
  | confirmBatch (b : Nat) (approvedMax : Usd) (role : Review.ReviewRole)
  | queueBatch (b : Nat)
  | startManual (o : Nat) (mode : DataMode) (profile : ScanProfile) (now : DateTime)
  | manual (k : Nat) (step : ManualStep) (now : DateTime)

/-- A refused request leaves the state. -/
def State.apply (settings : Settings) (s : State) : Op → State
  | .worker op => { s with worker := s.worker.apply settings op }
  | .scan o mode profile plan confirm => (s.apiScan settings o mode profile plan confirm).getD s
  | .retry i plan => (s.apiRetryScan settings i plan).getD s
  | .promote o target plan confirm evidenceFailed role =>
    (s.apiPromote settings o target plan confirm evidenceFailed role).getD s
  | .cancel i now => (s.apiCancelScan i now).getD s
  | .transition o target role current complete => (s.transition o target role current complete).getD s
  | .createBatch profile mode budget templateFits plans =>
    (s.createBatchPlan profile mode budget templateFits plans).getD s
  | .confirmBatch b approvedMax role => (s.confirmBatch b approvedMax role).getD s
  | .queueBatch b => (s.queueBatch b).getD s
  | .startManual o mode profile now => (s.startManual o mode profile now).getD s
  | .manual k step now => s.manual k step now

/-- The state a completed scan moves its opportunity to. -/
def completionTarget (target : OpportunityState) : Prop :=
  target = .needsMoreEvidence ∨ target = .preliminaryReview ∨ target = .fullReview

/-- The steps as the program takes them: a pipeline runs the service, market,
mode and profile its scan was queued with, and a cancellation goes through
`api_cancel_scan`. -/
def Called (s : State) : Op → Prop
  | .worker (.requestCancel ..) => False
  | .worker (.load e o) => ∀ run ∈ s.worker.runs[e]?, ∀ job ∈ s.jobs[run.lease.scanId]?,
      o = job.opportunity
  | .worker (.start e profile preliminary _ _) => ∀ run ∈ s.worker.runs[e]?,
      ∀ job ∈ s.jobs[run.lease.scanId]?, profile = job.scanProfile ∧ preliminary = job.preliminary
  | .worker (.complete _ target ..) => completionTarget target
  | .manual _ (.complete target ..) _ => completionTarget target
  | _ => True

end RankRent.Api
