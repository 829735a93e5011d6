import RankRent.Api.Requests

/-!
# One step of the requests and the workers

Everything a step does to the scan rows and the reviews, and that rows,
pipelines and batches keep to their opportunities.
-/

namespace RankRent.Api
open Worker (Held Execution)

/-- Rows, pipelines and batches agree on their opportunities. -/
structure Linked (s : State) : Prop where
  length : s.jobs.length = s.worker.scans.length
  rows : ∀ (i : Nat) (row : ScanRun) (job : Job), s.worker.scans[i]? = some row →
    s.jobs[i]? = some job → row.opportunityId = some job.opportunity
  runs : ∀ run ∈ s.worker.runs, ∃ job : Job, s.jobs[run.lease.scanId]? = some job ∧
    ∀ held ∈ heldIn run.phase, held.opportunity = job.opportunity
  manuals : ∀ run ∈ s.manuals, ∃ job : Job, s.jobs[run.scan]? = some job ∧
    ∀ held ∈ run.held, held.opportunity = job.opportunity
  items : ∀ batch ∈ s.batches, (batch.items.map BatchItem.opportunity).Nodup

/-- No scans, and opportunities nobody has looked at. -/
def State.initial (opportunities : Nat) : State where
  worker := ⟨[], List.replicate opportunities .discovered, []⟩
  jobs := []
  batches := []
  manuals := []

theorem linked_initial (n : Nat) : Linked (.initial n) :=
  ⟨rfl, by simp [State.initial], by simp [State.initial], by simp [State.initial],
    by simp [State.initial]⟩

theorem Linked.owned {s : State} (linked : Linked s) {i : Nat} {row : ScanRun}
    (found : s.worker.scans[i]? = some row) :
    ∃ job, s.jobs[i]? = some job ∧ row.opportunityId = some job.opportunity := by
  have bound : i < s.jobs.length := by
    rw [linked.length]
    exact (List.getElem?_eq_some_iff.mp found).1
  exact ⟨s.jobs[i], List.getElem?_eq_getElem bound,
    linked.rows i row _ found (List.getElem?_eq_getElem bound)⟩

/-! ## The steps -/

/-- One row and the review of its opportunity move. -/
structure RowStep (s t : State) (i : Nat) (job : Job) (old new : ScanRun)
    (review : Option OpportunityState) : Prop where
  found : s.worker.scans[i]? = some old
  owned : s.jobs[i]? = some job
  mine : old.opportunityId = some job.opportunity
  stays : new.opportunityId = some job.opportunity
  scans : t.worker.scans = s.worker.scans.set i new
  jobs : t.jobs = s.jobs
  reviews : t.worker.reviews = moveReview s.worker.reviews job.opportunity review

/-- The step is an event of a worker's pipeline that may activate scan `i`. -/
def Revives (s : State) (i : Nat) : Op → ScanStatus → Prop
  | .worker op, status => ∃ e run, op.execution = some e ∧ s.worker.runs[e]? = some run ∧
      run.lease.scanId = i ∧ revives run op status
  | _, _ => False

/-- The step completes the run of scan `i` inside a request. -/
def Completes (s : State) (i : Nat) : Op → OpportunityState → Prop
  | .manual k step _, target => step.completes target ∧ ∃ run ∈ s.manuals[k]?, run.scan = i
  | _, _ => False

/-- What an accepted request found and asked for. -/
inductive Requested (settings : Settings) (s t : State) :
    Op → List (ScanRun × Job) → List Nat → OpportunityState → Prop
  | refused (op : Op) : Requested settings s t op [] [] .discovered
  | scan {o : Nat} {mode : DataMode} {profile : String} {plan : PlanSummary} {confirm : Bool}
      {scanned : ScanProfile} (normal : scanProfile profile = some scanned)
      (approved : mode = .live → profile = "full" →
        (s.resolve o).2.review (s.resolve o).1 = some .fullScanApproved)
      (confirmed : mode = .live → 0 < plan.uncachedCost → confirm = true)
      (opened : t.review (s.resolve o).1 ≠ none) :
      Requested settings s t (.scan o mode profile plan confirm)
        [(.enqueue (s.resolve o).1 .manualAsync 0 settings.scanWorkerMaxAttempts,
          ⟨(s.resolve o).1, mode, scanned, none⟩)]
        (if scanned = .testing then [(s.resolve o).1] else []) .testingPlanned
  | retry {i : Nat} {plan : PlanSummary} {scan : ScanRun} {job : Job}
      (found : s.worker.scans[i]? = some scan) (owned : s.jobs[i]? = some job)
      (opened : t.review (s.resolve job.opportunity).1 ≠ none) :
      Requested settings s t (.retry i plan)
        [(.enqueue (s.resolve job.opportunity).1 .manualAsync (scan.retryCount + 1)
            settings.scanWorkerMaxAttempts,
          ⟨(s.resolve job.opportunity).1, job.dataMode, job.scanProfile, some i⟩)]
        (if job.scanProfile = .testing then [(s.resolve job.opportunity).1] else []) .testingPlanned
  | promote {o target source : Nat} {plan : PlanSummary} {confirm evidenceFailed : Bool}
      {role : Review.ReviewRole} (free : s.busy o = false)
      (confirmed : 0 < plan.uncachedCost → confirm = true)
      (opened : t.review (s.resolve target).1 ≠ none) :
      Requested settings s t (.promote o target plan confirm evidenceFailed role)
        [(.enqueue (s.resolve target).1 .promotionAsync 0 settings.scanWorkerMaxAttempts,
          ⟨(s.resolve target).1, .live, .full, some source⟩)] [o] .fullScanApproved
  | transition (o : Nat) (target : OpportunityState) (role : Review.ReviewRole)
      (current complete : Bool) :
      Requested settings s t (.transition o target role current complete) [] [o] target
  | createBatch (profile : ScanProfile) (mode : DataMode) (budget : Usd) (templateFits : Bool)
      (plans : List (Nat × PlanSummary)) :
      Requested settings s t (.createBatch profile mode budget templateFits plans) []
        (if profile = .testing then plans.map Prod.fst else []) .testingPlanned
  | confirmBatch {b : Nat} {approvedMax : Usd} {role : Review.ReviewRole} {batch : Batch}
      (found : s.batches[b]? = some batch) :
      Requested settings s t (.confirmBatch b approvedMax role) []
        (if batch.scanProfile = .full then batch.items.map BatchItem.opportunity else [])
        .fullScanApproved
  | queueBatch {b : Nat} {batch : Batch} (found : s.batches[b]? = some batch)
      (approved : batch.approvedMaxCost.isSome)
      (free : ∀ item ∈ batch.items, s.busy item.opportunity = false) :
      Requested settings s t (.queueBatch b) (batchRows batch) [] .fullScanApproved
  | startManual (o : Nat) (mode : DataMode) (profile : ScanProfile) (now : DateTime) :
      Requested settings s t (.startManual o mode profile now)
        [(manualRow (s.resolve o).1 now, ⟨(s.resolve o).1, mode, profile, none⟩)]
        [(s.resolve o).1] (Job.startTarget ⟨(s.resolve o).1, mode, profile, none⟩)

/-- Everything a step does to rows and reviews. -/
inductive Step (settings : Settings) (s t : State) : Op → Prop
  | event {op : Op} {i : Nat} {job : Job} {old new : ScanRun} {review : Option OpportunityState}
      (move : RowStep s t i job old new review)
      (event : RowEvent job.startTarget (s.review job.opportunity = none) (Revives s i op)
        (Completes s i op) old new review) : Step settings s t op
  | claimed {i : Nat} {worker token : String} {now : DateTime} {seconds : ℚ} {job : Job}
      {old : ScanRun} (move : RowStep s t i job old (old.claim worker token now seconds) none)
      (queued : old.status = .queued) :
      Step settings s t (.worker (.claim i worker token now seconds))
  | withdrawn {i : Nat} {now : DateTime} {job : Job} {old : ScanRun}
      (move : RowStep s t i job old (old.cancelQueued now) none)
      (flagged : old.status = .queued ∧ old.cancelRequested = true) :
      Step settings s t (.worker (.cancelQueued i now))
  | recovered {staleAfter : ℚ} {now : DateTime} {jitter : Nat → ℚ}
      (scans : t.worker.scans =
        Worker.recoveredScans settings staleAfter now jitter s.worker.scans)
      (jobs : t.jobs = s.jobs) (reviews : t.worker.reviews = s.worker.reviews) :
      Step settings s t (.worker (.recover staleAfter now jitter))
  | requested {op : Op} {rows : List (ScanRun × Job)} {touched : List Nat}
      {target : OpportunityState} (asked : Requested settings s t op rows touched target)
      (request : Request s t rows touched target) : Step settings s t op

section Steps
variable {settings : Settings} {s : State}

/-- What an effect commits. -/
theorem Leaves.rowStep {t : State} {start : OpportunityState} {unreviewed : Prop}
    {revives : ScanStatus → Prop} {unleased : OpportunityState → Prop} {i : Nat} {job : Job} {stored : ScanRun} {left : Worker.Effect}
    (leaves : Leaves start unreviewed revives unleased job.opportunity stored left)
    (found : s.worker.scans[i]? = some stored) (owned : s.jobs[i]? = some job)
    (mine : stored.opportunityId = some job.opportunity)
    (scans : t.worker.scans = match left.row with
      | none => s.worker.scans
      | some row => s.worker.scans.set i row)
    (reviews : t.worker.reviews = match left.review with
      | none => s.worker.reviews
      | some (opportunity, review) => s.worker.reviews.set opportunity review)
    (jobs : t.jobs = s.jobs) :
    RowStep s t i job stored (left.row.getD stored) (left.review.map Prod.snd) := by
  refine ⟨found, owned, mine, leaves.row, ?_, jobs, ?_⟩
  · rw [scans]
    cases left.row with
    | none => exact (Table.set_same found).symm
    | some row => rfl
  · rw [reviews]
    cases reviewed : left.review with
    | none => rfl
    | some move =>
      obtain ⟨p, review⟩ := move
      obtain rfl := leaves.review p review reviewed
      rfl

/-- Nothing happens. -/
theorem step_refused (s : State) (op : Op) : Step settings s s op :=
  .requested (.refused op) (request_refl s _)

/-- An event of a worker's pipeline, at the opportunity its scan was queued for. -/
theorem worker_leaves (settings : Settings) (linked : Linked s) {op : Worker.Op} (called : Called s (.worker op))
    {e : Nat} {run : Execution} {stored : ScanRun} {job : Job} (event : op.execution = some e)
    (running : s.worker.runs[e]? = some run)
    (there : s.worker.scans[run.lease.scanId]? = some stored)
    (owned : s.jobs[run.lease.scanId]? = some job) :
    Leaves job.startTarget (s.worker.reviews[job.opportunity]? = none) (revives run op)
      (fun _ => False) job.opportunity stored (Worker.effect settings s.worker.reviews run stored op) := by
  obtain ⟨owner, same, ours⟩ := linked.runs run (List.mem_of_getElem? running)
  obtain rfl : owner = job := Option.some.inj (same.symm.trans owned)
  refine effect_leaves (linked.rows _ stored owner there owned) ours ?_ ?_ ?_
  · rintro k p rfl
    cases event
    exact called run running owner owned
  · rintro k profile preliminary source now rfl
    cases event
    exact congrArg Worker.startTarget (called run running owner owned).2
  · rintro k target reason cost now rfl
    exact called

theorem worker_step (settings : Settings) (linked : Linked s) {op : Worker.Op} (called : Called s (.worker op)) :
    Step settings s { s with worker := s.worker.apply settings op } (.worker op) := by
  cases event : op.execution with
  | some e =>
    obtain same | ⟨run, stored, running, there, commits⟩ :=
      Worker.apply_event settings s.worker event
    · rw [same]
      exact step_refused s _
    · obtain ⟨job, owned, -⟩ := linked.runs run (List.mem_of_getElem? running)
      have mine := linked.rows _ stored job there owned
      have leaves := worker_leaves settings linked called event running there owned
      generalize Worker.effect settings s.worker.reviews run stored op = left at *
      rw [commits]
      refine .event (leaves.rowStep there owned mine rfl rfl rfl) ?_
      exact leaves.event.weaken (fun _ may => ⟨e, run, event, running, rfl, may⟩)
        (fun _ => False.elim)
  | none =>
    cases op with
    | requestCancel i now => cases called
    | cancelQueued i now =>
      simp only [Worker.State.apply, Worker.cancelQueuedScan]
      cases found : s.worker.scans[i]? with
      | none => exact step_refused s _
      | some old =>
        obtain ⟨job, owned, mine⟩ := linked.owned found
        by_cases flagged : old.status = .queued ∧ old.cancelRequested = true
        · simp only [if_pos flagged, Option.getD_some]
          exact .withdrawn ⟨found, owned, mine, mine, rfl, rfl, rfl⟩ flagged
        · simp only [if_neg flagged, Option.getD_none]
          exact step_refused s _
    | claim i worker token now seconds =>
      simp only [Worker.State.apply]
      split
      · exact step_refused s _
      · rename_i scans claimed
        obtain ⟨old, found, queued, -, rfl⟩ := Worker.claimQueuedScan_some claimed
        obtain ⟨job, owned, mine⟩ := linked.owned found
        exact .claimed ⟨found, owned, mine, mine, rfl, rfl, rfl⟩ queued
    | recover staleAfter now jitter => exact .recovered rfl rfl rfl
    | _ => simp [Worker.Op.execution] at event

/-! ## The links stay -/

/-- A row keeps its job. -/
theorem Step.job_kept {t : State} {op : Op} (step : Step settings s t op) {i : Nat} {job : Job}
    (owned : s.jobs[i]? = some job) : t.jobs[i]? = some job := by
  cases step with
  | event move _ | claimed move _ | withdrawn move _ => rw [move.jobs, owned]
  | recovered _ jobs _ => rw [jobs, owned]
  | requested _ request =>
    rw [request.jobs, List.getElem?_append_left (List.getElem?_eq_some_iff.mp owned).1, owned]

theorem recoveredScan_opportunity (settings : Settings) (now : DateTime) (jitter : ℚ)
    (scan : ScanRun) :
    (Worker.recoveredScan settings now jitter scan).opportunityId = scan.opportunityId := by
  unfold Worker.recoveredScan ScanRun.retryOrQuarantine
  split
  · rfl
  · simp only
    split <;> rfl

/-- The rows a request adds belong to their jobs. -/
theorem Requested.linked {t : State} {op : Op} {rows : List (ScanRun × Job)} {touched : List Nat}
    {target : OpportunityState} (asked : Requested settings s t op rows touched target) :
    ∀ entry ∈ rows, entry.1.opportunityId = some entry.2.opportunity := by
  cases asked with
  | refused | transition | createBatch | confirmBatch => simp
  | scan | retry | promote | startManual =>
    intro entry member
    obtain rfl := List.mem_singleton.mp member
    rfl
  | queueBatch =>
    intro entry member
    obtain ⟨item, -, rfl⟩ := List.mem_map.mp member
    rfl

theorem RowStep.rows {t : State} {i : Nat} {job : Job} {old new : ScanRun}
    {review : Option OpportunityState} (move : RowStep s t i job old new review) (linked : Linked s) :
    t.jobs.length = t.worker.scans.length ∧
      ∀ (j : Nat) (row : ScanRun) (owner : Job), t.worker.scans[j]? = some row →
        t.jobs[j]? = some owner → row.opportunityId = some owner.opportunity := by
  refine ⟨by rw [move.jobs, move.scans, List.length_set, linked.length], ?_⟩
  intro j row owner found owned
  rw [move.jobs] at owned
  rw [move.scans] at found
  obtain ⟨rfl, rfl⟩ | ⟨-, stays⟩ := Table.getElem?_set_cases found
  · rw [move.owned] at owned
    cases owned
    exact move.stays
  · exact linked.rows j row owner stays owned

/-- The rows and their jobs after a step. -/
theorem Step.rows {t : State} {op : Op} (step : Step settings s t op) (linked : Linked s) :
    t.jobs.length = t.worker.scans.length ∧
      ∀ (j : Nat) (row : ScanRun) (owner : Job), t.worker.scans[j]? = some row →
        t.jobs[j]? = some owner → row.opportunityId = some owner.opportunity := by
  cases step with
  | event move _ | claimed move _ | withdrawn move _ => exact move.rows linked
  | recovered scans jobs _ =>
    refine ⟨by rw [jobs, scans, Worker.recoveredScans, List.length_mapIdx, linked.length], ?_⟩
    intro j row owner found owned
    rw [jobs] at owned
    rw [scans, Worker.recoveredScans, List.getElem?_mapIdx] at found
    obtain ⟨old, there, rfl⟩ := Option.map_eq_some_iff.mp found
    have mine := linked.rows j old owner there owned
    split
    · rw [recoveredScan_opportunity, mine]
    · exact mine
  | requested asked request =>
    refine ⟨by simp [request.jobs, request.scans, linked.length], ?_⟩
    intro j row owner found owned
    rw [request.scans] at found
    rw [request.jobs] at owned
    by_cases old : j < s.worker.scans.length
    · rw [List.getElem?_append_left old] at found
      rw [List.getElem?_append_left (by rw [linked.length]; exact old)] at owned
      exact linked.rows j row owner found owned
    · rw [List.getElem?_append_right (by omega)] at found
      rw [List.getElem?_append_right (by rw [linked.length]; omega), linked.length] at owned
      rw [List.getElem?_map] at found owned
      obtain ⟨entry, there, rfl⟩ := Option.map_eq_some_iff.mp found
      rw [there] at owned
      cases owned
      exact asked.linked entry (List.mem_of_getElem? there)

/-- The pipelines of the workers after a step. -/
theorem runs_linked (linked : Linked s) {op : Worker.Op} (called : Called s (.worker op)) :
    ∀ run ∈ (s.worker.apply settings op).runs, ∃ job : Job, s.jobs[run.lease.scanId]? = some job ∧
      ∀ held ∈ heldIn run.phase, held.opportunity = job.opportunity := by
  intro run member
  obtain ⟨e, after⟩ := List.mem_iff_getElem?.mp member
  obtain same | ⟨fresh, old, now, seconds, claimed⟩ | ⟨before, stored, event, there, found, rfl, -⟩ :=
    Worker.apply_run_back op after
  · exact linked.runs run (List.mem_of_getElem? same)
  · have bound := (List.getElem?_eq_some_iff.mp claimed).1
    rw [Worker.apply_length, ← linked.length] at bound
    refine ⟨s.jobs[run.lease.scanId], List.getElem?_eq_getElem bound, ?_⟩
    rw [fresh]
    exact no_held rfl
  · obtain ⟨job, owned, ours⟩ := linked.runs before (List.mem_of_getElem? there)
    exact ⟨job, owned, (worker_leaves settings linked called event there found owned).held⟩

/-- A step that leaves the pipelines alone. -/
theorem Step.linked {t : State} {op : Op} (step : Step settings s t op) (linked : Linked s)
    (runs : t.worker.runs = s.worker.runs) (manuals : t.manuals = s.manuals)
    (items : ∀ batch ∈ t.batches, (batch.items.map BatchItem.opportunity).Nodup) : Linked t := by
  obtain ⟨length, rows⟩ := step.rows linked
  refine ⟨length, rows, fun run member => ?_, fun run member => ?_, items⟩
  · obtain ⟨job, owned, ours⟩ := linked.runs run (runs ▸ member)
    exact ⟨job, step.job_kept owned, ours⟩
  · obtain ⟨job, owned, ours⟩ := linked.manuals run (manuals ▸ member)
    exact ⟨job, step.job_kept owned, ours⟩

theorem items_set (linked : Linked s) {b : Nat} {old new : Batch} (found : s.batches[b]? = some old)
    (same : new.items = old.items) :
    ∀ batch ∈ s.batches.set b new, (batch.items.map BatchItem.opportunity).Nodup := by
  intro batch member
  rcases List.mem_or_eq_of_mem_set member with stays | rfl
  · exact linked.items batch stays
  · rw [same]
    exact linked.items old (List.mem_of_getElem? found)

/-- A request that is refused leaves the state. -/
theorem step_getD {op : Op} {result : Option State} (linked : Linked s)
    (accepted : ∀ t, result = some t → Step settings s t op ∧ Linked t) :
    Step settings s (result.getD s) op ∧ Linked (result.getD s) := by
  cases result with
  | none => exact ⟨step_refused s op, linked⟩
  | some t => exact accepted t rfl

theorem manual_step (linked : Linked s) {k : Nat} {step : ManualStep} {now : DateTime}
    (called : Called s (.manual k step now)) :
    Step settings s (s.manual k step now) (.manual k step now) ∧ Linked (s.manual k step now) := by
  unfold State.manual
  split
  · exact ⟨step_refused s _, linked⟩
  · rename_i run found
    split
    · rename_i held stored holds there
      obtain ⟨job, owned, ours⟩ := linked.manuals run (List.mem_of_getElem? found)
      have mine := linked.rows _ stored job there owned
      have leaves : Leaves job.startTarget (s.review job.opportunity = none)
          (fun _ => False) step.completes job.opportunity stored (manualEffect held stored now step) := by
        refine manualEffect_leaves mine (ours held holds) now ?_
        rintro target reason cost rfl
        exact called
      have move := leaves.rowStep (t := { s with
        worker := { s.worker with
          scans := match (manualEffect held stored now step).row with
            | none => s.worker.scans
            | some row => s.worker.scans.set run.scan row
          reviews := match (manualEffect held stored now step).review with
            | none => s.worker.reviews
            | some (o, review) => s.worker.reviews.set o review }
        manuals := s.manuals.set k
          { run with held := heldIn (manualEffect held stored now step).phase } })
        there owned mine rfl rfl rfl
      have moved : Step settings s _ (.manual k step now) :=
        .event move (leaves.event.weaken (fun _ => False.elim) fun _ finished => ⟨finished, run, found, rfl⟩)
      obtain ⟨length, rows⟩ := moved.rows linked
      refine ⟨moved, length, rows, linked.runs, fun other member => ?_, linked.items⟩
      rcases List.mem_or_eq_of_mem_set member with stays | rfl
      · exact linked.manuals other stays
      · exact ⟨job, owned, leaves.held⟩
    · exact ⟨step_refused s _, linked⟩

/-- Every step, and the links after it. -/
theorem apply_step (settings : Settings) (linked : Linked s) {op : Op} (called : Called s op) :
    Step settings s (s.apply settings op) op ∧ Linked (s.apply settings op) := by
  cases op with
  | worker op =>
    have step := worker_step settings linked called
    obtain ⟨length, rows⟩ := step.rows linked
    exact ⟨step, length, rows, runs_linked linked called, linked.manuals, linked.items⟩
  | scan o mode profile plan confirm =>
    refine step_getD linked fun t queued => ?_
    obtain ⟨scanned, normal, queued, approved, confirmed⟩ := apiScan_some queued
    obtain ⟨request, batches, manuals⟩ := queueScan_some queued
    have step : Step settings s t (.scan o mode profile plan confirm) :=
      .requested (.scan normal approved confirmed (queueScan_opened queued)) request
    exact ⟨step, step.linked linked request.runs manuals (batches ▸ linked.items)⟩
  | retry i plan =>
    refine step_getD linked fun t queued => ?_
    obtain ⟨scan, job, found, owned, queued⟩ := apiRetryScan_some queued
    obtain ⟨request, batches, manuals⟩ := queueScan_some queued
    have step : Step settings s t (.retry i plan) :=
      .requested (.retry found owned (queueScan_opened queued)) request
    exact ⟨step, step.linked linked request.runs manuals (batches ▸ linked.items)⟩
  | promote o target plan confirm evidenceFailed role =>
    refine step_getD linked fun t queued => ?_
    obtain ⟨source, state, free, there, confirmed, queued⟩ := apiPromote_some queued
    obtain ⟨request, batches, manuals⟩ := queueScan_some queued
    have moved := (request_refl s .fullScanApproved).then_setReview there
    have added := moved.then_quiet request
    have opened := queueScan_opened queued
    rw [resolve_setReview] at added opened
    have step : Step settings s t (.promote o target plan confirm evidenceFailed role) :=
      .requested (.promote free confirmed opened) added
    exact ⟨step, step.linked linked added.runs manuals (batches ▸ linked.items)⟩
  | cancel i now =>
    refine step_getD linked fun t cancelled => ?_
    cases found : s.worker.scans[i]? with
    | none =>
      rw [apiCancelScan_none found] at cancelled
      cases cancelled
    | some old =>
      obtain ⟨job, owned, mine⟩ := linked.owned found
      obtain ⟨review, after, moves⟩ := apiCancelScan_some found mine cancelled
      have stays := (requestedCancel_cases old now).1.trans mine
      have step : Step settings s t (.cancel i now) := by
        rw [after]
        refine .event ⟨found, owned, mine, stays, rfl, rfl, rfl⟩ ?_
        rcases moves with ⟨rfl, status⟩ | ⟨rfl, status⟩
        · exact .idle status
        · exact .ended (Or.inr (Or.inr status))
      refine ⟨step, step.linked linked ?_ ?_ ?_⟩ <;> rw [after]
      exact linked.items
  | transition o target role current complete =>
    refine step_getD linked fun t moved => ?_
    obtain ⟨state, there, -, rfl⟩ := transition_some moved
    have step : Step settings s _ (.transition o target role current complete) :=
      .requested (.transition o target role current complete)
        ((request_refl s target).then_setReview there)
    exact ⟨step, step.linked linked rfl rfl linked.items⟩
  | createBatch profile mode budget templateFits plans =>
    refine step_getD linked fun t created => ?_
    obtain ⟨request, manuals, distinct, total, batches⟩ := createBatchPlan_some created
    have step : Step settings s t (.createBatch profile mode budget templateFits plans) :=
      .requested (.createBatch profile mode budget templateFits plans) request
    refine ⟨step, step.linked linked request.runs manuals fun other member => ?_⟩
    rw [batches] at member
    rcases List.mem_append.mp member with stays | new
    · exact linked.items other stays
    · obtain rfl := List.mem_singleton.mp new
      rw [List.map_map]
      exact distinct
  | confirmBatch b approvedMax role =>
    refine step_getD linked fun t confirmed => ?_
    obtain ⟨batch, found, -, batches, manuals, request⟩ := confirmBatch_some confirmed
    have step : Step settings s t (.confirmBatch b approvedMax role) :=
      .requested (.confirmBatch found) request
    exact ⟨step, step.linked linked request.runs manuals
      (batches ▸ items_set linked found rfl)⟩
  | queueBatch b =>
    refine step_getD linked fun t queued => ?_
    obtain ⟨batch, approved, found, -, maximum, -, free, batches, manuals, request⟩ :=
      queueBatch_some queued
    have step : Step settings s t (.queueBatch b) :=
      .requested (.queueBatch found (by simp [maximum]) free) request
    exact ⟨step, step.linked linked request.runs manuals
      (batches ▸ items_set linked found rfl)⟩
  | startManual o mode profile now =>
    refine step_getD linked fun t started => ?_
    obtain ⟨request, batches, review, manuals⟩ := startManual_some started
    have step : Step settings s t (.startManual o mode profile now) :=
      .requested (.startManual o mode profile now) request
    obtain ⟨length, rows⟩ := step.rows linked
    refine ⟨step, length, rows, fun run member => ?_, fun run member => ?_,
      batches ▸ linked.items⟩
    · obtain ⟨job, owned, ours⟩ := linked.runs run (request.runs ▸ member)
      exact ⟨job, step.job_kept owned, ours⟩
    · rw [manuals] at member
      rcases List.mem_append.mp member with stays | new
      · obtain ⟨job, owned, ours⟩ := linked.manuals run stays
        exact ⟨job, step.job_kept owned, ours⟩
      · obtain rfl := List.mem_singleton.mp new
        refine ⟨⟨(s.resolve o).1, mode, profile, none⟩, ?_, fun held holds => ?_⟩
        · rw [request.jobs, ← linked.length]
          simp
        · cases holds
          rfl
  | manual k step now => exact manual_step linked called

end Steps

/-- One step of the requests and the workers, as a relation. -/
def takes (settings : Settings) (s : State) (op : Op) (t : State) : Prop := t = s.apply settings op

/-- What every step keeps in linked states holds in every run from the start. -/
theorem reaches_invariant {settings : Settings} {ok : State → Op → Prop} {I : State → Prop}
    (called : ∀ s op, ok s op → Called s op)
    (kept : ∀ s op t, Linked s → I s → ok s op → Step settings s t op → I t) {n : Nat} {s : State}
    (run : Runs.Reaches ok (takes settings) (.initial n) s) (start : I (.initial n)) :
    Linked s ∧ I s := by
  refine run.invariant (I := fun s => Linked s ∧ I s) ?_ ⟨linked_initial n, start⟩
  rintro s op t ⟨linked, holds⟩ allowed rfl
  obtain ⟨step, links⟩ := apply_step settings linked (called s op allowed)
  exact ⟨links, kept s op _ linked holds allowed step⟩

end RankRent.Api
