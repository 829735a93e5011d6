import RankRent.Api.Moves

/-!
# What a request does

The rows a request adds and the reviews it moves, one lemma for each endpoint.
-/

namespace RankRent.Api

/-- The reviews after one of them moved. -/
def moveReview (reviews : List OpportunityState) (o : Nat) :
    Option OpportunityState → List OpportunityState
  | none => reviews
  | some review => reviews.set o review

/-- A request adds rows and moves the reviews it touches to one state; an
opportunity it creates is discovered. -/
structure Request (s t : State) (rows : List (ScanRun × Job)) (touched : List Nat)
    (target : OpportunityState) : Prop where
  scans : t.worker.scans = s.worker.scans ++ rows.map Prod.fst
  jobs : t.jobs = s.jobs ++ rows.map Prod.snd
  runs : t.worker.runs = s.worker.runs
  moved : ∀ o ∈ touched, t.review o = some target
  kept : ∀ o, o ∉ touched →
    t.review o = s.review o ∨ s.review o = none ∧ t.review o = some .discovered

section Reviews
variable {s t : State}

theorem review_setReview_ne {o p : Nat} (other : o ≠ p) (review : OpportunityState) :
    (s.setReview o review).review p = s.review p :=
  List.getElem?_set_ne other

theorem review_setReview {o : Nat} {state : OpportunityState} (there : s.review o = some state)
    (review : OpportunityState) : (s.setReview o review).review o = some review :=
  List.getElem?_set_self (List.getElem?_eq_some_iff.mp there).1

/-- A request on the batches alone. -/
theorem request_same (target : OpportunityState) (worker : t.worker = s.worker)
    (jobs : t.jobs = s.jobs) : Request s t [] [] target :=
  ⟨by simp [worker], by simp [jobs], by rw [worker], nofun,
    fun _ _ => Or.inl (by unfold State.review; rw [worker])⟩

theorem request_refl (s : State) (target : OpportunityState) : Request s s [] [] target :=
  request_same target rfl rfl

/-- A request and then one that moves no review. -/
theorem Request.then_quiet {u : State} {rows more : List (ScanRun × Job)} {touched : List Nat}
    {target other : OpportunityState} (first : Request s t rows touched target)
    (second : Request t u more [] other) : Request s u (rows ++ more) touched target := by
  have later (o : Nat) := second.kept o List.not_mem_nil
  refine ⟨?_, ?_, second.runs.trans first.runs, fun o member => ?_, fun o untouched => ?_⟩
  · rw [second.scans, first.scans, List.map_append, List.append_assoc]
  · rw [second.jobs, first.jobs, List.map_append, List.append_assoc]
  · rcases later o with same | ⟨missing, -⟩
    · rw [same, first.moved o member]
    · rw [first.moved o member] at missing
      cases missing
  · rcases later o with same | ⟨missing, created⟩
    · rw [same]
      exact first.kept o untouched
    · rcases first.kept o untouched with same | ⟨-, there⟩
      · exact Or.inr ⟨same ▸ missing, created⟩
      · rw [there] at missing
        cases missing

theorem Request.then_setReview {rows : List (ScanRun × Job)} {o : Nat}
    {state review : OpportunityState} (first : Request s t rows [] review)
    (there : t.review o = some state) : Request s (t.setReview o review) rows [o] review := by
  refine ⟨first.scans, first.jobs, first.runs, fun p member => ?_, fun p untouched => ?_⟩
  · obtain rfl := List.mem_singleton.mp member
    exact review_setReview there review
  · rw [review_setReview_ne (fun same => untouched (List.mem_singleton.mpr same.symm))]
    exact first.kept p List.not_mem_nil

theorem Request.then_addScan {rows : List (ScanRun × Job)} {touched : List Nat}
    {target : OpportunityState} (first : Request s t rows touched target) (job : Job)
    (source : ScanSource) (retryCount maxAttempts : Nat) :
    Request s (t.addScan job source retryCount maxAttempts)
      (rows ++ [(.enqueue job.opportunity source retryCount maxAttempts, job)]) touched target := by
  refine ⟨?_, ?_, first.runs, first.moved, first.kept⟩
  · simp [State.addScan, first.scans]
  · simp [State.addScan, first.jobs]

/-- `get_or_create_opportunity` adds no more than a new opportunity. -/
theorem resolve_cases (s : State) (o : Nat) :
    (o < s.worker.reviews.length ∧ s.resolve o = (o, s)) ∨
      (s.worker.reviews.length ≤ o ∧ (s.resolve o).1 = s.worker.reviews.length ∧
        (s.resolve o).2.worker.scans = s.worker.scans ∧ (s.resolve o).2.jobs = s.jobs ∧
        (s.resolve o).2.worker.runs = s.worker.runs ∧
        (s.resolve o).2.worker.reviews = s.worker.reviews ++ [.discovered]) := by
  unfold State.resolve
  by_cases known : o < s.worker.reviews.length
  · exact Or.inl ⟨known, by simp [known]⟩
  · exact Or.inr ⟨by omega, by simp [known]⟩

theorem request_resolve (s : State) (o : Nat) (target : OpportunityState) :
    Request s (s.resolve o).2 [] [] target := by
  rcases resolve_cases s o with ⟨-, same⟩ | ⟨-, -, scans, jobs, runs, reviews⟩
  · rw [same]
    exact request_refl s target
  · refine ⟨by simp [scans], by simp [jobs], runs, nofun, fun p _ => ?_⟩
    unfold State.review
    rw [reviews]
    by_cases bound : p < s.worker.reviews.length
    · exact Or.inl (List.getElem?_append_left bound)
    · by_cases new : p = s.worker.reviews.length
      · subst new
        exact Or.inr (by simp)
      · refine Or.inl ?_
        rw [List.getElem?_eq_none (by simp; omega), List.getElem?_eq_none (by omega)]

theorem resolve_exists (s : State) (o : Nat) :
    (s.resolve o).1 < (s.resolve o).2.worker.reviews.length := by
  rcases resolve_cases s o with ⟨known, same⟩ | ⟨-, index, -, -, -, reviews⟩
  · rw [same]
    exact known
  · rw [index, reviews, List.length_append]
    simp

theorem resolve_kept (s : State) (o : Nat) :
    (s.resolve o).2.batches = s.batches ∧ (s.resolve o).2.manuals = s.manuals := by
  unfold State.resolve
  split <;> exact ⟨rfl, rfl⟩

/-- A move of a review changes nothing in how inputs resolve. -/
theorem resolve_setReview (s : State) (o p : Nat) (review : OpportunityState) :
    ((s.setReview p review).resolve o).1 = (s.resolve o).1 := by
  simp only [State.resolve, State.setReview, List.length_set]
  split <;> rfl

end Reviews

/-! ## Endpoints -/

section Endpoints
variable {settings : Settings} {s t : State}

/-- What `_queue_scan` leaves: one row for the resolved opportunity; a testing
scan moves its review. -/
theorem queueScan_some {o : Nat} {mode : DataMode} {profile : ScanProfile}
    {sourceScan : Option Nat} {retryCount : Nat} {source : ScanSource}
    (queued : s.queueScan settings o mode profile sourceScan retryCount source = some t) :
    Request s t [(.enqueue (s.resolve o).1 source retryCount settings.scanWorkerMaxAttempts,
        ⟨(s.resolve o).1, mode, profile, sourceScan⟩)]
      (if profile = .testing then [(s.resolve o).1] else []) .testingPlanned ∧
      t.batches = s.batches ∧ t.manuals = s.manuals := by
  have opened := request_resolve s o .testingPlanned
  have kept := resolve_kept s o
  unfold State.queueScan at queued
  cases profile with
  | full =>
    simp only [Option.some.injEq] at queued
    subst queued
    exact ⟨opened.then_addScan _ _ _ _, kept⟩
  | testing =>
    simp only at queued
    cases there : (s.resolve o).2.review (s.resolve o).1 with
    | none => simp [there] at queued
    | some state =>
      simp only [there] at queued
      cases moved : transitionSystem state .testingPlanned
          "Testing scan was explicitly queued." with
      | error e => simp [moved] at queued
      | ok next =>
        obtain rfl := transitionSystem_ok moved
        simp only [moved, Option.some.injEq] at queued
        subst queued
        exact ⟨(opened.then_setReview there).then_addScan _ _ _ _, kept⟩

/-- The opportunity a scan is queued on exists. -/
theorem queueScan_opened {o : Nat} {mode : DataMode} {profile : ScanProfile}
    {sourceScan : Option Nat} {retryCount : Nat} {source : ScanSource}
    (queued : s.queueScan settings o mode profile sourceScan retryCount source = some t) :
    t.review (s.resolve o).1 ≠ none := by
  have bound := resolve_exists s o
  unfold State.queueScan at queued
  cases profile with
  | full =>
    simp only [Option.some.injEq] at queued
    subst queued
    simpa [State.review, State.addScan] using bound
  | testing =>
    simp only at queued
    split at queued
    · cases queued
    · split at queued
      · cases queued
      · simp only [Option.some.injEq] at queued
        subst queued
        simpa [State.review, State.addScan, State.setReview] using bound

theorem apiScan_some {o : Nat} {mode : DataMode} {profile : String} {plan : PlanSummary}
    {confirm : Bool} (queued : s.apiScan settings o mode profile plan confirm = some t) :
    ∃ scanned, scanProfile profile = some scanned ∧
      s.queueScan settings o mode scanned none 0 .manualAsync = some t ∧
      (mode = .live → profile = "full" →
        (s.resolve o).2.review (s.resolve o).1 = some .fullScanApproved) ∧
      (mode = .live → 0 < plan.uncachedCost → confirm = true) := by
  unfold State.apiScan at queued
  simp only at queued
  split at queued
  · cases queued
  · rename_i approved
    split at queued
    · cases queued
    · rename_i scanned normal
      split at queued
      · cases queued
      · split at queued
        · cases queued
        · rename_i confirmed
          refine ⟨scanned, normal, queued, fun live full => ?_, fun live cost => ?_⟩
          · by_contra other
            exact approved ⟨live, full, other⟩
          · by_contra missing
            exact confirmed ⟨live, cost, by simpa using missing⟩

theorem apiRetryScan_some {i : Nat} {plan : PlanSummary}
    (queued : s.apiRetryScan settings i plan = some t) :
    ∃ scan job, s.worker.scans[i]? = some scan ∧ s.jobs[i]? = some job ∧
      s.queueScan settings job.opportunity job.dataMode job.scanProfile (some i)
        (scan.retryCount + 1) .manualAsync = some t := by
  unfold State.apiRetryScan at queued
  split at queued
  · rename_i scan job found owned
    split at queued
    · cases queued
    · split at queued
      · cases queued
      · split at queued
        · cases queued
        · exact ⟨scan, job, found, owned, queued⟩
  · cases queued

theorem transition_some {o : Nat} {target : OpportunityState} {role : Review.ReviewRole}
    {current complete : Bool} (moved : s.transition o target role current complete = some t) :
    ∃ state, s.review o = some state ∧ target ∈ state.allowed ∧ t = s.setReview o target := by
  unfold State.transition at moved
  cases there : s.review o with
  | none => simp [there] at moved
  | some state =>
    simp only [there, reviewTransition] at moved
    split at moved
    · rename_i legal
      exact ⟨state, rfl, legal.2.1, (Option.some.inj moved).symm⟩
    · cases moved

theorem apiPromote_some {o target : Nat} {plan : PlanSummary} {confirm evidenceFailed : Bool}
    {role : Review.ReviewRole}
    (queued : s.apiPromote settings o target plan confirm evidenceFailed role = some t) :
    ∃ source state, s.busy o = false ∧ s.review o = some state ∧
      (0 < plan.uncachedCost → confirm = true) ∧
      (s.setReview o .fullScanApproved).queueScan settings target .live .full (some source) 0
        .promotionAsync = some t := by
  unfold State.apiPromote at queued
  split at queued
  · split at queued
    · cases queued
    · rename_i free
      split at queued
      · cases queued
      · rename_i source job found
        split at queued
        · cases queued
        · split at queued
          · cases queued
          · split at queued
            · cases queued
            · split at queued
              · cases queued
              · rename_i confirmed
                split at queued
                · cases queued
                · rename_i approved moved
                  obtain ⟨state, there, -, rfl⟩ := transition_some moved
                  refine ⟨source, state, by simpa using free, there, fun cost => ?_, queued⟩
                  by_contra missing
                  exact confirmed ⟨cost, by simpa using missing⟩
  · cases queued

theorem requestedCancel_cases (row : ScanRun) (now : DateTime) :
    (Worker.requestedCancel row now).opportunityId = row.opportunityId ∧
      (row.status = .queued ∧ (Worker.requestedCancel row now).status = .cancelled ∨
        row.status ≠ .queued ∧ (Worker.requestedCancel row now).status = row.status) := by
  unfold Worker.requestedCancel
  cases status : row.status <;> simp [status, ScanRun.cancelQueued]

/-- A cancellation ends a queued scan, or flags the row. -/
theorem apiCancelScan_some {i o : Nat} {old : ScanRun} {now : DateTime}
    (found : s.worker.scans[i]? = some old) (mine : old.opportunityId = some o)
    (cancelled : s.apiCancelScan i now = some t) :
    ∃ review, t = { s with worker :=
        { s.worker with
          scans := s.worker.scans.set i (Worker.requestedCancel old now)
          reviews := moveReview s.worker.reviews o review } } ∧
      (review = none ∧ (Worker.requestedCancel old now).status = old.status ∨
        review = some .needsMoreEvidence ∧ (Worker.requestedCancel old now).status = .cancelled) := by
  have status := (requestedCancel_cases old now).2
  unfold State.apiCancelScan at cancelled
  simp only [found] at cancelled
  split at cancelled
  · rename_i p queued owner
    obtain rfl : p = o := Option.some.inj (owner.symm.trans mine)
    split at cancelled
    · cases cancelled
    · split at cancelled
      · cases cancelled
      · rename_i next moved
        obtain rfl := transitionSystem_ok moved
        cases cancelled
        refine ⟨some .needsMoreEvidence, rfl, Or.inr ⟨rfl, ?_⟩⟩
        exact (status.resolve_right fun other => other.1 queued).2
  · rename_i other
    cases cancelled
    refine ⟨none, rfl, Or.inl ⟨rfl, ?_⟩⟩
    exact (status.resolve_left fun queued => other o queued.1 mine).2

theorem apiCancelScan_none {i : Nat} {now : DateTime} (missing : s.worker.scans[i]? = none) :
    s.apiCancelScan i now = none := by
  simp [State.apiCancelScan, missing]

theorem moveAll_some {move : OpportunityState → Option OpportunityState}
    {target : OpportunityState} (only : ∀ state next, move state = some next → next = target)
    {ids : List Nat} (moved : s.moveAll move ids = some t) :
    Request s t [] ids target ∧ t.batches = s.batches ∧ t.manuals = s.manuals := by
  induction ids generalizing s with
  | nil =>
    cases moved
    exact ⟨request_refl _ target, rfl, rfl⟩
  | cons o ids ih =>
    simp only [State.moveAll] at moved
    cases next : (s.review o).bind move with
    | none => simp [next] at moved
    | some state =>
      simp only [next] at moved
      obtain ⟨request, batches, manuals⟩ := ih moved
      obtain ⟨before, there, legal⟩ := Option.bind_eq_some_iff.mp next
      obtain rfl := only before state legal
      have here := review_setReview there state
      refine ⟨⟨request.scans, request.jobs, request.runs, fun p member => ?_, fun p untouched => ?_⟩,
        batches, manuals⟩
      · by_cases later : p ∈ ids
        · exact request.moved p later
        · obtain rfl : p = o := (List.mem_cons.mp member).resolve_right later
          rcases request.kept p later with same | ⟨missing, -⟩
          · rw [same, here]
          · rw [here] at missing
            cases missing
      · obtain ⟨other, later⟩ := not_or.mp (mt List.mem_cons.mpr untouched)
        have kept := request.kept p later
        rwa [review_setReview_ne (Ne.symm other)] at kept

theorem transitionSystem_toOption {current target next : OpportunityState} {reason : String}
    (legal : (transitionSystem current target reason).toOption = some next) : next = target := by
  cases moved : transitionSystem current target reason with
  | error e =>
    rw [moved] at legal
    cases legal
  | ok other =>
    rw [moved] at legal
    cases legal
    exact transitionSystem_ok moved

theorem createBatchPlan_some {profile : ScanProfile} {mode : DataMode} {budget : Usd}
    {templateFits : Bool} {plans : List (Nat × PlanSummary)}
    (created : s.createBatchPlan profile mode budget templateFits plans = some t) :
    Request s t [] (if profile = .testing then plans.map Prod.fst else []) .testingPlanned ∧
      t.manuals = s.manuals ∧ (plans.map Prod.fst).Nodup ∧
      ∃ total, t.batches = s.batches ++ [⟨profile, mode, .planned, budget, total, none,
        plans.map fun entry => ⟨entry.1, entry.2.uncachedCost⟩⟩] := by
  unfold State.createBatchPlan at created
  simp only at created
  split at created
  · cases created
  · split at created
    · cases created
    · rename_i distinct
      split at created
      · cases created
      · split at created
        · cases created
        · cases profile with
          | full =>
            cases created
            exact ⟨request_same _ rfl rfl, rfl, not_not.mp distinct, _, rfl⟩
          | testing =>
            simp only at created
            obtain ⟨request, batches, manuals⟩ :=
              moveAll_some (fun _ _ => transitionSystem_toOption) created
            refine ⟨⟨request.scans, request.jobs, request.runs, request.moved, request.kept⟩,
              manuals, not_not.mp distinct, _, batches⟩

theorem confirmBatch_some {b : Nat} {approvedMax : Usd} {role : Review.ReviewRole}
    (confirmed : s.confirmBatch b approvedMax role = some t) :
    ∃ batch, s.batches[b]? = some batch ∧ batch.status = .planned ∧
      t.batches = s.batches.set b { batch with status := .confirmed, approvedMaxCost := some approvedMax } ∧
      t.manuals = s.manuals ∧
      Request s t []
        (if batch.scanProfile = .full then batch.items.map BatchItem.opportunity else [])
        .fullScanApproved := by
  unfold State.confirmBatch at confirmed
  split at confirmed
  · cases confirmed
  · rename_i batch found
    split at confirmed
    · cases confirmed
    · rename_i awaiting
      split at confirmed
      · cases confirmed
      · split at confirmed
        · cases confirmed
        · refine ⟨batch, found, not_not.mp awaiting, ?_⟩
          cases profile : batch.scanProfile with
          | testing =>
            simp only [profile] at confirmed
            cases confirmed
            exact ⟨rfl, rfl, request_same _ rfl rfl⟩
          | full =>
            simp only [profile] at confirmed
            have only : ∀ state next,
                reviewTransition state .fullScanApproved role true true = some next →
                  next = .fullScanApproved := by
              intro state next legal
              unfold reviewTransition at legal
              split at legal
              · exact (Option.some.inj legal).symm
              · cases legal
            obtain ⟨request, batches, manuals⟩ := moveAll_some only confirmed
            exact ⟨batches, manuals, request.scans, request.jobs, request.runs, request.moved,
              request.kept⟩

/-- The rows `queue_batch` adds. -/
def batchRows (batch : Batch) : List (ScanRun × Job) :=
  batch.items.map fun item => (.enqueue item.opportunity .batchReviewAsync 0 4,
    ⟨item.opportunity, batch.dataMode, batch.scanProfile, none⟩)

theorem queueBatch_some {b : Nat} (queued : s.queueBatch b = some t) :
    ∃ batch approved, s.batches[b]? = some batch ∧ batch.status = .confirmed ∧
      batch.approvedMaxCost = some approved ∧
      (batch.items.map BatchItem.estimatedCost).sum ≤ approved ∧
      (∀ item ∈ batch.items, s.busy item.opportunity = false) ∧
      t.batches = s.batches.set b { batch with status := .queued } ∧ t.manuals = s.manuals ∧
      Request s t (batchRows batch) [] .fullScanApproved := by
  unfold State.queueBatch at queued
  split at queued
  · cases queued
  · rename_i batch found
    split at queued
    · rename_i approved status maximum
      split at queued
      · cases queued
      · rename_i bounded
        split at queued
        · cases queued
        · rename_i free
          simp only [Option.some.injEq] at queued
          have pass (items : List BatchItem) (u v : State)
              (folded : items.foldl (fun s item => s.addScan ⟨item.opportunity, batch.dataMode,
                batch.scanProfile, none⟩ .batchReviewAsync 0 4) u = v) :
              Request u v (items.map fun item => (.enqueue item.opportunity .batchReviewAsync 0 4,
                  ⟨item.opportunity, batch.dataMode, batch.scanProfile, none⟩)) []
                .fullScanApproved ∧ v.batches = u.batches ∧ v.manuals = u.manuals := by
            induction items generalizing u with
            | nil => exact folded ▸ ⟨request_refl u _, rfl, rfl⟩
            | cons item items ih =>
              obtain ⟨request, batches, manuals⟩ := ih _ folded
              have first := (request_refl u .fullScanApproved).then_addScan
                ⟨item.opportunity, batch.dataMode, batch.scanProfile, none⟩ .batchReviewAsync 0 4
              exact ⟨first.then_quiet request, batches, manuals⟩
          obtain ⟨request, batches, manuals⟩ := pass batch.items _ _ queued
          refine ⟨batch, approved, found, status, maximum, not_lt.mp bounded, fun item member => ?_,
            batches, manuals, request.scans, request.jobs, request.runs, request.moved, request.kept⟩
          simp only [List.any_eq_true, not_exists, not_and] at free
          simpa using free item member
    · cases queued

/-- The row a manual run first commits. -/
def manualRow (o : Nat) (now : DateTime) : ScanRun :=
  let prepared := (ScanRun.enqueue o .manual 0 4).prepareRun o .manual now
  prepared.enterStage prepared .discoveringKeywords

theorem startManual_some {o : Nat} {mode : DataMode} {profile : ScanProfile} {now : DateTime}
    (started : s.startManual o mode profile now = some t) :
    Request s t [(manualRow (s.resolve o).1 now, ⟨(s.resolve o).1, mode, profile, none⟩)]
        [(s.resolve o).1] (Job.startTarget ⟨(s.resolve o).1, mode, profile, none⟩) ∧
      t.batches = s.batches ∧
      ∃ review, t.manuals = s.manuals ++ [⟨s.worker.scans.length,
        some ⟨(s.resolve o).1, manualRow (s.resolve o).1 now, review⟩⟩] := by
  have opened := request_resolve s o (Job.startTarget ⟨(s.resolve o).1, mode, profile, none⟩)
  have kept := resolve_kept s o
  unfold State.startManual at started
  simp only at started
  split at started
  · cases started
  · rename_i state there
    split at started
    · cases started
    · rename_i next moved
      obtain rfl := transitionSystem_ok moved
      have request := opened.then_setReview there
      have length : (s.resolve o).2.worker.scans.length = s.worker.scans.length := by
        rw [opened.scans]
        simp
      cases started
      refine ⟨⟨?_, ?_, request.runs, request.moved, request.kept⟩, kept.1,
        Job.startTarget ⟨(s.resolve o).1, mode, profile, none⟩, ?_⟩
      · simp only [State.setReview, opened.scans, List.map_nil, List.append_nil]
        rfl
      · simp only [State.setReview, opened.jobs, List.map_nil, List.append_nil]
        rfl
      · simp only [State.setReview, length, kept.2]
        rfl

end Endpoints

end RankRent.Api
